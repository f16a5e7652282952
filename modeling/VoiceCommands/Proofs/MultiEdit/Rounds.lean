import VoiceCommands.MultiEdit
import VoiceCommands.Proofs.Except
import VoiceCommands.Proofs.Actions
import VoiceCommands.Proofs.Recognition.Conforms

/-!
# Repeating a chain of edits

A chain of the multiple-edit grammar, `[actions…] [literal <identifier> |
<spelled run>] [repeat <n> times]`, reads its actions from the parts said
without the count, then runs them `n` times over, each time with the chain's
data, which holds the count itself.  `Trace.rounds` reads what `n` rounds
record off one round.
-/

namespace VoiceCommands

/-- `n` rounds of a run whose every round, on its own, gives `one`: the events
of `one`, `n` times over, when a round does not stop; otherwise the first
round, which stops the run (and nothing when there are no rounds). -/
def Trace.rounds (one : Trace) (n : Nat) : Trace :=
  if one.fault = none then { records := (List.replicate n one.records).flatten }
  else if n = 0 then {} else one

end VoiceCommands

namespace VoiceCommands.MultiEdit

open Recognition Vocabulary

/-! ## Rounds -/

section
variable (actions : List Action) (data : Data)

theorem runRounds_stopped {t : Trace} (ht : t.fault.isSome) : ∀ n, runRounds actions data n t = t
  | 0 => rfl
  | n + 1 => by rw [runRounds, Action.execEach_stopped ht, runRounds_stopped ht n]

theorem runRounds_extend : ∀ (n : Nat) (t : Trace), t.fault = none →
    runRounds actions data n t = t ++ runRounds actions data n {}
  | 0, t, ht => (Trace.append_empty ht).symm
  | n + 1, t, ht => by
    rw [runRounds, runRounds, Action.execEach_extend data actions t ht]
    cases hone : (Action.execEach actions data {}).fault with
    | none =>
      rw [runRounds_extend n _ (by simpa using hone), runRounds_extend n _ hone, Trace.append_assoc]
    | some f =>
      rw [runRounds_stopped actions data (by simp [hone]),
        runRounds_stopped actions data (by simp [hone])]

/-- Rounds of actions are rounds of what one run of them records. -/
theorem runRounds_eq_rounds (n : Nat) :
    runRounds actions data n {} = (Action.execEach actions data {}).rounds n := by
  cases n with
  | zero =>
    by_cases h : (Action.execEach actions data {}).fault = none <;>
      simp [runRounds, Trace.rounds, h]
  | succ n =>
    rw [runRounds]
    cases hone : (Action.execEach actions data {}).fault with
    | none =>
      -- the first round, then the others, each adding the same events
      rw [runRounds_extend actions data n _ hone, runRounds_eq_rounds n]
      exact Trace.ext' (by simp [Trace.rounds, hone, List.replicate_succ])
        (by simp [Trace.rounds, hone])
    | some f =>
      rw [runRounds_stopped actions data (by simp [hone])]
      simp [Trace.rounds, hone]

end

/-! ## The data of a chain -/

section
variable (t : Tree) (sequence ident : List Action)

theorem chainData_count : (chainData t sequence ident).lookup "n" = some (.int ((numberOf t).getD 1)) := by
  simp (disch := decide) only [chainData, Data.lookup_setAll, List.reverse_append, Data.lookup_append,
    Option.toList_map, ← List.map_reverse, Data.lookup_map_self, Data.lookup_map_ne, Option.none_or,
    Option.or_none, Data.lookup_set]
  cases numberOf t <;> rfl

theorem chainData_node :
    (chainData t sequence ident).lookup "_node" = some (.object (nodeText "RepeatRule(a)" t.words)) := by
  simp (disch := decide) only [chainData, Data.lookup_setAll, List.reverse_append, Data.lookup_append,
    Option.toList_map, ← List.map_reverse, Data.lookup_map_ne, Option.none_or, Data.lookup_set_ne]
  rfl

end

section
variable {p : Parts} {t : Tree}

theorem chainAction_ok {B : List Action} {n : Nat} {d : Data} (h : chainAction p t = .ok (B, n, d)) :
    n = (numberOf t).getD 1 ∧ ∃ sequence ident, d = chainData t sequence ident := by
  unfold chainAction at h
  dsimp only at h
  -- whatever the actions and the identifier read, the result is built alike
  split at h <;> obtain ⟨sequence, -, h⟩ := Except.bind_eq_ok h <;> split at h <;>
    obtain ⟨ident, -, h⟩ := Except.bind_eq_ok h <;> cases Except.pure_eq_ok h <;>
    exact ⟨rfl, sequence, ident, rfl⟩

theorem chainRule_name : (chainRule p).name = "a" := rfl

theorem perform_chain_error {f : Fault} (h : chainAction p t = .error f) :
    perform p (chainRule p) t = { fault := some f } := by
  rw [perform, if_pos chainRule_name, h]

theorem perform_chain_ok {B : List Action} {n : Nat} {d : Data} (h : chainAction p t = .ok (B, n, d)) :
    perform p (chainRule p) t = (Action.execEach B d {}).rounds n := by
  rw [perform, if_pos chainRule_name, h]
  exact runRounds_eq_rounds B d n

end

/-! ## The parts of a chain -/

def endingTree : Tree ⊕ Tree → Tree
  | .inl x => .alt 0 (.seq [.word "literal", .named "format_rule" .plain x])
  | .inr y => .alt 1 (.named "finish" .plain y)

def chainTree (items : Option (List Tree)) (ending : Option (Tree ⊕ Tree)) (count : Option Tree) :
    Tree :=
  .rule "a" (.seq [.opt (items.map fun is => .named "sequence" .plain (.rep is)),
    .opt (ending.map endingTree),
    .opt (count.map fun c => .seq [.word "repeat", .named "n" .integer c, .word "times"])])

theorem ending_conforms {e : Tree} (he : Conforms (.alt [.seq [.word "literal", identifier], finish]) e) :
    ∃ ending, e = endingTree ending := by
  obtain ⟨i, el, c, rfl, hel, hc⟩ := he.of_alt
  rcases i with _ | _ | i
  · cases hel
    obtain ⟨w, x, rfl, hw, hx⟩ := hc.of_pair
    obtain ⟨x, rfl, -⟩ := hx.of_named
    have hliteral : Text.lower "literal" = "literal" := by decide
    rw [hw.of_word, hliteral]
    exact ⟨.inl x, rfl⟩
  · cases hel
    obtain ⟨y, rfl, -⟩ := hc.of_named
    exact ⟨.inr y, rfl⟩
  · simp at hel

theorem chainRule_conforms {p : Parts} {t : Tree} (ht : Conforms (chainRule p).ref t) :
    ∃ items ending count, t = chainTree items ending count := by
  obtain ⟨c, rfl, hc⟩ := ht.of_rule
  obtain ⟨t₁, t₂, t₃, rfl, h₁, h₂, h₃⟩ := hc.of_triple
  -- the actions said are a repetition
  obtain ⟨said, rfl, hsaid⟩ := h₁.of_opt_named
  obtain ⟨items, rfl⟩ : ∃ items : Option (List Tree), said = items.map .rep := by
    cases said with
    | none => exact ⟨none, rfl⟩
    | some x =>
      obtain ⟨is, rfl, -⟩ := (hsaid x rfl).of_rep
      exact ⟨some is, rfl⟩
  obtain ⟨ending, rfl⟩ : ∃ ending : Option (Tree ⊕ Tree), t₂ = .opt (ending.map endingTree) := by
    rcases h₂.of_opt with rfl | ⟨e, rfl, he⟩
    · exact ⟨none, rfl⟩
    · obtain ⟨ending, rfl⟩ := ending_conforms he
      exact ⟨some ending, rfl⟩
  -- the count is a number between `repeat` and `times`
  obtain ⟨count, rfl⟩ : ∃ count : Option Tree,
      t₃ = .opt (count.map fun c => .seq [.word "repeat", .named "n" .integer c, .word "times"]) := by
    rcases h₃.of_opt with rfl | ⟨e, rfl, he⟩
    · exact ⟨none, rfl⟩
    · obtain ⟨r, x, m, rfl, hr, hx, hm⟩ := he.of_triple
      obtain ⟨x, rfl, -⟩ := hx.of_named
      have hwords : Text.lower "repeat" = "repeat" ∧ Text.lower "times" = "times" := by decide
      rw [hr.of_word, hm.of_word, hwords.1, hwords.2]
      exact ⟨some x, rfl⟩
  exact ⟨items, ending, count, by simp [chainTree, chainRule_name, Option.map_map, Function.comp_def]⟩

/-- The actions of a chain read from its parts: the actions said, then the
identifier after `literal`, then the characters of a spelled run. -/
def chainActions (p : Parts) (items : Option (List Tree)) (ending : Option (Tree ⊕ Tree)) :
    Except Fault (List Action) := do
  let sequence ← (items.getD []).mapM (singleValue p)
  let ident ← match ending with
    | some (.inl x) => (fun a => [a]) <$> identifierAction x
    | _ => pure []
  let spelled := match ending with
    | some (.inr y) => finishActions y
    | _ => []
  return sequence ++ ident ++ spelled

theorem chainTree_parts (items : Option (List Tree)) (ending : Option (Tree ⊕ Tree))
    (count : Option Tree) :
    (chainTree items ending count).find? "sequence" = items.map (.named "sequence" .plain ∘ .rep) ∧
      (chainTree items ending count).find? "format_rule" =
        (ending.bind Sum.getLeft?).map (.named "format_rule" .plain) ∧
      (chainTree items ending count).find? "finish" =
        (ending.bind Sum.getRight?).map (.named "finish" .plain) ∧
      numberOf (chainTree items ending count) = count.map fun c => integerValue c.words := by
  rcases ending with _ | _ | _ <;> cases items <;> cases count <;>
    simp [chainTree, endingTree, numberOf, Tree.find?, Tree.findAll?, Tree.words]

theorem chainAction_chainTree (p : Parts) (items : Option (List Tree))
    (ending : Option (Tree ⊕ Tree)) (count : Option Tree) :
    (·.1) <$> chainAction p (chainTree items ending count) = chainActions p items ending := by
  obtain ⟨hsequence, hident, hfinish, -⟩ := chainTree_parts items ending count
  unfold chainAction chainActions
  rw [hsequence, hident, hfinish]
  rcases ending with _ | x | y <;> cases items <;>
    simp only [map_bind, Option.map_none, Option.map_some, Option.bind_none, Option.bind_some,
      Sum.getLeft?_inl, Sum.getLeft?_inr, Sum.getRight?_inl, Sum.getRight?_inr, Option.getD_none,
      Option.getD_some, Function.comp_apply, Tree.body, List.mapM_nil] <;>
    rfl

/-! ## What a chain records -/

/-- What a chain records.  A parse tree of a chain is made of the actions
said, an ending and a count, and its actions are read from the first two
alone.  Reading them either fails, and the chain records nothing but the
fault, or gives actions that run, with the data of the chain, which holds the
count, as many rounds over as the count says (one unless said). -/
theorem chain_runs_rounds {p : Parts} {t : Tree} (ht : Conforms (chainRule p).ref t) :
    ∃ items ending count, t = chainTree items ending count ∧
      ((∃ f, chainActions p items ending = .error f ∧ perform p (chainRule p) t = { fault := some f }) ∨
        ∃ B sequence ident, chainActions p items ending = .ok B ∧
          (chainData t sequence ident).lookup "n" =
            some (.int ((count.map fun c => integerValue c.words).getD 1)) ∧
          perform p (chainRule p) t =
            (Action.execEach B (chainData t sequence ident) {}).rounds
              ((count.map fun c => integerValue c.words).getD 1)) := by
  obtain ⟨items, ending, count, rfl⟩ := chainRule_conforms ht
  obtain ⟨-, -, -, hcount⟩ := chainTree_parts items ending count
  have hB := chainAction_chainTree p items ending count
  refine ⟨items, ending, count, rfl, ?_⟩
  cases h : chainAction p (chainTree items ending count) with
  | error f =>
    rw [h] at hB
    exact .inl ⟨f, hB.symm, perform_chain_error h⟩
  | ok r =>
    obtain ⟨B, n, d⟩ := r
    obtain ⟨rfl, sequence, ident, rfl⟩ := chainAction_ok h
    rw [h] at hB
    refine .inr ⟨B, sequence, ident, hB.symm, ?_, ?_⟩
    · rw [chainData_count, hcount]
    · rw [perform_chain_ok h, hcount]

/-- Vocabulary lists in which `alfa` types the count of its chain and the
counted phrase `zap` types a field that no chain has. -/
def countingParts : Parts :=
  { dynamic := [("alfa", .send .text (some "%(n)d") false)], static := []
    dynamicCounted := [("zap", .send .text (some "%(zz)s") false)], staticCounted := [] }

def threeSaid : Tree := .alt 0 (.alt 2 (.word "three"))
def twoSaid : Tree := .alt 0 (.alt 1 (.word "two"))

def alfaThree : Tree := chainTree (some [.alt 1 (.phrase ["alfa"])]) none (some threeSaid)
def alfaOnce : Tree := chainTree (some [.alt 1 (.phrase ["alfa"])]) none none

/-- `zap three repeat two times`: the counted phrase said three times over,
the whole chain twice. -/
def zapTwo : Tree :=
  chainTree (some [.alt 3 (.named "aouxxxazsemi" .plain (.rule "aoeuazzzxt"
    (.seq [.named "dynamic" .plain (.phrase ["zap"]), .opt (some (.named "n" .integer threeSaid))])))])
    none (some twoSaid)

theorem alfaThree_conforms : Conforms (chainRule countingParts).ref alfaThree :=
  Element.conforms_of_accepts _ _ (by decide +kernel)

theorem alfa_three_runs_rounds :
    Conforms (chainRule countingParts).ref alfaThree ∧
      ∃ items ending count, alfaThree = chainTree items ending count ∧
        ((∃ f, chainActions countingParts items ending = .error f ∧
            perform countingParts (chainRule countingParts) alfaThree = { fault := some f }) ∨
          ∃ B sequence ident, chainActions countingParts items ending = .ok B ∧
            (chainData alfaThree sequence ident).lookup "n" =
              some (.int ((count.map fun c => integerValue c.words).getD 1)) ∧
            perform countingParts (chainRule countingParts) alfaThree =
              (Action.execEach B (chainData alfaThree sequence ident) {}).rounds
                ((count.map fun c => integerValue c.words).getD 1)) :=
  ⟨alfaThree_conforms, chain_runs_rounds alfaThree_conforms⟩

/-- The count of a chain reaches its actions through the data: `alfa repeat
three times` types `3` three times, where `alfa` alone types `1`, so the
rounds of a counted chain are not copies of what the chain records uncounted.
And a round that stops stops the chain: `zap three repeat two times` records
one failed event, not two rounds. -/
theorem repeat_count_reaches_the_data :
    Conforms (chainRule countingParts).ref alfaThree ∧ Conforms (chainRule countingParts).ref alfaOnce ∧
      (perform countingParts (chainRule countingParts) alfaThree).records =
        List.replicate 3 (.sent .text (some "3")) ∧
      (perform countingParts (chainRule countingParts) alfaOnce).records = [.sent .text (some "1")] ∧
      Conforms (chainRule countingParts).ref zapTwo ∧
      (perform countingParts (chainRule countingParts) zapTwo).records = [.failed .text (some "%(zz)s")] ∧
      (perform countingParts (chainRule countingParts) zapTwo).fault.isSome := by
  -- the parses are checked by `accepts`, the records by running the chains
  refine ⟨alfaThree_conforms, Element.conforms_of_accepts _ _ (by decide +kernel),
    by decide +kernel, by decide +kernel, Element.conforms_of_accepts _ _ (by decide +kernel),
    by decide +kernel, by decide +kernel⟩

end VoiceCommands.MultiEdit
