import VoiceCommands.Proofs.Vim.Values
import VoiceCommands.Vocabulary.Builtin

/-!
# When a command line stops with a fault

Reading a command line stops at the first insertion with a fault, before
anything is sent.  Sending stops at one kind of command only: `ripple` said
with neither a register nor a count (`BareReplay`), whose value is not an
action.  `commandLine_faults` puts the two together for sources whose
vocabularies run through (`Source.Sound`), as those of every load do
(`LoadRequest.editorSources_sound`).
-/

namespace VoiceCommands.Recognition

def Mapping.spec? {α : Type} (m : Mapping α) (t : Tree) : Option String :=
  match t.inner with
  | .alt idx _ => (m.entries[idx]?).map (·.1)
  | _ => none

theorem Mapping.chosen_simple {m : Mapping (Option Action)}
    (h : m.entries.all (fun e => (e.2.map Action.simple).getD true) = true) {t : Tree} {a : Action}
    {d : Data} (hc : m.choose t = some (some a, d)) : a.simple := by
  obtain ⟨e, he, hea⟩ := Mapping.choose_mem hc
  have hall := List.all_eq_true.1 h e he
  rw [hea] at hall
  exact hall

end VoiceCommands.Recognition

namespace VoiceCommands.Vim

open Recognition

/-! ## The actions of commands -/

theorem counted_simple (c : Option Nat) {a : Action} (ha : a.simple) : (counted c a).simple := by
  cases c with
  | none => exact ha
  | some _ => exact Action.simple_append rfl ha

theorem targetAction_simple (t : Tree) : (targetAction t).simple := by
  unfold targetAction
  split <;> rfl

theorem countedMotionAction_simple (t : Tree) : (countedMotionAction t).simple := by
  unfold countedMotionAction
  split
  · apply counted_simple
    split
    · exact Mapping.bound_simple (Mapping.entries_simple (by decide)) _
    · exact targetAction_simple _
    · rfl
  · rfl

theorem motionAction_simple (t : Tree) : (motionAction t).simple := by
  unfold motionAction
  split
  · exact countedMotionAction_simple _
  · exact Mapping.bound_simple (Mapping.entries_simple (by decide)) _
  · rfl

theorem operatorAction_simple (t : Tree) : (operatorAction t).simple := by
  unfold operatorAction
  split
  · exact counted_simple _ (Mapping.bound_simple (Mapping.entries_simple (by decide)) _)
  · rfl

theorem applicationAction_simple (t : Tree) : (applicationAction t).simple := by
  unfold applicationAction
  split
  · split
    · exact Action.simple_append (operatorAction_simple _) (motionAction_simple _)
    · exact motionAction_simple _
  · rfl

theorem doubledAction_simple (t : Tree) : (doubledAction t).simple := by
  unfold doubledAction
  split
  next heq =>
    have ha := Mapping.chosen_simple (m := doubledOperators) (by decide) heq
    exact ha
  · split
    · split <;> rfl
    · rfl
  · rfl

theorem commandValue_simple {t : Tree} {a : Action} (h : commandValue t = some a) : a.simple := by
  unfold commandValue at h
  split at h
  · split at h <;> cases h
    · exact applicationAction_simple _
    · exact doubledAction_simple _
    · rfl
  · split at h
    next heq =>
      cases h
      have ha := Mapping.chosen_simple (m := plainCommands) (by decide) heq
      exact ha
    · cases h
    · cases h
      rfl
  · cases h
    rfl

theorem commandAction_faultless {c : Tree} {a : Action} (h : commandAction c = some a) (d : Data) :
    a = .inert "str" ∨ a.Faultless d := by
  unfold commandAction at h
  split at h
  next n r cmd _ =>
    cases h
    -- the register, then the command's own action, decide what is typed
    cases hr : r.present? with
    | none =>
      cases hv : commandValue cmd with
      | none =>
        simp only [Option.map_none, Option.getD_none]
        split
        · exact .inl rfl
        · exact .inr (Action.faultless_text_append_inert _ _ d)
      | some a =>
        have ha := commandValue_simple hv
        simp only [Option.map_none, Option.getD_some]
        split
        · exact .inr (Action.faultless_of_simple ha d)
        · exact .inr (Action.faultless_of_simple (Action.simple_append rfl ha) d)
    | some rt =>
      cases hv : commandValue cmd with
      | none => exact .inr (Action.faultless_of_simple rfl d)
      | some a =>
        exact .inr (Action.faultless_of_simple (Action.simple_append rfl (commandValue_simple hv)) d)
  next => cases h

/-! ## Bare replays -/

/-- A command that replays a macro with neither a register nor a count:
`ripple` said alone. -/
def BareReplay (c : Tree) : Prop :=
  ∃ n r cmd x, c.inner.parts = [n, r, cmd] ∧ n.present? = none ∧ r.present? = none ∧
    cmd.choice? = some (1, x) ∧ plainCommands.spec? x = some "ripple"

theorem plainCommands_none_iff : ∀ e ∈ plainCommands.entries, e.2 = none ↔ e.1 = "ripple" := by
  have h : plainCommands.entries.all (fun e => e.2.isNone == (e.1 == "ripple")) = true := by decide
  intro e he
  have he' := List.all_eq_true.1 h e he
  simp only [beq_iff_eq] at he'
  rw [← Option.isNone_iff_eq_none, he', beq_iff_eq]

theorem plainCommands_choose_none {x : Tree} :
    (∃ d, plainCommands.choose x = some (none, d)) ↔ plainCommands.spec? x = some "ripple" := by
  unfold Mapping.choose Mapping.spec?
  cases x.inner with
  | alt idx spoken =>
    dsimp only
    cases he : plainCommands.entries[idx]? with
    | none => simp
    | some e =>
      have hiff := plainCommands_none_iff e (List.mem_of_getElem? he)
      simp only [Option.map_some, Option.some.injEq, Prod.mk.injEq, exists_and_left,
        exists_eq', and_true]
      exact hiff
  | word _ | seq _ | opt _ | rep _ | named _ _ _ | rule _ _ | phrase _ | dictation _ => simp

theorem commandValue_eq_none_iff {cmd : Tree} :
    commandValue cmd = none ↔ ∃ k x, cmd.choice? = some (k + 1, x) ∧
      ∃ d, plainCommands.choose x = some (none, d) := by
  unfold commandValue
  split
  · constructor
    · intro h
      split at h <;> cases h
    · rintro ⟨k, x, h, -⟩
      simp_all
  · rename_i k x hk _
    constructor
    · intro h
      obtain ⟨k', rfl⟩ := Nat.exists_eq_succ_of_ne_zero hk
      refine ⟨k', x, ‹_›, ?_⟩
      split at h
      · cases h
      · exact ⟨_, ‹_›⟩
      · cases h
    · rintro ⟨k', x', h, d, hd⟩
      rw [h] at ‹cmd.choice? = some (k, x)›
      simp only [Option.some.injEq, Prod.mk.injEq] at *
      obtain ⟨-, rfl⟩ := ‹k' + 1 = k ∧ x' = x›
      rw [hd]
  · constructor
    · intro h
      cases h
    · rintro ⟨k, x, h, -⟩
      simp_all

theorem commandAction_of_bareReplay {c : Tree} (h : BareReplay c) :
    commandAction c = some (.inert "str") := by
  obtain ⟨n, r, cmd, x, hparts, hn, hr, hcmd, hx⟩ := h
  obtain ⟨d, hd⟩ := plainCommands_choose_none.2 hx
  have hv : commandValue cmd = none := commandValue_eq_none_iff.2 ⟨0, x, hcmd, d, hd⟩
  simp [commandAction, hparts, hn, hr, hv, countOf]

theorem commandAction_eq_inert {c : Tree} (h : commandAction c = some (.inert "str")) :
    ∃ n r cmd, c.inner.parts = [n, r, cmd] ∧ n.present? = none ∧ r.present? = none ∧
      commandValue cmd = none := by
  unfold commandAction at h
  split at h
  next n r cmd hparts =>
    refine ⟨n, r, cmd, hparts, ?_⟩
    simp only [Option.some.injEq] at h
    -- everything but the bare value starts by typing text
    have htext : ∀ s a, Action.text s ++ a ≠ .inert "str" := by
      intro s a
      simp [Action.append_eq_andThen, Action.andThen, Action.text, Action.event]
    cases hr : r.present? with
    | some rt =>
      cases hv : commandValue cmd <;> simp only [hr, hv, Option.map_some] at h
      · simp [Action.text, Action.event] at h
      · exact absurd h (htext _ _)
    | none =>
      cases hv : commandValue cmd with
      | some a =>
        have ha := commandValue_simple hv
        simp only [hr, hv, Option.map_none, Option.getD_some] at h
        split at h
        · subst h
          simp [Action.simple] at ha
        · exact absurd h (htext _ _)
      | none =>
        simp only [hr, hv, Option.map_none, Option.getD_none] at h
        split at h
        next hempty =>
          refine ⟨?_, rfl, rfl⟩
          cases hn : n.present? with
          | none => rfl
          | some k => simp [countOf, hn] at hempty
        next => exact absurd h (htext _ _)
  next => cases h

theorem commandRule_parts {c : Tree} (hc : Conforms commandRule.ref c) :
    ∃ n r i x, c.inner.parts = [n, r, .named "command" .plain (.alt i x)] ∧ i ≤ 1 := by
  obtain ⟨c', rfl, hc'⟩ := hc.of_rule
  obtain ⟨n, r, cmd, rfl, -, -, hcmd⟩ := hc'.of_triple
  obtain ⟨cmd', rfl, hcmd'⟩ := hcmd.of_named
  obtain ⟨i, e, x, rfl, he, -⟩ := hcmd'.of_alt
  refine ⟨n, r, i, x, rfl, ?_⟩
  have hlt := (List.getElem?_eq_some_iff.1 he).1
  simp only [List.length_cons, List.length_nil] at hlt
  omega

/-- The action of a command is the value that is not an action exactly when
the command is a bare replay. -/
theorem commandAction_eq_inert_iff {c : Tree} (hc : Conforms commandRule.ref c) :
    commandAction c = some (.inert "str") ↔ BareReplay c := by
  refine ⟨fun h => ?_, commandAction_of_bareReplay⟩
  obtain ⟨n, r, cmd, hparts, hn, hr, hv⟩ := commandAction_eq_inert h
  obtain ⟨n', r', i, x, hparts', hi⟩ := commandRule_parts hc
  rw [hparts] at hparts'
  simp only [List.cons.injEq, and_true] at hparts'
  obtain ⟨rfl, rfl, rfl⟩ := hparts'
  -- the command has no action of its own, so it chose a plain command
  obtain ⟨k, x', hk, d, hd⟩ := commandValue_eq_none_iff.1 hv
  simp only [Tree.choice?, Tree.inner, Option.some.injEq, Prod.mk.injEq] at hk
  obtain ⟨rfl, rfl⟩ := hk
  obtain rfl : k = 0 := by omega
  exact ⟨n, r, _, _, hparts, hn, hr, rfl, plainCommands_choose_none.1 ⟨d, hd⟩⟩

/-! ## Steps that send without a fault -/

/-- A step that sends without a fault: a command with the data of the
recognition, an insertion's way in and payload with none. -/
def Step.Faultless (data : Data) : Step → Prop
  | .normal a => a.Faultless data
  | .insert e p => (e.getD (.key "a")).Faultless [] ∧ p.Faultless []

/-- The step of a bare replay: a value that is not an action, sent as a
command. -/
def bareReplayStep : Step := .normal (.inert "str")

theorem bareReplayStep_not_faultless (data : Data) : ¬ bareReplayStep.Faultless data := by
  intro h
  have hstop := Action.exec_inert_fault "str" data {}
  rw [show ((Action.inert "str").exec data {}).1.fault = none from h] at hstop
  cases hstop

theorem entry_faultless (e : Tree) :
    ((e.present?.map insertModes.bound).getD (.key "a")).Faultless [] := by
  cases e.present? with
  | none => exact Action.faultless_of_simple rfl []
  | some x =>
    exact Action.faultless_of_simple (Mapping.bound_simple (Mapping.entries_simple (by decide)) x) []

section
variable {ss : List Source} (hss : ∀ s ∈ ss, s.Sound)
include hss

theorem insertionValue_runsThrough {p : Tree} {v : Action} (h : insertionValue ss p = .ok v) :
    v.RunsThrough [] := by
  unfold insertionValue at h
  split at h
  · split at h
    next s hs => exact Source.value_runsThrough (hss s (List.mem_of_getElem? hs)) h
    next =>
      cases h
      exact Action.runsThrough_idle []
  · cases h
    exact Action.runsThrough_idle []

theorem repetitionValue_faultless {r : Tree} {p : Action} (h : repetitionValue ss r = .ok p) :
    p.Faultless [] := by
  unfold repetitionValue at h
  split at h
  · obtain ⟨v, hv, h⟩ := Except.bind_eq_ok h
    cases Except.pure_eq_ok h
    exact ((insertionValue_runsThrough hss hv).repeated _).1
  · cases h
    rfl

theorem insertionSteps_faultless {c : Tree} {y : List Step} (h : insertionSteps ss c = .ok y)
    (data : Data) : ∀ s ∈ y, s.Faultless data := by
  unfold insertionSteps at h
  split at h
  next e r _ =>
    obtain ⟨p, hp, h⟩ := Except.bind_eq_ok h
    cases Except.pure_eq_ok h
    intro s hs
    rw [List.mem_singleton.1 hs]
    exact ⟨entry_faultless e, repetitionValue_faultless hss hp⟩
  next =>
    cases h
    intro s hs
    cases hs

end

theorem literalPart_faultless {lit : Tree} {y : List Step} (h : literalPart lit = .ok y)
    (data : Data) : ∀ s ∈ y, s.Faultless data := by
  unfold literalPart at h
  split at h
  · unfold literalSteps at h
    split at h
    next e _ i _ =>
      obtain ⟨p, hp, h⟩ := Except.bind_eq_ok h
      cases Except.pure_eq_ok h
      obtain ⟨w, -, rfl⟩ := Except.map_eq_ok hp
      intro s hs
      rw [List.mem_singleton.1 hs]
      exact ⟨entry_faultless e, Action.faultless_of_simple rfl []⟩
    next =>
      cases h
      intro s hs
      cases hs
  · cases h
    intro s hs
    cases hs

theorem commandSteps_faultless (heard : List String) (c : Tree) (data : Data) :
    ∀ s ∈ commandSteps heard c, s = bareReplayStep ∨ s.Faultless data := by
  unfold commandSteps
  cases h : commandAction c with
  | none => intro s hs; cases hs
  | some a =>
    intro s hs
    rcases List.mem_cons.1 hs with rfl | hs
    · rcases commandAction_faultless h data with rfl | ha
      · exact .inl rfl
      · exact .inr ha
    · -- the placeholder that follows a command when `chaos` was said
      split at hs
      · rw [List.mem_singleton.1 hs]
        exact .inr ⟨Action.faultless_of_simple rfl [], Action.faultless_of_simple rfl []⟩
      · cases hs

theorem bareReplayStep_mem_commandSteps {heard : List String} {c : Tree}
    (hc : Conforms commandRule.ref c) : bareReplayStep ∈ commandSteps heard c ↔ BareReplay c := by
  rw [← commandAction_eq_inert_iff hc]
  unfold commandSteps
  cases commandAction c with
  | none => simp
  | some a =>
    have hrest : bareReplayStep ∉ (if heard.contains "chaos" then [leaveInsert] else []) := by
      split <;> simp [bareReplayStep, leaveInsert]
    rw [List.mem_cons, or_iff_left hrest, Option.some.injEq]
    exact ⟨fun h => (Step.normal.inj h).symm, fun h => h ▸ rfl⟩

section
variable {ss : List Source} (hss : ∀ s ∈ ss, s.Sound) {heard : List String}
include hss

theorem chunkSteps_faultless {c : Tree} {y : List Step} (h : chunkSteps ss heard c = .ok y)
    (data : Data) : ∀ s ∈ y, s = bareReplayStep ∨ s.Faultless data := by
  match c, h with
  | .alt 0 c, h =>
    cases h
    exact commandSteps_faultless heard c data
  | .alt (_ + 1) c, h => exact fun s hs => .inr (insertionSteps_faultless hss h data s hs)
  | .word _, h | .seq _, h | .opt _, h | .rep _, h | .named .., h | .rule .., h | .phrase _, h
  | .dictation _, h =>
    cases h
    intro s hs
    cases hs

theorem bareReplayStep_mem_chunkSteps {c : Tree} {y : List Step}
    (hc : Conforms (.alt [commandRule.ref, (insertionRule ss).ref]) c)
    (h : chunkSteps ss heard c = .ok y) :
    bareReplayStep ∈ y ↔ ∃ x, chunkCommand c = some x ∧ BareReplay x := by
  obtain ⟨i, e, x, rfl, he, hx⟩ := hc.of_alt
  match i, he with
  | 0, he =>
    cases he
    cases h
    simp only [chunkCommand, Option.some.injEq, exists_eq_left']
    exact bareReplayStep_mem_commandSteps hx
  | 1, _ =>
    simp only [chunkCommand, reduceCtorEq, false_and, exists_false, iff_false]
    exact fun hb => bareReplayStep_not_faultless Data.base
      (insertionSteps_faultless hss h Data.base _ hb)

end

theorem lineChunks_eq_mapM (ss : List Source) (heard : List String) (app : Tree) :
    lineChunks ss heard app = (spokenChunks app).mapM (chunkSteps ss heard) := by
  unfold lineChunks spokenChunks
  cases app.present?.map Tree.body with
  | none => rfl
  | some body => cases body <;> rfl

/-- Every step of a parse tree of a command line that was read sends without
a fault, but the steps of bare replays, one for each. -/
theorem commandLine_ok_steps {ss : List Source} (hss : ∀ s ∈ ss, s.Sound) {t : Tree}
    (ht : Conforms (commandLineRule ss).ref t) {steps : List Step}
    (h : commandLine ss t = .ok steps) :
    (∀ data, ∀ s ∈ steps, s = bareReplayStep ∨ s.Faultless data) ∧
      (bareReplayStep ∈ steps ↔ ∃ c ∈ lineCommands t, BareReplay c) := by
  obtain ⟨app, lit, hparts, happ, -⟩ := commandLine_parts ht
  simp only [commandLine, hparts] at h
  obtain ⟨chunks, hchunks, h⟩ := Except.bind_eq_ok h
  obtain ⟨literal, hliteral, h⟩ := Except.bind_eq_ok h
  cases Except.pure_eq_ok h
  rw [lineChunks_eq_mapM] at hchunks
  have hlit := literalPart_faultless hliteral
  constructor
  · intro data s hs
    rcases List.mem_append.1 hs with hs | hs
    · obtain ⟨y, hy, hsy⟩ := List.mem_flatten.1 hs
      exact List.mapM_ok_forall (P := fun y => ∀ s ∈ y, s = bareReplayStep ∨ s.Faultless data)
        (fun c _ y hc => chunkSteps_faultless hss hc data) hchunks y hy s hsy
    · exact .inr (hlit data s hs)
  · have hnotlit : bareReplayStep ∉ literal := fun hb =>
      bareReplayStep_not_faultless Data.base (hlit Data.base _ hb)
    rw [List.mem_append, or_iff_left hnotlit, List.mem_flatten,
      List.mapM_ok_exists (fun c hc y hy =>
        bareReplayStep_mem_chunkSteps hss (spokenChunks_conforms happ c hc) hy) hchunks]
    simp only [lineCommands, hparts, List.mem_filterMap]
    constructor
    · rintro ⟨c, hc, x, hx, hbare⟩
      exact ⟨x, ⟨c, hc, hx⟩, hbare⟩
    · rintro ⟨x, ⟨c, hc, hx⟩, hbare⟩
      exact ⟨c, hc, x, hx, hbare⟩

/-! ## Sending the steps -/

section
variable {data : Data}

theorem flushInsertions_faultless {pending : List (Option Action × Action)}
    (hp : ∀ q ∈ pending, (Step.insert q.1 q.2).Faultless data) {t : Trace} (ht : t.fault = none) :
    (flushInsertions pending t).fault = none := by
  unfold flushInsertions
  refine Action.execEach_faultless (fun a ha => ?_) ht
  cases pending with
  | nil => cases ha
  | cons head rest =>
    have hhead := hp head List.mem_cons_self
    simp only [insertAll, List.cons_append, List.mem_cons, List.mem_append, List.mem_map,
      List.not_mem_nil, false_or, or_false] at ha
    rcases ha with rfl | rfl | ⟨q, hq, rfl⟩ | rfl
    · exact hhead.1
    · exact hhead.2
    · exact (hp q (List.mem_cons_of_mem _ hq)).2
    · exact Action.faultless_of_simple rfl []

theorem runSteps_faultless : ∀ {steps : List Step} {pending : List (Option Action × Action)}
    {t : Trace}, (∀ s ∈ steps, s.Faultless data) →
      (∀ q ∈ pending, (Step.insert q.1 q.2).Faultless data) → t.fault = none →
      (runSteps data steps pending t).fault = none
  | [], _, _, _, hp, ht => flushInsertions_faultless hp ht
  | .normal a :: rest, _, _, hs, hp, ht => by
    have ha : a.Faultless data := hs _ List.mem_cons_self
    rw [runSteps]
    exact runSteps_faultless (fun s h => hs s (List.mem_cons_of_mem _ h)) (fun q hq => by cases hq)
      (ha.exec (flushInsertions_faultless hp ht))
  | .insert e p :: rest, _, _, hs, hp, ht => by
    rw [runSteps]
    refine runSteps_faultless (fun s h => hs s (List.mem_cons_of_mem _ h)) (fun q hq => ?_) ht
    rcases List.mem_append.1 hq with hq | hq
    · exact hp q hq
    · rw [List.mem_singleton.1 hq]
      exact hs _ List.mem_cons_self

theorem runSteps_stopped : ∀ {steps : List Step} {pending : List (Option Action × Action)}
    {t : Trace}, t.fault.isSome → runSteps data steps pending t = t
  | [], _, _, ht => Action.execEach_stopped ht _ _
  | .normal a :: rest, _, _, ht => by
    rw [runSteps, flushInsertions, Action.execEach_stopped ht, Action.exec_stopped ht]
    exact runSteps_stopped ht
  | .insert _ _ :: _, _, _, ht => by
    rw [runSteps]
    exact runSteps_stopped ht

theorem runSteps_append_normal (a : Action) (after : List Step) :
    ∀ (before : List Step) (pending : List (Option Action × Action)) (t : Trace),
      runSteps data (before ++ .normal a :: after) pending t =
        runSteps data after [] (a.exec data (runSteps data before pending t)).1
  | [], _, _ => rfl
  | .normal _ :: rest, _, _ => runSteps_append_normal a after rest [] _
  | .insert _ _ :: rest, _, t => runSteps_append_normal a after rest _ t

theorem runSteps_bareReplay {steps : List Step} (h : bareReplayStep ∈ steps)
    (pending : List (Option Action × Action)) (t : Trace) :
    (runSteps data steps pending t).fault.isSome := by
  obtain ⟨before, after, rfl⟩ := List.append_of_mem h
  rw [bareReplayStep, runSteps_append_normal, runSteps_stopped (Action.exec_inert_fault _ _ _)]
  exact Action.exec_inert_fault _ _ _

end

theorem perform_of_commandLine_error {ss : List Source} {t : Tree} {f : Fault}
    (h : commandLine ss t = .error f) : perform ss (commandLineRule ss) t = { fault := some f } := by
  simp [perform, h]

theorem perform_of_commandLine_ok {ss : List Source} {t : Tree} {steps : List Step}
    (h : commandLine ss t = .ok steps) :
    perform ss (commandLineRule ss) t = runSteps (commandLineData ss t) steps [] {} := by
  simp [perform, h]

/-! ## Faults of a command line -/

section
variable {ss : List Source} (hss : ∀ s ∈ ss, s.Sound) {t : Tree}
  (ht : Conforms (commandLineRule ss).ref t)
include hss ht

theorem runSteps_prefix_faultless {steps : List Step} (hok : commandLine ss t = .ok steps)
    {before : List Step} (hpre : before <+: steps) (hbefore : bareReplayStep ∉ before) :
    (runSteps (commandLineData ss t) before [] {}).fault = none := by
  refine runSteps_faultless (fun s hs => ?_) (fun q hq => by cases hq) rfl
  refine ((commandLine_ok_steps hss ht hok).1 _ s (hpre.subset hs)).resolve_left ?_
  rintro rfl
  exact hbefore hs

/-- A parse tree of a command line stops with a fault exactly when one of its
insertions has a value fault or one of its commands is a bare replay. -/
theorem perform_fault_isSome_iff :
    (perform ss (commandLineRule ss) t).fault.isSome ↔
      (∃ q ∈ lineInsertions ss t, ∃ f, ValueFault q.1 q.2 f) ∨ ∃ c ∈ lineCommands t, BareReplay c := by
  cases hcl : commandLine ss t with
  | error f =>
    rw [perform_of_commandLine_error hcl]
    obtain ⟨pre, q, post, hsplit, -, hq⟩ := (commandLine_error_iff ht f).1 hcl
    simp only [Option.isSome_some, true_iff]
    exact .inl ⟨q, by simp [hsplit], f, hq⟩
  | ok steps =>
    have hbare := (commandLine_ok_steps hss ht hcl).2
    rw [perform_of_commandLine_ok hcl]
    constructor
    · intro hfault
      refine .inr (hbare.1 (Classical.byContradiction fun hb => ?_))
      rw [runSteps_prefix_faultless hss ht hcl (List.prefix_refl _) hb] at hfault
      cases hfault
    · rintro (⟨q, hq, f, hvf⟩ | hc)
      · -- an insertion with a fault would have failed the reading
        have hq' : Except.error? (q.1.value q.2) = some f := Except.error?_eq_some.2
          ((Source.value_error_iff (lineInsertions_conform ht q hq) f).2 hvf)
        have hnone := error?_commandLine ss t
        rw [hcl, Except.error?_ok, eq_comm, List.findSome?_eq_none_iff] at hnone
        rw [hnone q hq] at hq'
        cases hq'
      · exact runSteps_bareReplay (hbare.2 hc) [] {}

/-- A parse tree of a command line, read and sent with sources whose
vocabularies run through, stops with a fault exactly when one of its
insertions has a value fault or one of its commands is a bare replay.
Reading fails with the fault of the first insertion that has one, in spoken
order, and then nothing is sent; the fault is an index error when it comes
from an identifier and a key error when it comes from a vocabulary list.
When reading succeeds, the steps hold the step of a bare replay exactly when
the line has a bare replay, and the first one stops the line with an
attribute error, after exactly what the steps before it send, pending
insertions flushed, without a fault. -/
theorem commandLine_faults :
    ((perform ss (commandLineRule ss) t).fault.isSome ↔
      (∃ q ∈ lineInsertions ss t, ∃ f, ValueFault q.1 q.2 f) ∨ ∃ c ∈ lineCommands t, BareReplay c) ∧
    (∀ f, commandLine ss t = .error f ↔
      ∃ pre q post, lineInsertions ss t = pre ++ q :: post ∧
        (∀ q' ∈ pre, ∀ g, ¬ ValueFault q'.1 q'.2 g) ∧ ValueFault q.1 q.2 f) ∧
    (∀ f, commandLine ss t = .error f →
      perform ss (commandLineRule ss) t = { fault := some f } ∧
        ∃ q ∈ lineInsertions ss t, ValueFault q.1 q.2 f ∧
          (q.1 = .identifier ∧ f.kind = "IndexError" ∨
            (∃ name es, q.1 = .dynamic name es) ∧ f.kind = "KeyError")) ∧
    (∀ steps, commandLine ss t = .ok steps →
      (bareReplayStep ∈ steps ↔ ∃ c ∈ lineCommands t, BareReplay c) ∧
      ∀ before after, steps = before ++ bareReplayStep :: after → bareReplayStep ∉ before →
        (runSteps (commandLineData ss t) before [] {}).fault = none ∧
        perform ss (commandLineRule ss) t =
          (runSteps (commandLineData ss t) before [] {}).stop (.missingAttribute "str" "execute")) := by
  refine ⟨perform_fault_isSome_iff hss ht, commandLine_error_iff ht, fun f hf => ⟨?_, ?_⟩,
    fun steps hok => ⟨(commandLine_ok_steps hss ht hok).2, fun before after hsplit hbefore => ?_⟩⟩
  · exact perform_of_commandLine_error hf
  · obtain ⟨pre, q, post, hsplit, -, hq⟩ := (commandLine_error_iff ht f).1 hf
    exact ⟨q, by simp [hsplit], hq, hq.source_kind⟩
  · have hpre := runSteps_prefix_faultless hss ht hok ⟨_, hsplit.symm⟩ hbefore
    refine ⟨hpre, ?_⟩
    -- the bare replay stops the run the steps before it leave, and nothing after it runs
    have hstop : ((Action.inert "str").exec (commandLineData ss t)
        (runSteps (commandLineData ss t) before [] {})).1 =
          (runSteps (commandLineData ss t) before [] {}).stop (.missingAttribute "str" "execute") := by
      simp [Action.exec, hpre]
    rw [perform_of_commandLine_ok hok, hsplit, bareReplayStep, runSteps_append_normal, hstop, runSteps_stopped (by simp [Trace.stop])]

end

/-- `upper camel my name ripple`, read with no vocabularies. -/
def identifierThenReplay : Tree :=
  .rule "VimCommand" (.seq [.opt (some (.named "app" .plain (.rep
    [.alt 1 (.rule "Insertion" (.seq [.opt none, .rule "PrimitiveInsertionRepetition" (.seq
      [.rule "PrimitiveInsertion" (.named "insertion" .plain (.alt 1 (.rule "IdentifierInsertion"
        (.seq [.opt (some (.alt 0 (.word "upper"))), .alt 1 (.word "camel"),
          .opt (some (.named "dictation" .dictation (.dictation ["my", "name"])))])))),
       .opt none])])),
     .alt 0 (.rule "Command" (.seq [.opt none, .opt none, .named "command" .plain
      (.alt 1 (.rule "PrimitiveCommand" (.alt 6 (.word "ripple"))))]))]))), .opt none])

/-- With no vocabularies, `upper camel my name ripple` is a command line whose
identifier is read and whose bare replay stops it. -/
theorem identifier_then_bare_replay_faults :
    ((∀ s ∈ sources default, s.Sound) ∧
      Conforms (commandLineRule (sources default)).ref identifierThenReplay) ∧
    ((perform (sources default) (commandLineRule (sources default))
        identifierThenReplay).fault.isSome ↔
      (∃ q ∈ lineInsertions (sources default) identifierThenReplay, ∃ f, ValueFault q.1 q.2 f) ∨
        ∃ c ∈ lineCommands identifierThenReplay, BareReplay c) ∧
    (∀ f, commandLine (sources default) identifierThenReplay = .error f ↔
      ∃ pre q post, lineInsertions (sources default) identifierThenReplay = pre ++ q :: post ∧
        (∀ q' ∈ pre, ∀ g, ¬ ValueFault q'.1 q'.2 g) ∧ ValueFault q.1 q.2 f) ∧
    (∀ f, commandLine (sources default) identifierThenReplay = .error f →
      perform (sources default) (commandLineRule (sources default)) identifierThenReplay =
          { fault := some f } ∧
        ∃ q ∈ lineInsertions (sources default) identifierThenReplay, ValueFault q.1 q.2 f ∧
          (q.1 = .identifier ∧ f.kind = "IndexError" ∨
            (∃ name es, q.1 = .dynamic name es) ∧ f.kind = "KeyError")) ∧
    (∀ steps, commandLine (sources default) identifierThenReplay = .ok steps →
      (bareReplayStep ∈ steps ↔ ∃ c ∈ lineCommands identifierThenReplay, BareReplay c) ∧
      ∀ before after, steps = before ++ bareReplayStep :: after → bareReplayStep ∉ before →
        (runSteps (commandLineData (sources default) identifierThenReplay) before [] {}).fault = none ∧
        perform (sources default) (commandLineRule (sources default)) identifierThenReplay =
          (runSteps (commandLineData (sources default) identifierThenReplay) before [] {}).stop
            (.missingAttribute "str" "execute")) := by
  have hss : ∀ s ∈ sources default, s.Sound := by decide
  have ht : Conforms (commandLineRule (sources default)).ref identifierThenReplay :=
    Element.conforms_of_accepts _ _ (by decide +kernel)
  exact ⟨⟨hss, ht⟩, commandLine_faults hss ht⟩

/-- `three ripple`. -/
def countedReplay : Tree :=
  .rule "VimCommand" (.seq [.opt (some (.named "app" .plain (.rep
    [.alt 0 (.rule "Command" (.seq [.opt (some (.named "count" .digits (.rep [.alt 3 (.word "three")]))),
      .opt none, .named "command" .plain (.alt 1 (.rule "PrimitiveCommand" (.alt 6 (.word "ripple"))))]))]))),
    .opt none])

/-- `three up divided ack equal`, read with the built-in vocabularies: the
last three words are taken for the list of code insertions. -/
def unlistedPhraseLine : Tree :=
  .rule "VimCommand" (.seq [.opt (some (.named "app" .plain (.rep
    [.alt 0 (.rule "Command" (.seq [.opt (some (.named "count" .digits (.rep [.alt 3 (.word "three")]))),
      .opt none, .named "command" .plain (.alt 0 (.named "OperatorApplication" .plain
        (.alt 0 (.rule "OperatorApplicationMotion" (.seq [.opt none, .rule "Motion"
          (.named "motion" .plain (.alt 0 (.rule "CountedMotion" (.seq [.opt none,
            .named "motion" .plain (.alt 0 (.rule "PrimitiveMotion" (.alt 0 (.word "up"))))]))))])))))])),
     .alt 1 (.rule "Insertion" (.seq [.opt none, .rule "PrimitiveInsertionRepetition" (.seq
      [.rule "PrimitiveInsertion"
        (.named "insertion" .plain (.alt 2 (.phrase ["divided", "ack", "equal"]))),
       .opt none])]))]))), .opt none])

/-- Two lines on which faults and replays part ways.  `three ripple`: a
replay with a count types the count and stops its own series, so the line runs
through.  `three up divided ack equal`: the words taken for a list insertion
are no phrase of the list, and the lookup fails. -/
theorem counted_replay_and_vocabulary_faults :
    (Conforms (commandLineRule (sources default)).ref countedReplay ∧
      countedReplay.words = ["three", "ripple"] ∧
      (perform (sources default) (commandLineRule (sources default)) countedReplay).fault = none) ∧
    (Conforms (commandLineRule (sources .builtin)).ref unlistedPhraseLine ∧
      unlistedPhraseLine.words = ["three", "up", "divided", "ack", "equal"] ∧
      (perform (sources .builtin) (commandLineRule (sources .builtin)) unlistedPhraseLine).fault.map
        Fault.kind = some "KeyError") := by
  have hreplay : Conforms (commandLineRule (sources default)).ref countedReplay :=
    Element.conforms_of_accepts _ _ (by decide +kernel)
  have hcounted :
      (perform (sources default) (commandLineRule (sources default)) countedReplay).fault = none := by
    -- the one command carries a count, so it is no bare replay
    have hbare : ¬ ((∃ q ∈ lineInsertions (sources default) countedReplay, ∃ f, ValueFault q.1 q.2 f) ∨
        ∃ c ∈ lineCommands countedReplay, BareReplay c) := by
      rintro (⟨q, hq, -⟩ | ⟨c, hc, n, r, cmd, x, hparts, hn, -⟩)
      · cases hq
      · have hc₁ := List.mem_singleton.1 hc
        subst hc₁
        injection hparts with hn₁
        rw [← hn₁] at hn
        cases hn
    simpa using mt (perform_fault_isSome_iff (by decide) hreplay).1 hbare
  refine ⟨⟨hreplay, rfl, hcounted⟩, Element.conforms_of_accepts _ _ (by decide +kernel), rfl, ?_⟩
  decide +kernel

end VoiceCommands.Vim
