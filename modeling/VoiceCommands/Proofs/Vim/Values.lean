import VoiceCommands.Vim.Commands
import VoiceCommands.Proofs.Recognition.Mappings
import VoiceCommands.Proofs.Formatting.Agreement
import VoiceCommands.Proofs.Actions

/-!
# Reading the insertions of a command line

A command line reads every insertion it holds, in spoken order, before it sends
anything.  An identifier can fail to give a value (an index error), and so can
a vocabulary list (a key error): `ValueFault`.  `commandLine_error_iff` says
that reading fails exactly with the fault of the first insertion that has one.
-/

namespace VoiceCommands.Vim

open Recognition Formatting Vocabulary Text

/-! ## Identifier insertions -/

def styleWords : List String := stylePairs.map Prod.fst

def caseWords : List String := ["upper", "natural"]

theorem identifierRule_element :
    identifierRule.element =
      .seq [.opt (.alt (caseWords.map .word)), .alt (styleWords.map .word), .opt dictation] :=
  Element.eq_of_beq _ _ (by decide +kernel)

theorem lower_styleWords : ∀ F ∈ styleWords, lower F = F := by
  have h : styleWords.all (fun F => lower F == F) = true := by decide
  simpa only [List.all_eq_true, beq_iff_eq] using h

theorem lower_caseWords : ∀ w ∈ caseWords, lower w = w := by
  have h : caseWords.all (fun w => lower w == w) = true := by decide
  simpa only [List.all_eq_true, beq_iff_eq] using h

theorem identifier_words {x : Tree} (h : Conforms identifierRule.ref x) :
    ∃ p F D, x.words = p ++ F :: D ∧ p ∈ casePrefixes ∧ F ∈ styleWords := by
  obtain ⟨c, rfl, hc⟩ := h.of_rule
  rw [identifierRule_element] at hc
  obtain ⟨a, b, d, rfl, ha, hb, -⟩ := hc.of_triple
  obtain ⟨F, hF, hbw⟩ := hb.alt_words
  have hp : a.words ∈ casePrefixes := by
    rcases ha.of_opt with rfl | ⟨a', rfl, ha'⟩
    · exact List.mem_cons_self
    · obtain ⟨w, hw, haw⟩ := ha'.alt_words
      rw [Tree.words, haw, lower_caseWords w hw]
      simp only [caseWords, List.mem_cons, List.not_mem_nil, or_false] at hw
      rcases hw with rfl | rfl <;> simp [casePrefixes]
  refine ⟨a.words, F, d.words, ?_, hp, hF⟩
  simp [Tree.words, Tree.wordsAll, hbw, lower_styleWords F hF]

theorem identifier_style_name : ∀ p ∈ casePrefixes, ∀ F ∈ styleWords,
    Text.lower (written ((WordCase.of (p.headD F)).apply F)) = dropHyphens F := by
  decide +kernel

theorem ofName?_caseWords : ∀ w ∈ caseWords, IdentifierStyle.ofName? (dropHyphens w) = none := by
  decide

theorem written_apply_eq_empty (κ : WordCase) (d : String) :
    written (κ.apply d) = "" ↔ written d = "" := by
  have hchunked : ∀ {d e : String}, Chunked d.toList e.toList → (written e = "" ↔ written d = "") :=
    fun h => by
      rw [← String.toList_eq_nil_iff, ← String.toList_eq_nil_iff]
      exact (chunked_written h).eq_nil_iff
  cases κ with
  | keep => rfl
  | lower => exact hchunked (lower_chunked d)
  | upper => exact (hchunked (upper_chunked _)).trans (hchunked (lower_chunked d))

theorem IdentifierStyle.fault?_cased (st : IdentifierStyle) (κ : WordCase) (D : List String) :
    st.fault? (D.map (written ∘ κ.apply)) = st.fault? (D.map written) := by
  cases st <;> cases D <;> simp [IdentifierStyle.fault?, written_apply_eq_empty]

/-- Reading an identifier fails exactly with the fault its style meets on the
written forms of the dictated words. -/
theorem identifierAction_error_iff {x : Tree} {p : List String} {F : String} {D : List String}
    (hx : x.words = p ++ F :: D) (hp : p ∈ casePrefixes) (hF : F ∈ styleWords) :
    ∃ st, IdentifierStyle.ofName? (dropHyphens F) = some st ∧
      ∀ f, identifierAction x = .error f ↔ st.fault? (D.map written) = some f := by
  obtain ⟨⟨F₁, F'⟩, hpair, rfl⟩ := List.mem_map.1 hF
  obtain ⟨hκ, -, hafter, -, st, -, hst, -, -⟩ := headers_agree p hp (F₁, F') hpair
  refine ⟨st, identifier_style_name p hp F₁ hF ▸ hst, fun f => ?_⟩
  have hr := st.render_spoken (D.map (written ∘ (WordCase.of (p.headD F₁)).apply))
  rw [IdentifierStyle.fault?_cased] at hr
  rw [identifierAction, hx, identifierText_header .editor D hκ hafter hst]
  cases h : st.render (.list (spokenValues (D.map (written ∘ (WordCase.of (p.headD F₁)).apply))))
    with
  | ok v => rw [h] at hr; simp [hr]
  | error g => rw [h] at hr; simp [hr]

theorem casePrefix_eq_take {p : List String} {F : String} (D : List String) {st : IdentifierStyle}
    (hp : p ∈ casePrefixes) (hst : IdentifierStyle.ofName? (dropHyphens F) = some st) :
    p = ((p ++ F :: D).take 1).filter (· ∈ caseWords) := by
  have hF : ¬(F = "upper" ∨ F = "natural") := fun hF => by
    rw [ofName?_caseWords F (by simpa [caseWords] using hF)] at hst
    cases hst
  simp only [casePrefixes, List.mem_cons, List.not_mem_nil, or_false] at hp
  rcases hp with rfl | rfl | rfl <;> simp [caseWords, hF]

/-- The words of an identifier split one way only into a case word or none,
a word that names a style, and the dictated words. -/
theorem identifier_words_unique {p p' : List String} {F F' : String} {D D' : List String}
    {st st' : IdentifierStyle} (hp : p ∈ casePrefixes) (hp' : p' ∈ casePrefixes)
    (hst : IdentifierStyle.ofName? (dropHyphens F) = some st)
    (hst' : IdentifierStyle.ofName? (dropHyphens F') = some st')
    (h : p ++ F :: D = p' ++ F' :: D') : p = p' ∧ F = F' ∧ D = D' := by
  have hpp : p = p' := by
    rw [casePrefix_eq_take D hp hst, casePrefix_eq_take D' hp' hst', h]
  subst hpp
  obtain ⟨rfl, rfl⟩ := List.cons.inj (List.append_cancel_left h)
  exact ⟨rfl, rfl, rfl⟩

/-! ## The faults of reading an insertion -/

/-- The fault met reading what was taken from a source. -/
inductive ValueFault : Source → Tree → Fault → Prop
  | identifier {x : Tree} {p : List String} {F : String} {D : List String}
      {st : IdentifierStyle} {f : Fault} :
      x.words = p ++ F :: D → p ∈ casePrefixes → IdentifierStyle.ofName? (dropHyphens F) = some st →
      st.fault? (D.map written) = some f → ValueFault .identifier x f
  | unlisted {name : String} {es : Entries} {ws : List String} :
      " ".intercalate ws ∉ es.map Prod.fst →
      ValueFault (.dynamic name es) (.phrase ws) (.missingKey (Value.str (" ".intercalate ws)).repr)

theorem ValueFault.source_kind {s : Source} {x : Tree} {f : Fault} (h : ValueFault s x f) :
    s = .identifier ∧ f.kind = "IndexError" ∨
      (∃ name es, s = .dynamic name es) ∧ f.kind = "KeyError" := by
  cases h with
  | identifier _ _ _ hf => exact .inl ⟨rfl, IdentifierStyle.fault?_kind hf⟩
  | unlisted _ => exact .inr ⟨⟨_, _, rfl⟩, rfl⟩

theorem Entries.heard_eq_error_iff {es : Entries} {ws : List String} {f : Fault} :
    es.heard ws = .error f ↔
      " ".intercalate ws ∉ es.map Prod.fst ∧ f = .missingKey (Value.str (" ".intercalate ws)).repr := by
  have hnone : es.lookup (" ".intercalate ws) = none ↔ " ".intercalate ws ∉ es.map Prod.fst := by
    rw [List.lookup_eq_none_iff]
    simp only [bne_iff_ne, ne_eq, List.mem_map, Prod.exists, exists_and_right, exists_eq_right,
      not_exists]
    exact ⟨fun h a ha => h _ ha rfl, fun h p hp hk => h p.2 (hk ▸ hp)⟩
  rw [Entries.heard]
  cases h : es.lookup (" ".intercalate ws) with
  | none =>
    simp only [Except.error.injEq]
    exact ⟨fun hf => ⟨hnone.1 h, hf.symm⟩, fun hf => hf.2.symm⟩
  | some a =>
    simp only [reduceCtorEq, false_iff, not_and]
    exact fun hk => absurd (hnone.2 hk) (by simp [h])

theorem identifierAction_error_iff_valueFault {x : Tree} (hx : Conforms identifierRule.ref x)
    (f : Fault) : identifierAction x = .error f ↔ ValueFault .identifier x f := by
  obtain ⟨p, F, D, hw, hp, hF⟩ := identifier_words hx
  obtain ⟨st, hst, hiff⟩ := identifierAction_error_iff hw hp hF
  constructor
  · intro h
    exact .identifier hw hp hst ((hiff f).1 h)
  · intro h
    cases h with
    | identifier hw' hp' hst' hf =>
      obtain ⟨rfl, rfl, rfl⟩ := identifier_words_unique hp hp' hst hst' (hw.symm.trans hw')
      rw [hst] at hst'
      cases hst'
      exact (hiff f).2 hf

/-- What is taken from a source is read with a fault exactly when the fault
is its `ValueFault`. -/
theorem Source.value_error_iff {s : Source} {x : Tree} (hx : Conforms s.element x) (f : Fault) :
    s.value x = .error f ↔ ValueFault s x f := by
  cases s with
  | identifier => exact identifierAction_error_iff_valueFault hx f
  | dynamic name es =>
    obtain ⟨ws, rfl, -⟩ := hx.of_list
    rw [Source.value, Entries.heard_eq_error_iff]
    constructor
    · rintro ⟨hk, rfl⟩
      exact .unlisted hk
    · intro h
      cases h with
      | unlisted hk => exact ⟨hk, rfl⟩
  | keys | arithmetic | spelling | static m =>
    simp only [Source.value, reduceCtorEq, false_iff]
    nofun

/-! ## The insertions of a command line -/

def spokenChunks (app : Tree) : List Tree :=
  match app.present?.map Tree.body with
  | some (.rep items) => items
  | _ => []

def primitiveSource (ss : List Source) (p : Tree) : Option (Source × Tree) :=
  match p.choice? with
  | some (i, x) => (ss[i]?).map (·, x)
  | none => none

def insertionSource (ss : List Source) (c : Tree) : Option (Source × Tree) :=
  match c.inner.parts with
  | [_, r] =>
    match r.inner.parts with
    | [p, _] => primitiveSource ss p
    | _ => none
  | _ => none

def chunkInsertion (ss : List Source) : Tree → Option (Source × Tree)
  | .alt 0 _ => none
  | .alt _ c => insertionSource ss c
  | _ => none

def literalInsertion (lit : Tree) : Option (Source × Tree) :=
  match lit.present? with
  | some l =>
    match l.body.inner.parts with
    | [_, _, i] => some (.identifier, i)
    | _ => none
  | none => none

/-- The insertions of a command line in spoken order, the literal identifier
last, each with its source. -/
def lineInsertions (ss : List Source) (t : Tree) : List (Source × Tree) :=
  match t.inner.parts with
  | [app, lit] => (spokenChunks app).filterMap (chunkInsertion ss) ++ (literalInsertion lit).toList
  | _ => []

def chunkCommand : Tree → Option Tree
  | .alt 0 c => some c
  | _ => none

/-- The normal-mode commands of a command line, in spoken order. -/
def lineCommands (t : Tree) : List Tree :=
  match t.inner.parts with
  | [app, _] => (spokenChunks app).filterMap chunkCommand
  | _ => []

/-! ## The parts of a parse tree of a command line -/

section
variable {ss : List Source}

theorem primitiveSource_conforms {p : Tree} {q : Source × Tree}
    (hp : Conforms (primitiveInsertionRule ss).ref p) (hq : primitiveSource ss p = some q) :
    Conforms q.1.element q.2 := by
  obtain ⟨p', rfl, hp'⟩ := hp.of_rule
  obtain ⟨a, rfl, ha⟩ := hp'.of_named
  obtain ⟨i, e, x, rfl, he, hx⟩ := ha.of_alt
  rw [List.getElem?_map] at he
  obtain ⟨s, hs, rfl⟩ := Option.map_eq_some_iff.1 he
  simp only [primitiveSource, Tree.choice?, Tree.inner, hs, Option.map_some, Option.some.injEq] at hq
  exact hq ▸ hx

theorem insertionSource_conforms {c : Tree} {q : Source × Tree}
    (hc : Conforms (insertionRule ss).ref c) (hq : insertionSource ss c = some q) :
    Conforms q.1.element q.2 := by
  obtain ⟨c', rfl, hc'⟩ := hc.of_rule
  obtain ⟨e, r, rfl, -, hr⟩ := hc'.of_pair
  obtain ⟨r', rfl, hr'⟩ := hr.of_rule
  obtain ⟨p, o, rfl, hp, -⟩ := hr'.of_pair
  exact primitiveSource_conforms hp hq

theorem spokenChunks_conforms {app : Tree}
    (h : Conforms (.opt (.named "app" .plain (.rep (.alt [commandRule.ref, (insertionRule ss).ref]) 1 8)))
      app) :
    ∀ c ∈ spokenChunks app, Conforms (.alt [commandRule.ref, (insertionRule ss).ref]) c := by
  rcases h.of_opt with rfl | ⟨a, rfl, ha⟩
  · intro c hc
    cases hc
  · obtain ⟨r, rfl, hr⟩ := ha.of_named
    obtain ⟨items, rfl, hitems⟩ := hr.of_rep
    exact hitems

theorem chunkInsertion_conforms {c : Tree} {q : Source × Tree}
    (hc : Conforms (.alt [commandRule.ref, (insertionRule ss).ref]) c)
    (hq : chunkInsertion ss c = some q) : Conforms q.1.element q.2 := by
  obtain ⟨i, e, x, rfl, he, hx⟩ := hc.of_alt
  match i, he with
  | 0, _ => cases hq
  | 1, he =>
    cases he
    exact insertionSource_conforms hx hq

theorem chunkCommand_conforms {c x : Tree}
    (hc : Conforms (.alt [commandRule.ref, (insertionRule ss).ref]) c)
    (hx : chunkCommand c = some x) : Conforms commandRule.ref x := by
  obtain ⟨i, e, y, rfl, he, hy⟩ := hc.of_alt
  match i, he with
  | 0, he =>
    cases he
    cases hx
    exact hy
  | 1, _ => cases hx

theorem literalInsertion_conforms {lit : Tree} {q : Source × Tree}
    (h : Conforms (.opt (.named "literal" .plain literalRule.ref)) lit)
    (hq : literalInsertion lit = some q) : Conforms q.1.element q.2 := by
  rcases h.of_opt with rfl | ⟨l, rfl, hl⟩
  · cases hq
  · obtain ⟨l', rfl, hl'⟩ := hl.of_named
    obtain ⟨l'', rfl, hl''⟩ := hl'.of_rule
    obtain ⟨e, w, i, rfl, -, -, hi⟩ := hl''.of_triple
    cases hq
    exact hi

theorem commandLine_parts {t : Tree} (ht : Conforms (commandLineRule ss).ref t) :
    ∃ app lit, t.inner.parts = [app, lit] ∧
      Conforms (.opt (.named "app" .plain (.rep (.alt [commandRule.ref, (insertionRule ss).ref]) 1 8)))
        app ∧
      Conforms (.opt (.named "literal" .plain literalRule.ref)) lit := by
  obtain ⟨c, rfl, hc⟩ := ht.of_rule
  obtain ⟨app, lit, rfl, happ, hlit⟩ := hc.of_pair
  exact ⟨app, lit, rfl, happ, hlit⟩

theorem lineInsertions_conform {t : Tree} (ht : Conforms (commandLineRule ss).ref t) :
    ∀ q ∈ lineInsertions ss t, Conforms q.1.element q.2 := by
  obtain ⟨app, lit, hparts, happ, hlit⟩ := commandLine_parts ht
  intro q hq
  simp only [lineInsertions, hparts, List.mem_append, List.mem_filterMap, Option.mem_toList] at hq
  rcases hq with ⟨c, hc, hq⟩ | hq
  · exact chunkInsertion_conforms (spokenChunks_conforms happ c hc) hq
  · exact literalInsertion_conforms hlit hq

theorem lineCommands_conform {t : Tree} (ht : Conforms (commandLineRule ss).ref t) :
    ∀ c ∈ lineCommands t, Conforms commandRule.ref c := by
  obtain ⟨app, lit, hparts, happ, -⟩ := commandLine_parts ht
  intro c hc
  simp only [lineCommands, hparts, List.mem_filterMap] at hc
  obtain ⟨x, hx, hc⟩ := hc
  exact chunkCommand_conforms (spokenChunks_conforms happ x hx) hc

end

/-! ## Reading fails at the first insertion that has a fault -/

theorem error?_insertionValue (ss : List Source) (p : Tree) :
    Except.error? (insertionValue ss p) =
      (primitiveSource ss p).bind fun q => Except.error? (q.1.value q.2) := by
  unfold insertionValue primitiveSource
  match p.choice? with
  | none => rfl
  | some (i, x) =>
    dsimp only
    cases ss[i]? <;> rfl

theorem error?_insertionSteps (ss : List Source) (c : Tree) :
    Except.error? (insertionSteps ss c) =
      (insertionSource ss c).bind fun q => Except.error? (q.1.value q.2) := by
  unfold insertionSteps insertionSource
  generalize c.inner.parts = parts
  match parts with
  | [_, r] =>
    dsimp only
    rw [Except.error?_bind_pure]
    unfold repetitionValue
    generalize r.inner.parts = rparts
    match rparts with
    | [p, _] =>
      dsimp only
      rw [Except.error?_bind_pure, error?_insertionValue]
    | [] | [_] | _ :: _ :: _ :: _ => rfl
  | [] | [_] | _ :: _ :: _ :: _ => rfl

theorem error?_chunkSteps (ss : List Source) (heard : List String) (c : Tree) :
    Except.error? (chunkSteps ss heard c) =
      (chunkInsertion ss c).bind fun q => Except.error? (q.1.value q.2) := by
  match c with
  | .alt 0 _ => rfl
  | .alt (_ + 1) c => exact error?_insertionSteps ss c
  | .word _ | .seq _ | .opt _ | .rep _ | .named .. | .rule .. | .phrase _ | .dictation _ => rfl

theorem error?_literalPart (lit : Tree) :
    Except.error? (literalPart lit) =
      (literalInsertion lit).bind fun q => Except.error? (q.1.value q.2) := by
  unfold literalPart literalInsertion
  match lit.present? with
  | none => rfl
  | some l =>
    dsimp only
    unfold literalSteps
    generalize l.body.inner.parts = parts
    match parts with
    | [_, _, i] => exact Except.error?_bind_pure _ _
    | [] | [_] | [_, _] | _ :: _ :: _ :: _ :: _ => rfl

theorem error?_commandLine (ss : List Source) (t : Tree) :
    Except.error? (commandLine ss t) =
      (lineInsertions ss t).findSome? fun q => Except.error? (q.1.value q.2) := by
  unfold commandLine lineInsertions
  generalize t.words = heard
  generalize t.inner.parts = parts
  match parts with
  | [app, lit] =>
    dsimp only
    have hchunks : Except.error? (lineChunks ss heard app) =
        ((spokenChunks app).filterMap (chunkInsertion ss)).findSome?
          fun q => Except.error? (q.1.value q.2) := by
      unfold lineChunks spokenChunks
      cases app.present?.map Tree.body with
      | some body =>
        cases body with
        | rep items =>
          simp only [List.error?_mapM, List.findSome?_filterMap, error?_chunkSteps]
        | _ => rfl
      | none => rfl
    rw [List.findSome?_append, ← hchunks]
    cases lineChunks ss heard app with
    | error e => rfl
    | ok chunks =>
      simp only [Except.ok_bind, Except.error?_ok, Option.none_or]
      cases h : literalInsertion lit with
      | none =>
        have hlit := error?_literalPart lit
        rw [h] at hlit
        cases hl : literalPart lit with
        | ok l => rfl
        | error e => rw [hl] at hlit; cases hlit
      | some q =>
        have hlit := error?_literalPart lit
        rw [h, Option.bind_some] at hlit
        rw [Option.toList_some, List.findSome?_singleton, ← hlit]
        cases literalPart lit <;> rfl
  | [] | [_] | _ :: _ :: _ :: _ => rfl

/-- Reading a parse tree of a command line fails exactly with the fault of
its first insertion, in spoken order, that has one. -/
theorem commandLine_error_iff {ss : List Source} {t : Tree} (ht : Conforms (commandLineRule ss).ref t)
    (f : Fault) :
    commandLine ss t = .error f ↔
      ∃ pre q post, lineInsertions ss t = pre ++ q :: post ∧
        (∀ q' ∈ pre, ∀ g, ¬ ValueFault q'.1 q'.2 g) ∧ ValueFault q.1 q.2 f := by
  have hfault : ∀ q ∈ lineInsertions ss t, ∀ g,
      Except.error? (q.1.value q.2) = some g ↔ ValueFault q.1 q.2 g := fun q hq g =>
    Except.error?_eq_some.trans (Source.value_error_iff (lineInsertions_conform ht q hq) g)
  rw [← Except.error?_eq_some, error?_commandLine, List.findSome?_eq_some_iff]
  constructor
  · rintro ⟨pre, q, post, hsplit, hq, hpre⟩
    refine ⟨pre, q, post, hsplit, fun q' hq' g hg => ?_, (hfault q (by simp [hsplit]) f).1 hq⟩
    rw [← hfault q' (by simp [hsplit, hq']) g, hpre q' hq'] at hg
    cases hg
  · rintro ⟨pre, q, post, hsplit, hpre, hq⟩
    refine ⟨pre, q, post, hsplit, (hfault q (by simp [hsplit]) f).2 hq, fun q' hq' => ?_⟩
    cases h : Except.error? (q'.1.value q'.2) with
    | none => rfl
    | some g => exact absurd ((hfault q' (by simp [hsplit, hq']) g).1 h) (hpre q' hq' g)

/-! ## Values that run through -/

/-- A source whose vocabulary runs through when inserted: the actions of a
list run through with no data, and those of a static vocabulary have no
repetition.  The fixed sources always do. -/
def Source.Sound : Source → Prop
  | .dynamic _ es => ∀ e ∈ es, e.2.RunsThrough []
  | .static m => ∀ e ∈ m.entries, e.2.simple
  | _ => True

instance (s : Source) : Decidable s.Sound :=
  match s with
  | .dynamic _ es => inferInstanceAs (Decidable (∀ e ∈ es, e.2.RunsThrough []))
  | .static m => inferInstanceAs (Decidable (∀ e ∈ m.entries, e.2.simple))
  | .keys | .identifier | .arithmetic | .spelling => isTrue trivial

theorem Source.value_runsThrough {s : Source} (hs : s.Sound) {x : Tree} {a : Action}
    (h : s.value x = .ok a) : a.RunsThrough [] := by
  cases s with
  | keys =>
    cases h
    exact Mapping.bound_runsThrough (Mapping.entries_simple (by decide)) x []
  | identifier =>
    obtain ⟨w, -, rfl⟩ := Except.map_eq_ok h
    exact Action.runsThrough_send _ _ _
  | dynamic name es =>
    match x, h with
    | .phrase ws, h =>
      simp only [Source.value, Entries.heard] at h
      split at h
      · cases h
        obtain ⟨l₁, l₂, hes, -⟩ := List.lookup_eq_some_iff.1 ‹_›
        exact hs (" ".intercalate ws, a) (by simp [hes])
      · cases h
    | .word _, h | .seq _, h | .alt .., h | .opt _, h | .rep _, h | .named .., h | .rule .., h
    | .dictation _, h =>
      cases h
      exact Action.runsThrough_idle []
  | arithmetic =>
    cases h
    exact Mapping.bound_runsThrough (Mapping.entries_simple (by decide)) x []
  | spelling =>
    cases h
    exact Action.runsThrough_send _ _ _
  | static m =>
    cases h
    exact Mapping.bound_runsThrough hs x []

end VoiceCommands.Vim
