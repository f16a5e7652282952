import Mathlib.Data.List.Induction
import VoiceCommands.Proofs.Vim.Faults
import VoiceCommands.Proofs.Vim.Sending

/-!
# The keys a normal-mode command types

A normal-mode command types the keys of its parts in the order they were said
(`keyPieces`): a count its digits, the word `reg` an apostrophe, every operator,
motion and plain command what it types alone, and a doubled operator its
`doubledKeys`.  `commandAction_keys` states it for every command said without
`zero`, a replay of a register's macro apart.
-/

namespace VoiceCommands

theorem interpolateChars_plain_append (d : Data) :
    ∀ (cs rest : List Char) (fuel : Nat) (taken : Bool), '%' ∉ cs → cs.length < fuel →
      interpolateChars d fuel taken (cs ++ rest) =
        (cs ++ ·) <$> interpolateChars d (fuel - cs.length) taken rest
  | [], rest, fuel, taken, _, _ => by simp
  | c :: cs, rest, fuel + 1, taken, h, hlen => by
    have hc : c ≠ '%' := fun hc => h (hc ▸ List.mem_cons_self)
    have hrest := interpolateChars_plain_append d cs rest fuel taken
      (fun hm => h (List.mem_cons_of_mem c hm)) (by simp at hlen; omega)
    rw [List.cons_append, interpolateChars.eq_def]
    simp [hc, hrest, Function.comp_def]

theorem interpolate_plain {s : String} (h : '%' ∉ s.toList) (d : Data) : interpolate s d = some s := by
  have hplain := interpolateChars_plain_append d s.toList [] (s.length + 1) false h
    (by rw [String.length_toList]; omega)
  rw [List.append_nil, String.length_toList, Nat.add_sub_cancel_left] at hplain
  simp [interpolate, hplain, interpolateChars]

theorem render_count (n : Nat) :
    Conversion.render ⟨"count", ⟨false, false, false, false, false⟩, 0, none, 'd'⟩ (.int n) =
      some (Nat.toDigits 10 n) := by
  have hsign : ¬ (n : Int) < 0 := by omega
  -- a number is written from its first digit, which is no sign
  obtain ⟨c, cs, hdigits⟩ := List.exists_cons_of_ne_nil (Nat.toDigits_ne_nil (n := n) (b := 10))
  have hc : c.isDigit :=
    Nat.isDigit_of_mem_toDigits (by decide) (by decide) (hdigits ▸ List.mem_cons_self)
  have hminus : c ≠ '-' := by rintro rfl; simp at hc
  have hplus : c ≠ '+' := by rintro rfl; simp at hc
  simp only [Conversion.render, Conversion.body, integerText, signPart, hsign, Int.natAbs_natCast,
    hdigits]
  simp [Conversion.layOut, numericType, hminus, hplus]

theorem interpolate_count {k : String} (hk : '%' ∉ k.toList) {d : Data} {n : Nat}
    (hn : d.lookup "count" = some (.int n)) :
    interpolate (k ++ "%(count)d" ++ k) d = some (k ++ toString n ++ k) := by
  have hconv : ∀ f taken rest, interpolateChars d (f + 1) taken ("%(count)d".toList ++ rest) =
      (Nat.toDigits 10 n ++ ·) <$> interpolateChars d f true rest := by
    intro f taken rest
    have hkey : readKey 0 [] ("count)d".toList ++ rest) = some ("count".toList, 'd' :: rest) := rfl
    have hread : readConversion (String.ofList "count".toList) ('d' :: rest) =
        some (⟨"count", ⟨false, false, false, false, false⟩, 0, none, 'd'⟩, rest) := rfl
    rw [show "%(count)d".toList ++ rest = '%' :: '(' :: ("count)d".toList ++ rest) from rfl,
      interpolateChars]
    simp only [hkey, Option.bind_eq_bind, Option.bind_some, hread, hn, render_count]
    cases interpolateChars d f true rest <;> rfl
  -- the keys, the conversion and the keys again, each in turn
  have hkeys : interpolateChars d (k.length + 8 + 1) true k.toList = some k.toList := by
    have h := interpolateChars_plain_append d k.toList [] (k.length + 8 + 1) true hk
      (by rw [String.length_toList]; omega)
    rw [List.append_nil, String.length_toList,
      show k.length + 8 + 1 - k.length = 8 + 1 by omega] at h
    simpa [interpolateChars] using h
  have hlen : (k ++ "%(count)d" ++ k).length + 1 - k.toList.length = (k.length + 8 + 1) + 1 := by
    simp only [String.length_append, String.length_toList]
    have : "%(count)d".length = 9 := rfl
    omega
  rw [interpolate, String.toList_append, String.toList_append, List.append_assoc,
    interpolateChars_plain_append d _ _ _ false hk
      (by simp only [String.length_append, String.length_toList]; omega), hlen, hconv, hkeys]
  simp [← String.toList_inj]

/-- Whether an action is one event whose specification has no `%`, so that
it is sent as written whatever the data. -/
def Action.sentAsWritten : Action → Bool
  | .send _ (some s) _ => !s.toList.contains '%'
  | _ => false

theorem Action.clean_of_sentAsWritten {a : Action} (h : a.sentAsWritten) (d : Data) : a.Clean d := by
  match a, h with
  | .send out (some s) static, h =>
    have hs : '%' ∉ s.toList := by simpa [Action.sentAsWritten] using h
    exact .send (some s) (by simp [sendRecord, interpolate_plain hs d])

theorem Action.types_bound_count {k : String} (hk : '%' ∉ k.toList) {d : Data} {n : Nat}
    (hn : d.lookup "count" = some (.int n)) :
    (Action.bound (.text (k ++ "%(count)d" ++ k)) d).Types (k ++ toString n ++ k) := by
  have hd : d.isEmpty = false := by
    cases d with
    | nil => simp [Data.lookup] at hn
    | cons _ _ => rfl
  have hrecord : sendRecord .text (some (k ++ "%(count)d" ++ k)) (!(k ++ "%(count)d" ++ k).contains '%') d =
      .sent .text (some (k ++ toString n ++ k)) := by
    simp [sendRecord, hd, interpolate_count hk hn]
  have hkeys : (Action.text (k ++ "%(count)d" ++ k)).keys d = k ++ toString n ++ k := by
    simp only [Action.text, Action.event, Action.keys]
    rw [hrecord]
    rfl
  exact hkeys ▸ Action.types_bound (.send _ hrecord)

theorem Action.clean_percent (out : Output) (d : Data) : (Action.event out "%%").Clean d := by
  have hformat : interpolate "%%" d = some "%" := rfl
  by_cases hd : d.isEmpty
  · exact .send (some "%%") (by simp [sendRecord, hd])
  · exact .send (some "%") (by simp [sendRecord, hd, hformat])

end VoiceCommands

namespace VoiceCommands.Recognition

theorem Mapping.valueOr_mem {α : Type} (m : Mapping α) (t : Tree) (f : α) :
    m.valueOr t f = f ∨ m.valueOr t f ∈ m.entries.map (·.2) := by
  unfold Mapping.valueOr
  cases h : m.choose t with
  | none => exact .inl rfl
  | some vd =>
    obtain ⟨e, he, hev⟩ := Mapping.choose_mem h
    exact .inr (List.mem_map.2 ⟨e, he, hev⟩)

theorem Mapping.valueOr_plain {m : Mapping String} (h : ∀ e ∈ m.entries, '%' ∉ e.2.toList)
    (t : Tree) : '%' ∉ (m.valueOr t "").toList := by
  rcases m.valueOr_mem t "" with hv | hv
  · rw [hv]
    simp
  · obtain ⟨e, he, hev⟩ := List.mem_map.1 hv
    rw [← hev]
    exact h e he

theorem Mapping.bound_types_of_value {m : Mapping Action} {t : Tree} {a : Action} {s : String}
    (h : (m.choose t).map (·.1) = some a) (ha : a.Types s) : (m.bound t).Types s := by
  unfold Mapping.bound
  cases hc : m.choose t with
  | none => rw [hc] at h; cases h
  | some ad =>
    rw [hc, Option.map_some, Option.some.injEq] at h
    subst h
    exact fun _ => ⟨.bound (ha ad.2).1, (ha ad.2).2⟩

theorem Mapping.bound_types {m : Mapping Action} (hm : ∀ e ∈ m.entries, ∀ d, e.2.Clean d)
    (t : Tree) : (m.bound t).Types ((m.bound t).keys []) := by
  unfold Mapping.bound
  cases h : m.choose t with
  | none => exact Action.types_idle
  | some ad =>
    obtain ⟨e, he, hea⟩ := Mapping.choose_mem h
    exact Action.types_bound (hea ▸ hm e he ad.2)

/-! ## Counts -/

def nonzeroDigits : List Char := ['1', '2', '3', '4', '5', '6', '7', '8', '9']

theorem digitChar_nonzeroDigit : ∀ c ∈ nonzeroDigits, Nat.digitChar (c.toNat - 48) = c ∧
    0 < c.toNat - 48 ∧ c.toNat - 48 < 10 := by
  simp only [nonzeroDigits, List.forall_mem_cons, List.not_mem_nil, IsEmpty.forall_iff, forall_const,
    and_true]
  decide

theorem toDigits_foldl_digits (cs : List Char) (hne : cs ≠ []) (hcs : ∀ c ∈ cs, c ∈ nonzeroDigits) :
    Nat.toDigits 10 (cs.foldl (fun n c => 10 * n + (c.toNat - 48)) 0) = cs := by
  induction cs using List.reverseRecOn with
  | nil => exact absurd rfl hne
  | append_singleton cs c ih =>
    obtain ⟨hc, hpos, hlt⟩ := digitChar_nonzeroDigit c (hcs c (by simp))
    rw [List.foldl_append, List.foldl_cons, List.foldl_nil]
    -- the last digit is appended to the digits of the number before it
    by_cases hnil : cs = []
    · subst hnil
      simp [Nat.toDigits_of_lt_base hlt, hc]
    · have hprev := ih hnil fun c' hc' => hcs c' (by simp [hc'])
      have hprevPos : 0 < cs.foldl (fun n c => 10 * n + (c.toNat - 48)) 0 := by
        refine Nat.pos_of_ne_zero fun hzero => ?_
        rw [hzero, Nat.toDigits_zero] at hprev
        have h0 := hcs '0' (by simp [← hprev])
        simp [nonzeroDigits] at h0
      rw [← Nat.toDigits_append_toDigits (by decide) hprevPos hlt, hprev,
        Nat.toDigits_of_lt_base hlt, hc]

theorem toString_digitsValue {ws : List String} (hne : ws ≠ [])
    (hws : ∀ w ∈ ws, w ∈ digitWords.map (·.1)) (hzero : "zero" ∉ ws) :
    toString (digitsValue ws) = digitsText ws := by
  -- each word is a nonzero digit's name, so it gives one nonzero digit
  have hdigit : ∀ w ∈ ws, ∃ c ∈ nonzeroDigits, (digitWords.find? (·.1 = w)).map (·.2) = some c := by
    have hnames : (digitWords.map (·.1)).all (fun w => w == "zero" ||
        ((digitWords.find? (·.1 = w)).map (·.2)).any nonzeroDigits.contains) = true := by
      decide
    intro w hw
    have hw' := List.all_eq_true.1 hnames w (hws w hw)
    have hnz : (w == "zero") = false := beq_eq_false_iff_ne.2 fun h => hzero (h ▸ hw)
    rw [hnz, Bool.false_or, Option.any_eq_true] at hw'
    obtain ⟨c, hc, hmem⟩ := hw'
    exact ⟨c, List.contains_iff_mem.1 hmem, hc⟩
  set cs := ws.filterMap fun w => (digitWords.find? (·.1 = w)).map (·.2) with hcs
  have hcsDigits : ∀ c ∈ cs, c ∈ nonzeroDigits := by
    intro c hc
    obtain ⟨w, hw, hwc⟩ := List.mem_filterMap.1 hc
    obtain ⟨c', hc', hwc'⟩ := hdigit w hw
    rw [hwc'] at hwc
    exact Option.some.inj hwc ▸ hc'
  have hcsNe : cs ≠ [] := by
    obtain ⟨w, ws', rfl⟩ := List.exists_cons_of_ne_nil hne
    obtain ⟨c, -, hwc⟩ := hdigit w List.mem_cons_self
    simp [hcs, hwc]
  have hvalue : digitsValue ws = cs.foldl (fun n c => 10 * n + (c.toNat - 48)) 0 := by
    rw [digitsValue, String.foldl_eq_foldl_toList, digitsText, String.toList_ofList]
    rfl
  rw [hvalue, Nat.toString_eq_ofList_toDigits, toDigits_foldl_digits cs hcsNe hcsDigits, digitsText]

theorem percent_not_mem_toString (n : Nat) : '%' ∉ (toString n).toList := by
  rw [Nat.toString_eq_ofList_toDigits, String.toList_ofList]
  intro h
  have := Nat.isDigit_of_mem_toDigits (by decide) (by decide) h
  simp at this

theorem percent_not_mem_toString_int (m : Int) : '%' ∉ (toString m).toList := by
  cases m with
  | ofNat n => exact percent_not_mem_toString n
  | negSucc n =>
    rw [Int.toString_eq_repr, Int.repr, String.toList_append]
    simpa using percent_not_mem_toString (n + 1)

end VoiceCommands.Recognition

namespace VoiceCommands.Vim

open Recognition Text

/-! ## The keys of the parts of a command -/

/-- What a doubled operator types: the operator's keys, the count said
between the two (one when none is said) and the keys again.  The doubled
comment operator comments the current line, `gcc`, or with a count above
one that many lines: `gc`, the count less one, `j`. -/
def doubledKeys (t : Tree) : String :=
  match t.inner with
  | .alt i spoken =>
    let said := (spoken.find? "count").map Tree.words
    match operatorKeys[i]? with
    | some (_, k) => k ++ (said.map digitsText).getD "1" ++ k
    | none =>
      let n := (said.map digitsValue).getD 1
      if n = 1 then "gcc" else "gc" ++ toString ((n : Int) - 1) ++ "j"
  | _ => ""

def leafKeys (t : Tree) : String → Option String
  | "PrimitiveMotion" => some ((motions.bound t).keys [])
  | "UncountedMotion" => some ((uncountedMotions.bound t).keys [])
  | "PrimitiveOperator" => some ((operators.bound t).keys [])
  | "PrimitiveCommand" =>
    some (match plainCommands.choose t with
      | some (some a, d) => a.keys d
      | _ => "")
  | "MotionParameterMotion" => some (motionTargets.valueOr t "")
  | "LetterMapping" => some (letters.valueOr t "")
  | "OperatorSelfApplication" => some (doubledKeys t)
  | _ => none

mutual
/-- The keys of the parts of a parse tree, each part on its own, in spoken
order: a count its digits, the word `reg` an apostrophe, and every part said
as one piece its `leafKeys`. -/
def keyPieces : Tree → List String
  | .word w => if w = "reg" then ["'"] else []
  | .seq ts => keyPiecesAll ts
  | .alt _ t => keyPieces t
  | .opt none => []
  | .opt (some t) => keyPieces t
  | .rep ts => keyPiecesAll ts
  | .named n k t => if n = "count" ∧ k = .digits then [digitsText t.words] else keyPieces t
  | .rule n t =>
    match leafKeys (.rule n t) n with
    | some k => [k]
    | none => keyPieces t
  | .phrase _ => []
  | .dictation _ => []
def keyPiecesAll : List Tree → List String
  | [] => []
  | t :: ts => keyPieces t ++ keyPiecesAll ts
end

theorem keyPieces_leaf {n : String} {t : Tree} {k : String} (h : leafKeys (.rule n t) n = some k) :
    keyPieces (.rule n t) = [k] := by
  rw [keyPieces, h]

theorem keyPieces_rule {n : String} {t : Tree} (h : leafKeys (.rule n t) n = none) :
    keyPieces (.rule n t) = keyPieces t := by
  rw [keyPieces, h]

theorem keyPieces_named {n : String} (hn : n ≠ "count") (k : Extra) (t : Tree) :
    keyPieces (.named n k t) = keyPieces t := by
  simp [keyPieces, hn]

theorem keyPieces_pair (a b : Tree) : keyPieces (.seq [a, b]) = keyPieces a ++ keyPieces b := by
  simp [keyPieces, keyPiecesAll]

/-! ## Counts -/

theorem lower_digitNames : ∀ w ∈ digitWords.map (·.1), lower w = w := by
  have h : (digitWords.map (·.1)).all (fun w => lower w == w) = true := by decide
  simpa only [List.all_eq_true, beq_iff_eq] using h

theorem count_digits {c : Tree} (hc : Conforms count c) :
    ∃ r, c = .named "count" .digits r ∧ r.words ≠ [] ∧ ∀ w ∈ r.words, w ∈ digitWords.map (·.1) := by
  obtain ⟨r, rfl, hr⟩ := hc.of_named
  refine ⟨r, rfl, ?_⟩
  cases hr with
  | @rep _ _ _ items hleast _ hitems =>
    -- each copy is one digit name, said as written
    have hitem : ∀ x ∈ items, ∃ w ∈ digitWords.map (·.1), x.words = [w] := by
      intro x hx
      obtain ⟨w, hw, hxw⟩ := (hitems x hx).alt_words
      exact ⟨w, hw, by rw [hxw, lower_digitNames w hw]⟩
    simp only [Tree.words, Tree.wordsAll_eq]
    refine ⟨fun hnil => ?_, fun w hw => ?_⟩
    · obtain ⟨x, xs, rfl⟩ := List.exists_cons_of_length_pos (by omega : 0 < items.length)
      obtain ⟨w, -, hxw⟩ := hitem x List.mem_cons_self
      simp [hxw] at hnil
    · obtain ⟨x, hx, hwx⟩ := List.mem_flatMap.1 hw
      obtain ⟨w', hw', hxw⟩ := hitem x hx
      rw [hxw, List.mem_singleton] at hwx
      exact hwx ▸ hw'

/-- A count said without `zero` is typed as its digits. -/
theorem countOf_toString {c : Tree} (hc : Conforms (.opt count) c) (hz : "zero" ∉ c.words) :
    ((countOf c).map toString).getD "" = String.join (keyPieces c) := by
  rcases hc.of_opt with rfl | ⟨c', rfl, hc'⟩
  · rfl
  · obtain ⟨r, rfl, hne, hws⟩ := count_digits hc'
    have hz' : "zero" ∉ r.words := hz
    simp [countOf, Tree.present?, keyPieces, Tree.words, toString_digitsValue hne hws hz']

theorem counted_types {c : Tree} (hc : Conforms (.opt count) c) (hz : "zero" ∉ c.words)
    {a : Action} {s : String} (ha : a.Types s) :
    (counted (countOf c) a).Types (String.join (keyPieces c) ++ s) := by
  rw [← countOf_toString hc hz]
  cases hn : countOf c with
  | none => simpa [counted] using ha
  | some n => exact (Action.types_text (percent_not_mem_toString n)).append ha

/-! ## Parts said as one piece -/

theorem motions_clean : ∀ e ∈ motions.entries, ∀ d, e.2.Clean d := by
  have h : motions.entries.all (·.2.sentAsWritten) = true := by decide
  exact fun e he => Action.clean_of_sentAsWritten (List.all_eq_true.1 h e he)

theorem uncountedMotions_clean : ∀ e ∈ uncountedMotions.entries, ∀ d, e.2.Clean d := by
  intro e he d
  simp only [uncountedMotions, List.mem_cons, List.not_mem_nil, or_false] at he
  rcases he with rfl | rfl
  · exact Action.clean_percent .text d
  · exact Action.clean_of_sentAsWritten (by decide) d

theorem operators_clean : ∀ e ∈ operators.entries, ∀ d, e.2.Clean d := by
  have h : operators.entries.all (·.2.sentAsWritten) = true := by decide
  exact fun e he => Action.clean_of_sentAsWritten (List.all_eq_true.1 h e he)

theorem Mapping.piece_types {m : Mapping Action} (hm : ∀ e ∈ m.entries, ∀ d, e.2.Clean d)
    (hpiece : ∀ y, leafKeys (.rule m.rule.name y) m.rule.name =
      some ((m.bound (.rule m.rule.name y)).keys []))
    {x : Tree} (hx : Conforms m.rule.ref x) : (m.bound x).Types (String.join (keyPieces x)) := by
  obtain ⟨y, rfl, -⟩ := hx.of_rule
  rw [keyPieces_leaf (hpiece y), String.join_cons, String.join_nil, String.append_empty]
  exact Mapping.bound_types hm _

theorem motion_types {x : Tree} (hx : Conforms motions.rule.ref x) :
    (motions.bound x).Types (String.join (keyPieces x)) :=
  Mapping.piece_types motions_clean (fun _ => rfl) hx

theorem uncountedMotion_types {x : Tree} (hx : Conforms uncountedMotions.rule.ref x) :
    (uncountedMotions.bound x).Types (String.join (keyPieces x)) :=
  Mapping.piece_types uncountedMotions_clean (fun _ => rfl) hx

theorem operator_types {x : Tree} (hx : Conforms operators.rule.ref x) :
    (operators.bound x).Types (String.join (keyPieces x)) :=
  Mapping.piece_types operators_clean (fun _ => rfl) hx

theorem motionTargets_plain : ∀ e ∈ motionTargets.entries, '%' ∉ e.2.toList := by
  decide

theorem letters_plain : ∀ e ∈ letters.entries, '%' ∉ e.2.toList := by
  decide

theorem targetRule_ref : targetRule.ref = .rule "ParameterizedMotion"
    (.seq [.rule "MotionParameterMotion" motionTargets.element, .rule "LetterMapping" letters.element]) :=
  rfl

theorem targetAction_types {x : Tree} (hx : Conforms targetRule.ref x) :
    (targetAction x).Types (String.join (keyPieces x)) := by
  rw [targetRule_ref] at hx
  obtain ⟨y, rfl, hy⟩ := hx.of_rule
  obtain ⟨mt, l, rfl, hmt, hl⟩ := hy.of_pair
  obtain ⟨mt, rfl, -⟩ := hmt.of_rule
  obtain ⟨l, rfl, -⟩ := hl.of_rule
  set key := motionTargets.valueOr (.rule "MotionParameterMotion" mt) ""
  set letter := letters.valueOr (.rule "LetterMapping" l) ""
  have htext : '%' ∉ (key ++ letter).toList := by
    rw [String.toList_append, List.mem_append, not_or]
    exact ⟨motionTargets.valueOr_plain motionTargets_plain _, letters.valueOr_plain letters_plain _⟩
  have hpieces : keyPieces (.rule "ParameterizedMotion"
      (.seq [.rule "MotionParameterMotion" mt, .rule "LetterMapping" l])) = [key, letter] := by
    rw [keyPieces_rule rfl, keyPieces, keyPiecesAll, keyPieces_leaf rfl, keyPiecesAll,
      keyPieces_leaf rfl, keyPiecesAll]
    rfl
  rw [hpieces]
  simpa [targetAction, Tree.inner, Tree.parts] using Action.types_text htext

theorem countedMotionRule_ref : countedMotionRule.ref = .rule "CountedMotion"
    (.seq [.opt count, .named "motion" .plain (.alt [motions.rule.ref, targetRule.ref])]) :=
  rfl

theorem countedMotionAction_types {x : Tree} (hx : Conforms countedMotionRule.ref x)
    (hz : "zero" ∉ x.words) : (countedMotionAction x).Types (String.join (keyPieces x)) := by
  rw [countedMotionRule_ref] at hx
  obtain ⟨y, rfl, hy⟩ := hx.of_rule
  obtain ⟨c, m, rfl, hc, hm⟩ := hy.of_pair
  obtain ⟨choice, rfl, hchoice⟩ := hm.of_named
  obtain ⟨k, e, w, rfl, he, hw⟩ := hchoice.of_alt
  simp only [Tree.words, Tree.wordsAll, List.append_nil, List.mem_append, not_or] at hz
  rw [keyPieces_rule rfl, keyPieces_pair, keyPieces_named (by decide), String.join_append]
  -- the motion is a primitive one or a motion to a letter
  rcases k with _ | _ | k
  · cases Option.some.inj he.symm
    exact counted_types hc hz.1 (motion_types hw)
  · cases Option.some.inj he.symm
    exact counted_types hc hz.1 (targetAction_types hw)
  · simp at he

theorem motionRule_ref : motionRule.ref = .rule "Motion"
    (.named "motion" .plain (.alt [countedMotionRule.ref, uncountedMotions.rule.ref])) :=
  rfl

theorem motionAction_types {x : Tree} (hx : Conforms motionRule.ref x) (hz : "zero" ∉ x.words) :
    (motionAction x).Types (String.join (keyPieces x)) := by
  rw [motionRule_ref] at hx
  obtain ⟨y, rfl, hy⟩ := hx.of_rule
  obtain ⟨choice, rfl, hchoice⟩ := hy.of_named
  obtain ⟨k, e, z, rfl, he, hz'⟩ := hchoice.of_alt
  have hwords : "zero" ∉ z.words := hz
  rw [keyPieces_rule rfl, keyPieces_named (by decide)]
  match k, he with
  | 0, he =>
    cases Option.some.inj he.symm
    exact countedMotionAction_types hz' hwords
  | 1, he =>
    cases Option.some.inj he.symm
    exact uncountedMotion_types hz'

theorem operatorRule_ref : operatorRule.ref = .rule "Operator" (.seq [.opt count, operators.rule.ref]) :=
  rfl

theorem operatorAction_types {x : Tree} (hx : Conforms operatorRule.ref x) (hz : "zero" ∉ x.words) :
    (operatorAction x).Types (String.join (keyPieces x)) := by
  rw [operatorRule_ref] at hx
  obtain ⟨y, rfl, hy⟩ := hx.of_rule
  obtain ⟨c, o, rfl, hc, ho⟩ := hy.of_pair
  simp only [Tree.words, Tree.wordsAll, List.append_nil, List.mem_append, not_or] at hz
  rw [keyPieces_rule rfl, keyPieces_pair, String.join_append]
  exact counted_types hc hz.1 (operator_types ho)

theorem applicationRule_ref : applicationRule.ref = .rule "OperatorApplicationMotion"
    (.seq [.opt operatorRule.ref, motionRule.ref]) :=
  rfl

theorem applicationAction_types {x : Tree} (hx : Conforms applicationRule.ref x)
    (hz : "zero" ∉ x.words) : (applicationAction x).Types (String.join (keyPieces x)) := by
  rw [applicationRule_ref] at hx
  obtain ⟨y, rfl, hy⟩ := hx.of_rule
  obtain ⟨o, m, rfl, ho, hm⟩ := hy.of_pair
  simp only [Tree.words, Tree.wordsAll, List.append_nil, List.mem_append, not_or] at hz
  rw [keyPieces_rule rfl, keyPieces_pair, String.join_append]
  rcases ho.of_opt with rfl | ⟨op, rfl, hop⟩
  · simpa [applicationAction, Tree.inner, Tree.parts, Tree.present?, keyPieces] using
      motionAction_types hm hz.2
  · have hopWords : "zero" ∉ op.words := hz.1
    simpa [applicationAction, Tree.inner, Tree.parts, Tree.present?, keyPieces] using
      (operatorAction_types hop hopWords).append (motionAction_types hm hz.2)

/-! ## Doubled operators -/

def doubledWords : List (List String) :=
  [["relo"], ["dell"], ["chaos"], ["nab"], ["swap", "case"], ["uppercase"], ["lowercase"],
   ["external", "filter"], ["external", "format"], ["format", "text"], ["rotate", "thirteen"],
   ["indent", "left"], ["indent", "right"], ["define", "fold"], ["comm", "nop"]]

def phraseElement : List String → Element
  | [w] => .word w
  | ws => .seq (ws.map .word)

def doubledElement (ws : List String) : Element := .seq [phraseElement ws, .opt count, phraseElement ws]

theorem doubledOperators_element : doubledOperators.element = .alt (doubledWords.map doubledElement) :=
  Element.eq_of_beq _ _ (by decide +kernel)

theorem phrase_find {ws : List String} {t : Tree} (h : Conforms (phraseElement ws) t) (n : String) :
    t.find? n = none := by
  have hwords : ∀ (vs : List String) (ts : List Tree), ConformsAll (vs.map Element.word) ts →
      Tree.findAll? n ts = none := by
    intro vs
    induction vs with
    | nil => intro ts hts; rw [hts.of_nil]; rfl
    | cons v vs ih =>
      intro ts hts
      obtain ⟨t, ts, rfl, ht, hts⟩ := hts.of_cons
      rw [ht.of_word, Tree.findAll?, ih ts hts]
      rfl
  unfold phraseElement at h
  split at h
  · rw [h.of_word]; rfl
  · obtain ⟨ts, rfl, hts⟩ := h.of_seq
    exact hwords ws ts hts

theorem extrasData_count (base : Data) (t : Tree) :
    (extrasData base doubledOperators.extras doubledOperators.defaults t).lookup "count" =
      some (((t.find? "count").map Tree.datum).getD (.int 1)) := by
  cases h : t.find? "count" <;> simp [extrasData, doubledOperators, Data.setAll, h, Data.lookup_set]

theorem doubled_count {ws : List String} {spoken : Tree} (h : Conforms (doubledElement ws) spoken)
    (hz : "zero" ∉ spoken.words) :
    ∃ n : Nat, (∀ base, (extrasData base doubledOperators.extras doubledOperators.defaults
        spoken).lookup "count" = some (.int n)) ∧
      (((spoken.find? "count").map Tree.words).map digitsText).getD "1" = toString n ∧
      (((spoken.find? "count").map Tree.words).map digitsValue).getD 1 = n := by
  obtain ⟨a, c, b, rfl, ha, hc, hb⟩ := h.of_triple
  -- the count, if said, is the only named part
  have hfind : (Tree.seq [a, c, b]).find? "count" = c.find? "count" := by
    rw [Tree.find?, Tree.findAll?, phrase_find ha, Tree.findAll?, Tree.findAll?, phrase_find hb]
    cases c.find? "count" <;> rfl
  simp only [Tree.words, Tree.wordsAll, List.append_nil, List.mem_append, not_or] at hz
  have hdata : ∀ base, (extrasData base doubledOperators.extras doubledOperators.defaults
      (.seq [a, c, b])).lookup "count" = some (((c.find? "count").map Tree.datum).getD (.int 1)) := by
    intro base
    rw [extrasData_count, hfind]
  rw [hfind]
  rcases hc.of_opt with rfl | ⟨c', rfl, hc'⟩
  · exact ⟨1, fun base => by rw [hdata]; rfl, rfl, rfl⟩
  · obtain ⟨r, rfl, hne, hws⟩ := count_digits hc'
    have hzr : "zero" ∉ r.words := hz.2.1
    refine ⟨digitsValue r.words, fun base => by rw [hdata]; rfl, ?_, rfl⟩
    simp [Tree.find?, Tree.words, toString_digitsValue hne hws hzr]

theorem operatorKeys_plain : ∀ p ∈ operatorKeys, '%' ∉ p.2.toList := by
  decide

/-- A doubled operator said without `zero` types its `doubledKeys`: an
operator its keys around the count, the comment operator `gcc` or `gc`, the
count less one and `j`. -/
theorem doubledAction_types {y : Tree} (hy : Conforms doubledOperators.rule.ref y)
    (hz : "zero" ∉ y.words) : (doubledAction y).Types (String.join (keyPieces y)) := by
  obtain ⟨x, rfl, hx⟩ := hy.of_rule
  have hx : Conforms (.alt (doubledWords.map doubledElement)) x := by
    rw [← doubledOperators_element]; exact hx
  obtain ⟨i, e, spoken, rfl, he, hspoken⟩ := hx.of_alt
  rw [List.getElem?_map] at he
  obtain ⟨ws, hws, rfl⟩ := Option.map_eq_some_iff.1 he
  obtain ⟨n, hdata, htext, hvalue⟩ := doubled_count hspoken hz
  have hi : i < 15 := (List.getElem?_eq_some_iff.1 hws).1
  rw [keyPieces_leaf rfl, String.join_cons, String.join_nil, String.append_empty]
  -- the first fourteen operators type their keys; the last is the comment operator
  rcases Nat.lt_or_ge i 14 with hlt | hge
  · obtain ⟨⟨w, k⟩, hk⟩ : ∃ p, operatorKeys[i]? = some p :=
      ⟨_, List.getElem?_eq_getElem (by simpa [operatorKeys] using hlt)⟩
    have hentry : doubledOperators.entries[i]? =
        some (w ++ " [<count>] " ++ w, some (.text (k ++ "%(count)d" ++ k))) := by
      simp only [doubledOperators]
      rw [List.getElem?_append_left (by simpa [operatorKeys] using hlt), List.getElem?_map, hk]
      rfl
    simp only [doubledAction, doubledKeys, Mapping.choose, Tree.inner, hentry, hk, htext,
      Option.map_some]
    exact Action.types_bound_count (operatorKeys_plain _ (List.mem_of_getElem? hk)) (hdata _)
  · obtain rfl : i = 14 := by omega
    simp only [doubledAction, doubledKeys, Mapping.choose, Tree.inner, hvalue, Option.map_some,
      show doubledOperators.entries[14]? = some ("comm nop [<count>] comm nop", none) from rfl,
      show operatorKeys[14]? = none from rfl, hdata]
    by_cases hn : n = 1
    · subst hn
      exact Action.types_text (by decide)
    · have hn' : (n : Int) ≠ 1 := by omega
      rw [if_neg hn, if_neg hn']
      refine Action.types_text ?_
      simp only [String.toList_append, List.mem_append, not_or]
      exact ⟨⟨by decide, percent_not_mem_toString_int _⟩, by decide⟩

/-! ## Commands -/

theorem plainCommands_clean : ∀ e ∈ plainCommands.entries, ∀ a ∈ e.2, ∀ d, a.Clean d := by
  have h : plainCommands.entries.all (fun e => (e.2.map Action.sentAsWritten).getD true) = true := by
    decide
  intro e he a ha
  have hall := List.all_eq_true.1 h e he
  rw [Option.mem_def.1 ha] at hall
  exact Action.clean_of_sentAsWritten hall

/-- The command said is `ripple`, which replays the macro of a register. -/
def Ripple (cmd : Tree) : Prop :=
  ∃ x, cmd.choice? = some (1, x) ∧ plainCommands.spec? x = some "ripple"

def commandElement : Element :=
  .named "command" .plain
    (.alt [.named "OperatorApplication" .plain (.alt [applicationRule.ref, doubledOperators.rule.ref]),
      plainCommands.rule.ref])

theorem commandRule_ref : commandRule.ref = .rule "Command"
    (.seq [.opt count, .opt (.seq [.word "reg", letters.rule.ref]), commandElement]) :=
  rfl

theorem plainCommand_value {x : Tree} (hx : Conforms plainCommands.rule.ref x) :
    (Ripple (.named "command" .plain (.alt 1 x)) ∧ commandValue (.named "command" .plain (.alt 1 x)) = none) ∨
      (¬ Ripple (.named "command" .plain (.alt 1 x)) ∧ ∃ a, commandValue (.named "command" .plain (.alt 1 x)) = some a ∧
        a.Types (String.join (keyPieces x))) := by
  obtain ⟨y, rfl, -⟩ := hx.of_rule
  have hripple : Ripple (.named "command" .plain (.alt 1 (.rule plainCommands.rule.name y))) ↔
      ∃ d, plainCommands.choose (.rule plainCommands.rule.name y) = some (none, d) := by
    rw [plainCommands_choose_none]
    exact ⟨fun ⟨_, hx, hs⟩ => by cases hx; exact hs, fun hs => ⟨_, rfl, hs⟩⟩
  rw [keyPieces_leaf rfl, hripple]
  -- the plain command is `ripple`, an action, or none of the mapping's
  rcases hc : plainCommands.choose (.rule plainCommands.rule.name y) with _ | ⟨_ | a, d⟩ <;>
    simp only [commandValue, Tree.choice?, Tree.inner, hc]
  · refine .inr ⟨by simp, _, rfl, ?_⟩
    simpa [leafKeys, hc] using Action.types_idle
  · exact .inl ⟨⟨d, rfl⟩, trivial⟩
  · obtain ⟨e, he, hea⟩ := Mapping.choose_mem hc
    refine .inr ⟨by simp, _, rfl, ?_⟩
    simpa [leafKeys, hc] using Action.types_bound (plainCommands_clean e he a (by simp [hea]) d)

theorem commandValue_types {cmd : Tree} (h : Conforms commandElement cmd) (hz : "zero" ∉ cmd.words) :
    (Ripple cmd ∧ commandValue cmd = none) ∨
      (¬ Ripple cmd ∧ ∃ a, commandValue cmd = some a ∧ a.Types (String.join (keyPieces cmd))) := by
  obtain ⟨choice, rfl, hchoice⟩ := h.of_named
  obtain ⟨i, e, x, rfl, he, hx⟩ := hchoice.of_alt
  have hxz : "zero" ∉ x.words := hz
  rw [keyPieces_named (by decide)]
  match i, he with
  | 0, he =>
    cases Option.some.inj he.symm
    have hnot : ¬ Ripple (.named "command" .plain (.alt 0 x)) := by
      rintro ⟨_, hx, -⟩
      cases hx
    obtain ⟨app, rfl, happ⟩ := hx.of_named
    obtain ⟨j, e', y, rfl, he', hy⟩ := happ.of_alt
    have hyz : "zero" ∉ y.words := hxz
    refine .inr ⟨hnot, ?_⟩
    rw [keyPieces, keyPieces_named (by decide)]
    -- an operator applied to a motion, or a doubled operator
    match j, he' with
    | 0, he' =>
      cases Option.some.inj he'.symm
      exact ⟨_, rfl, applicationAction_types hy hyz⟩
    | 1, he' =>
      cases Option.some.inj he'.symm
      exact ⟨_, rfl, doubledAction_types hy hyz⟩
  | 1, he =>
    cases Option.some.inj he.symm
    simpa only [keyPieces] using plainCommand_value hx

theorem register_pieces {r : Tree} (hr : Conforms (.opt (.seq [.word "reg", letters.rule.ref])) r) :
    r = .opt none ∨ ∃ l, r = .opt (some (.seq [.word "reg", l])) ∧
      keyPieces r = ["'", letters.valueOr l ""] := by
  rcases hr.of_opt with rfl | ⟨rt, rfl, hrt⟩
  · exact .inl rfl
  · obtain ⟨w, l, rfl, hw, hl⟩ := hrt.of_pair
    obtain ⟨l, rfl, -⟩ := hl.of_rule
    have hreg : lower "reg" = "reg" := by decide
    rw [hw.of_word, hreg]
    refine .inr ⟨_, rfl, ?_⟩
    rw [keyPieces, keyPieces, keyPiecesAll, keyPieces, if_pos rfl, keyPiecesAll, keyPieces_leaf rfl,
      keyPiecesAll]
    rfl

theorem countPart_plain (c : Tree) : '%' ∉ (((countOf c).map toString).getD "").toList := by
  cases countOf c with
  | none => simp
  | some n => exact percent_not_mem_toString n

theorem registerText_plain (c : Tree) {mark : String} (hmark : '%' ∉ mark.toList) (l : Tree) :
    '%' ∉ (((countOf c).map toString).getD "" ++ mark ++ letters.valueOr l "").toList := by
  simp only [String.toList_append, List.mem_append, not_or]
  exact ⟨⟨countPart_plain c, hmark⟩, letters.valueOr_plain letters_plain l⟩

theorem countPart_counted (c : Tree) (a : Action) :
    (if (((countOf c).map toString).getD "").isEmpty then a
      else .text (((countOf c).map toString).getD "") ++ a) = counted (countOf c) a := by
  cases countOf c with
  | none => rfl
  | some n => simp [counted]

/-- What a normal-mode command said without `zero` types.  A command that is
not `ripple` types the keys of its parts, in the order they were said: its
count's digits, an apostrophe and the letter of its register, and the keys of
its operators, motions and counts, or of its plain command.  `ripple` after a
register replays that register's macro: the count, `@` and the letter. -/
theorem commandAction_keys {t : Tree} (ht : Conforms commandRule.ref t) (hz : "zero" ∉ t.words) :
    ∃ c r cmd a, t.inner.parts = [c, r, cmd] ∧ commandAction t = some a ∧
      (¬ Ripple cmd → a.Types (String.join (keyPieces t))) ∧
      (Ripple cmd → ∀ l, r = .opt (some (.seq [.word "reg", l])) →
        a.Types (String.join (keyPieces c) ++ "@" ++ letters.valueOr l "")) := by
  rw [commandRule_ref] at ht
  obtain ⟨u, rfl, hu⟩ := ht.of_rule
  obtain ⟨ts, rfl, hts⟩ := hu.of_seq
  obtain ⟨c, ts, rfl, hc, hts⟩ := hts.of_cons
  obtain ⟨r, ts, rfl, hr, hts⟩ := hts.of_cons
  obtain ⟨cmd, ts, rfl, hcmd, hts⟩ := hts.of_cons
  cases hts.of_nil
  simp only [Tree.words, Tree.wordsAll, List.append_nil, List.mem_append, not_or] at hz
  obtain ⟨hcz, -, hcmdz⟩ := hz
  have hpieces : keyPieces (.rule "Command" (.seq [c, r, cmd])) =
      keyPieces c ++ (keyPieces r ++ keyPieces cmd) := by
    rw [keyPieces_rule rfl]
    simp [keyPieces, keyPiecesAll]
  refine ⟨c, r, cmd, _, rfl, rfl, fun hnot => ?_, fun hripple l hl => ?_⟩
  · -- the command is an action: the count or the register comes first
    obtain ⟨-, a, hv, ha⟩ := (commandValue_types hcmd hcmdz).resolve_left fun h => hnot h.1
    rw [hpieces, String.join_append, String.join_append]
    rcases register_pieces hr with rfl | ⟨l, rfl, hl⟩
    · simp only [hv, Tree.present?, Option.map_none, Option.getD_some, countPart_counted]
      simpa [keyPieces] using counted_types hc hcz ha
    · simp only [hv, Tree.present?, Tree.parts, Option.map_some, hl]
      rw [← countOf_toString hc hcz]
      simpa [String.append_assoc] using
        (Action.types_text (registerText_plain c (by decide) l)).append ha
  · -- `ripple` after a register
    subst hl
    have hv : commandValue cmd = none :=
      ((commandValue_types hcmd hcmdz).resolve_right fun h => h.1 hripple).2
    simp only [hv, Tree.present?, Tree.parts, Option.map_some]
    rw [← countOf_toString hc hcz]
    exact Action.types_text (registerText_plain c (by decide) l)

/-- `three reg mike ripple`: the macro of register `m`, replayed three
times. -/
def replayThree : Tree :=
  .rule "Command" (.seq [.opt (some (.named "count" .digits (.rep [.alt 3 (.word "three")]))),
    .opt (some (.seq [.word "reg", .rule "LetterMapping" (.alt 12 (.word "mike"))])),
    .named "command" .plain (.alt 1 (.rule "PrimitiveCommand" (.alt 6 (.word "ripple"))))])

theorem replayThree_keys : Conforms commandRule.ref replayThree ∧ "zero" ∉ replayThree.words ∧
    ∃ a, commandAction replayThree = some a ∧ a.Types "3@m" := by
  have hconf : Conforms commandRule.ref replayThree := Element.conforms_of_accepts _ _ (by decide +kernel)
  have hzero : "zero" ∉ replayThree.words := by decide
  obtain ⟨c, r, cmd, a, hparts, ha, -, hreplay⟩ := commandAction_keys hconf hzero
  simp only [replayThree, Tree.inner, Tree.parts, List.cons.injEq] at hparts
  obtain ⟨rfl, rfl, rfl, -⟩ := hparts
  have hkeys := hreplay ⟨_, rfl, rfl⟩ _ rfl
  have htyped : String.join (keyPieces (.opt (some (.named "count" .digits (.rep [.alt 3 (.word "three")]))))) ++
      "@" ++ letters.valueOr (.rule "LetterMapping" (.alt 12 (.word "mike"))) "" = "3@m" := by
    decide
  exact ⟨hconf, hzero, a, ha, htyped ▸ hkeys⟩

def registerDeletion.eight : Tree := .named "count" .digits (.rep [.alt 8 (.word "eight")])

def registerDeletion.mike : Tree := .rule "LetterMapping" (.alt 12 (.word "mike"))

def registerDeletion.dell : Tree := .rule "PrimitiveOperator" (.alt 1 (.word "dell"))

def registerDeletion.eyopert : Tree := .rule "PrimitiveMotion" (.alt 11 (.word "eyopert"))

/-- `eight reg mike dell eyopert`: with register `m`, delete to the end of
the eighth word. -/
def registerDeletion : Tree :=
  .rule "Command" (.seq [.opt (some registerDeletion.eight),
    .opt (some (.seq [.word "reg", registerDeletion.mike])),
    .named "command" .plain (.alt 0 (.named "OperatorApplication" .plain (.alt 0
      (.rule "OperatorApplicationMotion" (.seq [
        .opt (some (.rule "Operator" (.seq [.opt none, registerDeletion.dell]))),
        .rule "Motion" (.named "motion" .plain (.alt 0 (.rule "CountedMotion" (.seq [.opt none,
          .named "motion" .plain (.alt 0 registerDeletion.eyopert)]))))])))))])

/-- A register is typed as an apostrophe, which jumps to the mark of the
letter, not as the double quote that names a register: the command types
`8'mdE`. -/
theorem register_typed_as_mark : Conforms commandRule.ref registerDeletion ∧
    ∃ a, commandAction registerDeletion = some a ∧ a.Types "8'mdE" := by
  have hconf : Conforms commandRule.ref registerDeletion :=
    Element.conforms_of_accepts _ _ (by decide +kernel)
  -- the count, the letter of the register, the operator and the motion
  have hcount : ((countOf (.opt (some registerDeletion.eight))).map toString).getD "" = "8" := by
    rw [countOf_toString (Element.conforms_of_accepts _ _ (by decide)) (by decide)]
    decide
  have hletter : letters.valueOr registerDeletion.mike "" = "m" := by decide
  have hdell : (operators.bound registerDeletion.dell).Types "d" :=
    Mapping.bound_types_of_value rfl (Action.types_text (by decide))
  have heyopert : (motions.bound registerDeletion.eyopert).Types "E" :=
    Mapping.bound_types_of_value rfl (Action.types_text (by decide))
  have haction : commandAction registerDeletion =
      some (.text (((countOf (.opt (some registerDeletion.eight))).map toString).getD "" ++ "'" ++
        letters.valueOr registerDeletion.mike "") ++
        (operators.bound registerDeletion.dell ++ motions.bound registerDeletion.eyopert)) := rfl
  rw [hcount, hletter] at haction
  have htyped : "8" ++ "'" ++ "m" ++ ("d" ++ "E") = "8'mdE" := by decide
  exact ⟨hconf, _, haction, htyped ▸ (Action.types_text (by decide)).append (hdell.append heyopert)⟩

end VoiceCommands.Vim
