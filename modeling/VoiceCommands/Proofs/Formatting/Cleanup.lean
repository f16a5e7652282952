import VoiceCommands.Proofs.Formatting.Phrases

/-!
# The clean-up of dictated words

Before a phrase style of the character-wise grammar renders dictated words, a
word that starts with a comma or a dash character is dropped, every other word
is cut at its first backslash and loses its hyphens, and what is left is split
at spaces, empty pieces dropped (`separateWords`).
-/

namespace VoiceCommands.Formatting

open Text

/-- The dictated words the clean-up keeps: those that do not start with a
comma or a dash character (U+0096, U+0097). -/
def keptWords (ws : List String) : List String :=
  ws.filter fun w => w.toList.head?.all (· ∉ [',', '\x96', '\x97'])

theorem keptWords_eq (ws : List String) : keptWords ws = ws.filter (!isSpokenPunctuation ·) := by
  unfold keptWords
  congr 1
  funext w
  rw [Bool.eq_iff_iff, Bool.not_eq_true', ← Bool.not_eq_true, isSpokenPunctuation_iff]
  cases w.toList with
  | nil => simp
  | cons c cs => simp [punctuationMarks]

theorem separated_eq_flatMap (ws : List String) :
    separated ws = (keptWords ws).flatMap fun w => (splitOnSpace (written w)).filter (· ≠ "") := by
  rw [separated, keptWords_eq, List.filter_flatMap, List.flatMap_map]

/-! ## Pieces split at a separator -/

theorem splitOn_cons_pieces (m c : Char) (cs : List Char) :
    ∃ q qs, cs.splitOn m = q :: qs ∧
      (c :: cs).splitOn m = if c = m then [] :: q :: qs else (c :: q) :: qs := by
  obtain ⟨q, qs, hqs⟩ := List.exists_cons_of_ne_nil (List.splitOn_ne_nil m cs)
  refine ⟨q, qs, hqs, ?_⟩
  rw [List.splitOn_eq_splitOnP, List.splitOnP_cons_eq_if_modifyHead, ← List.splitOn_eq_splitOnP, hqs]
  by_cases hc : c = m <;> simp [hc]

/-- The pieces of a list split at `m`, put back together, are the list
without `m`. -/
theorem flatten_splitOn (m : Char) :
    ∀ cs : List Char, (cs.splitOn m).flatten = cs.filter (· ≠ m)
  | [] => by simp [List.splitOn_eq_splitOnP]
  | c :: cs => by
    obtain ⟨q, qs, hqs, hcs⟩ := splitOn_cons_pieces m c cs
    have ih := flatten_splitOn m cs
    rw [hqs] at ih
    rw [hcs]
    by_cases hc : c = m
    · rw [if_pos hc, List.filter_cons_of_neg (by simpa using hc), ← ih]
      rfl
    · rw [if_neg hc, List.filter_cons_of_pos (by simpa using hc), ← ih]
      rfl

theorem mem_of_mem_splitOn {m c : Char} {cs p : List Char} (hp : p ∈ cs.splitOn m) (hc : c ∈ p) :
    c ∈ cs ∧ c ≠ m := by
  have hflat : c ∈ (cs.splitOn m).flatten := List.mem_flatten.2 ⟨p, hp, hc⟩
  rw [flatten_splitOn] at hflat
  simpa using hflat

theorem pieces_flatMap_toList (s : String) :
    ((splitOnSpace s).filter (· ≠ "")).flatMap String.toList = s.toList.filter (· ≠ ' ') := by
  rw [splitOnSpace, List.filter_map, List.flatMap_map]
  simp only [Function.comp_def, String.toList_ofList, ne_eq, String.ofList_eq_empty_iff]
  rw [List.flatMap_id', List.flatten_filter_ne_nil, flatten_splitOn]

/-! ## The clean words -/

theorem mem_separated {ws : List String} {x : String} (hx : x ∈ separated ws) :
    x ≠ "" ∧ ' ' ∉ x.toList ∧ '-' ∉ x.toList ∧ '\\' ∉ x.toList := by
  rw [separated_eq_flatMap] at hx
  obtain ⟨w, -, hx⟩ := List.mem_flatMap.1 hx
  obtain ⟨hpiece, hne⟩ := List.mem_filter.1 hx
  obtain ⟨p, hp, rfl⟩ := List.mem_map.1 hpiece
  -- a piece holds characters of the written form other than a space
  have hchar : ∀ c ∈ p, c ≠ ' ' ∧ c ≠ '-' ∧ c ≠ '\\' := by
    intro c hc
    obtain ⟨hw, hspace⟩ := mem_of_mem_splitOn hp hc
    rw [toList_written, List.mem_filter] at hw
    exact ⟨hspace, by simpa using hw.2, by simpa using List.mem_takeWhile_imp hw.1⟩
  refine ⟨by simpa using hne, ?_, ?_, ?_⟩ <;> rw [String.toList_ofList] <;> intro h
  · exact (hchar _ h).1 rfl
  · exact (hchar _ h).2.1 rfl
  · exact (hchar _ h).2.2 rfl

theorem join_separated (ws : List String) :
    String.join (separated ws) =
      String.join ((keptWords ws).map fun w =>
        String.ofList ((beforeBackslash w).toList.filter fun c => c ≠ '-' ∧ c ≠ ' ')) := by
  rw [← String.toList_inj, String.toList_join, String.toList_join, separated_eq_flatMap,
    List.flatMap_assoc, List.flatMap_map]
  refine List.flatMap_congr fun w _ => ?_
  rw [pieces_flatMap_toList, toList_written, List.filter_filter, String.toList_ofList, beforeBackslash,
    String.toList_ofList]
  congr 1
  funext c
  simp [and_comm]

theorem separated_eq_nil_iff_cut (ws : List String) :
    separated ws = [] ↔ ∀ w ∈ keptWords ws, ∀ c ∈ (beforeBackslash w).toList, c = '-' ∨ c = ' ' := by
  rw [separated_eq_nil_iff, keptWords_eq]
  simp only [List.mem_filter, Bool.not_eq_true', and_imp, toList_written, beforeBackslash,
    String.toList_ofList]
  refine forall₂_congr fun w _ => imp_congr_right fun _ => ?_
  simp only [decide_eq_true_eq]
  exact forall₂_congr fun c _ => by tauto

/-- The clean-up of a list of text: its words are non-empty and have no
space, hyphen or backslash; they are, in order, the non-empty pieces split at
spaces of the written form of each word that is not punctuation; together
they are those words cut at their first backslash, without hyphens and
spaces; and there are none exactly when each such word has only hyphens and
spaces before its first backslash. -/
theorem separateWords_clean (ws : List String) :
    ∃ out, separateWords (.list (spokenValues ws)) = .ok out ∧
      (∀ x ∈ out, x ≠ "" ∧ ' ' ∉ x.toList ∧ '-' ∉ x.toList ∧ '\\' ∉ x.toList) ∧
      out = (keptWords ws).flatMap (fun w => (splitOnSpace (written w)).filter (· ≠ "")) ∧
      String.join out = String.join ((keptWords ws).map fun w =>
        String.ofList ((beforeBackslash w).toList.filter fun c => c ≠ '-' ∧ c ≠ ' ')) ∧
      (out = [] ↔ ∀ w ∈ keptWords ws, ∀ c ∈ (beforeBackslash w).toList, c = '-' ∨ c = ' ') :=
  ⟨separated ws, separateWords_spoken ws, fun _ hx => mem_separated hx, separated_eq_flatMap ws,
    join_separated ws, separated_eq_nil_iff_cut ws⟩

example : separateWords (.list (spokenValues ["I\\pronoun", "off-campus", "\x96\\dash", "control panel"])) =
    .ok ["I", "offcampus", "control", "panel"] := by decide

end VoiceCommands.Formatting
