import VoiceCommands.Proofs.Formatting.Phrases

/-!
# The `upper` case word

Uppercasing maps each character on its own, to characters that are uppercase
already after the first (checked on the case table), so it commutes with the
clean-up of dictated words and with every style that does not capitalize
words: `upper` then uppercases the whole phrase.
-/

namespace VoiceCommands.Text

theorem toList_upper (s : String) : (upper s).toList = s.toList.flatMap upperChar := by
  rw [upper, String.toList_ofList]

theorem upper_ofList (cs : List Char) : upper (String.ofList cs) = String.ofList (cs.flatMap upperChar) := by
  rw [upper, String.toList_ofList]

theorem upper_append (s t : String) : upper (s ++ t) = upper s ++ upper t := by
  rw [← String.toList_inj, toList_upper, String.toList_append, List.flatMap_append,
    String.toList_append, toList_upper, toList_upper]

theorem upper_eq_empty_iff (s : String) : upper s = "" ↔ s = "" := by
  rw [← String.toList_eq_nil_iff, ← String.toList_eq_nil_iff]
  exact (upper_chunked s).eq_nil_iff

theorem upper_intercalate {sep : String} (hsep : upper sep = sep) :
    ∀ ws : List String, upper (sep.intercalate ws) = sep.intercalate (ws.map upper)
  | [] => rfl
  | [w] => rfl
  | w :: w' :: ws => by
    rw [String.intercalate_cons_cons, upper_append, upper_append, hsep,
      upper_intercalate hsep (w' :: ws)]
    simp only [List.map_cons, String.intercalate_cons_cons]

theorem upper_join : ∀ ws : List String, upper (String.join ws) = String.join (ws.map upper)
  | [] => rfl
  | w :: ws => by rw [String.join_cons, upper_append, upper_join ws, List.map_cons, String.join_cons]

theorem beforeBackslash_upper (s : String) : beforeBackslash (upper s) = upper (beforeBackslash s) := by
  rw [beforeBackslash, beforeBackslash, toList_upper, flatMap_takeWhile_ne upperChar_chunk (by decide),
    upper_ofList]

theorem dropHyphens_upper (s : String) : dropHyphens (upper s) = upper (dropHyphens s) := by
  rw [dropHyphens, dropHyphens, toList_upper, flatMap_filter_ne upperChar_chunk (by decide),
    upper_ofList]

theorem splitOnSpace_upper (s : String) : splitOnSpace (upper s) = (splitOnSpace s).map upper := by
  rw [splitOnSpace, splitOnSpace, toList_upper, flatMap_splitOn upperChar_chunk (by decide),
    List.map_map, List.map_map]
  exact List.map_congr_left fun p _ => (upper_ofList p).symm

/-! ## The tail of an uppercase mapping -/

/-- The check of the table of longer uppercase mappings: every character
after the first is its own uppercase. -/
def upperTailsFixed (multi : Array (Nat × List Char)) : Bool :=
  multi.toList.all fun e => e.2.tail.all fun y => upperChar y == [y]

theorem upperMulti_tails : ∀ e ∈ upperMultiTable.toList, ∀ y ∈ e.2.tail, upperChar y = [y] := by
  have h : upperTailsFixed upperMultiTable = true := by decide +kernel
  simpa only [upperTailsFixed, List.all_eq_true, beq_iff_eq] using h

theorem upperChar_tail (c : Char) : ∀ y ∈ (upperChar c).tail, upperChar y = [y] := by
  unfold upperChar lookupCase
  split
  next => simp
  next =>
    split
    next hfind => exact upperMulti_tails _ (Array.mem_toList_iff.2 (Array.mem_of_find?_eq_some hfind))
    next => split <;> simp

theorem flatMap_upperChar_of_fixed : ∀ {l : List Char}, (∀ y ∈ l, upperChar y = [y]) →
    l.flatMap upperChar = l
  | [], _ => rfl
  | y :: l, h => by
    rw [List.flatMap_cons, h y List.mem_cons_self,
      flatMap_upperChar_of_fixed fun z hz => h z (List.mem_cons_of_mem y hz)]
    rfl

end VoiceCommands.Text

namespace VoiceCommands.Formatting

open Text

/-! ## The clean-up of uppercase words -/

theorem written_upper (s : String) : written (upper s) = upper (written s) := by
  rw [written, beforeBackslash_upper, dropHyphens_upper, written]

theorem isSpokenPunctuation_upper (s : String) : isSpokenPunctuation (upper s) = isSpokenPunctuation s :=
  isSpokenPunctuation_chunked (upper_chunked s)

theorem filter_ne_empty_map_upper (ws : List String) :
    (ws.map upper).filter (· ≠ "") = (ws.filter (· ≠ "")).map upper := by
  rw [List.filter_map]
  congr 2
  funext w
  simp [upper_eq_empty_iff]

theorem separated_map_upper : ∀ W : List String, separated (W.map upper) = (separated W).map upper
  | [] => rfl
  | d :: W => by
    rw [List.map_cons, separated_cons, separated_cons, separated_map_upper W, List.map_append,
      isSpokenPunctuation_upper, written_upper, splitOnSpace_upper, filter_ne_empty_map_upper]
    split <;> rfl

/-! ## The styles on uppercase words -/

theorem upper_joinValues_spoken {sep : String} (hsep : upper sep = sep) (W : List String) :
    joinValues sep (.list (spokenValues (W.map upper))) =
      upper <$> joinValues sep (.list (spokenValues W)) := by
  rw [joinValues_spoken, joinValues_spoken, Except.map_ok, upper_intercalate hsep]

theorem upperInitial_upper (w : String) :
    upperInitial (.str (upper w)) = upper <$> upperInitial (.str w) := by
  rw [upperInitial_str, upperInitial_str]
  cases hw : w.toList with
  | nil => simp [toList_upper, hw]
  | cons c cs =>
    -- the first letter of the uppercase is the first of the uppercase of `c`
    obtain ⟨d, ds, hd⟩ := List.exists_cons_of_ne_nil (upperChar_chunk c).1
    have hu : (upper w).toList = d :: (ds ++ cs.flatMap upperChar) := by
      rw [toList_upper, hw, List.flatMap_cons, hd, List.cons_append]
    have hds : ds.flatMap upperChar = ds := by
      have htail := upperChar_tail c
      rw [hd, List.tail_cons] at htail
      exact flatMap_upperChar_of_fixed htail
    simp only [hu, Except.map_ok, Except.ok.injEq]
    rw [← String.toList_inj]
    simp [toList_upper, hd, hds, Char.toString]

theorem mapM_upperInitial_upper : ∀ W : List String,
    (spokenValues (W.map upper)).mapM upperInitial =
      List.map upper <$> (spokenValues W).mapM upperInitial
  | [] => rfl
  | w :: W => by
    rw [List.map_cons, spokenValues_cons, spokenValues_cons, List.mapM_cons, List.mapM_cons,
      upperInitial_upper, mapM_upperInitial_upper W]
    cases upperInitial (.str w) <;> cases (spokenValues W).mapM upperInitial <;> rfl

/-- Whether a style capitalizes words, lowercasing all but their first
letter. -/
def PhraseStyle.capitalizes : PhraseStyle → Bool
  | .proper | .sentence | .spaytince | .title => true
  | _ => false

theorem PhraseStyle.render_map_upper {st : PhraseStyle} (hst : st.capitalizes = false)
    (W : List String) :
    st.render (.list (spokenValues (W.map upper))) = upper <$> st.render (.list (spokenValues W)) := by
  have hunder : upper "_" = "_" := by decide
  have hspace : upper " " = " " := by decide
  have hslash : upper "/" = "/" := by decide
  cases st with
  | proper | sentence | spaytince | title => cases hst
  | snakeway =>
    rw [render, render, snakeCase_spoken, snakeCase_spoken]
    cases W with
    | nil => rfl
    | cons w rest =>
      rw [List.map_cons]
      dsimp only
      rw [upperInitial_upper]
      cases upperInitial (.str w) <;>
        simp [upper_append, upper_intercalate hunder, apply_ite upper, hunder]
      rfl
  | camel =>
    rw [render, render, camelCase_spoken, camelCase_spoken]
    cases W with
    | nil => rfl
    | cons w rest =>
      rw [List.map_cons]
      dsimp only
      rw [mapM_upperInitial_upper]
      cases (spokenValues rest).mapM upperInitial <;> simp [upper_append, upper_join]
  | spaceway =>
    by_cases h0 : W = [] <;>
      simp [render, spacedText, Value.length, h0, upper_append, upper_intercalate hspace, hspace]
    rfl
  | broodingnarrative => rfl
  | abspath => simp [render, upper_append, upper_intercalate hslash, hslash]
  | _ => exact upper_joinValues_spoken (by decide) W

/-! ## Uppercase phrases -/

theorem phraseStyleWords_capitalizing : ∀ F ∈ phraseStyleWords,
    (PhraseStyle.ofName? (dropHyphens F)).map PhraseStyle.capitalizes =
      some (decide (F ∈ ["proper", "sentence", "spay-tince", "title"])) := by
  decide

theorem phraseStyleWords_lower : ∀ F ∈ phraseStyleWords, WordCase.of F = .lower := by
  decide

/-- A phrase command said after `upper`, in a style that does not capitalize
words, types the uppercase of what the command types without it, and both
fail alike, with an index error. -/
theorem upper_phrase_uppercases {F : String} (hF : F ∈ phraseStyleWords)
    (hcap : F ∉ ["proper", "sentence", "spay-tince", "title"]) (D : List String) :
    phraseText false (spokenValues ("upper" :: F :: D)) =
        Text.upper <$> phraseText false (spokenValues (F :: D)) ∧
      ∀ f, phraseText false (spokenValues (F :: D)) = .error f → f.kind = "IndexError" := by
  obtain ⟨st, hst, hcapst⟩ := Option.map_eq_some_iff.1 (phraseStyleWords_capitalizing F hF)
  have hkeep : st.capitalizes = false := by rw [hcapst, decide_eq_false_iff_not]; exact hcap
  have hupper := phraseText_spokenStyle (p := ["upper"]) (by decide) hF hst D
  have hplain := phraseText_spokenStyle (p := []) (by decide) hF hst D
  simp only [List.singleton_append, List.nil_append, List.headD_cons, List.headD_nil,
    phraseStyleWords_lower F hF] at hupper hplain
  refine ⟨?_, fun f hf => ?_⟩
  · -- after `upper` the words are lowercased, then uppercased
    have hcase : (WordCase.of "upper").apply = Text.upper ∘ WordCase.lower.apply := rfl
    rw [hupper, hplain, hcase, ← List.map_map, separated_map_upper, st.render_map_upper hkeep]
  · have hrender := st.render_separated (not_empty_mem_separated (D.map (WordCase.lower).apply))
    rw [← hplain] at hrender
    split at hrender
    · rw [hrender] at hf
      cases hf
      rfl
    · obtain ⟨s, hs⟩ := hrender
      rw [hs] at hf
      cases hf

/-- `upper score my name` types the uppercase of `score my name`. -/
theorem upper_score_uppercases :
    "score" ∈ phraseStyleWords ∧ "score" ∉ ["proper", "sentence", "spay-tince", "title"] ∧
    (phraseText false (spokenValues ("upper" :: "score" :: ["my", "name"])) =
        Text.upper <$> phraseText false (spokenValues ("score" :: ["my", "name"])) ∧
      ∀ f, phraseText false (spokenValues ("score" :: ["my", "name"])) = .error f →
        f.kind = "IndexError") :=
  ⟨by decide, by decide, upper_phrase_uppercases (by decide) (by decide) ["my", "name"]⟩

example : phraseText false (spokenValues ["upper", "spineway", "off-campus", "x"]) =
    .ok "OFFCAMPUS-X" := rfl

end VoiceCommands.Formatting
