import VoiceCommands.Proofs.Formatting.Spoken
import VoiceCommands.Proofs.Text.Markers

/-!
# The identifier commands of the three grammars agree

The editor, multiple-edit and character-wise grammars type an identifier for
`[case] style words…` by pipelines that differ in how they clean the words.
On dictated words that none of the clean-ups changes (`Dictated`), in any
case, the three give the same identifier or the same index error, except that
a sentence of no words is empty in the character-wise grammar.
-/

namespace VoiceCommands.Formatting

open Text

/-! ## Dictated words -/

def punctuationMarks : List Char := [',', Char.ofNat 0x96, Char.ofNat 0x97]

theorem punctuationMarks_markers : ∀ m ∈ punctuationMarks, m ∈ markers := by
  have h : punctuationMarks.all (· ∈ markers) = true := by decide
  simpa only [List.all_eq_true, decide_eq_true_eq] using h

theorem isSpokenPunctuation_iff (s : String) :
    isSpokenPunctuation s = true ↔ ∃ m ∈ punctuationMarks, s.toList.head? = some m := by
  unfold isSpokenPunctuation
  have h96 : (Char.ofNat 0x96).toNat = 0x96 := rfl
  have h97 : (Char.ofNat 0x97).toNat = 0x97 := rfl
  cases s.toList with
  | nil => simp
  | cons c cs =>
    simp [punctuationMarks]
    rw [← @Char.toNat_inj c (Char.ofNat 0x96), ← @Char.toNat_inj c (Char.ofNat 0x97), h96, h97]

/-- A dictated word that the clean-up of phrases keeps as it is: it holds no
space, is not punctuation, and its written form is not empty. -/
structure Dictated (d : String) : Prop where
  noSpace : ' ' ∉ d.toList
  notPunctuation : isSpokenPunctuation d = false
  written_ne : written d ≠ ""

instance (d : String) : Decidable (Dictated d) :=
  decidable_of_iff (' ' ∉ d.toList ∧ isSpokenPunctuation d = false ∧ written d ≠ "")
    ⟨fun ⟨a, b, c⟩ => ⟨a, b, c⟩, fun ⟨a, b, c⟩ => ⟨a, b, c⟩⟩

theorem toList_written (s : String) :
    (written s).toList = (s.toList.takeWhile (· ≠ '\\')).filter (· ≠ '-') := by
  rw [written, dropHyphens, beforeBackslash, String.toList_ofList, String.toList_ofList]

theorem chunked_written {d e : String} (h : Chunked d.toList e.toList) :
    Chunked (written d).toList (written e).toList := by
  rw [toList_written, toList_written]
  exact (h.takeWhile_ne (by decide)).filter_ne (by decide)

theorem isSpokenPunctuation_chunked {d e : String} (h : Chunked d.toList e.toList) :
    isSpokenPunctuation e = isSpokenPunctuation d := by
  rw [Bool.eq_iff_iff, isSpokenPunctuation_iff, isSpokenPunctuation_iff]
  exact exists_congr fun m => and_congr_right fun hm => h.head?_marker (punctuationMarks_markers m hm)

theorem Dictated.of_chunked {d e : String} (h : Chunked d.toList e.toList) (hd : Dictated d) :
    Dictated e where
  noSpace := by
    rw [h.mem_marker (by decide)]
    exact hd.noSpace
  notPunctuation := by
    rw [isSpokenPunctuation_chunked h]
    exact hd.notPunctuation
  written_ne := by
    intro he
    apply hd.written_ne
    rw [← String.toList_eq_nil_iff, ← (chunked_written h).eq_nil_iff, he]
    rfl

theorem Dictated.cased {d : String} (hd : Dictated d) (κ : WordCase) : Dictated (κ.apply d) := by
  cases κ with
  | keep => exact hd
  | lower => exact hd.of_chunked (lower_chunked d)
  | upper => exact (hd.of_chunked (lower_chunked d)).of_chunked (upper_chunked _)

theorem Dictated.splitOnSpace_written {d : String} (hd : Dictated d) :
    splitOnSpace (written d) = [written d] := by
  have hspace : ' ' ∉ (written d).toList := by
    rw [toList_written]
    intro hin
    exact hd.noSpace (List.takeWhile_subset _ (List.mem_filter.1 hin).1)
  rw [splitOnSpace, List.splitOn_eq_singleton hspace]
  simp [String.ofList_toList]

theorem separated_dictated : ∀ {D : List String}, (∀ d ∈ D, Dictated d) →
    separated D = D.map written
  | [], _ => rfl
  | d :: D, hD => by
    have hd := hD d List.mem_cons_self
    have ih := separated_dictated fun d' h' => hD d' (List.mem_cons_of_mem d h')
    simp only [separated] at ih ⊢
    rw [List.filter_cons_of_pos (by simp [hd.notPunctuation]), List.map_cons, List.flatMap_cons,
      hd.splitOnSpace_written, List.singleton_append,
      List.filter_cons_of_pos (by simpa using hd.written_ne), ih, List.map_cons]

/-! ## The case word and the style word -/

def casePrefixes : List (List String) := [[], ["upper"], ["natural"]]

/-- The spoken names of the identifier styles of the editor grammars, each with
the name of the same style in the character-wise grammar. -/
def stylePairs : List (String × String) :=
  [("proper", "proper"), ("camel", "camel"), ("rel-path", "relpath"),
   ("abs-path", "abs-path"), ("score", "score"), ("sentence", "sentence"),
   ("scope-resolve", "scope-resolve"), ("jumble", "jumble"), ("dotword", "dotway"),
   ("dashword", "spineway"), ("natword", "natway"), ("snakeword", "snakeway"),
   ("brooding-narrative", "brooding-narrative")]

/-- What the case word `p` and the style words `F`, `F'` leave in the
pipelines, in the case `κ`: the same case in both grammars, the style word
alone once the case word is dropped, and a style of the editor grammars that
the character-wise grammar finds under its own name, a sentence exactly when
the style word is `sentence`. -/
def HeaderAgrees (p : List String) (F F' : String) (κ : WordCase) : Prop :=
  WordCase.of (p.headD F) = κ ∧ WordCase.of (p.headD F') = κ ∧
  afterCaseWord ((p ++ [F]).map (written ∘ κ.apply)) = [written (κ.apply F)] ∧
  afterCaseWord ((p ++ [F']).map κ.apply) = [κ.apply F'] ∧
  ∃ st ∈ IdentifierStyle.all.map (·.2),
    IdentifierStyle.ofName? (Text.lower (written (κ.apply F))) = some st ∧
    PhraseStyle.ofName? (dropHyphens (Text.lower (κ.apply F'))) = some st.toPhrase ∧
    (st = .sentence ↔ F = "sentence")

instance (p : List String) (F F' : String) (κ : WordCase) : Decidable (HeaderAgrees p F F' κ) := by
  unfold HeaderAgrees
  infer_instance

theorem headers_agree :
    ∀ p ∈ casePrefixes, ∀ e ∈ stylePairs, HeaderAgrees p e.1 e.2 (WordCase.of (p.headD e.1)) := by
  decide +kernel

theorem afterCaseWord_append {xs : List String} (h : xs ≠ []) (ys : List String) :
    afterCaseWord (xs ++ ys) = afterCaseWord xs ++ ys := by
  cases xs with
  | nil => exact absurd rfl h
  | cons w xs =>
    by_cases hc : Text.lower w = "upper" ∨ Text.lower w = "natural" <;> simp [afterCaseWord, hc]

theorem spoken_split (p : List String) (F : String) (D : List String) :
    ∃ w rest, p ++ F :: D = w :: rest ∧ w = p.headD F := by
  cases p with
  | nil => exact ⟨F, D, rfl, rfl⟩
  | cons c cs => exact ⟨c, cs ++ F :: D, rfl, rfl⟩

theorem identifierText_header (tbl : StyleTable) {p : List String} {F : String} {κ : WordCase}
    {st : IdentifierStyle} (D : List String) (hκ : WordCase.of (p.headD F) = κ)
    (hafter : afterCaseWord ((p ++ [F]).map (written ∘ κ.apply)) = [written (κ.apply F)])
    (hst : IdentifierStyle.ofName? (Text.lower (written (κ.apply F))) = some st) :
    identifierText tbl (spokenValues (p ++ F :: D)) =
      st.render (.list (spokenValues (D.map (written ∘ κ.apply)))) := by
  obtain ⟨w, rest, hsplit, hw⟩ := spoken_split p F D
  rw [hsplit, identifierText_spoken, ← hsplit, hw, hκ, List.append_cons, List.map_append,
    afterCaseWord_append (by simp), hafter, List.singleton_append]
  simp only [hst]

theorem phraseText_cased {p : List String} {F' : String} {κ : WordCase} {st : PhraseStyle}
    (D : List String) (hκ : WordCase.of (p.headD F') = κ)
    (hafter : afterCaseWord ((p ++ [F']).map κ.apply) = [κ.apply F'])
    (hst : PhraseStyle.ofName? (dropHyphens (Text.lower (κ.apply F'))) = some st) :
    phraseText false (spokenValues (p ++ F' :: D)) =
      st.render (.list (spokenValues (separated (D.map κ.apply)))) := by
  obtain ⟨w, rest, hsplit, hw⟩ := spoken_split p F' D
  rw [hsplit, phraseText_spoken, ← hsplit, hw, hκ, List.append_cons, List.map_append,
    afterCaseWord_append (by simp), hafter, List.singleton_append]
  simp only [hst]

theorem phraseText_header {p : List String} {F' : String} {κ : WordCase} {st : PhraseStyle}
    {D : List String} (hD : ∀ d ∈ D, Dictated d) (hκ : WordCase.of (p.headD F') = κ)
    (hafter : afterCaseWord ((p ++ [F']).map κ.apply) = [κ.apply F'])
    (hst : PhraseStyle.ofName? (dropHyphens (Text.lower (κ.apply F'))) = some st) :
    phraseText false (spokenValues (p ++ F' :: D)) =
      st.render (.list (spokenValues (D.map (written ∘ κ.apply)))) := by
  have hcased : ∀ e ∈ D.map κ.apply, Dictated e := by
    intro e he
    obtain ⟨d, hd, rfl⟩ := List.mem_map.1 he
    exact (hD d hd).cased κ
  rw [phraseText_cased D hκ hafter hst, separated_dictated hcased, List.map_map]

/-! ## Agreement -/

/-- The identifier commands of the editor, multiple-edit and character-wise
grammars, on an optional case word, a style word and dictated words: the
first two agree, fail only with an index error, and the third agrees with
them, except for a sentence of no words, which it types as nothing where they
fail. -/
theorem identifier_pipelines_agree {p : List String} {F F' : String} {D : List String}
    (hp : p ∈ casePrefixes) (hF : (F, F') ∈ stylePairs) (hD : ∀ d ∈ D, Dictated d) :
    let editor := WordsRule.editorIdentifier.action (spokenValues (p ++ F :: D))
    let phrase := WordsRule.phrase.action (spokenValues (p ++ F' :: D))
    WordsRule.sharedIdentifier.action (spokenValues (p ++ F :: D)) = editor ∧
    (∀ f, editor = .error f → f.kind = "IndexError") ∧
    if F = "sentence" ∧ D = [] then editor = .error .listIndex ∧ phrase = .ok (Action.text "")
    else phrase = editor := by
  obtain ⟨hκ, hκ', hafter, hafter', st, -, hst, hst', hsent⟩ := headers_agree p hp (F, F') hF
  -- both pipelines render the written forms of the words in the one case
  have hid := fun tbl => identifierText_header tbl D hκ hafter hst
  have hph := phraseText_header hD hκ' hafter' hst'
  intro editor phrase
  simp only [editor, phrase, WordsRule.action, hid, hph]
  generalize hW : D.map (written ∘ (WordCase.of (p.headD F)).apply) = W
  have hWnil : W = [] ↔ D = [] := by rw [← hW, List.map_eq_nil_iff]
  refine ⟨trivial, ?_, ?_⟩
  · intro f hf
    have hrender := st.render_spoken W
    cases h : st.render (.list (spokenValues W)) with
    | ok _ => rw [h] at hf; cases hf
    | error g =>
      rw [h] at hf hrender
      cases hf
      exact IdentifierStyle.fault?_kind hrender
  · by_cases hs : st = .sentence
    · subst hs
      rw [sentence_toPhrase_render]
      by_cases hD0 : D = []
      · rw [if_pos ⟨hsent.1 rfl, hD0⟩, if_pos (hWnil.2 hD0), hWnil.2 hD0]
        exact ⟨rfl, rfl⟩
      · rw [if_neg (fun h => hD0 h.2), if_neg (fun h => hD0 (hWnil.1 h))]
    · rw [IdentifierStyle.toPhrase_render hs, if_neg (fun h => hs (hsent.2 h.1))]

theorem upper_camel_pipelines_agree :
    (["upper"] ∈ casePrefixes ∧ ("camel", "camel") ∈ stylePairs ∧
      ∀ d ∈ ["my", "name"], Dictated d) ∧
    let editor := WordsRule.editorIdentifier.action (spokenValues (["upper"] ++ "camel" :: ["my", "name"]))
    let phrase := WordsRule.phrase.action (spokenValues (["upper"] ++ "camel" :: ["my", "name"]))
    WordsRule.sharedIdentifier.action (spokenValues (["upper"] ++ "camel" :: ["my", "name"])) = editor ∧
    (∀ f, editor = .error f → f.kind = "IndexError") ∧
    if "camel" = "sentence" ∧ ["my", "name"] = ([] : List String) then
      editor = .error .listIndex ∧ phrase = .ok (Action.text "")
    else phrase = editor :=
  have hp : ["upper"] ∈ casePrefixes := by decide +kernel
  have hF : ("camel", "camel") ∈ stylePairs := by decide +kernel
  have hD : ∀ d ∈ ["my", "name"], Dictated d := by decide +kernel
  ⟨⟨hp, hF, hD⟩, identifier_pipelines_agree hp hF hD⟩

end VoiceCommands.Formatting
