import VoiceCommands.Proofs.Formatting.Agreement
import VoiceCommands.Charwise.Commands
import VoiceCommands.Proofs.Recognition.Conforms

/-!
# Phrase commands on spoken words

The dictated words of a phrase command are cleaned up before the style renders
them, so every word the style sees is a non-empty text, and the only way a
phrase fails is a style that needs a first word (`camel`, `snakeway`) given
none: `phrase_fails_iff_no_words`.
-/

namespace VoiceCommands.Formatting

open Text Recognition Charwise

/-! ## The style words -/

def phraseStyleWords : List String :=
  ["proper", "camel", "relpath", "abs-path", "score", "sentence", "spay-tince", "scope-resolve",
   "jumble", "dotway", "spineway", "natway", "spaceway", "spayway", "snakeway",
   "brooding-narrative", "title", "params"]

theorem phraseRule_element :
    phraseRule.element = .seq [.opt (.alt [.word "upper", .word "natural"]),
      .alt (phraseStyleWords.map .word), .opt dictation] :=
  Element.eq_of_beq _ _ (by decide +kernel)

def PhraseStyle.needsWord : PhraseStyle → Bool
  | .camel | .snakeway => true
  | _ => false

theorem phraseStyleWords_named : ∀ F ∈ phraseStyleWords,
    (PhraseStyle.ofName? (dropHyphens F)).map PhraseStyle.needsWord =
      some (decide (F = "camel" ∨ F = "snakeway")) := by
  decide

/-- What the case word `p` and the style word `F` leave: the style word
alone once the case word is dropped, naming in the case the style it names
as spoken. -/
def PhraseHeader (p : List String) (F : String) : Prop :=
  afterCaseWord ((p ++ [F]).map (WordCase.of (p.headD F)).apply) =
      [(WordCase.of (p.headD F)).apply F] ∧
    PhraseStyle.ofName? (dropHyphens (Text.lower ((WordCase.of (p.headD F)).apply F))) =
      PhraseStyle.ofName? (dropHyphens F)

instance (p : List String) (F : String) : Decidable (PhraseHeader p F) := by
  unfold PhraseHeader
  infer_instance

theorem phrase_headers : ∀ p ∈ casePrefixes, ∀ F ∈ phraseStyleWords, PhraseHeader p F := by
  decide +kernel

theorem phraseText_spokenStyle {p : List String} {F : String} {st : PhraseStyle}
    (hp : p ∈ casePrefixes) (hF : F ∈ phraseStyleWords)
    (hst : PhraseStyle.ofName? (dropHyphens F) = some st) (D : List String) :
    phraseText false (spokenValues (p ++ F :: D)) =
      st.render (.list (spokenValues (separated (D.map (WordCase.of (p.headD F)).apply)))) := by
  obtain ⟨hafter, hname⟩ := phrase_headers p hp F hF
  exact phraseText_cased D rfl hafter (hname.trans hst)

theorem phraseText_continued (W : List String) (w : String) :
    phraseText true (spokenValues (W ++ [w])) = phraseText false (spokenValues W) := by
  simp [phraseText, spokenValues]

/-! ## Styles on cleaned-up words -/

theorem titleWords_spoken : ∀ (i : Nat) (W : List String), ∃ ts, titleWords i (spokenValues W) = .ok ts
  | _, [] => ⟨[], rfl⟩
  | i, w :: W => by
    obtain ⟨ts, hts⟩ := titleWords_spoken (i + 1) W
    by_cases hkeep : i ≠ 0 ∧ w ∈ titleLowercase
    · exact ⟨w :: ts, by simp [titleWords, hkeep, hts]⟩
    · exact ⟨capitalize w :: ts, by simp [titleWords, hkeep, hts]⟩

/-- A style renders non-empty words unless it needs a first word and there is
none, and then it fails with an index error. -/
theorem PhraseStyle.render_separated (st : PhraseStyle) {W : List String} (hW : "" ∉ W) :
    if st.needsWord ∧ W = [] then st.render (.list (spokenValues W)) = .error .listIndex
    else ∃ s, st.render (.list (spokenValues W)) = .ok s := by
  cases st with
  | snakeway =>
    rw [render, snakeCase_spoken]
    cases W with
    | nil => rfl
    | cons w rest =>
      have hw : w ≠ "" := fun h => hW (h ▸ List.mem_cons_self)
      obtain ⟨c, cs, hcs⟩ := List.exists_cons_of_ne_nil (mt String.toList_eq_nil_iff.1 hw)
      simp [needsWord, upperInitial_str, hcs]
  | camel =>
    rw [render, camelCase_spoken]
    cases W with
    | nil => rfl
    | cons w rest =>
      -- every later word has a first letter
      dsimp only
      have hrest := mapM_upperInitial_spoken rest
      have hnot : "" ∉ rest := fun h => hW (List.mem_cons_of_mem w h)
      revert hrest
      cases (spokenValues rest).mapM upperInitial with
      | ok _ => simp [needsWord]
      | error _ => exact fun h => absurd h.1 hnot
  | spaceway => by_cases h0 : W = [] <;> simp [needsWord, render, spacedText, Value.length, h0]
  | sentence =>
    cases W with
    | nil => simp [needsWord, render, Value.length]
    | cons w rest =>
      rw [render, sentenceCase_spoken]
      simp [needsWord, Value.length]
  | spaytince =>
    cases W with
    | nil => simp [needsWord, render, Value.length]
    | cons w rest =>
      rw [render, sentenceCase_spoken]
      simp [needsWord, Value.length]
  | title =>
    obtain ⟨ts, hts⟩ := titleWords_spoken 0 W
    simp [needsWord, render, Value.elements, hts]
  | proper => simp [needsWord, render, properCase_spoken]
  | _ => simp [needsWord, render]

/-! ## Whether the clean-up leaves a word -/

theorem splitOn_eq_nil_pieces {m : Char} :
    ∀ cs : List Char, (∀ p ∈ cs.splitOn m, p = []) ↔ ∀ c ∈ cs, c = m
  | [] => by simp [List.splitOn_eq_splitOnP]
  | c :: cs => by
    rw [List.splitOn_eq_splitOnP, List.splitOnP_cons_eq_if_modifyHead, ← List.splitOn_eq_splitOnP]
    by_cases hc : c = m
    · simp [hc, splitOn_eq_nil_pieces cs]
    · -- the first piece starts with `c`
      obtain ⟨q, qs, hqs⟩ := List.exists_cons_of_ne_nil (List.splitOnP_ne_nil (· == m) cs)
      rw [← List.splitOn_eq_splitOnP] at hqs
      simp [hc, hqs]

theorem splitOnSpace_filter_eq_nil (s : String) :
    (splitOnSpace s).filter (· ≠ "") = [] ↔ ∀ c ∈ s.toList, c = ' ' := by
  rw [← splitOn_eq_nil_pieces, splitOnSpace, List.filter_eq_nil_iff]
  simp

theorem separated_cons (d : String) (W : List String) :
    separated (d :: W) =
      (if isSpokenPunctuation d then [] else (splitOnSpace (written d)).filter (· ≠ "")) ++
        separated W := by
  by_cases hd : isSpokenPunctuation d <;> simp [separated, hd, List.filter_append]

theorem separated_eq_nil_iff (W : List String) :
    separated W = [] ↔ ∀ d ∈ W, isSpokenPunctuation d = false → ∀ c ∈ (written d).toList, c = ' ' := by
  induction W with
  | nil => simp [separated]
  | cons d W ih =>
    rw [separated_cons, List.append_eq_nil_iff, ih, List.forall_mem_cons]
    by_cases hd : isSpokenPunctuation d
    · simp [hd]
    · rw [if_neg hd, splitOnSpace_filter_eq_nil]
      simp [hd]

theorem not_empty_mem_separated (W : List String) : "" ∉ separated W := by
  simp [separated]

theorem separated_map_eq_nil {f : String → String} (hf : ∀ d, Chunked d.toList (f d).toList)
    (W : List String) : separated (W.map f) = [] ↔ separated W = [] := by
  rw [separated_eq_nil_iff, separated_eq_nil_iff, List.forall_mem_map]
  refine forall₂_congr fun d _ => ?_
  rw [isSpokenPunctuation_chunked (hf d), (chunked_written (hf d)).all_eq_marker (by decide)]

theorem separated_cased_eq_nil (κ : WordCase) (W : List String) :
    separated (W.map κ.apply) = [] ↔ separated W = [] := by
  cases κ with
  | keep => simp [WordCase.apply]
  | lower => exact separated_map_eq_nil lower_chunked W
  | upper =>
    rw [WordCase.apply, ← List.map_map, separated_map_eq_nil upper_chunked,
      separated_map_eq_nil lower_chunked]

/-! ## When a phrase fails -/

/-- A phrase command on spoken words, or the same words continued, fails
exactly when its style word is `camel` or `snakeway` and the clean-up leaves
none of the dictated words, and then with an index error; otherwise it types
a text. -/
theorem phrase_fails_iff_no_words {p : List String} {F : String} (hp : p ∈ casePrefixes)
    (hF : F ∈ phraseStyleWords) (D : List String) :
    ∀ r ∈ [WordsRule.phrase.action (spokenValues (p ++ F :: D)),
        WordsRule.continuedPhrase.action (spokenValues (p ++ F :: D ++ [continuationWord]))],
      ((F = "camel" ∨ F = "snakeway") ∧ separateWords (.list (spokenValues D)) = .ok [] →
        r = .error .listIndex ∧ Fault.listIndex.kind = "IndexError") ∧
      (¬((F = "camel" ∨ F = "snakeway") ∧ separateWords (.list (spokenValues D)) = .ok []) →
        ∃ s, r = .ok (.text s)) := by
  obtain ⟨st, hst, hneeds⟩ := Option.map_eq_some_iff.1 (phraseStyleWords_named F hF)
  have hsame : st.needsWord = true ↔ F = "camel" ∨ F = "snakeway" := by
    rw [hneeds, decide_eq_true_iff]
  have hnil : separated (D.map (WordCase.of (p.headD F)).apply) = [] ↔
      separateWords (.list (spokenValues D)) = .ok [] := by
    rw [separateWords_spoken, separated_cased_eq_nil, Except.ok.injEq]
  have hrender := st.render_separated (not_empty_mem_separated (D.map (WordCase.of (p.headD F)).apply))
  rw [← phraseText_spokenStyle hp hF hst] at hrender
  -- the continued phrase is read as the phrase
  have hboth : ∀ r ∈ [WordsRule.phrase.action (spokenValues (p ++ F :: D)),
      WordsRule.continuedPhrase.action (spokenValues (p ++ F :: D ++ [continuationWord]))],
      r = Action.text <$> phraseText false (spokenValues (p ++ F :: D)) := by
    intro r hr
    simp only [List.mem_cons, List.not_mem_nil, or_false] at hr
    rcases hr with rfl | rfl <;> simp only [WordsRule.action, phraseText_continued]
  intro r hr
  rw [hboth r hr]
  constructor
  · rintro ⟨hstyle, hD⟩
    rw [if_pos ⟨hsame.2 hstyle, hnil.2 hD⟩] at hrender
    exact ⟨by rw [hrender]; rfl, rfl⟩
  · intro hnot
    rw [if_neg fun h => hnot ⟨hsame.1 h.1, hnil.1 h.2⟩] at hrender
    obtain ⟨s, hs⟩ := hrender
    exact ⟨s, by rw [hs]; rfl⟩

/-- `upper camel` with only a hyphen dictated fails, continued or not. -/
theorem upper_camel_hyphen_fails :
    ["upper"] ∈ casePrefixes ∧ "camel" ∈ phraseStyleWords ∧
    ∀ r ∈ [WordsRule.phrase.action (spokenValues (["upper"] ++ "camel" :: ["-"])),
        WordsRule.continuedPhrase.action
          (spokenValues (["upper"] ++ "camel" :: ["-"] ++ [continuationWord]))],
      (("camel" = "camel" ∨ "camel" = "snakeway") ∧
          separateWords (.list (spokenValues ["-"])) = .ok [] →
        r = .error .listIndex ∧ Fault.listIndex.kind = "IndexError") ∧
      (¬(("camel" = "camel" ∨ "camel" = "snakeway") ∧
          separateWords (.list (spokenValues ["-"])) = .ok []) →
        ∃ s, r = .ok (.text s)) :=
  ⟨by decide, by decide, phrase_fails_iff_no_words (by decide) (by decide) ["-"]⟩

example : phraseText false (spokenValues ["camel", "-", "\\x"]) = .error .listIndex := rfl

example : phraseText false (spokenValues ["upper", "camel", "my", "name"]) = .ok "MYNAME" := rfl

end VoiceCommands.Formatting
