import VoiceCommands.Formatting.Spoken
import VoiceCommands.Proofs.Except

/-!
# Formatting spoken words

Spoken words are texts, and on texts every step of the formatters either gives
its result or fails for a word or a letter that is not there: a style fails
exactly with `IdentifierStyle.fault?`, an index error.  `identifierText_spoken`
and `phraseText_spoken` give the two pipelines in the words of the case
(`WordCase`), the written forms (`written`) and the clean-up (`separated`).
-/

namespace VoiceCommands.Formatting

open Text

/-! ## Operations on spoken words -/

@[simp] theorem spokenValues_nil : spokenValues [] = [] := rfl

@[simp] theorem spokenValues_cons (w : String) (ws : List String) :
    spokenValues (w :: ws) = .str w :: spokenValues ws := rfl

@[simp] theorem length_spokenValues (W : List String) : (spokenValues W).length = W.length :=
  List.length_map _

theorem mapM_zipIdx_spoken {f : Value × Nat → Except Fault String}
    (hf : ∀ s i, f (.str s, i) = .ok s) :
    ∀ (W : List String) (n : Nat), ((spokenValues W).zipIdx n).mapM f = .ok W
  | [], _ => rfl
  | w :: W, n => by
    rw [spokenValues_cons, List.zipIdx_cons, List.mapM_cons, hf, mapM_zipIdx_spoken hf W (n + 1)]
    rfl

theorem joinTexts_spoken (sep : String) (W : List String) :
    joinTexts sep (spokenValues W) = .ok (sep.intercalate W) := by
  unfold joinTexts
  rw [mapM_zipIdx_spoken (fun _ _ => rfl)]
  rfl

@[simp] theorem joinValues_spoken (sep : String) (W : List String) :
    joinValues sep (.list (spokenValues W)) = .ok (sep.intercalate W) :=
  joinTexts_spoken sep W

theorem mapM_spoken {β : Type} {f : Value → Except Fault β} {g : String → β}
    (hf : ∀ s, f (.str s) = .ok (g s)) :
    ∀ W : List String, (spokenValues W).mapM f = .ok (W.map g)
  | [] => rfl
  | w :: W => by
    rw [spokenValues_cons, List.mapM_cons, hf, mapM_spoken hf W]
    rfl

theorem mapM_textValues_spoken (name : String) (f : String → String) (W : List String) :
    (spokenValues W).mapM (fun v => Value.str <$> v.textMethod name f) =
      .ok (spokenValues (W.map f)) := by
  rw [mapM_spoken (g := Value.str ∘ f) (fun _ => rfl), ← List.map_map]
  rfl

theorem upperInitial_str (w : String) :
    upperInitial (.str w) = match w.toList with
      | [] => .error .stringIndex
      | c :: cs => .ok (upper c.toString ++ String.ofList cs) := by
  unfold upperInitial
  cases h : w.toList with
  | nil => simp [Value.item, h]
  | cons c cs => simp [Value.item, Value.dropFirst, h]; rfl

theorem mapM_upperInitial_spoken : ∀ W : List String,
    match (spokenValues W).mapM upperInitial with
    | .ok _ => "" ∉ W
    | .error f => "" ∈ W ∧ f = .stringIndex
  | [] => List.not_mem_nil
  | w :: W => by
    have ih := mapM_upperInitial_spoken W
    rw [spokenValues_cons, List.mapM_cons, upperInitial_str]
    cases hw : w.toList with
    | nil =>
      have : w = "" := String.toList_eq_nil_iff.1 hw
      simp [this]
    | cons c cs =>
      have hne : w ≠ "" := by rintro rfl; simp at hw
      revert ih
      cases (spokenValues W).mapM upperInitial with
      | ok _ => intro ih; simpa [hne] using ih
      | error f => intro ih; simpa [hne] using ih

/-! ## The styles on spoken words -/

theorem snakeCase_spoken (W : List String) :
    snakeCase (.list (spokenValues W)) = match W with
      | [] => .error .listIndex
      | w :: rest =>
        (· ++ (if rest = [] then "" else "_") ++ "_".intercalate rest) <$> upperInitial (.str w) := by
  cases W with
  | nil => rfl
  | cons w rest =>
    dsimp only
    rw [upperInitial_str]
    unfold snakeCase
    cases h : w.toList with
    | nil => simp [Value.item, h]
    | cons c cs =>
      simp [Value.item, Value.dropFirst, Value.length, Value.textMethod, h, addValue,
        length_spokenValues, List.length_pos_iff]

theorem camelCase_spoken (W : List String) :
    camelCase (.list (spokenValues W)) = match W with
      | [] => .error .listIndex
      | w :: rest => (w ++ String.join ·) <$> (spokenValues rest).mapM upperInitial := by
  cases W with
  | nil => rfl
  | cons w rest =>
    simp only [camelCase, spokenValues_cons, Value.item, List.getElem?_cons_zero, Except.ok_bind,
      Value.dropFirst, Value.elements, List.drop_one, List.tail_cons]
    cases (spokenValues rest).mapM upperInitial <;> rfl

theorem properCase_spoken (W : List String) :
    properCase (.list (spokenValues W)) = .ok (String.join (W.map capitalize)) := by
  simp only [properCase, Value.elements, Except.ok_bind]
  rw [mapM_spoken (g := capitalize) (fun _ => rfl)]
  rfl

theorem sentenceCase_spoken (W : List String) :
    sentenceCase (.list (spokenValues W)) = match W with
      | [] => .error .listIndex
      | w :: rest => .ok (" ".intercalate (capitalize w :: rest)) := by
  cases W with
  | nil => rfl
  | cons w rest =>
    simp [sentenceCase, Value.item, Value.dropFirst, Value.textMethod, listAddValue]
    rw [← spokenValues_cons, joinTexts_spoken]

/-- The fault a style meets on the words: snake case needs a first word with a
first letter, camel case a first word and a first letter in every other word,
a sentence a first word; the other styles never fail. -/
def IdentifierStyle.fault? : IdentifierStyle → List String → Option Fault
  | .snakeword, [] | .camel, [] | .sentence, [] => some .listIndex
  | .snakeword, w :: _ => if w = "" then some .stringIndex else none
  | .camel, _ :: rest => if "" ∈ rest then some .stringIndex else none
  | _, _ => none

theorem IdentifierStyle.fault?_kind {st : IdentifierStyle} {W : List String} {f : Fault}
    (h : st.fault? W = some f) : f.kind = "IndexError" := by
  unfold fault? at h
  split at h <;> (try split at h) <;> cases h <;> rfl

/-- A style renders spoken words unless it meets its fault, and then it fails
with that fault. -/
theorem IdentifierStyle.render_spoken (st : IdentifierStyle) (W : List String) :
    match st.render (.list (spokenValues W)) with
    | .ok _ => st.fault? W = none
    | .error f => st.fault? W = some f := by
  cases st with
  | snakeword =>
    rw [render, snakeCase_spoken]
    cases W with
    | nil => rfl
    | cons w rest =>
      dsimp only
      rw [upperInitial_str]
      cases h : w.toList with
      | nil => simp [fault?, String.toList_eq_nil_iff.1 h]
      | cons c cs =>
        have hne : w ≠ "" := by rintro rfl; simp at h
        simp [fault?, hne]
  | camel =>
    rw [render, camelCase_spoken]
    cases W with
    | nil => rfl
    | cons w rest =>
      -- the initials fail exactly at an empty word after the first
      dsimp only
      have h := mapM_upperInitial_spoken rest
      revert h
      cases (spokenValues rest).mapM upperInitial with
      | ok _ => simp [fault?]
      | error f =>
        simp only [Except.map_error]
        rintro ⟨hin, rfl⟩
        simp [fault?, hin]
  | proper => simp [render, properCase_spoken, fault?]
  | sentence =>
    rw [render, sentenceCase_spoken]
    cases W <;> rfl
  | _ => simp [render, fault?]

/-- The phrase style that renders words the way an identifier style does. -/
def IdentifierStyle.toPhrase : IdentifierStyle → PhraseStyle
  | .snakeword => .snakeway
  | .score => .score
  | .camel => .camel
  | .proper => .proper
  | .relpath => .relpath
  | .abspath => .abspath
  | .scoperesolve => .scoperesolve
  | .jumble => .jumble
  | .dotword => .dotway
  | .dashword => .spineway
  | .natword => .natway
  | .broodingnarrative => .broodingnarrative
  | .sentence => .sentence

theorem IdentifierStyle.toPhrase_render {st : IdentifierStyle} (h : st ≠ .sentence) (v : Value) :
    st.toPhrase.render v = st.render v := by
  cases st with
  | sentence => exact absurd rfl h
  | _ => rfl

theorem sentence_toPhrase_render (W : List String) :
    IdentifierStyle.sentence.toPhrase.render (.list (spokenValues W)) =
      if W = [] then .ok "" else IdentifierStyle.sentence.render (.list (spokenValues W)) := by
  cases W <;> rfl

/-! ## The pipelines -/

/-- The case the words of a spoken command take, chosen by its first word:
as spoken after `natural`, lowercased then uppercased after `upper`, and
lowercase otherwise. -/
inductive WordCase where
  | keep
  | lower
  | upper
  deriving DecidableEq, Repr

def WordCase.of (first : String) : WordCase :=
  if first = "natural" then .keep else if first = "upper" then .upper else .lower

def WordCase.apply : WordCase → String → String
  | .keep => id
  | .lower => Text.lower
  | .upper => Text.upper ∘ Text.lower

/-- The written form of a dictated word: the text before its first
backslash, without hyphens. -/
def written (s : String) : String := dropHyphens (beforeBackslash s)

def afterCaseWord : List String → List String
  | [] => []
  | w :: ws => if Text.lower w = "upper" ∨ Text.lower w = "natural" then ws else w :: ws

/-- The words of a phrase: punctuation words dropped, written forms split at
spaces, empty pieces dropped. -/
def separated (W : List String) : List String :=
  (((W.filter (!isSpokenPunctuation ·)).map written).flatMap splitOnSpace).filter (· ≠ "")

theorem applyCase_spoken (w : String) (ws : List String) :
    applyCase (spokenValues (w :: ws)) = .ok (spokenValues ((w :: ws).map (WordCase.of w).apply)) := by
  have hfirst : (Value.list (spokenValues (w :: ws))).item 0 = .ok (.str w) := rfl
  unfold applyCase
  rw [hfirst, Except.ok_bind]
  simp only [Value.isText, decide_eq_true_eq]
  by_cases hn : w = "natural"
  · simp [hn, WordCase.of, WordCase.apply]
  · rw [if_neg hn, mapM_textValues_spoken, Except.ok_bind]
    by_cases hu : w = "upper"
    · rw [if_pos hu, mapM_textValues_spoken, List.map_map]
      simp [WordCase.of, hu, WordCase.apply]
    · rw [if_neg hu]
      simp [WordCase.of, hn, hu, WordCase.apply]

theorem dropCaseWord_spoken {ws : List String} (h : ws ≠ []) :
    dropCaseWord (spokenValues ws) = .ok (spokenValues (afterCaseWord ws)) := by
  cases ws with
  | nil => exact absurd rfl h
  | cons w ws =>
    by_cases hc : Text.lower w = "upper" ∨ Text.lower w = "natural" <;>
      simp [dropCaseWord, Value.item, Value.textMethod, afterCaseWord, hc]

theorem separateWords_spoken (W : List String) :
    separateWords (.list (spokenValues W)) = .ok (separated W) := by
  simp only [separateWords, Value.elements, Except.ok_bind]
  rw [mapM_spoken (g := id)]
  · simp only [List.map_id_fun, id_eq, Except.ok_bind]
    rfl
  · intro s
    rfl

theorem identifierText_spoken (tbl : StyleTable) (w : String) (ws : List String) :
    identifierText tbl (spokenValues (w :: ws)) =
      match afterCaseWord ((w :: ws).map (written ∘ (WordCase.of w).apply)) with
      | [] => .error .listIndex
      | s :: rest =>
        match IdentifierStyle.ofName? (Text.lower s) with
        | some st => st.render (.list (spokenValues rest))
        | none => .error (tbl.missing (Text.lower s)) := by
  unfold identifierText
  rw [applyCase_spoken, Except.ok_bind, mapM_textValues_spoken, Except.ok_bind, List.map_map,
    dropCaseWord_spoken (by simp), Except.ok_bind,
    show (fun s => dropHyphens (beforeBackslash s)) = written from rfl]
  generalize afterCaseWord ((w :: ws).map (written ∘ (WordCase.of w).apply)) = xs
  cases xs with
  | nil => rfl
  | cons s rest =>
    have hfirst : (Value.list (spokenValues (s :: rest))).item 0 = .ok (.str s) := rfl
    have hrest : (spokenValues (s :: rest)).drop 1 = spokenValues rest := rfl
    rw [hfirst, Except.ok_bind, hrest]
    simp only [Value.textMethod, Except.ok_bind]
    cases IdentifierStyle.ofName? (Text.lower s) <;> rfl

theorem phraseText_spoken (w : String) (ws : List String) :
    phraseText false (spokenValues (w :: ws)) =
      match afterCaseWord ((w :: ws).map (WordCase.of w).apply) with
      | [] => .error .listIndex
      | s :: rest =>
        match PhraseStyle.ofName? (dropHyphens (Text.lower s)) with
        | some st => st.render (.list (spokenValues (separated rest)))
        | none => .error (.missingRuleFormatter (dropHyphens (Text.lower s))) := by
  unfold phraseText
  simp only [Bool.false_eq_true, ↓reduceIte, Except.pure_eq_ok_self, Except.ok_bind]
  rw [applyCase_spoken, Except.ok_bind, dropCaseWord_spoken (by simp), Except.ok_bind]
  generalize afterCaseWord ((w :: ws).map (WordCase.of w).apply) = xs
  cases xs with
  | nil => rfl
  | cons s rest =>
    have hfirst : (Value.list (spokenValues (s :: rest))).item 0 = .ok (.str s) := rfl
    have hrest : (spokenValues (s :: rest)).drop 1 = spokenValues rest := rfl
    rw [hfirst, Except.ok_bind, hrest, separateWords_spoken]
    simp only [Value.textMethod, Except.ok_bind]
    cases PhraseStyle.ofName? (dropHyphens (Text.lower s)) <;> rfl

end VoiceCommands.Formatting
