import VoiceCommands.Formatting.Identifier

/-!
# Phrase styles

The character-wise grammar formats dictated words with its own styles.  Most
match the identifier styles (`VoiceCommands.Formatting.Identifier`) under other
names (`dotway` is `dotword`); the new ones are `params`, `spaceway`, `title`
and `spaytince`, and the sentence styles accept an empty list.

* `PhraseStyle`, `PhraseStyle.ofName?`: the styles and their names (`spayway`
  is another name of `spaceway`).
* `PhraseStyle.render`: the text of the words in a style.
* `separateWords`: the clean-up applied to dictated words before formatting.
-/

namespace VoiceCommands.Formatting

open Text

/-- A phrase style of the character-wise grammar. -/
inductive PhraseStyle where
  | snakeway
  | score
  /-- Words joined by `, `. -/
  | params
  | camel
  | proper
  | relpath
  | abspath
  | scoperesolve
  | jumble
  | dotway
  | spineway
  | natway
  /-- Words joined by spaces, with a trailing space (nothing for no words). -/
  | spaceway
  | broodingnarrative
  /-- A sentence, or nothing for no words. -/
  | sentence
  /-- A sentence with a trailing space, or nothing for no words. -/
  | spaytince
  /-- Every word capitalized except short linking words after the first. -/
  | title
  deriving Repr, DecidableEq, Inhabited

/-- Every phrase style with its names. -/
def PhraseStyle.all : List (String × PhraseStyle) :=
  [("snakeway", .snakeway), ("score", .score), ("params", .params), ("camel", .camel),
   ("proper", .proper), ("relpath", .relpath), ("abspath", .abspath),
   ("scoperesolve", .scoperesolve), ("jumble", .jumble), ("dotway", .dotway),
   ("spineway", .spineway), ("natway", .natway), ("spaceway", .spaceway),
   ("spayway", .spaceway), ("broodingnarrative", .broodingnarrative),
   ("sentence", .sentence), ("spaytince", .spaytince), ("title", .title)]

/-- The style of a name. -/
def PhraseStyle.ofName? (name : String) : Option PhraseStyle :=
  (PhraseStyle.all.find? (·.1 = name)).map (·.2)

/-- Words a title keeps in lowercase after its first word. -/
def titleLowercase : List String :=
  ["a", "an", "the", "at", "by", "for", "in", "of", "on", "to", "up", "and", "as", "but",
   "or", "nor"]

/-- The words of a title: the first and every word that is not a linking word
capitalized (a word that is not text is never a linking word). -/
def titleWords : Nat → List Value → Except Fault (List String)
  | _, [] => .ok []
  | i, w :: ws => do
    let q ← match w with
      | .str s => if i ≠ 0 ∧ titleLowercase.contains s then pure s else pure (Text.capitalize s)
      | v => v.textMethod "capitalize" Text.capitalize
    let rest ← titleWords (i + 1) ws
    return q :: rest

/-- Joins the words with spaces and adds a trailing space, or gives nothing
for no words. -/
def spacedText (v : Value) : Except Fault String := do
  let n ← v.length
  if n = 0 then pure "" else (· ++ " ") <$> joinValues " " v

/-- The text of the words in a style. -/
def PhraseStyle.render : PhraseStyle → Value → Except Fault String
  | .snakeway, v => snakeCase v
  | .score, v => joinValues "_" v
  | .params, v => joinValues ", " v
  | .camel, v => camelCase v
  | .proper, v => properCase v
  | .relpath, v => joinValues "/" v
  | .abspath, v => ("/" ++ ·) <$> joinValues "/" v
  | .scoperesolve, v => joinValues "::" v
  | .jumble, v => joinValues "" v
  | .dotway, v => joinValues "." v
  | .spineway, v => joinValues "-" v
  | .natway, v => joinValues " " v
  | .spaceway, v => spacedText v
  | .broodingnarrative, _ => .ok ""
  | .sentence, v => do
    let n ← v.length
    if n = 0 then pure "" else sentenceCase v
  | .spaytince, v => do
    let n ← v.length
    if n = 0 then pure "" else (· ++ " ") <$> sentenceCase v
  | .title, v => do
    let ws ← v.elements
    let ts ← titleWords 0 ws
    return " ".intercalate ts

/-- Whether a dictated word is punctuation spoken on its own: it starts with a
comma or a dash character (U+0096, U+0097). -/
def isSpokenPunctuation (s : String) : Bool :=
  match s.toList with
  | c :: _ => c = ',' ∨ c.toNat = 0x96 ∨ c.toNat = 0x97
  | [] => false

/-- The clean-up of dictated words: punctuation words are dropped, each word
keeps its written form without hyphens, words holding spaces are split, and
empty words are dropped.  Every word must be text. -/
def separateWords (words : Value) : Except Fault (List String) := do
  let ws ← words.elements
  let texts ← ws.mapM fun w => match w with
    | .str s => pure s
    | v => throw (.notText v.typeName)
  let kept := texts.filter fun s => !isSpokenPunctuation s
  let written := kept.map fun s => dropHyphens (beforeBackslash s)
  return (written.flatMap splitOnSpace).filter (· ≠ "")

end VoiceCommands.Formatting
