import VoiceCommands.Value.Operations

/-!
# Identifier styles

Dictated words become identifiers in a chosen style: `camel` gives
`myVariableName`, `score` gives `my_variable_name`, and so on.  These are the
styles of the editor grammars; `VoiceCommands.Formatting.Phrase` has the
styles of the character-wise grammar.

* `IdentifierStyle`: the styles, with `IdentifierStyle.ofName?` reading the
  spoken name of a style (`rel-path` is spoken, `relpath` is the name).
* `IdentifierStyle.render`: the identifier of the words.  The words are
  normally a list of texts, but they are taken as a loosely typed value
  (`VoiceCommands.Value.Operations`): styles that look at the first word or
  letter fail on an empty list or an empty word, and any style fails the way
  its steps do on values that are not texts.
-/

namespace VoiceCommands.Formatting

open Text

/-- An identifier style. -/
inductive IdentifierStyle where
  /-- First letter uppercased, words joined by `_`: `My_variable`. -/
  | snakeword
  /-- Words joined by `_`. -/
  | score
  /-- First word as is, the others with an uppercase first letter. -/
  | camel
  /-- Every word capitalized, joined without separator. -/
  | proper
  /-- Words joined by `/`. -/
  | relpath
  /-- Words joined by `/` after a leading `/`. -/
  | abspath
  /-- Words joined by `::`. -/
  | scoperesolve
  /-- Words joined without separator. -/
  | jumble
  /-- Words joined by `.`. -/
  | dotword
  /-- Words joined by `-`. -/
  | dashword
  /-- Words joined by spaces. -/
  | natword
  /-- Nothing at all. -/
  | broodingnarrative
  /-- First word capitalized, words joined by spaces. -/
  | sentence
  deriving Repr, DecidableEq, Inhabited

/-- Every identifier style with its name. -/
def IdentifierStyle.all : List (String × IdentifierStyle) :=
  [("snakeword", .snakeword), ("score", .score), ("camel", .camel), ("proper", .proper),
   ("relpath", .relpath), ("abspath", .abspath), ("scoperesolve", .scoperesolve),
   ("jumble", .jumble), ("dotword", .dotword), ("dashword", .dashword),
   ("natword", .natword), ("broodingnarrative", .broodingnarrative), ("sentence", .sentence)]

/-- The style of a name. -/
def IdentifierStyle.ofName? (name : String) : Option IdentifierStyle :=
  (IdentifierStyle.all.find? (·.1 = name)).map (·.2)

/-- A word with an uppercase first letter: its first letter uppercased,
then the rest of the word added. -/
def upperInitial (w : Value) : Except Fault String := do
  let h ← w.item 0
  let u ← h.textMethod "upper" Text.upper
  let t ← w.dropFirst
  addValue u t

/-- The first word, with every other word added after it with an uppercase
first letter. -/
def camelCase (text : Value) : Except Fault String := do
  let first ← text.item 0
  let rest ← text.dropFirst
  let ws ← rest.elements
  let inits ← ws.mapM upperInitial
  first.addText (String.join inits)

/-- The first word with an uppercase first letter, then `_` when there are
other words, and the other words joined by `_`. -/
def snakeCase (text : Value) : Except Fault String := do
  let first ← text.item 0
  let h ← first.item 0
  let initial ← h.textMethod "upper" Text.upper
  let t ← first.dropFirst
  let formatted ← addValue initial t
  let n ← text.length
  let rest ← text.dropFirst
  let joined ← joinValues "_" rest
  return formatted ++ (if n > 1 then "_" else "") ++ joined

/-- Every word capitalized and joined without separator. -/
def properCase (text : Value) : Except Fault String := do
  let ws ← text.elements
  let caps ← ws.mapM (·.textMethod "capitalize" Text.capitalize)
  return String.join caps

/-- The first word capitalized, put in a list with the other words, all
joined by spaces. -/
def sentenceCase (text : Value) : Except Fault String := do
  let first ← text.item 0
  let cap ← first.textMethod "capitalize" Text.capitalize
  let rest ← text.dropFirst
  let items ← listAddValue [.str cap] rest
  joinTexts " " items

/-- The identifier of the words in a style. -/
def IdentifierStyle.render : IdentifierStyle → Value → Except Fault String
  | .snakeword, v => snakeCase v
  | .score, v => joinValues "_" v
  | .camel, v => camelCase v
  | .proper, v => properCase v
  | .relpath, v => joinValues "/" v
  | .abspath, v => ("/" ++ ·) <$> joinValues "/" v
  | .scoperesolve, v => joinValues "::" v
  | .jumble, v => joinValues "" v
  | .dotword, v => joinValues "." v
  | .dashword, v => joinValues "-" v
  | .natword, v => joinValues " " v
  | .broodingnarrative, _ => .ok ""
  | .sentence, v => sentenceCase v

end VoiceCommands.Formatting
