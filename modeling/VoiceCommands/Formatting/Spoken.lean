import VoiceCommands.Formatting.Phrase
import VoiceCommands.Action.Basic

/-!
# Spoken formatting commands

A formatting command is spoken as an optional case word, a style name and the
dictated words: `upper score my name` types `MY_NAME`, `natural proper Hello`
keeps the case of the words.

* `applyCase`: lowercases every word unless the first is `natural`, and
  uppercases them if the first is `upper`.
* `identifierText`: the text of an identifier command of the editor grammars;
  `StyleTable` says where a style name is looked up, which decides the fault
  for an unknown name.
* `phraseText`: the text of a phrase command of the character-wise grammar,
  optionally ending in a continuation word that is dropped.
* `launcherText`: the words of an application launch command.

The words of a command are taken as loosely typed values, since a caller may
hand over other values than texts; each step fails on them the way it fails
in the grammar code.
-/

namespace VoiceCommands.Formatting

open Text

/-- Spoken words as values. -/
def spokenValues (ws : List String) : List Value := ws.map .str

/-- Applies the case word: lowercase unless the first word is `natural`,
uppercase if it is `upper`. -/
def applyCase (ws : List Value) : Except Fault (List Value) := do
  let first ← (Value.list ws).item 0
  let ws ← if first.isText "natural" then pure ws
    else ws.mapM fun w => Value.str <$> w.textMethod "lower" Text.lower
  if first.isText "upper" then ws.mapM fun w => Value.str <$> w.textMethod "upper" Text.upper
  else pure ws

/-- Drops a leading case word (compared without case). -/
def dropCaseWord (ws : List Value) : Except Fault (List Value) := do
  let first ← (Value.list ws).item 0
  let name ← first.textMethod "lower" Text.lower
  return if name = "upper" ∨ name = "natural" then ws.drop 1 else ws

/-- Where the style of an identifier command is looked up. -/
inductive StyleTable where
  /-- By key in the editor grammar's table of formatters. -/
  | editor
  /-- As an attribute of the shared formatting module. -/
  | shared
  deriving Repr, DecidableEq, Inhabited

/-- The fault for a style name that does not exist. -/
def StyleTable.missing : StyleTable → String → Fault
  | .editor, name => .unknownFormatter name
  | .shared, name => .missingModuleFormatter "aenea.format" name

/-- The identifier typed by a spoken identifier command. -/
def identifierText (table : StyleTable) (ws : List Value) : Except Fault String := do
  let ws ← applyCase ws
  let ws ← ws.mapM fun w => Value.str <$> w.textMethod "split" fun s => dropHyphens (beforeBackslash s)
  let ws ← dropCaseWord ws
  let styleWord ← (Value.list ws).item 0
  let name ← styleWord.textMethod "lower" Text.lower
  match IdentifierStyle.ofName? name with
  | some style => style.render (.list (ws.drop 1))
  | none => throw (table.missing name)

/-- The text typed by a spoken phrase command; with `continued`, the last word
is the continuation word and is dropped first. -/
def phraseText (continued : Bool) (ws : List Value) : Except Fault String := do
  let ws ← if continued then
      match ws.reverse with
      | _ :: rest => pure rest.reverse
      | [] => throw .popEmpty
    else pure ws
  let ws ← applyCase ws
  let ws ← dropCaseWord ws
  let styleWord ← (Value.list ws).item 0
  let name ← styleWord.textMethod "lower" Text.lower
  let nameText := dropHyphens name
  let words ← separateWords (.list (ws.drop 1))
  match PhraseStyle.ofName? nameText with
  | some style => style.render (.list (words.map .str))
  | none => throw (.missingRuleFormatter nameText)

/-- The name of the application in a launch command: the written forms of the
words after the command word, joined by spaces. -/
def launcherText (ws : List Value) : Except Fault String := do
  let written ← ws.mapM (·.textMethod "split" beforeBackslash)
  return " ".intercalate (written.drop 1)

/-- The formatters of the two grammars, looked up by name. -/
inductive FormatterSet where
  /-- The identifier formatters of the editor grammar. -/
  | editor
  /-- The phrase formatters of the character-wise grammar. -/
  | phrase
  deriving Repr, DecidableEq, Inhabited

/-- Formats words, given as a loosely typed value, with the formatter of a
given name. -/
def FormatterSet.format (set : FormatterSet) (name : String) (words : Value) :
    Except Fault String :=
  match set with
  | .editor => match IdentifierStyle.ofName? name with
    | some style => style.render words
    | none => throw (.missingModuleFormatter "_vim" name)
  | .phrase => match PhraseStyle.ofName? name with
    | some style => style.render words
    | none => throw (.missingRuleFormatter name)

/-- The rules whose value is computed from spoken words alone. -/
inductive WordsRule where
  /-- The identifier command of the editor grammar. -/
  | editorIdentifier
  /-- The identifier command of the multiple-edit grammar. -/
  | sharedIdentifier
  /-- The phrase command of the character-wise grammar. -/
  | phrase
  /-- The phrase command followed by the continuation word. -/
  | continuedPhrase
  /-- The application launch command. -/
  | launcher
  deriving Repr, DecidableEq, Inhabited

/-- Opens the application launcher. -/
def openLauncher : Action := .series [.key "w-space", .pause "10"]

/-- The action of a rule for the spoken words. -/
def WordsRule.action (r : WordsRule) (ws : List Value) : Except Fault Action :=
  match r with
  | .editorIdentifier => Action.text <$> identifierText .editor ws
  | .sharedIdentifier => Action.text <$> identifierText .shared ws
  | .phrase => Action.text <$> phraseText false ws
  | .continuedPhrase => Action.text <$> phraseText true ws
  | .launcher => do
    let name ← launcherText ws
    return openLauncher ++ Action.text name ++ Action.key "enter"

end VoiceCommands.Formatting
