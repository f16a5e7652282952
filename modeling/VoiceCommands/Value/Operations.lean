import VoiceCommands.Value
import VoiceCommands.Fault

/-!
# Operations on loosely typed values

The formatters of the grammars index, slice, measure, go through, join and
add the words they are given.  The words are normally a list of texts, but a
caller may hand over any value; these operations then behave the way the
grammar code does on such a value, failing with the `Fault` it raises.

* `Value.item`: the first or another element (`v[i]`): an item of a list, a
  letter of a text; a table is looked up by the number as a key, and so
  never has it.
* `Value.dropFirst`: all but the first element (`v[1:]`) of a list or text.
* `Value.length`: the number of elements of a list, text or table.
* `Value.elements`: the elements gone through in order: items, letters, or
  the keys of a table.
* `joinValues`: elements joined by a separator; each must be text.
* `Value.textMethod`: a text operation (`lower`, `capitalize`, …), which
  other values lack.
* `Value.holds`: whether a name is in a value (`name in v`).
* `Value.addText`, `addValue`, `listAddValue`: the additions
  `v + "text"`, `"text" + v` and `[…] + v`.
-/

namespace VoiceCommands

open Text

/-- Whether a value is the given text. -/
def Value.isText (v : Value) (s : String) : Bool :=
  match v with
  | .str t => t = s
  | _ => false

/-- The letters of a text, each as a text. -/
def letters (s : String) : List Value := s.toList.map fun c => .str c.toString

/-- The element at position `i`. -/
def Value.item (v : Value) (i : Nat) : Except Fault Value :=
  match v with
  | .list items => match items[i]? with
    | some x => .ok x
    | Option.none => .error .listIndex
  | .str s => match s.toList[i]? with
    | some c => .ok (.str c.toString)
    | Option.none => .error .stringIndex
  | .dict _ => .error (.missingKey (toString i))
  | v => .error (.notSubscriptable v.typeName)

/-- All but the first element, of the same kind. -/
def Value.dropFirst : Value → Except Fault Value
  | .list items => .ok (.list (items.drop 1))
  | .str s => .ok (.str (String.ofList (s.toList.drop 1)))
  | .dict _ => .error (.unhashable "slice")
  | v => .error (.notSubscriptable v.typeName)

/-- The number of elements. -/
def Value.length : Value → Except Fault Nat
  | .list items => .ok items.length
  | .str s => .ok s.length
  | .dict entries => .ok entries.length
  | v => .error (.noLength v.typeName)

/-- The elements, in order: the items of a list, the letters of a text, the
keys of a table. -/
def Value.elements : Value → Except Fault (List Value)
  | .list items => .ok items
  | .str s => .ok (letters s)
  | .dict entries => .ok (entries.map fun e => .str e.1)
  | v => .error (.notIterable v.typeName)

/-- Texts joined by a separator, failing at the first element (by position)
that is not text. -/
def joinTexts (sep : String) (vs : List Value) : Except Fault String := do
  let texts ← vs.zipIdx.mapM fun (v, i) =>
    match v with
    | .str s => .ok s
    | _ => .error (.joinItem i v.typeName)
  return sep.intercalate texts

/-- The elements of a value joined by a separator; a value with no elements
cannot be joined. -/
def joinValues (sep : String) (v : Value) : Except Fault String :=
  match v.elements with
  | .ok vs => joinTexts sep vs
  | .error _ => .error .notJoinable

/-- A text operation called `name`, applied to a text; other values lack it. -/
def Value.textMethod (name : String) (f : String → String) : Value → Except Fault String
  | .str s => .ok (f s)
  | v => .error (.missingAttribute v.typeName name)

/-- `v + text`: text is added to text; a list cannot take text, and other
values cannot be added to. -/
def Value.addText (v : Value) (s : String) : Except Fault String :=
  match v with
  | .str t => .ok (t ++ s)
  | .list _ => .error (.concatToList "str")
  | v => .error (.unsupportedAdd v.typeName "str")

/-- `text + v`: only text can be added to text. -/
def addValue (s : String) : Value → Except Fault String
  | .str t => .ok (s ++ t)
  | v => .error (.concatToStr v.typeName)

/-- Whether `pattern` occurs in `s` as a run of consecutive characters. -/
def occursIn (pattern : List Char) : List Char → Bool
  | [] => pattern.isEmpty
  | c :: cs => pattern.isPrefixOf (c :: cs) || occursIn pattern cs

/-- `name in v`: a text holds the name as a part of it, a list as one of its
items, a table as one of its keys; other values hold nothing and cannot be
asked. -/
def Value.holds (v : Value) (name : String) : Except Fault Bool :=
  match v with
  | .str s => .ok (occursIn name.toList s.toList)
  | .list items => .ok (items.any (·.isText name))
  | .dict entries => .ok (entries.any (·.1 = name))
  | v => .error (.notContainer v.typeName)

/-- `items + v`: only a list can be added to a list. -/
def listAddValue (items : List Value) : Value → Except Fault (List Value)
  | .list more => .ok (items ++ more)
  | v => .error (.concatToList v.typeName)

end VoiceCommands
