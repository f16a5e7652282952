import VoiceCommands.Recognition.Element
import VoiceCommands.Action.Basic

/-!
# Spoken numbers

Two kinds of numbers are spoken to the grammars:

* English numbers (`integerElement`): `one` … `nine`, `ten` … `nineteen` and
  `twenty` … `ninety` optionally followed by a unit, restricted to a range.
  The value of a spoken number is the sum of the values of its words.
* Digit strings (`digitsElement`): a bounded run of digit words read as one
  number, so `four two` is 42 and `zero seven` is 7.

`Tree.datum` reads the value of a named part of a recognition for the data
dictionary of an action.
-/

namespace VoiceCommands.Recognition

/-- Units. -/
def unitWords : List (String × Nat) :=
  [("one", 1), ("two", 2), ("three", 3), ("four", 4), ("five", 5), ("six", 6),
   ("seven", 7), ("eight", 8), ("nine", 9)]

/-- Ten to nineteen. -/
def teenWords : List (String × Nat) :=
  [("ten", 10), ("eleven", 11), ("twelve", 12), ("thirteen", 13), ("fourteen", 14),
   ("fifteen", 15), ("sixteen", 16), ("seventeen", 17), ("eighteen", 18), ("nineteen", 19)]

/-- The tens from twenty to ninety. -/
def tensWords : List (String × Nat) :=
  [("twenty", 20), ("thirty", 30), ("forty", 40), ("fifty", 50), ("sixty", 60),
   ("seventy", 70), ("eighty", 80), ("ninety", 90)]

/-- The digit words with their digits. -/
def digitWords : List (String × Char) :=
  [("zero", '0'), ("one", '1'), ("two", '2'), ("three", '3'), ("four", '4'),
   ("five", '5'), ("six", '6'), ("seven", '7'), ("eight", '8'), ("nine", '9')]

/-- The value of a number word. -/
def numberWordValue (w : String) : Nat :=
  match (unitWords ++ teenWords ++ tensWords).find? (·.1 = w) with
  | some (_, v) => v
  | none => 0

/-- A choice between words. -/
def wordChoice (ws : List String) : Element := .alt (ws.map .word)

/-- English numbers from `least` up to, not including, `bound`: zero, the
units, the teens, then the tens with an optional unit. -/
def integerElement (least bound : Nat) : Element :=
  let inRange (v : Nat) : Bool := least ≤ v ∧ v < bound
  let zero := if inRange 0 then [wordChoice ["zero"]] else []
  let units := (unitWords.filter (inRange ·.2)).map (·.1)
  let teens := (teenWords.filter (inRange ·.2)).map (·.1)
  let tens := tensWords.filterMap fun (w, t) =>
    let rest := (unitWords.filter (inRange <| t + ·.2)).map (·.1)
    if inRange t then
      some (if rest.isEmpty then .word w else .seq [.word w, .opt (wordChoice rest)])
    else if rest.isEmpty then none
    else some (.seq [.word w, wordChoice rest])
  .alt (zero ++ (if units.isEmpty then [] else [wordChoice units]) ++
    (if teens.isEmpty then [] else [wordChoice teens]) ++
    (if tens.isEmpty then [] else [.alt tens]))

/-- A run of digit words: `least` of them, then up to `most - least - 1` more
(no more when `most` is absent). -/
def digitsElement (least : Nat) (most : Option Nat) : Element :=
  let extra := match most with
    | some m => m - least - 1
    | none => 0
  .rep (wordChoice (digitWords.map (·.1))) least extra

/-- The value of spoken English number words. -/
def integerValue (ws : List String) : Nat :=
  ws.foldr (fun w n => numberWordValue w + n) 0

/-- The digits of spoken digit words. -/
def digitsText (ws : List String) : String :=
  String.ofList (ws.filterMap fun w => (digitWords.find? (·.1 = w)).map (·.2))

/-- The value of spoken digit words. -/
def digitsValue (ws : List String) : Nat :=
  (digitsText ws).foldl (fun n c => 10 * n + (c.toNat - '0'.toNat)) 0

/-- The value of a named part for the data dictionary of an action. -/
def Tree.datum : Tree → Datum
  | .named _ .integer t => .int (integerValue t.words)
  | .named _ .digits t => .int (digitsValue t.words)
  | .named _ .dictation t => .text (" ".intercalate t.words)
  | _ => .other

end VoiceCommands.Recognition
