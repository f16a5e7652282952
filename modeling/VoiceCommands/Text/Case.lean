import VoiceCommands.Text.CaseData

/-!
# Unicode case mappings

The formatters of the voice grammars change the case of whole words and of
single characters.  They follow the *full* Unicode mappings, in which one
character may become several (`ß` uppercases to `SS`, `ﬁ` titlecases to `Fi`,
`İ` lowercases to `i̇`).

* `lowerChar`, `upperChar`, `titleChar`: the full mappings of one character.
* `lower`, `upper`: the mappings applied to every character of a string;
  lowercasing also gives a capital sigma that ends a word its final form
  (`ΣΑΣ` lowercases to `σας`, see `endsWord`).
* `capitalize`: titlecase of the first character, lowercase of the rest.
* `isSpace`, `isPrintable`: the character classes used when splitting and
  quoting words.

ASCII characters never consult the tables, so evaluation on ASCII text stays
small.
-/

namespace VoiceCommands.Text

/-- The value of one hexadecimal digit (other characters count as zero). -/
def hexValue (c : Char) : Nat :=
  if '0' ≤ c ∧ c ≤ '9' then c.toNat - '0'.toNat
  else if 'a' ≤ c ∧ c ≤ 'f' then c.toNat - 'a'.toNat + 10
  else if 'A' ≤ c ∧ c ≤ 'F' then c.toNat - 'A'.toNat + 10
  else 0

/-- The number written by a string of hexadecimal digits. -/
def parseHex (s : String) : Nat :=
  s.foldl (fun acc c => acc * 16 + hexValue c) 0

/-- The entries of a table: the text between `;` separators, empty ones dropped. -/
def tableEntries (table : String) : List String :=
  (table.splitOn ";").filter (· ≠ "")

/-- A multi table with its code points read as characters. -/
def multiTable (entries : List (Nat × List Nat)) : Array (Nat × List Char) :=
  (entries.map fun (c, cs) => (c, cs.map Char.ofNat)).toArray

/-- Decodes a range table of `first,last` entries. -/
def decodeRanges (table : String) : Array (Nat × Nat) :=
  ((tableEntries table).filterMap fun entry =>
    match entry.splitOn "," with
    | [a, b] => some (parseHex a, parseHex b)
    | _ => none).toArray

/-- The lowercase runs. -/
def lowerRunTable : Array CaseRun := CaseData.lowerRuns.toArray

/-- The lowercase mappings to several characters. -/
def lowerMultiTable : Array (Nat × List Char) := multiTable CaseData.lowerMulti

/-- The uppercase runs. -/
def upperRunTable : Array CaseRun := CaseData.upperRuns.toArray

/-- The uppercase mappings to several characters. -/
def upperMultiTable : Array (Nat × List Char) := multiTable CaseData.upperMulti

/-- Titlecase mappings that differ from the uppercase ones. -/
def titleExceptionTable : Array (Nat × List Char) := multiTable CaseData.titleExceptions

/-- Ranges of unprintable characters. -/
def unprintableTable : Array (Nat × Nat) := decodeRanges CaseData.unprintableRanges

/-- The white space code points. -/
def spaceTable : Array Nat := (tableEntries CaseData.spaceCodes).toArray.map parseHex

/-- The image of code point `n` under a run, if the run covers it. -/
def CaseRun.apply (r : CaseRun) (n : Nat) : Option Char :=
  if r.start ≤ n ∧ n < r.start + r.count * r.stride ∧ (n - r.start) % r.stride = 0 then
    some (Char.ofNat (Int.toNat (n + r.delta)))
  else none

/-- Looks a code point up in a run table and a multi table. -/
def lookupCase (runs : Array CaseRun) (multi : Array (Nat × List Char)) (c : Char) :
    List Char :=
  match multi.find? (·.1 = c.toNat) with
  | some (_, cs) => cs
  | none =>
    match runs.findSome? (·.apply c.toNat) with
    | some d => [d]
    | none => [c]

/-- The full lowercase mapping of one character. -/
def lowerChar (c : Char) : List Char :=
  if c.toNat < 128 then [c.toLower] else lookupCase lowerRunTable lowerMultiTable c

/-- The full uppercase mapping of one character. -/
def upperChar (c : Char) : List Char :=
  if c.toNat < 128 then [c.toUpper] else lookupCase upperRunTable upperMultiTable c

/-- The full titlecase mapping of one character: the uppercase mapping except
for digraphs, ligatures and the characters whose titlecase keeps a small
letter (`ǆ ↦ ǅ`, `ß ↦ Ss`). -/
def titleChar (c : Char) : List Char :=
  if c.toNat < 128 then [c.toUpper]
  else
    match titleExceptionTable.find? (·.1 = c.toNat) with
    | some (_, cs) => cs
    | none => upperChar c

/-- The ranges of characters that have a case. -/
def casedTable : Array (Nat × Nat) := decodeRanges CaseData.casedRanges

/-- The ranges of case-ignorable characters. -/
def caseIgnorableTable : Array (Nat × Nat) := decodeRanges CaseData.caseIgnorableRanges

/-- Whether a character lies in one of the ranges of a table. -/
def inRanges (table : Array (Nat × Nat)) (c : Char) : Bool :=
  table.any fun (a, b) => a ≤ c.toNat ∧ c.toNat ≤ b

/-- Whether a character has a case: it is a lowercase, uppercase or titlecase
letter. -/
def isCased (c : Char) : Bool := inRanges casedTable c

/-- Whether a character is skipped when looking for the letters around a
capital sigma. -/
def isCaseIgnorable (c : Char) : Bool := inRanges caseIgnorableTable c

/-- Whether a capital sigma ends a word, given the characters before it
(nearest first) and after it: skipping case-ignorable characters, a cased
letter comes before it and none comes after it. -/
def endsWord (before after : List Char) : Bool :=
  (match before.find? (fun c => !isCaseIgnorable c) with
   | some c => isCased c
   | none => false) &&
  (match after.find? (fun c => !isCaseIgnorable c) with
   | some c => !isCased c
   | none => true)

/-- The capital sigma. -/
def capitalSigma : Char := Char.ofNat 0x3A3

/-- Lowercases the characters `cs` that follow `before` (nearest first): a
capital sigma that ends a word becomes the final sigma `ς`, any other the
sigma `σ`, and every other character takes its full lowercase mapping. -/
def lowerAfter (before : List Char) : List Char → List Char
  | [] => []
  | c :: cs =>
    (if c = capitalSigma then [Char.ofNat (if endsWord before cs then 0x3C2 else 0x3C3)]
     else lowerChar c) ++ lowerAfter (c :: before) cs

/-- Lowercases a string. -/
def lower (s : String) : String :=
  String.ofList (lowerAfter [] s.toList)

/-- Uppercases every character of a string. -/
def upper (s : String) : String :=
  String.ofList (s.toList.flatMap upperChar)

/-- Titlecases the first character and lowercases the others. -/
def capitalize (s : String) : String :=
  match s.toList with
  | [] => ""
  | c :: cs => String.ofList (titleChar c ++ lowerAfter [c] cs)

/-- White space in the Unicode sense used for splitting words. -/
def isSpace (c : Char) : Bool :=
  if c.toNat < 128 then c = ' ' ∨ (9 ≤ c.toNat ∧ c.toNat ≤ 13) ∨ (28 ≤ c.toNat ∧ c.toNat ≤ 31)
  else spaceTable.contains c.toNat

/-- Printable characters: everything except controls, format characters,
separators other than the plain space, and unassigned code points. -/
def isPrintable (c : Char) : Bool :=
  if c.toNat < 128 then 32 ≤ c.toNat ∧ c.toNat < 127
  else !(unprintableTable.any fun (a, b) => a ≤ c.toNat ∧ c.toNat ≤ b)

end VoiceCommands.Text
