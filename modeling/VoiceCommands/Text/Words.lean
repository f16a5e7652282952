import VoiceCommands.Text.Case

/-!
# Words and quoting

Small string utilities shared by the grammars:

* `splitWords`: the words of an utterance, split on runs of white space.
* `strip`: removal of leading and trailing white space.
* `beforeBackslash`: the written form of a dictated word (`I\pronoun ↦ I`).
* `quote` and `showWords`: the quoted form of words used in messages, e.g.
  `['git', 'log']`.
-/

namespace VoiceCommands.Text

/-- Skipping past the first element that fails `p` shortens a list with a head. -/
theorem length_drop_dropWhile_lt {α : Type} (p : α → Bool) (c : α) (cs : List α) :
    ((cs.dropWhile p).drop 1).length < (c :: cs).length := by
  have := (List.dropWhile_suffix (l := cs) p).length_le
  simp only [List.length_drop, List.length_cons]
  omega

/-- Splits a string on runs of white space, dropping empty pieces. -/
def splitWords (s : String) : List String :=
  let rec go : List Char → List Char → List String
    | [], acc => if acc.isEmpty then [] else [String.ofList acc.reverse]
    | c :: cs, acc =>
      if isSpace c then
        if acc.isEmpty then go cs [] else String.ofList acc.reverse :: go cs []
      else go cs (c :: acc)
  go s.toList []

/-- Splits a text at every single space: `a  b` is `a`, an empty text and `b`. -/
def splitOnSpace (s : String) : List String :=
  (s.toList.splitOn ' ').map String.ofList

/-- Removes leading and trailing white space. -/
def strip (s : String) : String :=
  let cs := (s.toList.dropWhile isSpace).reverse.dropWhile isSpace
  String.ofList cs.reverse

/-- The text before the first backslash: a dictated word may carry its spoken
form after a backslash, as in `I\pronoun`. -/
def beforeBackslash (s : String) : String :=
  String.ofList (s.toList.takeWhile (· ≠ '\\'))

/-- Removes every hyphen. -/
def dropHyphens (s : String) : String :=
  String.ofList (s.toList.filter (· ≠ '-'))

/-- Two hexadecimal digits, lowercase. -/
def hex2 (n : Nat) : String :=
  let d (k : Nat) : Char := if k < 10 then Char.ofNat (48 + k) else Char.ofNat (87 + k)
  String.ofList [d (n / 16 % 16), d (n % 16)]

/-- The escape of one character inside a quoted string: printable characters
stand for themselves, others are written as `\xNN`, `\uNNNN` or `\UNNNNNNNN`. -/
def escapeChar (q : Char) (c : Char) : String :=
  if c = '\\' then "\\\\"
  else if c = q then "\\" ++ c.toString
  else if c = '\t' then "\\t"
  else if c = '\n' then "\\n"
  else if c = '\r' then "\\r"
  else if isPrintable c then c.toString
  else if c.toNat < 0x100 then "\\x" ++ hex2 c.toNat
  else if c.toNat < 0x10000 then "\\u" ++ hex2 (c.toNat / 0x100) ++ hex2 c.toNat
  else "\\U" ++ hex2 (c.toNat / 0x1000000) ++ hex2 (c.toNat / 0x10000) ++
    hex2 (c.toNat / 0x100) ++ hex2 c.toNat

/-- The quoted form of a string: single quotes, unless the string holds a
single quote and no double quote. -/
def quote (s : String) : String :=
  let single : Char := Char.ofNat 39
  let q : Char := if s.contains single ∧ !s.contains '"' then '"' else single
  q.toString ++ String.join (s.toList.map (escapeChar q)) ++ q.toString

/-- The quoted form of a list of words, e.g. `['git', 'log']`. -/
def showWords (ws : List String) : String :=
  "[" ++ ", ".intercalate (ws.map quote) ++ "]"

end VoiceCommands.Text
