import VoiceCommands.Text.Words

/-!
# Interpolating specifications

The specification of an event may name values of the recognition, as in
`up:%(n)d` or `%(n)05d`.  Interpolation replaces each *conversion* of the
specification by the value it names, written the way the conversion asks:

    %(name)[flags][width][.precision][length]type

The flags are `-` (align left), `+` and a blank (sign of non-negative
numbers), `#` (alternate form: `0x`, `0o` prefixes, a point that stays) and
`0` (pad numbers with zeros).  The types are `s`, `r`, `a` (the value written
out), `c` (a character), `d`, `i`, `u` (decimal), `o`, `x`, `X` (octal and
hexadecimal) and `e`, `E`, `f`, `F`, `g`, `G` (numbers with a fraction or an
exponent).  `%%` is a percent sign.

* `Datum`, `Data`: the values a specification can name, and the dictionary
  that holds them (`Data.set` keeps the place of a name given again).
* `Conversion`, `readConversion`: one conversion and how it is read.
* `Conversion.render`: the text of one value under a conversion; the layout
  (`Conversion.layOut`) pads to the width, keeping a sign and a prefix in
  front of zero padding.
* `interpolate`: the specification with every conversion replaced, or nothing
  when a conversion is malformed, names a missing value or does not apply to
  its value.

Numbers of the data are integers; the fractional types write them exactly,
rounding half to even where digits are dropped.
-/

namespace VoiceCommands

open Text

/-- A value of the data dictionary that an action is run with. -/
inductive Datum where
  /-- A number, e.g. a spoken count. -/
  | int (n : Int)
  /-- Text, e.g. dictated words. -/
  | text (s : String)
  /-- An object that is written out the same way by `s` and `r`: a grammar,
  a rule, a list of actions. -/
  | object (shown : String)
  /-- Any other value; no conversion applies to it. -/
  | other
  deriving Repr, DecidableEq, Inhabited

/-- A data dictionary: names with their values, in the order the names were
first given. -/
abbrev Data := List (String × Datum)

/-- Looks a name up in a data dictionary. -/
def Data.lookup (d : Data) (name : String) : Option Datum :=
  (List.find? (fun p => p.1 = name) d).map (·.2)

/-- Gives a name a value: a name already present keeps its place and takes
the new value, a new name goes last. -/
def Data.set (d : Data) (name : String) (v : Datum) : Data :=
  if d.any (·.1 == name) then d.map fun (k, w) => if k == name then (k, v) else (k, w)
  else d ++ [(name, v)]

/-- Gives each name of `entries` its value, in order. -/
def Data.setAll (d : Data) (entries : Data) : Data :=
  entries.foldl (fun acc (k, v) => acc.set k v) d

/-- The flags of a conversion. -/
structure Flags where
  /-- `-`: align left, padding with blanks on the right. -/
  left : Bool
  /-- `+`: a plus sign before non-negative numbers. -/
  plus : Bool
  /-- A blank before non-negative numbers. -/
  blank : Bool
  /-- `#`: the alternate form. -/
  alternate : Bool
  /-- `0`: pad numbers with zeros. -/
  zero : Bool
  deriving Repr, DecidableEq, Inhabited

/-- Sets the flag a character stands for. -/
def Flags.set (f : Flags) : Char → Flags
  | '-' => { f with left := true }
  | '+' => { f with plus := true }
  | ' ' => { f with blank := true }
  | '#' => { f with alternate := true }
  | _ => { f with zero := true }

/-- One conversion of a specification. -/
structure Conversion where
  /-- The name of the value. -/
  key : String
  flags : Flags
  /-- The least width of the text (zero when none is given). -/
  width : Nat
  /-- The precision, when one is given. -/
  precision : Option Nat
  /-- The conversion type. -/
  type : Char
  deriving Repr, DecidableEq, Inhabited

/-! ## Reading a conversion -/

/-- The key of a conversion, read after its opening parenthesis up to the
parenthesis that closes it (parentheses inside nest), with the characters
after it. -/
def readKey : Nat → List Char → List Char → Option (List Char × List Char)
  | _, _, [] => none
  | depth, acc, c :: cs =>
    if c = ')' then
      if depth = 0 then some (acc.reverse, cs) else readKey (depth - 1) (c :: acc) cs
    else if c = '(' then readKey (depth + 1) (c :: acc) cs
    else readKey depth (c :: acc) cs

/-- The flags at the front of a conversion. -/
def readFlags : Flags → List Char → Flags × List Char
  | f, c :: cs => if c ∈ ['-', '+', ' ', '#', '0'] then readFlags (f.set c) cs else (f, c :: cs)
  | f, [] => (f, [])

/-- The number written by the digits at the front, with the characters
after them. -/
def readNumber (acc : Nat) : List Char → Nat × List Char
  | c :: cs => if c.isDigit then readNumber (acc * 10 + (c.toNat - 48)) cs else (acc, c :: cs)
  | [] => (acc, [])

/-- The precision of a conversion, after its point: digits, or none (zero). -/
def readPrecision : List Char → Option (Nat × List Char)
  | [] => none
  | '*' :: _ => none
  | c :: cs => if c.isDigit then some (readNumber 0 (c :: cs)) else some (0, c :: cs)

/-- Reads the rest of a conversion after its key: flags, width, precision,
an ignored length letter (`h`, `l`, `L`) and the type.  A width or precision
taken from the arguments (`*`) does not apply to named values. -/
def readConversion (key : String) (cs : List Char) : Option (Conversion × List Char) := do
  let none0 : Flags := ⟨false, false, false, false, false⟩
  let (flags, cs) := readFlags none0 cs
  if cs.head? = some '*' then failure
  let (width, cs) := readNumber 0 cs
  let (precision, cs) ← match cs with
    | '.' :: rest => (fun (p, r) => (some p, r)) <$> readPrecision rest
    | _ => some (none, cs)
  let cs := match cs with
    | c :: rest => if c ∈ ['h', 'l', 'L'] then rest else c :: rest
    | [] => []
  match cs with
  | type :: rest => some (⟨key, flags, width, precision, type⟩, rest)
  | [] => none

/-! ## Numbers -/

/-- The decimal digits of a natural number. -/
def decimalDigits (n : Nat) : List Char := (toString n).toList

/-- The number written by decimal digits. -/
def numeralValue (ds : List Char) : Nat := ds.foldl (fun acc c => acc * 10 + (c.toNat - 48)) 0

/-- Digits rounded to their first `keep` digits, half to even; the result has
exactly `keep` digits, and `true` when rounding carried into a new leading
digit (the digits are then `1` followed by zeros). -/
def roundDigits (ds : List Char) (keep : Nat) : List Char × Bool :=
  if ds.length ≤ keep then (ds ++ List.replicate (keep - ds.length) '0', false)
  else
    let kept := ds.take keep
    let dropped := ds.drop keep
    let up := match dropped with
      | d :: rest =>
        decide (d > '5') || (d == '5' && (rest.any (· != '0') ||
          (kept.getLast?.map fun k => (k.toNat - 48) % 2 == 1).getD false))
      | [] => false
    if !up then (kept, false)
    else
      let n := numeralValue kept + 1
      let s := decimalDigits n
      if s.length > keep then (s.take keep, true) else (List.replicate (keep - s.length) '0' ++ s, false)

/-- A fraction part: a point and the digits, or only a point in the
alternate form when there are no digits. -/
def fractionPart (alternate : Bool) (ds : List Char) : List Char :=
  if ds.isEmpty then (if alternate then ['.'] else []) else '.' :: ds

/-- An exponent: `e` (or `E`), a sign and at least two digits. -/
def exponentPart (upper : Bool) (x : Int) : List Char :=
  let ds := decimalDigits x.natAbs
  (if upper then 'E' else 'e') :: (if x < 0 then '-' else '+') ::
    (if ds.length < 2 then '0' :: ds else ds)

/-- The sign of a number. -/
def signPart (n : Int) : List Char := if n < 0 then ['-'] else []

/-- An integer in fixed notation with `p` digits after the point. -/
def fixedText (alternate : Bool) (p : Nat) (n : Int) : List Char :=
  signPart n ++ decimalDigits n.natAbs ++ fractionPart alternate (List.replicate p '0')

/-- The significant digits of a non-zero integer rounded to `keep` of them,
and the decimal exponent of the rounded value. -/
def significant (n : Nat) (keep : Nat) : List Char × Int :=
  let ds := decimalDigits n
  let (kept, carried) := roundDigits ds keep
  (kept, (ds.length : Int) - 1 + (if carried then 1 else 0))

/-- An integer in exponent notation with `p` digits after the point. -/
def scientificText (alternate upper : Bool) (p : Nat) (n : Int) : List Char :=
  if n = 0 then
    '0' :: fractionPart alternate (List.replicate p '0') ++ exponentPart upper 0
  else
    let (ds, x) := significant n.natAbs (p + 1)
    signPart n ++ ds.take 1 ++ fractionPart alternate (ds.drop 1) ++ exponentPart upper x

/-- Drops the trailing zeros of a fraction, and the point when nothing is left
after it. -/
def trimFraction (ds : List Char) : List Char :=
  if ds.contains '.' then
    let kept := (ds.reverse.dropWhile (· = '0')).reverse
    if kept.getLast? = some '.' then kept.dropLast else kept
  else ds

/-- An integer in general notation with `p` significant digits: fixed
notation when the exponent lies in `[-4, p)`, exponent notation otherwise,
trailing zeros dropped unless in the alternate form. -/
def generalText (alternate upper : Bool) (p : Nat) (n : Int) : List Char :=
  let p := if p = 0 then 1 else p
  let (ds, x) : List Char × Int := if n = 0 then (List.replicate p '0', 0) else significant n.natAbs p
  let trim := fun (cs : List Char) => if alternate then cs else trimFraction cs
  if -4 ≤ x ∧ x < p then
    let whole := x.toNat + 1
    let intDigits := ds.take whole ++ List.replicate (whole - ds.length) '0'
    signPart n ++ trim (intDigits ++ fractionPart alternate (ds.drop whole))
  else
    let mantissa := ds.take 1 ++ fractionPart alternate (ds.drop 1)
    signPart n ++ trim mantissa ++ exponentPart upper x

/-- An integer in a base up to sixteen: the sign, the prefix of the alternate
form, then at least `minDigits` digits. -/
def integerText (base : Nat) (upper alternate : Bool) (minDigits : Nat) (n : Int) : List Char :=
  let ds := (Nat.toDigits base n.natAbs).map fun c => if upper then c.toUpper else c
  let prefixPart : List Char :=
    if !alternate then []
    else if base = 16 then ['0', if upper then 'X' else 'x']
    else if base = 8 then ['0', 'o'] else []
  signPart n ++ prefixPart ++ List.replicate (minDigits - ds.length) '0' ++ ds

/-! ## Values -/

/-- A character escaped for `ascii`: non-ASCII characters as `\xNN`,
`\uNNNN` or `\UNNNNNNNN`. -/
def asciiChar (c : Char) : String :=
  if c.toNat < 0x80 then c.toString
  else if c.toNat < 0x100 then "\\x" ++ hex2 c.toNat
  else if c.toNat < 0x10000 then "\\u" ++ hex2 (c.toNat / 0x100) ++ hex2 c.toNat
  else "\\U" ++ hex2 (c.toNat / 0x1000000) ++ hex2 (c.toNat / 0x10000) ++
    hex2 (c.toNat / 0x100) ++ hex2 c.toNat

/-- A value written out as a person reads it (`s`). -/
def Datum.str? : Datum → Option String
  | .int n => some (toString n)
  | .text s => some s
  | .object shown => some shown
  | .other => none

/-- A value written out as a program reads it (`r`). -/
def Datum.repr? : Datum → Option String
  | .int n => some (toString n)
  | .text s => some (quote s)
  | .object shown => some shown
  | .other => none

/-- The dictionary written out: each name quoted, with its value as `r`
writes it; nothing when a value cannot be written. -/
def Data.repr? (d : Data) : Option String := do
  let items ← d.mapM fun (k, v) => (fun r => quote k ++ ": " ++ r) <$> v.repr?
  return "\x7b" ++ ", ".intercalate items ++ "\x7d"

/-- Whether the type of a conversion writes a number (and so takes a sign). -/
def numericType (c : Char) : Bool :=
  c ∈ ['d', 'i', 'u', 'o', 'x', 'X', 'e', 'E', 'f', 'F', 'g', 'G']

/-- The text of a value under a conversion type, before padding. -/
def Conversion.body (c : Conversion) : Datum → Option (List Char)
  | .int n =>
    let p := c.precision.getD 6
    let alt := c.flags.alternate
    match c.type with
    | 'd' | 'i' | 'u' => some (integerText 10 false false (c.precision.getD 0) n)
    | 'o' => some (integerText 8 false alt (c.precision.getD 0) n)
    | 'x' => some (integerText 16 false alt (c.precision.getD 0) n)
    | 'X' => some (integerText 16 true alt (c.precision.getD 0) n)
    | 'f' | 'F' => some (fixedText alt p n)
    | 'e' => some (scientificText alt false p n)
    | 'E' => some (scientificText alt true p n)
    | 'g' => some (generalText alt false p n)
    | 'G' => some (generalText alt true p n)
    | 'c' => if 0 ≤ n ∧ n < 0x110000 ∧ Nat.isValidChar n.toNat then some [Char.ofNat n.toNat] else none
    | 's' | 'r' | 'a' => some (toString n).toList
    | _ => none
  | v =>
    match c.type with
    | 's' => v.str?.map String.toList
    | 'r' => v.repr?.map String.toList
    | 'a' => v.repr?.map fun s => (String.join (s.toList.map asciiChar)).toList
    | 'c' => match v with
      | .text s => if s.length = 1 then some s.toList else none
      | _ => none
    | _ => none

/-- Pads the text of a conversion to its width.  Text types are first cut to
the precision.  For numbers, the sign (or the `+` or blank asked for) and the
`0x`/`0o` prefix stay in front, and zero padding goes after them. -/
def Conversion.layOut (c : Conversion) (body : List Char) : List Char :=
  let numeric := numericType c.type
  let body := if c.type ∈ ['s', 'r', 'a'] then
      match c.precision with
      | some p => body.take p
      | none => body
    else body
  let (sign, rest) : List Char × List Char :=
    if !numeric then ([], body)
    else match body with
      | '-' :: r => (['-'], r)
      | '+' :: r => (['+'], r)
      | _ => (if c.flags.plus then ['+'] else if c.flags.blank then [' '] else [], body)
  let (pre, digits) :=
    if c.flags.alternate ∧ c.type ∈ ['x', 'X', 'o'] then (rest.take 2, rest.drop 2) else ([], rest)
  let size := sign.length + pre.length + digits.length
  let padding := c.width - size
  if c.flags.left then sign ++ pre ++ digits ++ List.replicate padding ' '
  else if numeric ∧ c.flags.zero then sign ++ pre ++ List.replicate padding '0' ++ digits
  else List.replicate padding ' ' ++ sign ++ pre ++ digits

/-- The text of a value under a conversion, when the conversion applies. -/
def Conversion.render (c : Conversion) (v : Datum) : Option (List Char) :=
  c.layOut <$> c.body v

/-! ## Interpolation -/

/-- Interpolation of a specification, character by character: `%%` is a
percent sign, `%(name)…` a conversion of the value of `name`, and a
conversion without a name converts the whole dictionary.  Only the first
conversion may go without a name (`taken` says whether one came before):
after it, the argument is used up.  Each step takes at least one character,
so `fuel` one more than the length suffices. -/
def interpolateChars (data : Data) : Nat → Bool → List Char → Option (List Char)
  | 0, _, _ => none
  | _ + 1, _, [] => some []
  | fuel + 1, taken, '%' :: '%' :: rest => ('%' :: ·) <$> interpolateChars data fuel taken rest
  | fuel + 1, _, '%' :: '(' :: rest => do
    let (key, rest) ← readKey 0 [] rest
    let (c, rest) ← readConversion (String.ofList key) rest
    let v ← data.lookup c.key
    let text ← c.render v
    let more ← interpolateChars data fuel true rest
    return text ++ more
  | fuel + 1, taken, '%' :: rest => do
    if taken then failure
    let (c, rest) ← readConversion "" rest
    let whole ← data.repr?
    let text ← c.render (.object whole)
    let more ← interpolateChars data fuel true rest
    return text ++ more
  | fuel + 1, taken, c :: rest => (c :: ·) <$> interpolateChars data fuel taken rest

/-- Interpolates a specification with a data dictionary. -/
def interpolate (spec : String) (data : Data) : Option String :=
  String.ofList <$> interpolateChars data (spec.length + 1) false spec.toList

end VoiceCommands
