import VoiceCommands.Text.Words

/-!
# Loosely typed values

Settings read from configuration files, and some arguments handed to the
grammars, are loosely typed: the grammar code expects text or a number but
may be given anything.  `Value` is such a value; the grammars inspect it the
way their own code does.

* `Value.typeName`: the name of the value's type (`str`, `int`, `list`, …).
* `Value.truthy`: whether the value counts as true (non-zero, non-empty).
* `Value.repr`, `Value.show`: the value written out for a program reader and
  for a person; they differ only on text, which `repr` quotes.
* `floatText`: a float written the way it writes itself (`2.0`, `0.0001`,
  `1e-05`, `1.5e+16`).
-/

namespace VoiceCommands

open Text

/-- A loosely typed value. -/
inductive Value where
  /-- No value. -/
  | none
  | bool (b : Bool)
  | int (n : Int)
  /-- A number with a fractional part, kept as its written form. -/
  | float (written : String)
  | str (s : String)
  | list (items : List Value)
  /-- Named values, in the order they were given. -/
  | dict (entries : List (String × Value))
  deriving Repr, Inhabited

/-- The exponent of a float written in scientific notation: a sign and at
least two digits. -/
def exponentText (x : Int) : String :=
  let digits := toString x.natAbs
  (if x < 0 then "-" else "+") ++ (if digits.length < 2 then "0" ++ digits else digits)

/-- A float given by its sign, the digits of its significand read as a
whole number, and the power of ten they are scaled by, written the way a
float writes itself.  The digits are taken to be the shortest that read back
as the float, which is how floats are written when they are handed over; the
result is positional when the decimal exponent lies in `[-4, 16)` and
scientific otherwise, and always has a point or an exponent.  Past the range
of floats the value is infinite, and below it zero. -/
def floatText (negative : Bool) (significand : Nat) (exponent : Int) : String :=
  let sign := if negative then "-" else ""
  let all := (toString significand).toList
  let digits := (all.reverse.dropWhile (· = '0')).reverse
  if digits.isEmpty then sign ++ "0.0"
  else
    let n := digits.length
    let x : Int := (all.length : Int) - 1 + exponent
    if 308 < x then sign ++ "inf"
    else if x < -324 then sign ++ "0.0"
    else if -4 ≤ x ∧ x < 16 then
      if 0 ≤ x then
        let whole := x.toNat + 1
        let frac := digits.drop whole
        sign ++ String.ofList (digits.take whole ++ List.replicate (whole - n) '0') ++ "." ++
          (if frac.isEmpty then "0" else String.ofList frac)
      else
        sign ++ "0." ++ String.ofList (List.replicate ((-x).toNat - 1) '0' ++ digits)
    else
      let rest := digits.drop 1
      sign ++ String.ofList (digits.take 1) ++
        (if rest.isEmpty then "" else "." ++ String.ofList rest) ++ "e" ++ exponentText x

/-- The name of the type of a value. -/
def Value.typeName : Value → String
  | .none => "NoneType"
  | .bool _ => "bool"
  | .int _ => "int"
  | .float _ => "float"
  | .str _ => "str"
  | .list _ => "list"
  | .dict _ => "dict"

/-- Whether a value counts as true: false, zero, empty text and empty
collections do not. -/
def Value.truthy : Value → Bool
  | .none => false
  | .bool b => b
  | .int n => n ≠ 0
  | .float w => !(w.toList.all fun c => c = '0' ∨ c = '.' ∨ c = '-' ∨ c = 'e' ∨ c = 'E' ∨ c = '+')
  | .str s => !s.isEmpty
  | .list items => !items.isEmpty
  | .dict entries => !entries.isEmpty

mutual
/-- A value written as a program would read it back. -/
def Value.repr : Value → String
  | .none => "None"
  | .bool b => if b then "True" else "False"
  | .int n => toString n
  | .float w => w
  | .str s => quote s
  | .list items => "[" ++ Value.reprItems items ++ "]"
  | .dict entries => "\x7b" ++ Value.reprEntries entries ++ "\x7d"
/-- Values separated by commas. -/
def Value.reprItems : List Value → String
  | [] => ""
  | [v] => v.repr
  | v :: vs => v.repr ++ ", " ++ Value.reprItems vs
/-- Named values separated by commas. -/
def Value.reprEntries : List (String × Value) → String
  | [] => ""
  | [(k, v)] => quote k ++ ": " ++ v.repr
  | (k, v) :: es => quote k ++ ": " ++ v.repr ++ ", " ++ Value.reprEntries es
end

/-- A value written for a person: text as it is, anything else as `repr`
writes it. -/
def Value.show : Value → String
  | .str s => s
  | v => v.repr

end VoiceCommands
