/-!
# Decimal digits of every script

Numbers may be written with the decimal digits of any script: `٣` (Arabic-Indic
three), `１` (fullwidth one) and `𝟓` (mathematical bold five) are digits as much
as `3`, `1` and `5`.  Following the Unicode Character Database (version 14.0),
the characters with a decimal digit value come in blocks of ten consecutive
code points, zero to nine.

* `digitBlocks`: the first code point (the zero) of each block.
* `decimalValue?`: the value of a decimal digit of any script.
* `asciiDigits?`: text with every decimal digit written as an ASCII digit,
  when it holds no other character outside ASCII.
-/

namespace VoiceCommands.Text

/-- The zeros of the blocks of ten decimal digits, in code point order. -/
def digitBlocks : List Nat :=
  [0x30, 0x660, 0x6F0, 0x7C0, 0x966, 0x9E6, 0xA66, 0xAE6, 0xB66, 0xBE6, 0xC66, 0xCE6, 0xD66,
   0xDE6, 0xE50, 0xED0, 0xF20, 0x1040, 0x1090, 0x17E0, 0x1810, 0x1946, 0x19D0, 0x1A80,
   0x1A90, 0x1B50, 0x1BB0, 0x1C40, 0x1C50, 0xA620, 0xA8D0, 0xA900, 0xA9D0, 0xA9F0, 0xAA50,
   0xABF0, 0xFF10, 0x104A0, 0x10D30, 0x11066, 0x110F0, 0x11136, 0x111D0, 0x112F0, 0x11450,
   0x114D0, 0x11650, 0x116C0, 0x11730, 0x118E0, 0x11950, 0x11C50, 0x11D50, 0x11DA0, 0x16A60,
   0x16AC0, 0x16B50, 0x1D7CE, 0x1D7D8, 0x1D7E2, 0x1D7EC, 0x1D7F6, 0x1E140, 0x1E2F0,
   0x1E950, 0x1FBF0]

/-- The value of a decimal digit of any script: its distance from the zero of
its block. -/
def decimalValue? (c : Char) : Option Nat :=
  digitBlocks.findSome? fun base =>
    if base ≤ c.toNat ∧ c.toNat < base + 10 then some (c.toNat - base) else none

/-- Text with each decimal digit replaced by the ASCII digit of the same
value; nothing when it holds another character outside ASCII. -/
def asciiDigits? (s : String) : Option String :=
  String.ofList <$> s.toList.mapM fun c =>
    match decimalValue? c with
    | some d => some (Char.ofNat (48 + d))
    | none => if c.toNat < 0x80 then some c else none

end VoiceCommands.Text
