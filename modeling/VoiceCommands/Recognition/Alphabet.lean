import VoiceCommands.Recognition.Numbers

/-!
# Spelling words

Letters and digits are spelled with fixed words: the radio alphabet (`alpha`
… `zulu`, with `xray` as one word) for letters and `zero` … `nine` for
digits.  Several grammars offer them, as single keys or as typed text.

* `letterWords`: the spelling words of the letters, in alphabetical order.
* `digitNames`: the spelling words of the digits, with the digit as text.
-/

namespace VoiceCommands.Recognition

/-- The spelling words of the letters with their letters. -/
def letterWords : List (String × String) :=
  [("alpha", "a"), ("bravo", "b"), ("charlie", "c"), ("delta", "d"), ("echo", "e"),
   ("foxtrot", "f"), ("golf", "g"), ("hotel", "h"), ("india", "i"), ("juliet", "j"),
   ("kilo", "k"), ("lima", "l"), ("mike", "m"), ("november", "n"), ("oscar", "o"),
   ("papa", "p"), ("quebec", "q"), ("romeo", "r"), ("sierra", "s"), ("tango", "t"),
   ("uniform", "u"), ("victor", "v"), ("whiskey", "w"), ("xray", "x"), ("yankee", "y"),
   ("zulu", "z")]

/-- The spelling words of the digits with their digits. -/
def digitNames : List (String × String) :=
  digitWords.map fun (w, c) => (w, c.toString)

end VoiceCommands.Recognition
