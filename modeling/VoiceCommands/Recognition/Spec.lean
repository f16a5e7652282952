import VoiceCommands.Recognition.Element
import VoiceCommands.Recognition.SpecSyntax
import VoiceCommands.Text.Digits

/-!
# Specifications as elements

A specification that has been read (`VoiceCommands.Recognition.SpecSyntax`)
becomes an `Element`:

* words become spoken words; a quoted phrase of several words is said
  without its outer quotes, so `"a b" c` is the three words `a b c`, while a
  single quoted word keeps its quotes (`"a"` is the word `"a"`);
* `<name>` becomes the named element supplied with the rule, and a name
  that was not supplied refuses the specification;
* `[ … ]` becomes an optional part, a sequence a sequence and choices an
  alternative;
* a special specifier `{name=value}` leaves its sequence as it is, but only
  `w` and `weight` (with a number, or `True` or `False`) and `test_special`
  are known.

Specifiers and references are checked in reading order, each part before
the part that holds it, so the first bad one is the one reported.
`SpecError.message` gives the text of a refusal.
-/

namespace VoiceCommands.Recognition

open Text

/-- Why a specification was refused. -/
inductive SpecError where
  /-- It could not be read. -/
  | unreadable (e : SpecSyntaxError)
  /-- It refers to an element that was not supplied. -/
  | reference (name : String)
  /-- It has a special specifier that is not understood. -/
  | special (reason : String)
  deriving Repr, Inhabited

/-- The text of a refusal of `spec`. -/
def SpecError.message (spec : String) : SpecError → String
  | .unreadable e => "Exception raised parsing " ++ quote spec ++ ": " ++ e.describe spec
  | .reference name =>
    "Exception raised transforming " ++ quote spec ++
      ": Error trying to process rule \"reference\":\n\nUnknown reference name " ++ quote name
  | .special reason =>
    "Exception raised transforming " ++ quote spec ++
      ": Error trying to process rule \"special\":\n\n" ++ reason

/-- Decimal digits, with single underscores allowed between two digits. -/
def isDigitPart (cs : List Char) : Bool :=
  !cs.isEmpty && cs.head? ≠ some '_' && cs.getLast? ≠ some '_' &&
    cs.all (fun c => c.isDigit || c = '_') &&
    !((cs.zip cs.tail).any fun (a, b) => a = '_' && b = '_')

/-- The characters after an optional sign. -/
def unsigned : List Char → List Char
  | '+' :: cs | '-' :: cs => cs
  | cs => cs

/-- Whether a text is the decimal form of a number in ASCII: digits with an
optional point and fraction, and an optional exponent; or an infinity or
not-a-number, in any case. -/
def isAsciiNumberText (s : String) : Bool :=
  let body := unsigned (strip s).toList
  let lowered := String.ofList (body.map Char.toLower)
  if lowered = "inf" || lowered = "infinity" || lowered = "nan" then true
  else
    let mantissa := body.takeWhile fun c => c ≠ 'e' && c ≠ 'E'
    let exponent := body.drop mantissa.length
    let mantissaOk :=
      match (String.ofList mantissa).splitOn "." with
      | [whole] => isDigitPart whole.toList
      | [whole, frac] =>
        (whole.isEmpty || isDigitPart whole.toList) && (frac.isEmpty || isDigitPart frac.toList) &&
          !(whole.isEmpty && frac.isEmpty)
      | _ => false
    let exponentOk :=
      match exponent with
      | [] => true
      | _ :: rest => isDigitPart (unsigned rest)
    mantissaOk && exponentOk

/-- Whether a text is the decimal form of a number, its digits taken from any
script. -/
def isNumberText (s : String) : Bool :=
  (asciiDigits? s).any isAsciiNumberText

/-- Checks a special specifier: `name=value` or a bare `name`.  A weight
(`w` or `weight`) needs a number, or `True` or `False` (which count as one
and zero), but not `None`; `test_special` takes anything, and other names are
refused. -/
def checkSpecial (specifier : String) : Except SpecError Unit :=
  let unknown : Except SpecError Unit :=
    .error (.special ("Unrecognized special specifier: \x7b" ++ specifier ++ "\x7d"))
  let isWeight (name : String) : Bool := name = "w" || name = "weight"
  if specifier.contains '=' then
    match specifier.splitOn "=" with
    | [name, value] =>
      if isWeight name then
        if value = "True" || value = "False" || isNumberText value then .ok ()
        else if value = "None" then
          .error (.special "float() argument must be a string or a real number, not 'NoneType'")
        else .error (.special ("could not convert string to float: " ++ quote value))
      else if name = "test_special" then .ok ()
      else unknown
    | _ => .error (.special "too many values to unpack (expected 2)")
  else if isWeight specifier || specifier = "test_special" then .ok ()
  else unknown

/-- Whether a word ends a quoted phrase. -/
def closesQuote (w : String) : Bool := w.endsWith "\""

/-- Words with their quoted phrases opened up: a run of words from one that
starts with a double quote to the next later word that ends with one is a
quoted phrase, said as its words without the outer quotes; every other word
is said as written (so a single quoted word keeps its quotes). -/
def unquoteWords : List String → List String
  | [] => []
  | w :: ws =>
    match ws.dropWhile (fun x => !closesQuote x) with
    | last :: _ =>
      if w.startsWith "\"" then
        let phrase := " ".intercalate (w :: ws.takeWhile (fun x => !closesQuote x) ++ [last])
        splitWords (String.ofList (phrase.toList.drop 1).dropLast) ++
          unquoteWords ((ws.dropWhile fun x => !closesQuote x).drop 1)
      else w :: unquoteWords ws
    | [] => w :: unquoteWords ws
termination_by l => l.length
decreasing_by
  all_goals first
    | exact length_drop_dropWhile_lt _ _ _
    | simp

/-- The spoken words of written words, their quoted phrases opened up. -/
def spokenOf (written : List String) : List String :=
  unquoteWords (splitWords (" ".intercalate written))

/-- The element of written words. -/
def literalElement (written : List String) : Element :=
  match spokenOf written with
  | [w] => .word w
  | ws => .seq (ws.map .word)

mutual
/-- The element of a tree, with references resolved by `resolve`. -/
def SpecTree.element (resolve : String → Option Element) : SpecTree → Except SpecError Element
  | .literal ws => .ok (literalElement ws)
  | .reference name =>
    match resolve name with
    | some e => .ok e
    | none => .error (.reference name)
  | .optional body => .opt <$> body.element resolve
  | .sequence items => .seq <$> SpecTree.elements resolve items
  | .alternative choices => .alt <$> SpecTree.elements resolve choices
  | .special body specifier => do
    let e ← body.element resolve
    checkSpecial specifier
    return e
/-- The elements of trees, in order. -/
def SpecTree.elements (resolve : String → Option Element) :
    List SpecTree → Except SpecError (List Element)
  | [] => .ok []
  | t :: ts => do
    let e ← t.element resolve
    let es ← SpecTree.elements resolve ts
    return e :: es
end

/-- Parses a specification, resolving its references by `resolve`. -/
def parseSpec (resolve : String → Option Element) (spec : String) : Except SpecError Element :=
  match readSpec spec with
  | .ok tree => tree.element resolve
  | .error e => .error (.unreadable e)

/-- Parses a specification whose references all come from `extras`. -/
def parseSpecWith (extras : List (String × Element)) (spec : String) : Except SpecError Element :=
  parseSpec (fun n => (extras.find? (·.1 = n)).map (·.2)) spec

end VoiceCommands.Recognition
