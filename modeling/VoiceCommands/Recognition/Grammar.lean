import VoiceCommands.Recognition.Scan
import VoiceCommands.Recognition.Spec
import VoiceCommands.Recognition.Numbers

/-!
# Rules and grammars

A grammar is an ordered list of rules.  Hearing an utterance means finding
the first rule, in order, that recognizes all of its words, and carrying
that rule out.

* `Rule`: a named element; only exported rules are tried.
* `Mapping`: the common kind of rule that maps each specification to a value;
  `Mapping.choose` reads which entry was spoken and the data of the spoken
  extras.
* `recognizeFirst`: the search over the rules, first without dictation and
  then, if nothing matched, with dictation allowed.
* `hearingWords`: the words of an utterance, lowercased.
-/

namespace VoiceCommands.Recognition

open Text

/-- A rule: a name, the element it recognizes, and whether it can be spoken on
its own. -/
structure Rule where
  name : String
  element : Element
  exported : Bool
  deriving Inhabited

/-- The element of a rule as referenced from another rule. -/
def Rule.ref (r : Rule) : Element := .rule r.name r.element

/-- The element of a rule as a named extra of another rule. -/
def Rule.extra (r : Rule) (name : String) : Element := .named name .plain r.ref

/-- Parses a specification; a specification that does not parse recognizes
nothing. -/
def specElement (extras : List (String × Element)) (spec : String) : Element :=
  match parseSpecWith extras spec with
  | .ok e => e
  | .error _ => .alt []

/-- A rule mapping specifications to values, with named extras referenced
from the specifications and default data.  The rule belongs to the grammar
`grammar`, and is of the kind `kind` (a plain mapping rule unless it was
written for the purpose); both show in the data of its recognitions. -/
structure Mapping (α : Type) where
  name : String
  entries : List (String × α)
  extras : List (String × Element)
  defaults : Data
  grammar : String
  kind : String := "MappingRule"

variable {α : Type}

/-- The element of a mapping: a choice between its specifications. -/
def Mapping.element (m : Mapping α) : Element :=
  .alt (m.entries.map fun e => specElement m.extras e.1)

/-- The first specification of a mapping, in order, that does not parse,
as the fault it raises when the mapping is built. -/
def Mapping.specFault (m : Mapping α) : Option Fault :=
  m.entries.findSome? fun (spec, _) =>
    match parseSpecWith m.extras spec with
    | .ok _ => none
    | .error e => some (.parse (e.message spec))

/-- A mapping as an exported rule. -/
def Mapping.rule (m : Mapping α) : Rule := ⟨m.name, m.element, true⟩

/-- The data of a recognition: the bookkeeping entries `base`, then the
defaults, then the spoken extras (a name given again keeps its place). -/
def extrasData (base : Data) (extras : List (String × Element)) (defaults : Data) (t : Tree) : Data :=
  (base.setAll defaults).setAll
    (extras.filterMap fun (n, _) => (t.find? n).map fun x => (n, x.datum))

/-- How a mapping rule writes itself: its kind and its name. -/
def Mapping.describe (m : Mapping α) : String := m.kind ++ "(" ++ m.name ++ ")"

/-- The entry of a mapping that was spoken, with the data of the recognition:
the grammar, the rule, the node of the choice between the specifications
with the words it took, the defaults and the spoken extras. -/
def Mapping.choose (m : Mapping α) (t : Tree) : Option (α × Data) :=
  match t.inner with
  | .alt idx spoken =>
    let base := Data.ofRule m.grammar m.describe (nodeText "Alternative(...)" spoken.words)
    (m.entries[idx]?).map fun e => (e.2, extrasData base m.extras m.defaults spoken)
  | _ => none

/-- The action of the spoken entry of a mapping of actions, bound to the data
of the recognition (nothing if the tree is not one of the mapping's). -/
def Mapping.bound (m : Mapping Action) (t : Tree) : Action :=
  match m.choose t with
  | some (a, d) => .bound a d
  | none => .idle

/-- The value of the spoken entry of a mapping, with a fallback for a tree that
is not one of the mapping's. -/
def Mapping.valueOr (m : Mapping α) (t : Tree) (fallback : α) : α :=
  ((m.choose t).map (·.1)).getD fallback

/-- The first exported rule, in order, that recognizes all of the words, with
its tree. -/
def recognizeWith (rules : List Rule) (u : Utterance) : Option (Rule × Tree) :=
  rules.findSome? fun r =>
    if r.exported then (r.element.recognize u).map fun t => (r, .rule r.name t) else none

/-- Recognition of words by a grammar: without dictation first, then with
dictation allowed. -/
def recognizeFirst (rules : List Rule) (words : List String) : Option (Rule × Tree) :=
  (recognizeWith rules ⟨words.toArray, false⟩).orElse fun _ =>
    recognizeWith rules ⟨words.toArray, true⟩

/-- The words of an utterance given as text: lowercased and split on white
space. -/
def hearingWords (utterance : String) : List String :=
  splitWords (lower utterance)

end VoiceCommands.Recognition
