import VoiceCommands.Action.Basic
import VoiceCommands.Value.Operations

/-!
# Vocabularies

A vocabulary maps spoken phrases to actions: typed text or key shortcuts.
Vocabularies are kept in *blocks*, each serving a list of *tags*; a grammar
asks for the vocabulary of a tag and gets the entries of every block carrying
that tag, later blocks overriding earlier ones phrase by phrase.

* `Entries`, `Entries.set`: phrases with their actions, in the order they were
  first given; setting a phrase again keeps its place.
* `Entries.heard`: the action of the words a list took.
* `Block.merge`: the vocabulary of a tag over a list of blocks.
* `Library`: blocks together with tags whose vocabulary is given outright and
  replaces what the blocks say.
* `Vocabularies`: the two libraries a grammar draws on, the *static* one
  (fixed when the grammar is built) and the *dynamic* one (lists that can
  change while the grammar is loaded).
-/

namespace VoiceCommands.Vocabulary

/-- Spoken phrases with their actions, each phrase once. -/
abbrev Entries := List (String × Action)

/-- Gives a phrase an action: a phrase already present keeps its place and
takes the new action, a new phrase goes last. -/
def Entries.set (es : Entries) (phrase : String) (a : Action) : Entries :=
  if es.any (·.1 = phrase) then es.map fun e => if e.1 = phrase then (phrase, a) else e
  else es ++ [(phrase, a)]

/-- Sets the phrases of `new` one after the other. -/
def Entries.setAll (es new : Entries) : Entries :=
  new.foldl (fun acc e => acc.set e.1 e.2) es

/-- The action of the words a list took: the entry whose phrase is those
words joined by single spaces.  Words that are no phrase of the list (a list
can take more words than its phrase has) are a `KeyError` naming them. -/
def Entries.heard (es : Entries) (words : List String) : Except Fault Action :=
  let phrase := " ".intercalate words
  match es.lookup phrase with
  | some a => .ok a
  | none => .error (.missingKey (Value.str phrase).repr)

/-- A block of vocabulary: the tags it serves and its entries. -/
structure Block where
  tags : List String
  entries : Entries
  deriving Inhabited

/-- The vocabulary of a tag: the entries of every block carrying the tag, in
order, later blocks overriding earlier ones. -/
def Block.merge (blocks : List Block) (tag : String) : Entries :=
  blocks.foldl (fun acc b => if b.tags.contains tag then acc.setAll b.entries else acc) []

/-- The channel a typed part names by its `type`. -/
def outputNamed? : String → Option Output
  | "Text" => some .text
  | "Key" => some .key
  | "Mouse" => some .mouse
  | "Pause" => some .pause
  | _ => none

/-- The event a typed part makes from its arguments: a specification and
whether it is static, both optional; more arguments are refused. -/
def eventOf (out : Output) : List Value → Except Fault Action
  | [] => Action.ofSpec out .none false
  | [spec] => Action.ofSpec out spec false
  | [spec, static] => Action.ofSpec out spec static.truthy
  | args => .error (.tooManyArguments (args.length + 1))

/-- The action of one typed part of a vocabulary value, such as
`{"type": "Key", "args": ["left:1"]}`.  The part is looked up the way a
table is: by `type` first (which must name a channel), then by `args`;
a part that is not a table cannot be looked up by name. -/
def partAction (part : Value) : Except Fault Action :=
  match part with
  | .dict entries =>
    match entries.lookup "type" with
    | none => .error (.missingKey "'type'")
    | some kind =>
      let out? : Except Fault Output := match kind with
        | .str k => match outputNamed? k with
          | some out => .ok out
          | none => .error (.missingKey kind.repr)
        | .list _ | .dict _ => .error (.unhashable kind.typeName)
        | other => .error (.missingKey other.repr)
      match out? with
      | .error f => .error f
      | .ok out =>
        match entries.lookup "args" with
        | none => .error (.missingKey "'args'")
        | some args =>
          match args.elements with
          | .ok vs => eventOf out vs
          | .error _ => .error (.argumentsNotIterable out.className args.typeName)
  | .str _ => .error .stringIndices
  | .list _ => .error .listIndices
  | v => .error (.notSubscriptable v.typeName)

/-- The action of a vocabulary value: a list of typed parts combines them,
one after the other (a single part is the action itself, and no parts cannot
be combined); anything else is typed as text (text without a specification
is allowed; other values are refused). -/
def valueAction : Value → Except Fault Action
  | .list parts => do
    match ← parts.mapM partAction with
    | [] => .error .noActions
    | [a] => pure a
    | as => pure (.series as)
  | v => Action.ofSpec .text v false

/-- The entries of a vocabulary given as named values, in order; the first
value that makes no action stops them.  Only a table has named values. -/
def entriesOf : Value → Except Fault Entries
  | .dict es => es.mapM fun (k, v) => (fun a => (k, a)) <$> valueAction v
  | v => .error (.missingAttribute v.typeName "items")

/-- Blocks of vocabulary, and tags whose vocabulary is given outright. -/
structure Library where
  blocks : List Block
  given : List (String × Entries)
  deriving Inhabited

/-- The vocabulary of a tag in a library. -/
def Library.entries (l : Library) (tag : String) : Entries :=
  match l.given.find? (·.1 = tag) with
  | some (_, es) => es
  | none => Block.merge l.blocks tag

/-- Replaces the vocabulary of tags. -/
def Library.give (l : Library) (tags : List (String × Entries)) : Library :=
  { l with given := tags ++ l.given }

/-- The static and dynamic vocabularies. -/
structure Vocabularies where
  static : Library
  dynamic : Library
  deriving Inhabited

end VoiceCommands.Vocabulary
