import VoiceCommands.Recognition.Grammar
import VoiceCommands.Value

/-!
# Hearing utterances

A `CommandGrammar` is a grammar that acts on what it hears: an ordered list
of rules and what the rule that recognized an utterance does with its parse
tree.  Some grammars remember what they did (to repeat it later); that state
`σ` is threaded from one utterance to the next.

* `utteranceWords`: the words of an utterance given as a loosely typed
  value (text, or a collection of words).
* `CommandGrammar.hear`: one utterance.  No words at all is refused; words no
  rule recognizes are reported back.
* `CommandGrammar.hearAll`: utterances in order, sharing the state.
-/

namespace VoiceCommands

open Recognition

/-- A grammar that carries out what it hears. -/
structure CommandGrammar (σ : Type) where
  /-- The rules, in the order they are tried. -/
  rules : List Rule
  /-- What the rule that recognized an utterance does with its tree. -/
  perform : Rule → Tree → σ → Trace × σ

/-- What became of one utterance. -/
inductive Outcome where
  /-- A rule recognized the words and ran, with this trace. -/
  | heard (t : Trace)
  /-- No rule recognized the words. -/
  | unmatched (words : List String)
  /-- There were no words. -/
  | empty
  /-- The utterance could not be read as words. -/
  | unreadable (f : Fault)
  deriving Inhabited

/-- The kind and message of an utterance that was not carried out. -/
def Outcome.failure? : Outcome → Option (String × String)
  | .heard _ => none
  | .unmatched ws =>
    some ("MimicFailure", "No matching rule found for words " ++ Text.showWords ws ++ ".")
  | .empty => some ("MimicFailure", "Invalid mimic input []")
  | .unreadable f => some (f.kind, f.message)

/-- The words of an utterance given as a loosely typed value: text is
lowercased and split on white space; the items of a list, or the keys of a
table, are the words, each lowercased, so each must be text; anything else
cannot be gone through. -/
def utteranceWords : Value → Except Fault (List String)
  | .str s => .ok (hearingWords s)
  | .list items => items.mapM fun
    | .str w => .ok (Text.lower w)
    | v => .error (.missingAttribute v.typeName "lower")
  | .dict entries => .ok (entries.map fun e => Text.lower e.1)
  | v => .error (.notIterable v.typeName)

variable {σ : Type}

/-- Hears one utterance, given as its words. -/
def CommandGrammar.hearWords (g : CommandGrammar σ) (words : List String) (s : σ) :
    Outcome × σ :=
  if words.isEmpty then (.empty, s)
  else
    match recognizeFirst g.rules words with
    | some (r, t) =>
      let (trace, s') := g.perform r t s
      (.heard trace, s')
    | none => (.unmatched words, s)

/-- Hears one utterance, given as a loosely typed value. -/
def CommandGrammar.hear (g : CommandGrammar σ) (utterance : Value) (s : σ) : Outcome × σ :=
  match utteranceWords utterance with
  | .ok words => g.hearWords words s
  | .error f => (.unreadable f, s)

/-- Hears utterances in order, each one seeing the state the one before left. -/
def CommandGrammar.hearAll (g : CommandGrammar σ) : List Value → σ → List Outcome
  | [], _ => []
  | u :: rest, s =>
    let (o, s') := g.hear u s
    o :: g.hearAll rest s'

end VoiceCommands
