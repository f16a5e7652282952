import VoiceCommands.Recognition.Grammar
import VoiceCommands.Recognition.Alphabet
import VoiceCommands.Formatting.Spoken
import VoiceCommands.Vocabulary.Basic
import VoiceCommands.Session

/-!
# The multiple-edit grammar

A general editing grammar: one utterance chains up to fifteen editing
actions (cursor keys, line operations, vocabulary phrases, identifiers),
optionally ends with a literal identifier or a spelled run of letters or
digits, and may ask for the whole to be repeated:

    up three nab two letters alpha bravo repeat four times

* `keystrokes`: the editing keys, most with an optional count `<n>`.
* `Parts`: the vocabulary lists the grammar draws on (spoken literally).
* `rules`: the rules, in the order they are tried; the first, `a`, takes a
  whole chain.
* `chainAction`: the action of a recognized chain.  Its actions run with the
  chain's own data, so `%(n)d` in a vocabulary entry is the repeat count and
  `%%` is a percent sign.
* `grammar`: the grammar for a set of vocabularies.
-/

namespace VoiceCommands.MultiEdit

open Recognition Formatting Vocabulary

/-- A spoken number from one to ninety-nine. -/
def number : Element := .named "n" .integer (integerElement 1 100)

/-- The value of a spoken number, when there is one. -/
def numberOf (t : Tree) : Option Nat := (t.find? "n").map fun x => integerValue x.words

/-- Editing keys. -/
def keystrokes : Mapping Action :=
  { name := "c", grammar := "multiedit", kind := "KeystrokeRule"
    entries :=
      [("up [<n>]", .key "up:%(n)d"), ("down [<n>]", .key "down:%(n)d"),
       ("left [<n>]", .key "left:%(n)d"), ("right [<n>]", .key "right:%(n)d"),
       ("gope [<n>]", .key "pgup:%(n)d"), ("drop [<n>]", .key "pgdown:%(n)d"),
       ("lope [<n>]", .key "c-left:%(n)d"), ("yope [<n>]", .key "c-right:%(n)d"),
       ("care", .key "home"), ("doll", .key "end"),
       ("file top", .key "c-home"), ("file toe", .key "c-end"),
       ("ace [<n>]", .key "space:%(n)d"), ("act", .key "escape"),
       ("chuck [<n>]", .key "del:%(n)d"), ("scratch [<n>]", .key "backspace:%(n)d"),
       ("slap [<n>]", .key "enter:%(n)d"), ("tab [<n>]", .key "tab:%(n)d"),
       ("line down [<n>]",
        .key "home:2, shift:down, end:2, shift:up, c-x, del, down:%(n)d, home:2, enter, up, c-v"),
       ("lineup [<n>]",
        .key "home:2, shift:down, end:2, shift:up, c-x, del, up:%(n)d, home:2, enter, up, c-v"),
       ("nab [<n>]", .key "home:2, shift:down, down:%(n)d, up, end:2, shift:up, c-c, end:2"),
       ("plop [<n>]", .key "c-v:%(n)d"), ("squishy [<n>]", .key "end:2, del, space"),
       ("strip", .key "s-end:2, del"), ("striss", .key "s-home:2, del"),
       ("trance [<n>]",
        .key "home:2, shift:down, down:%(n)d, up, end:2, shift:up, c-c, end:2, enter, c-v"),
       ("wipe [<n>]", .key "home:2, shift:down, down:%(n)d, up, end:2, del, shift:up, backspace"),
       ("bump [<n>]", .key "cs-right:%(n)d, del"), ("whack [<n>]", .key "cs-left:%(n)d, del")]
    extras := [("n", number), ("text", .named "text" .dictation .dictation),
               ("text2", .named "text2" .dictation .dictation)]
    defaults := [("n", .int 1)] }

/-- The specification of an identifier command. -/
def identifierSpec : String :=
  "[upper | natural] ( proper | camel | rel-path | abs-path | score | sentence | " ++
  "scope-resolve | jumble | dotword | dashword | natword | snakeword | brooding-narrative)" ++
  " [<dictation>]"

/-- An identifier in one of the identifier styles. -/
def identifierRule : Rule :=
  ⟨"i", specElement [("dictation", .named "dictation" .dictation .dictation)] identifierSpec, true⟩

/-- An identifier, as referenced from the chain. -/
def identifier : Element := .named "format_rule" .plain identifierRule.ref

/-- The identifier typed for the words of an identifier command. -/
def identifierAction (t : Tree) : Except Fault Action :=
  Action.text <$> identifierText .shared (spokenValues t.words)

/-- The spelled letters, typed as text. -/
def letterTexts : Mapping Action :=
  { name := "t", grammar := "multiedit", entries := letterWords.map (fun (w, l) => (w, .text l))
    extras := [], defaults := [] }

/-- The spelled digits, typed as text. -/
def digitTexts : Mapping Action :=
  { name := "u", grammar := "multiedit", entries := digitNames.map (fun (w, d) => (w, .text d))
    extras := [], defaults := [] }

/-- Spelled letters and digits, typed as text. -/
def alphanumericTexts : Mapping Action :=
  { name := "v", grammar := "multiedit", entries := letterTexts.entries ++ digitTexts.entries
    extras := [], defaults := [] }

/-- A spelled run: a word saying what is spelled, then up to nineteen
spelled characters. -/
def spelledRun (word name : String) (m : Mapping Action) : Element :=
  .seq [.word word, .rep (.named name .plain m.rule.ref) 1 18]

/-- The spelled run that can end a chain. -/
def finish : Element :=
  .named "finish" .plain
    (.alt [spelledRun "letters" "x" letterTexts, spelledRun "digits" "y" digitTexts,
           spelledRun "alphanumeric" "z" alphanumericTexts])

/-- The vocabulary lists of the grammar. -/
structure Parts where
  /-- Phrases of the dynamic vocabulary. -/
  dynamic : Entries
  /-- Phrases of the static vocabulary. -/
  static : Entries
  /-- Phrases of the dynamic vocabulary that can take a count. -/
  dynamicCounted : Entries
  /-- Phrases of the static vocabulary that can take a count. -/
  staticCounted : Entries

/-- The vocabulary lists for a set of vocabularies. -/
def Parts.of (v : Vocabularies) : Parts :=
  { dynamic := v.dynamic.entries "multiedit", static := v.static.entries "multiedit"
    dynamicCounted := v.dynamic.entries "multiedit.count"
    staticCounted := v.static.entries "multiedit.count" }

/-- A vocabulary list, spoken literally. -/
def phraseList (name : String) (es : Entries) : Element :=
  .list name (es.map (·.1))

/-- The action of the phrase of a list that was spoken. -/
def phraseAction (es : Entries) : Tree → Except Fault Action
  | .phrase ws => es.heard ws
  | _ => .ok .idle

/-- A phrase of a list followed by an optional count. -/
def countedRule (name listName : String) (es : Entries) (part : String) : Rule :=
  ⟨name, .seq [.named part .plain (phraseList listName es), .opt number], true⟩

/-- The action of a counted phrase: the phrase's action, repeated when a
count was said. -/
def countedAction (es : Entries) (t : Tree) : Except Fault Action :=
  match t.inner.parts with
  | [p, n] => do
    let a ← phraseAction es p.body
    match n.present? with
    | some x => pure (.repeated a (integerValue x.words))
    | none => pure a
  | _ => .ok .idle

section
variable (p : Parts)

/-- Dynamic phrases with a count. -/
def dynamicCountedRule : Rule :=
  countedRule "aoeuazzzxt" "multiedit.count" p.dynamicCounted "dynamic"

/-- Static phrases with a count. -/
def staticCountedRule : Rule :=
  countedRule "aioeuazzzxt" "static multiedit.count" p.staticCounted "static"

/-- One action of a chain. -/
def singleAction : Element :=
  .alt [{ keystrokes.rule with exported := false }.ref,
        phraseList "dynamic multiedit" p.dynamic, phraseList "static multiedit" p.static,
        .named "aouxxxazsemi" .plain (dynamicCountedRule p).ref,
        .named "aouxxxazsemii" .plain (staticCountedRule p).ref, identifier]

/-- A chain of actions, with an optional ending and repeat count. -/
def chainRule : Rule :=
  ⟨"a",
   .seq [.opt (.named "sequence" .plain (.rep (singleAction p) 1 14)),
         .opt (.alt [.seq [.word "literal", identifier], finish]),
         .opt (.seq [.word "repeat", number, .word "times"])], true⟩

/-- The rules of the grammar, in the order they are tried. -/
def rules : List Rule :=
  [chainRule p, ⟨"LiteralRule", .seq [.word "literal", identifier], true⟩,
   dynamicCountedRule p, staticCountedRule p, identifierRule, letterTexts.rule,
   digitTexts.rule, alphanumericTexts.rule]

/-- The action of one action of a chain. -/
def singleValue : Tree → Except Fault Action
  | .alt 0 t => .ok (keystrokes.bound t)
  | .alt 1 t => phraseAction p.dynamic t
  | .alt 2 t => phraseAction p.static t
  | .alt 3 t => countedAction p.dynamicCounted t
  | .alt 4 t => countedAction p.staticCounted t
  | .alt _ t => identifierAction t
  | _ => .ok .idle

end

/-- The word that starts a spelled run, and its characters. -/
def finishParts (t : Tree) : String × List Action :=
  match t.choice? with
  | some (i, run) =>
    let m := match i with
      | 0 => letterTexts
      | 1 => digitTexts
      | _ => alphanumericTexts
    match run.parts with
    | [w, .rep items] => (" ".intercalate w.words, items.map m.bound)
    | _ => ("", [])
  | none => ("", [])

/-- The characters of a spelled run. -/
def finishActions (t : Tree) : List Action := (finishParts t).2

/-- A spelled run as it writes itself: its word and its characters. -/
def finishText (t : Tree) : String :=
  let (w, actions) := finishParts t
  "[" ++ Text.quote w ++ ", " ++ describeList actions ++ "]"

/-- The data a recognized chain runs its actions with, given the actions
read from its sequence and its identifier: the grammar, the rule and the
whole recognition, the count (one unless said), and the parts that were
said, each as it writes itself. -/
def chainData (t : Tree) (sequence ident : List Action) : Data :=
  let said : Data :=
    ((t.find? "sequence").map fun _ => ("sequence", Datum.object (describeList sequence))).toList ++
    ((numberOf t).map fun n => ("n", Datum.int n)).toList ++
    ((t.find? "finish").map fun f => ("finish", Datum.object (finishText f.body))).toList ++
    (ident.map fun a => ("format_rule", Datum.object a.describe))
  let base := Data.ofRule "multiedit" "RepeatRule(a)" (nodeText "RepeatRule(a)" t.words)
  (base.set "n" (.int 1)).setAll said

/-- What a recognized chain does: its actions, its identifier and its
spelled run, in that order, to be run as many times as asked (once unless
a count was said) with the chain's data.  Reading the actions, then the
identifier, can fail. -/
def chainAction (p : Parts) (t : Tree) : Except Fault (List Action × Nat × Data) := do
  let sequence ← match (t.find? "sequence").map Tree.body with
    | some (.rep items) => items.mapM (singleValue p)
    | _ => pure []
  let spelled := ((t.find? "finish").map fun f => finishActions f.body).getD []
  let ident ← match t.find? "format_rule" with
    | some f => (fun a => [a]) <$> identifierAction f.body
    | none => pure []
  return (sequence ++ ident ++ spelled, (numberOf t).getD 1, chainData t sequence ident)

/-- Runs the actions of a chain `n` times over; each action runs whatever
the one before it reported, and only a fault stops the run. -/
def runRounds (actions : List Action) (data : Data) : Nat → Trace → Trace
  | 0, t => t
  | n + 1, t => runRounds actions data n (Action.execEach actions data t)

/-- What the grammar does with a recognition by one of its rules. -/
def perform (p : Parts) (r : Rule) (t : Tree) : Trace :=
  if r.name = "a" then
    match chainAction p t with
    | .ok (actions, n, data) => runRounds actions data n {}
    | .error f => { fault := some f }
  else if r.name = "LiteralRule" then
    match (t.find? "format_rule").map fun f => identifierAction f.body with
    | some (.ok a) =>
      let rule := "LiteralRule(LiteralRule)"
      a.perform ((Data.ofRule "multiedit" rule (nodeText rule t.words)).set "format_rule"
        (.object a.describe))
    | some (.error f) => { fault := some f }
    | none => {}
  else if r.name = letterTexts.name then (letterTexts.bound t).perform Data.base
  else if r.name = digitTexts.name then (digitTexts.bound t).perform Data.base
  else if r.name = alphanumericTexts.name then (alphanumericTexts.bound t).perform Data.base
  else {}

/-- The multiple-edit grammar with a set of vocabularies. -/
def grammar (v : Vocabularies) : CommandGrammar Unit :=
  let p := Parts.of v
  { rules := rules p, perform := fun r t _ => (perform p r t, ()) }

end VoiceCommands.MultiEdit
