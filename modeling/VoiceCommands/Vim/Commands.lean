import VoiceCommands.Vim.Parts
import VoiceCommands.Formatting.Spoken
import VoiceCommands.Session

/-!
# The modal editor grammar

One utterance chains up to nine *chunks*, each a normal-mode command or an
insertion, optionally followed by a literal identifier:

    dell two yope phyllo camel my name literal score x

Every command starts and ends in normal mode.  A command is sent as soon as
it is reached; consecutive insertions are collected and sent together,
entering insert mode once (with the first insertion's way in, `a` by
default) and leaving it with two escapes.

* `Source`: where insertable text comes from (counted keys, identifiers,
  vocabulary lists, operators, spelled characters).
* `rules`: the rules of the grammar, in the order they are tried; the first
  one, `VimCommand`, takes a whole command line.
* `Step`, `commandLine`: the steps of a recognized command line.  Reading an
  identifier can fail (an identifier style given no words), which stops the
  utterance before anything is sent.
* `runSteps`: sending the steps, the commands with the data of the
  recognition (`commandLineData`).
* `grammar`: the grammar for a set of vocabularies.

Saying `chaos` anywhere in an utterance leaves insert mode after every
command, which is what the change operator needs.
-/

namespace VoiceCommands.Vim

open Recognition Formatting Vocabulary

/-! ## Insertions -/

/-- The specification of an identifier command. -/
def identifierSpec : String :=
  "[upper | natural] ( proper | camel | rel-path | abs-path | score | sentence |" ++
  "scope-resolve | jumble | dotword | dashword | natword | snakeword | brooding-narrative)" ++
  " [<dictation>]"

/-- An identifier in one of the identifier styles. -/
def identifierRule : Rule :=
  ⟨"IdentifierInsertion", specElement [("dictation", dictation)] identifierSpec, true⟩

/-- The identifier typed for the words of an identifier command. -/
def identifierAction (t : Tree) : Except Fault Action :=
  Action.text <$> identifierText .editor (spokenValues t.words)

/-- A source of insertable text. -/
inductive Source where
  /-- Keys pressed a counted number of times. -/
  | keys
  /-- A formatted identifier. -/
  | identifier
  /-- A dynamic vocabulary list: phrases spoken literally, whose actions run
  with no data. -/
  | dynamic (name : String) (entries : Entries)
  /-- Operators. -/
  | arithmetic
  /-- Spelled letters and digits. -/
  | spelling
  /-- A static vocabulary, as a mapping of specifications. -/
  | static (m : Mapping Action)

/-- The element recognizing an insertion from a source. -/
def Source.element : Source → Element
  | .keys => keyInsertions.rule.ref
  | .identifier => identifierRule.ref
  | .dynamic name es => .list name (es.map (·.1))
  | .arithmetic => Vim.arithmetic.rule.ref
  | .spelling => spellings.rule.ref
  | .static m => m.rule.ref

/-- The action inserting what was recognized from a source. -/
def Source.value : Source → Tree → Except Fault Action
  | .keys, t => .ok (keyInsertions.bound t)
  | .identifier, t => identifierAction t
  | .dynamic _ es, t =>
    match t with
    | .phrase ws => es.heard ws
    | _ => .ok .idle
  | .arithmetic, t => .ok (Vim.arithmetic.bound t)
  | .spelling, t => .ok (.text (spellings.valueOr t ""))
  | .static m, t => .ok (m.bound t)

/-- The static vocabulary of a tag as a mapping, when it is not empty. -/
def staticSource (v : Vocabularies) (tag name : String) : List Source :=
  let es := v.static.entries tag
  if es.isEmpty then []
  else [.static { name := name, entries := es, extras := [], defaults := [], grammar := "vim" }]

/-- The first specification of the static vocabularies, in the order their
mappings are built, that does not parse. -/
def specFault (v : Vocabularies) : Option Fault :=
  (staticSource v "vim.insertions.code" "static vim.insertions,code mapping" ++
    staticSource v "vim.insertions" "static vim.insertions mapping").findSome? fun
    | .static m => m.specFault
    | _ => none

/-- The sources of insertions, in the order they are tried. -/
def sources (v : Vocabularies) : List Source :=
  [.keys, .identifier,
   .dynamic "dynamic vim.insertions.code" (v.dynamic.entries "vim.insertions.code"),
   .dynamic "dynamic vim.insertions" (v.dynamic.entries "vim.insertions"),
   .arithmetic, .spelling] ++
  staticSource v "vim.insertions.code" "static vim.insertions,code mapping" ++
  staticSource v "vim.insertions" "static vim.insertions mapping"

/-! ## Rules -/

section
variable (ss : List Source)

/-- One insertion from any source. -/
def primitiveInsertionRule : Rule :=
  ⟨"PrimitiveInsertion", .named "insertion" .plain (.alt (ss.map Source.element)), true⟩

/-- An insertion, repeated when followed by `parrot` and a count. -/
def repetitionRule : Rule :=
  ⟨"PrimitiveInsertionRepetition",
   .seq [(primitiveInsertionRule ss).ref, .opt (.seq [.word "parrot", count])], true⟩

/-- An insertion with an optional way into insert mode. -/
def insertionRule : Rule :=
  ⟨"Insertion", .seq [.opt insertModes.rule.ref, (repetitionRule ss).ref], true⟩

end

/-- An identifier after the word `literal`, so that its words are not read
as commands. -/
def literalRule : Rule :=
  ⟨"LiteralIdentifierInsertion",
   .seq [.opt insertModes.rule.ref, .word "literal", identifierRule.ref], true⟩

/-- A motion to a spelled letter. -/
def targetRule : Rule :=
  ⟨"ParameterizedMotion", .seq [motionTargets.rule.ref, letters.rule.ref], true⟩

/-- A motion with an optional count. -/
def countedMotionRule : Rule :=
  ⟨"CountedMotion",
   .seq [.opt count, .named "motion" .plain (.alt [motions.rule.ref, targetRule.ref])], true⟩

/-- Any motion. -/
def motionRule : Rule :=
  ⟨"Motion", .named "motion" .plain (.alt [countedMotionRule.ref, uncountedMotions.rule.ref]),
   true⟩

/-- An operator with an optional count. -/
def operatorRule : Rule :=
  ⟨"Operator", .seq [.opt count, operators.rule.ref], true⟩

/-- A motion, optionally preceded by an operator. -/
def applicationRule : Rule :=
  ⟨"OperatorApplicationMotion", .seq [.opt operatorRule.ref, motionRule.ref], true⟩

/-- A normal-mode command with an optional count and register. -/
def commandRule : Rule :=
  ⟨"Command",
   .seq [.opt count, .opt (.seq [.word "reg", letters.rule.ref]),
         .named "command" .plain
           (.alt [.named "OperatorApplication" .plain
                    (.alt [applicationRule.ref, doubledOperators.rule.ref]),
                  plainCommands.rule.ref])], true⟩

/-- A whole command line: chunks, then an optional literal identifier. -/
def commandLineRule (ss : List Source) : Rule :=
  ⟨"VimCommand",
   .seq [.opt (.named "app" .plain (.rep (.alt [commandRule.ref, (insertionRule ss).ref]) 1 8)),
         .opt (.named "literal" .plain literalRule.ref)], true⟩

/-- The static vocabulary rules among the sources. -/
def staticRules (ss : List Source) : List Rule :=
  ss.filterMap fun
    | .static m => some m.rule
    | _ => none

/-- The rules of the grammar, in the order they are tried. -/
def rules (ss : List Source) : List Rule :=
  [commandLineRule ss, commandRule, letters.rule, applicationRule, operatorRule,
   operators.rule, motionRule, countedMotionRule, motions.rule, targetRule,
   motionTargets.rule, uncountedMotions.rule, doubledOperators.rule, plainCommands.rule,
   insertionRule ss, insertModes.rule, repetitionRule ss, primitiveInsertionRule ss,
   keyInsertions.rule, identifierRule, arithmetic.rule, spellings.rule] ++
  staticRules ss ++ [literalRule]

/-! ## Reading a recognition -/

/-- A step of a command line. -/
inductive Step where
  /-- A normal-mode action. -/
  | normal (a : Action)
  /-- An insertion, with its way into insert mode if one was said. -/
  | insert (entry : Option Action) (payload : Action)

/-- An action preceded by its count, if one was said. -/
def counted (c : Option Nat) (a : Action) : Action :=
  match c with
  | some n => .text (toString n) ++ a
  | none => a

/-- A motion to a letter: the motion key and the letter. -/
def targetAction (t : Tree) : Action :=
  match t.inner.parts with
  | [m, l] => .text (motionTargets.valueOr m "" ++ letters.valueOr l "")
  | _ => .idle

/-- A counted motion. -/
def countedMotionAction (t : Tree) : Action :=
  match t.inner.parts with
  | [c, m] =>
    counted (countOf c) <|
      match m.choice? with
      | some (0, x) => motions.bound x
      | some (_, x) => targetAction x
      | none => .idle
  | _ => .idle

/-- A motion. -/
def motionAction (t : Tree) : Action :=
  match t.choice? with
  | some (0, x) => countedMotionAction x
  | some (_, x) => uncountedMotions.bound x
  | none => .idle

/-- A counted operator. -/
def operatorAction (t : Tree) : Action :=
  match t.inner.parts with
  | [c, o] => counted (countOf c) (operators.bound o)
  | _ => .idle

/-- A motion after an optional operator. -/
def applicationAction (t : Tree) : Action :=
  match t.inner.parts with
  | [o, m] =>
    match o.present? with
    | some op => operatorAction op ++ motionAction m
    | none => motionAction m
  | _ => .idle

/-- A doubled operator.  The comment operator comments the current line, or
the counted number of lines. -/
def doubledAction (t : Tree) : Action :=
  match doubledOperators.choose t with
  | some (some a, d) => .bound a d
  | some (none, d) =>
    match d.lookup "count" with
    | some (.int n) => if n = 1 then .text "gcc" else .text ("gc" ++ toString (n - 1) ++ "j")
    | _ => .text "gcc"
  | none => .idle

/-- The command of a normal-mode command; `none` is a macro replay. -/
def commandValue (t : Tree) : Option Action :=
  match t.choice? with
  | some (0, x) =>
    match x.choice? with
    | some (0, y) => some (applicationAction y)
    | some (_, y) => some (doubledAction y)
    | none => some .idle
  | some (_, x) =>
    match plainCommands.choose x with
    | some (some a, d) => some (.bound a d)
    | some (none, _) => none
    | none => some .idle
  | none => some .idle

/-- The action of a normal-mode command (nothing for a tree that is not one).
The count and register are typed before the command; a register before a
macro replay names the macro.  A macro replay without a register is not an
action, and fails when sent. -/
def commandAction (t : Tree) : Option Action :=
  match t.inner.parts with
  | [c, r, cmd] =>
    let countPart := ((countOf c).map toString).getD ""
    let register := r.present?.map fun rt =>
      match rt.parts with
      | [_, l] => letters.valueOr l ""
      | _ => ""
    some <| match register, commandValue cmd with
      | some l, none => .text (countPart ++ "@" ++ l)
      | some l, some a => .text (countPart ++ "'" ++ l) ++ a
      | none, v =>
        let a := v.getD (.inert "str")
        if countPart.isEmpty then a else .text countPart ++ a
  | _ => none

/-- The insertion that follows every command of an utterance in which `chaos`
was said, so that the insert mode the change operator enters is left again:
it enters with nothing and inserts nothing. -/
def leaveInsert : Step := .insert (some .idle) .idle

/-- The steps of a normal-mode command: its action, then `leaveInsert` if
`chaos` is among `heard`, every word of the utterance. -/
def commandSteps (heard : List String) (t : Tree) : List Step :=
  match commandAction t with
  | some a => .normal a :: if heard.contains "chaos" then [leaveInsert] else []
  | none => []

/-- One insertion from its source. -/
def insertionValue (ss : List Source) (t : Tree) : Except Fault Action :=
  match t.choice? with
  | some (i, x) =>
    match ss[i]? with
    | some s => s.value x
    | none => .ok .idle
  | none => .ok .idle

/-- An insertion, repeated as many times as its `parrot` count says. -/
def repetitionValue (ss : List Source) (t : Tree) : Except Fault Action :=
  match t.inner.parts with
  | [p, r] => do
    let v ← insertionValue ss p
    let times := r.present?.bind fun rt =>
      match rt.parts with
      | [_, c] => some (digitsValue c.words)
      | _ => none
    return .repeated v (times.getD 1)
  | _ => .ok .idle

/-- The step of an insertion. -/
def insertionSteps (ss : List Source) (t : Tree) : Except Fault (List Step) :=
  match t.inner.parts with
  | [e, r] => do
    let payload ← repetitionValue ss r
    return [.insert (e.present?.map insertModes.bound) payload]
  | _ => .ok []

/-- The step of a literal identifier. -/
def literalSteps (t : Tree) : Except Fault (List Step) :=
  match t.inner.parts with
  | [e, _, i] => do
    let payload ← identifierAction i
    return [.insert (e.present?.map insertModes.bound) payload]
  | _ => .ok []

/-- The steps of a chunk. -/
def chunkSteps (ss : List Source) (heard : List String) : Tree → Except Fault (List Step)
  | .alt 0 c => .ok (commandSteps heard c)
  | .alt _ c => insertionSteps ss c
  | _ => .ok []

/-- The steps of the chunks of a command line, chunk by chunk; `heard` is
every word of the line. -/
def lineChunks (ss : List Source) (heard : List String) (app : Tree) :
    Except Fault (List (List Step)) :=
  match app.present?.map Tree.body with
  | some (.rep items) => items.mapM (chunkSteps ss heard)
  | _ => pure []

/-- The steps of the literal identifier ending a command line, if one was
said. -/
def literalPart (lit : Tree) : Except Fault (List Step) :=
  match lit.present? with
  | some l => literalSteps l.body
  | none => pure []

/-- The steps of a command line: its chunks, then its literal identifier. -/
def commandLine (ss : List Source) (t : Tree) : Except Fault (List Step) :=
  match t.inner.parts with
  | [app, lit] => do
    let chunks ← lineChunks ss t.words app
    let literal ← literalPart lit
    return chunks.flatten ++ literal
  | _ => .ok []

/-! ## Sending the steps -/

/-- Enters insert mode (the first insertion's way in, or `a`), inserts the
payloads and leaves insert mode; nothing when there is nothing to insert. -/
def insertAll : List (Option Action × Action) → List Action
  | [] => []
  | (entry, p) :: rest => [entry.getD (.key "a"), p] ++ rest.map (·.2) ++ [.key "escape:2"]

/-- Sends the pending insertions, each on its own and without data: one that
fails does not hold back the rest. -/
def flushInsertions (pending : List (Option Action × Action)) (t : Trace) : Trace :=
  Action.execEach (insertAll pending) [] t

/-- Sends steps: each normal-mode action is sent after the insertions
pending before it, with the data of the recognition. -/
def runSteps (data : Data) : List Step → List (Option Action × Action) → Trace → Trace
  | [], pending, t => flushInsertions pending t
  | .normal a :: rest, pending, t =>
    runSteps data rest [] (a.exec data (flushInsertions pending t)).1
  | .insert e p :: rest, pending, t => runSteps data rest (pending ++ [(e, p)]) t

/-! ## The data of a command line -/

/-- How a step is written among the values of a command line: a command as
`('c', action)`, an insertion as `('i', (way in, payload))`, each action as it
writes itself. -/
def Step.describe : Step → String
  | .normal a => "('c', " ++ a.describe ++ ")"
  | .insert e p => "('i', (" ++ (e.map Action.describe).getD "None" ++ ", " ++ p.describe ++ "))"

/-- Steps written as a list. -/
def describeSteps (steps : List Step) : String :=
  "[" ++ ", ".intercalate (steps.map Step.describe) ++ "]"

/-- The data a command line runs its commands with: the grammar, the rule and
the whole recognition, then, when they were said, the value of the chunks
(`app`: the steps of each chunk) and that of the literal identifier
(`literal`), each as it writes itself. -/
def commandLineData (ss : List Source) (t : Tree) : Data :=
  let rule := "VimCommand(VimCommand)"
  let base := Data.ofRule "vim" rule (nodeText rule t.words)
  match t.inner.parts with
  | [app, lit] =>
    let chunks : Data := match app.present?, lineChunks ss t.words app with
      | some _, .ok cs => [("app", .object ("[" ++ ", ".intercalate (cs.map describeSteps) ++ "]"))]
      | _, _ => []
    let literal : Data := match lit.present?, literalPart lit with
      | some _, .ok l => [("literal", .object (describeSteps l))]
      | _, _ => []
    base ++ chunks ++ literal
  | _ => base

/-- What the mapping rules do when said on their own: their action, if their
value is one. -/
def standalone (ss : List Source) (name : String) (t : Tree) : Option Action :=
  if name = insertModes.name then some (insertModes.bound t)
  else if name = keyInsertions.name then some (keyInsertions.bound t)
  else if name = arithmetic.name then some (arithmetic.bound t)
  else if name = spellings.name then some (.text (spellings.valueOr t ""))
  else if name = motions.name then some (motions.bound t)
  else if name = uncountedMotions.name then some (uncountedMotions.bound t)
  else if name = operators.name then some (operators.bound t)
  else if name = doubledOperators.name then some (doubledAction t)
  else if name = plainCommands.name then
    match plainCommands.choose t with
    | some (some a, d) => some (.bound a d)
    | _ => none
  else
    (ss.findSome? fun
      | .static m => if m.name = name then some (m.bound t) else none
      | _ => none)

/-- What the grammar does with a recognition by one of its rules. -/
def perform (ss : List Source) (r : Rule) (t : Tree) : Trace :=
  if r.name = (commandLineRule ss).name then
    match commandLine ss t with
    | .ok steps => runSteps (commandLineData ss t) steps [] {}
    | .error f => { fault := some f }
  else
    match standalone ss r.name t with
    | some a => a.perform Data.base
    | none => {}

/-- The editor grammar with a set of vocabularies. -/
def grammar (v : Vocabularies) : CommandGrammar Unit :=
  let ss := sources v
  { rules := rules ss, perform := fun r t _ => (perform ss r t, ()) }

end VoiceCommands.Vim
