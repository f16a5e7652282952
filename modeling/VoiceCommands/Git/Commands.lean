import VoiceCommands.Git.Catalogue
import VoiceCommands.Recognition.Grammar
import VoiceCommands.Session

/-!
# The version control grammar

A command line is `git`, a command with up to nine options, optionally
preceded by `cancel` (interrupting what runs) and followed by `enter` (running
the typed command):

    cancel git commit all amend enter

Asking for help (`git help log`) leaves the base options out.

* `Builder.rule`, `Builder.action`: the rule of one command and the text it
  types for a recognition.
* `lineRule`, `performLine`: a whole command line.
* `cancelKeys`, `enterKey`: the two rules that can also be said on their own.
* `moduleGrammar`: the grammar as loaded, where a command line cannot be said
  on its own (only `cancel` and `enter` can); `exportedGrammar`, where it can.
* `builderGrammar`: one command after `git`, for trying out a builder.
-/

namespace VoiceCommands.Git

open Recognition

/-- How a command is said: its alias when that is true, written out, or its
name. -/
def Builder.spoken (b : Builder) : String := if b.saidAs.truthy then b.saidAs.show else b.name

/-- The specification of a command: optional `help`, the command, its
options. -/
def Builder.spec (b : Builder) : String := "[help] (" ++ b.spoken ++ ") <options>"

/-- The options of a command, as a mapping from their aliases, in the
grammar called `grammar`. -/
def Builder.optionMapping (b : Builder) (grammar : String) : Mapping Action :=
  { name := b.name ++ "_options", entries := b.options, extras := [], defaults := [], grammar }

/-- The named parts of the specification of a command: up to nine options. -/
def Builder.extras (b : Builder) : List (String × Element) :=
  [("options", .named "options" .plain (.rep (b.optionMapping "").rule.ref 0 9))]

/-- The rule of a command. -/
def Builder.rule (b : Builder) : Rule := ⟨b.name, specElement b.extras b.spec, false⟩

/-- The text a recognized command of the grammar `grammar` types: `git`,
`help` if asked, the name, the base options unless asking for help, and the
spoken options. -/
def Builder.action (b : Builder) (grammar : String) (t : Tree) : Action :=
  match t.inner.parts with
  | [h, _, opts] =>
    let help := h.present?.isSome
    let spokenOptions := match opts.body with
      | .rep items => items.map (b.optionMapping grammar).bound
      | _ => []
    .series ([.text ("git " ++ (if help then "help " else "") ++ b.name)] ++
      (if help then [] else b.baseOptions) ++ spokenOptions)
  | _ => .idle

/-- Interrupts what runs. -/
def cancelKeys : Mapping Action :=
  { name := "cancel", entries := [("cancel [last]", .key "c-c")], extras := [], defaults := []
    grammar := "git" }

/-- Runs the typed command. -/
def enterKey : Mapping Action :=
  { name := "enter", entries := [("enter", .key "enter")], extras := [], defaults := []
    grammar := "git" }

/-- A whole command line over some commands. -/
def lineRule (bs : List Builder) (exported : Bool) : Rule :=
  ⟨"GitRule",
   .seq [.opt (.named "cancel" .plain cancelKeys.rule.ref), .word "git",
         .opt (.named "command_with_options" .plain
           (.alt (bs.map fun b => .named b.name .plain b.rule.ref))),
         .opt (.named "enter" .plain enterKey.rule.ref),
         .opt (.named "cancel" .plain cancelKeys.rule.ref)], exported⟩

/-- A recognized command line: the first `cancel` said, the command, then
`enter`, each run on its own with no data. -/
def performLine (bs : List Builder) (t : Tree) : Trace :=
  let cancel := (t.find? "cancel").map fun c => cancelKeys.bound c.body
  let command := (t.find? "command_with_options").bind fun c =>
    match c.body with
    | .alt i x => bs[i]?.map fun b => b.action "git" x.body
    | _ => none
  let enter := (t.find? "enter").map fun e => enterKey.bound e.body
  Action.execEach (cancel.toList ++ command.toList ++ enter.toList) [] {}

/-- What the grammar does with a recognition by one of its rules. -/
def perform (bs : List Builder) (r : Rule) (t : Tree) : Trace :=
  if r.name = "GitRule" then performLine bs t
  else if r.name = cancelKeys.name then (cancelKeys.bound t).perform Data.base
  else if r.name = enterKey.name then (enterKey.bound t).perform Data.base
  else {}

/-- The grammar of some commands, the command line exported or not. -/
def lineGrammar (bs : List Builder) (exported : Bool) : CommandGrammar Unit :=
  { rules := (if exported then [lineRule bs true] else []) ++ [cancelKeys.rule, enterKey.rule]
    perform := fun r t _ => (perform bs r t, ()) }

/-- The grammar as loaded: command lines cannot be said on their own. -/
def moduleGrammar : CommandGrammar Unit := lineGrammar catalogue false

/-- The grammar with command lines exported. -/
def exportedGrammar : CommandGrammar Unit := lineGrammar catalogue true

/-- The specification of a command said after `git`: a reference to the
command by its name (a command with no name is referred to as `None`). -/
def Builder.afterGit (b : Builder) : String :=
  "git <" ++ (if b.name.isEmpty then "None" else b.name) ++ ">"

/-- The fault of building the rules of a command to say it after `git`: the
first option alias that does not parse, then the command's specification,
then the specification that refers to the command. -/
def Builder.buildFault (b : Builder) : Option Fault :=
  let specFault (extras : List (String × Element)) (spec : String) : Option Fault :=
    match parseSpecWith extras spec with
    | .ok _ => none
    | .error e => some (.parse (e.message spec))
  let named := if b.name.isEmpty then [] else [(b.name, b.rule.ref)]
  (b.optionMapping "").specFault <|> specFault b.extras b.spec <|> specFault named b.afterGit

/-- One command after `git`, with no data, in a grammar called `grammar`. -/
def builderGrammar (grammar : String) (b : Builder) : CommandGrammar Unit :=
  { rules := [⟨"git " ++ b.name, .seq [.word "git", .named b.name .plain b.rule.ref], true⟩]
    perform := fun _ t _ =>
      let action := match t.find? b.name with
        | some c => b.action grammar c.body
        | none => .idle
      (action.run {}, ()) }

end VoiceCommands.Git
