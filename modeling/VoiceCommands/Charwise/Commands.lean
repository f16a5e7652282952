import VoiceCommands.Charwise.Keys
import VoiceCommands.Session

/-!
# The character-wise grammar

One utterance strings together up to nineteen keys, named commands and
continued phrases, may end with a phrase or an application launch, and may
then ask for earlier work to be repeated:

    fan-tar-chee double control share camel my name repeat last

* `rules`: the rules, in the order they are tried; the first,
  `CharwiseVimRule`, takes a whole line.
* `Line`, `readLine`: what a recognized line asks for.  Reading a phrase can
  fail (a style given no words), which stops the utterance before anything
  is sent.
* `Memory`: the actions of the last line that did something, replayed whole
  by `repeat chunk` or in part (its last action) by `repeat last`.  Before
  anything was said it holds one empty text.
* `grammar`: the grammar, threading `Memory` through the utterances, for a
  reading of the clock (one command types the time).
-/

namespace VoiceCommands.Charwise

open Recognition Formatting

/-- The word that ends a continued phrase. -/
def continuationWord : String := "fan-tar-chee"

/-- The free dictation of a phrase. -/
def dictation : Element := .named "dictation" .dictation .dictation

/-- The specification of a phrase command. -/
def phraseSpec : String :=
  "[upper | natural] ( proper | camel | relpath | abs-path | score " ++
  "| sentence | spay-tince | scope-resolve | jumble | dotway " ++
  "| spineway | natway | spaceway | spayway | snakeway " ++
  "| brooding-narrative | title | params ) " ++
  "[<dictation>]"

/-- A phrase ending the line. -/
def phraseRule : Rule :=
  ⟨"TextRule", specElement [("dictation", dictation)] phraseSpec, true⟩

/-- A phrase followed by the continuation word, so that more can follow. -/
def continuedPhraseRule : Rule :=
  ⟨"ContinuableTextRule",
   specElement [("dictation", dictation)] (phraseSpec ++ " " ++ continuationWord), true⟩

/-- An application launch. -/
def launchRule : Rule :=
  ⟨"OpenAppRule", specElement [("dictation", dictation)] "open-app <dictation>", true⟩

/-- A request to repeat earlier work. -/
def repeatRule : Rule :=
  ⟨"RepeatLastRule", specElement [] "repeat chunk|repeat last", true⟩

/-- A key with optional repeat word and modifiers. -/
def modifiedKeyRule : Rule :=
  ⟨"ModifiableSingleKeyRule",
   .seq [.opt (.named "repeats" .plain keyRepeats.rule.ref),
         .opt (.named "modifiers" .plain (.rep modifierKeys.rule.ref 1 6)),
         .named "SingleKeyRule" .plain singleKeys.rule.ref], true⟩

section
variable (now : String)

/-- A whole line, with the clock reading `now`. -/
def lineRule : Rule :=
  ⟨"CharwiseVimRule",
   .seq [.opt (.word continuationWord),
         .opt (.named "repeated_rules" .plain
           (.rep (.alt [modifiedKeyRule.ref, (commands now).rule.ref, continuedPhraseRule.ref]) 1 18)),
         .opt (.named "ending_rules" .plain (.alt [phraseRule.ref, launchRule.ref])),
         .opt (.named "repeat_last_rule" .plain (.rep repeatRule.ref 1 18))], true⟩

/-- The rules of the grammar, in the order they are tried. -/
def rules : List Rule :=
  [lineRule now, modifiedKeyRule, keyRepeats.rule, modifierKeys.rule, singleKeys.rule,
   (commands now).rule, continuedPhraseRule, phraseRule, launchRule, repeatRule]

end

/-! ## Reading a line -/

/-- The key press of a recognized key with its repeat word and modifiers. -/
def modifiedKeyAction (t : Tree) : Action :=
  match t.inner.parts with
  | [r, m, k] =>
    let times := (r.present?.map fun x => keyRepeats.valueOr x 1).getD 1
    let modifiers := match m.present?.map Tree.body with
      | some (.rep items) => String.join (items.map fun x => modifierKeys.valueOr x "")
      | _ => ""
    keyPress times modifiers (singleKeys.valueOr k "")
  | _ => .idle

section
variable (now : String)

/-- The action of one of the repeated parts of a line. -/
def partAction : Tree → Except Fault Action
  | .alt 0 t => .ok (modifiedKeyAction t)
  | .alt 1 t => .ok ((commands now).bound t)
  | .alt _ t => WordsRule.continuedPhrase.action (spokenValues t.words)
  | _ => .ok .idle

/-- The action ending a line. -/
def endingAction : Tree → Except Fault Action
  | .alt 0 t => WordsRule.phrase.action (spokenValues t.words)
  | .alt _ t => WordsRule.launcher.action (spokenValues t.words)
  | _ => .ok .idle

end

/-- What is repeated: the whole last chunk of work, or its last action. -/
inductive Replay where
  | chunk
  | last
  deriving Repr, DecidableEq, Inhabited

/-- What a line asks for: actions to run now, then replays. -/
structure Line where
  actions : List Action
  replays : List Replay

section
variable (now : String)

/-- The actions of the repeated parts of a line, in order. -/
def readParts (repeated : Tree) : Except Fault (List Action) :=
  match repeated.present?.map Tree.body with
  | some (.rep items) => items.mapM (partAction now)
  | _ => pure []

end

/-- The action ending a line, if there is one. -/
def readEnding (ending : Tree) : Except Fault (List Action) :=
  match ending.present? with
  | some e => (fun a => [a]) <$> endingAction e.body
  | none => pure []

/-- The replays asked for at the end of a line. -/
def readReplays (again : Tree) : List Replay :=
  match again.present?.map Tree.body with
  | some (.rep items) => items.map fun x =>
      match x.choice? with
      | some (0, _) => Replay.chunk
      | _ => Replay.last
  | _ => []

/-- Reads a recognized line. -/
def readLine (now : String) (t : Tree) : Except Fault Line :=
  match t.inner.parts with
  | [_, repeated, ending, again] => do
    let parts ← readParts now repeated
    let last ← readEnding ending
    return ⟨parts ++ last, readReplays again⟩
  | _ => .ok ⟨[], []⟩

/-! ## Running a line -/

/-- The actions of the last line that did something. -/
structure Memory where
  lastChunk : List Action

/-- The memory before anything was said: one empty text. -/
def Memory.initial : Memory := ⟨[.text ""]⟩

/-- The action a replay runs. -/
def Memory.replay (m : Memory) : Replay → Action
  | .chunk => .series m.lastChunk
  | .last => m.lastChunk.getLastD .idle

/-- Runs a line: its actions, each on its own with no data, remembered if
there are any; then its replays, which already see this line's actions. -/
def runLine (l : Line) (m : Memory) : Trace × Memory :=
  let (trace, m') := if l.actions.isEmpty then (({} : Trace), m)
    else (Action.execEach l.actions [] {}, ⟨l.actions⟩)
  (l.replays.foldl (fun tr r => (m'.replay r).run tr) trace, m')

section
variable (now : String)

/-- What the grammar does with a recognition: only whole lines act; the
other rules, said on their own, do nothing. -/
def perform (r : Rule) (t : Tree) (m : Memory) : Trace × Memory :=
  if r.name = (lineRule now).name then
    match readLine now t with
    | .ok l => runLine l m
    | .error f => ({ fault := some f }, m)
  else ({}, m)

/-- The character-wise grammar, with the clock reading `now` whenever it is
read. -/
def grammar : CommandGrammar Memory :=
  { rules := rules now, perform := perform now }

end

end VoiceCommands.Charwise
