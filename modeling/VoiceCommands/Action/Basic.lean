import VoiceCommands.Fault
import VoiceCommands.Value
import VoiceCommands.Action.Interpolate

/-!
# Actions

An action is what a recognized command does: it presses keys, types text,
clicks the mouse or pauses.  Running an action produces a list of `Record`s,
one per event sent to the machine being controlled.

* `Action`: single events, series, repetitions and actions bound to data.
* `Action.describe`: how an action writes itself out, e.g. in the message of
  a repetition that failed.
* `Action.exec`: running an action; a run stops at the first `Fault`.

The specification of an event may refer to named values of the recognition
(`Key('up:%(n)d')`, see `VoiceCommands.Action.Interpolate`).  An event whose
specification has no `%`, or that was made *static*, is sent as written.
Otherwise, when it runs with a non-empty data dictionary its specification
is interpolated; if that fails the event is recorded as `failed` with its raw
specification, and the event reports the failure to what ran it: a series
stops there, and a repetition stops with a fault.  An event with a missing
specification is sent as missing when it runs without data, and fails with
data.
-/

namespace VoiceCommands

open Text

/-- The channel an event goes to. -/
inductive Output where
  | key
  | text
  | mouse
  | pause
  deriving Repr, DecidableEq, Inhabited

/-- The name of a channel, as used in records. -/
def Output.name : Output → String
  | .key => "key"
  | .text => "text"
  | .mouse => "mouse"
  | .pause => "pause"

/-- The class of the events of a channel, as actions write themselves. -/
def Output.className : Output → String
  | .key => "Key"
  | .text => "Text"
  | .mouse => "Mouse"
  | .pause => "Pause"

/-- The bookkeeping entries every rule adds to its data dictionary, when
they are not written out. -/
def Data.base : Data := [("_grammar", .other), ("_rule", .other), ("_node", .other)]

/-- Words written as a list of quoted words. -/
def wordsRepr (words : List String) : String := "[" ++ ", ".intercalate (words.map quote) ++ "]"

/-- How a node of a recognition writes itself: the element that took the
words, and the words. -/
def nodeText (element : String) (words : List String) : String :=
  "Node: " ++ element ++ ", " ++ wordsRepr words

/-- The bookkeeping entries of a recognition by a rule of a grammar: the
grammar, the rule and the node of the recognition, each as it writes
itself. -/
def Data.ofRule (grammar rule node : String) : Data :=
  [("_grammar", .object ("Grammar(" ++ grammar ++ ")")), ("_rule", .object rule),
   ("_node", .object node)]

/-- An action. -/
inductive Action where
  /-- Sends one event described by a specification (possibly missing); a
  static event is sent as written. -/
  | send (out : Output) (spec : Option String) (static : Bool)
  /-- Runs the parts one after the other, stopping after a part that reports
  a failure. -/
  | series (parts : List Action)
  /-- Runs the body the given number of times. -/
  | repeated (body : Action) (times : Nat)
  /-- Runs the body with its own data, whatever data it is run with. -/
  | bound (body : Action) (data : Data)
  /-- Does nothing. -/
  | idle
  /-- A value of the given type that is not an action: running it fails. -/
  | inert (typeName : String)
  deriving Repr, Inhabited

/-- An event with a specification given as text: it is static when the
specification has no `%`. -/
def Action.event (out : Output) (spec : String) : Action :=
  .send out (some spec) (!spec.contains '%')

/-- An event made from a loosely typed specification, as the event classes
make it: a missing specification is kept as missing; text is static when
asked or when it has no `%`; any other value has no `find` and is refused. -/
def Action.ofSpec (out : Output) (spec : Value) (static : Bool) : Except Fault Action :=
  match spec with
  | .none => .ok (.send out none static)
  | .str s => .ok (.send out (some s) (static || !s.contains '%'))
  | v => .error (.missingAttribute v.typeName "find")

/-- A key press specification. -/
def Action.key (spec : String) : Action := .event .key spec

/-- Typed text. -/
def Action.text (spec : String) : Action := .event .text spec

/-- A mouse action. -/
def Action.mouse (spec : String) : Action := .event .mouse spec

/-- A pause. -/
def Action.pause (spec : String) : Action := .event .pause spec

mutual
/-- How an action writes itself out: an event as its class with its quoted
specification (marked `dynamic` unless static; nothing when it is missing), a
series as the list of its parts, a repetition as `{body}times`, an action
bound to data with the data. -/
def Action.describe : Action → String
  | .send out (some spec) static =>
    out.className ++ "(" ++ quote spec ++ (if static then "" else ", dynamic") ++ ")"
  | .send out none _ => out.className ++ "()"
  | .series parts => "ActionSeries(" ++ Action.describeAll parts ++ ")"
  | .repeated body n => "\x7b" ++ body.describe ++ "\x7d" ++ toString n
  | .bound body d => "BoundAction(" ++ body.describe ++ ", " ++ (d.repr?.getD "\x7b\x7d") ++ ")"
  | .idle => "NoAction()"
  | .inert _ => "None"
/-- Actions written out and separated by commas. -/
def Action.describeAll : List Action → String
  | [] => ""
  | [a] => a.describe
  | a :: as => a.describe ++ ", " ++ Action.describeAll as
end

/-- Actions written out as a list. -/
def describeList (as : List Action) : String := "[" ++ Action.describeAll as ++ "]"

/-- Runs `a` and then `b` (parts of series are kept flat). -/
def Action.andThen (a b : Action) : Action :=
  match a with
  | .series ps => .series (ps ++ [b])
  | _ => .series [a, b]

instance : Append Action := ⟨Action.andThen⟩

/-- One event as it reached the machine. -/
inductive Record where
  /-- An event sent on a channel with its final specification (possibly
  missing). -/
  | sent (out : Output) (text : Option String)
  /-- An event whose specification could not be interpolated. -/
  | failed (out : Output) (spec : Option String)
  deriving Repr, DecidableEq, Inhabited

/-! ## Running actions -/

/-- The state of a run: the events so far and the fault that stopped it. -/
structure Trace where
  records : List Record := []
  fault : Option Fault := none
  deriving Repr, Inhabited

/-- Adds an event to a trace. -/
def Trace.push (t : Trace) (r : Record) : Trace := { t with records := t.records ++ [r] }

/-- Stops a trace with a fault. -/
def Trace.stop (t : Trace) (f : Fault) : Trace := { t with fault := some f }

/-- The record of one event run with `data`.  A static event is sent as
written, and so is any event run without data; otherwise the specification
is interpolated.  A missing specification is sent as missing by an event run
without data, static or not, and fails with data, where it cannot be looked
into for a conversion. -/
def sendRecord (out : Output) (spec : Option String) (static : Bool) (data : Data) : Record :=
  match spec with
  | none => if data.isEmpty then .sent out none else .failed out none
  | some s =>
    if static ∨ data.isEmpty then .sent out spec
    else match interpolate s data with
      | some t => .sent out (some t)
      | none => .failed out spec

/-- Runs a step `n` times, stopping at a fault; a step that reports a
failure stops the run with the fault `f`. -/
def repeatSteps (step : Trace → Trace × Bool) (f : Fault) : Nat → Trace → Trace
  | 0, t => t
  | n + 1, t =>
    let (t', failed) := step t
    if t'.fault.isSome then t' else if failed then t'.stop f else repeatSteps step f n t'

mutual
/-- Runs an action with a data dictionary, extending a trace; the result
also says whether the action reported a failure (only an event that could not
be sent reports one: a series, a repetition and an action bound to data run
their parts but report none).  A stopped trace is left unchanged.  A
repetition whose body reports a failure stops with a fault naming the
repetition. -/
def Action.exec : Action → Data → Trace → Trace × Bool
  | .send out spec static, data, t =>
    if t.fault.isSome then (t, false)
    else
      let r := sendRecord out spec static data
      (t.push r, match r with | .failed _ _ => true | .sent _ _ => false)
  | .series parts, data, t => (Action.execSeries parts data t, false)
  | .repeated body n, data, t =>
    (repeatSteps (fun t => Action.exec body data t)
      (.actionFailed (Action.repeated body n).describe) n t, false)
  | .bound body d, _, t => ((Action.exec body d t).1, false)
  | .idle, _, t => (t, false)
  | .inert ty, _, t => (if t.fault.isSome then t else t.stop (.missingAttribute ty "execute"), false)
/-- Runs the parts of a series in order, stopping after one that reports a
failure, and at a part that is not an action (which the series cannot run,
and passes over without a fault). -/
def Action.execSeries : List Action → Data → Trace → Trace
  | [], _, t => t
  | .inert _ :: _, _, t => t
  | a :: as, data, t =>
    let (t', failed) := Action.exec a data t
    if failed then t' else Action.execSeries as data t'
end

/-- Runs actions one after the other, each whatever the one before reported
(a run stops only at a fault). -/
def Action.execEach : List Action → Data → Trace → Trace
  | [], _, t => t
  | a :: as, data, t => Action.execEach as data (Action.exec a data t).1

/-- The events of an action run on its own with a data dictionary. -/
def Action.perform (a : Action) (data : Data) : Trace := (a.exec data {}).1

/-- Runs an action with no data. -/
def Action.run (a : Action) (t : Trace) : Trace := (a.exec [] t).1

end VoiceCommands
