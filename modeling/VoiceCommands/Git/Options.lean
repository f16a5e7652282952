import VoiceCommands.Action.Basic
import VoiceCommands.Value.Operations
import VoiceCommands.Vocabulary.Basic

/-!
# Spoken options of version control commands

A version control command is spoken as `git`, the command's name and its
options, each option said by a spoken *alias*.  A `Builder` collects the
options of one command, alias by alias; the first option given an alias keeps
it.

Most aliases are derived from the option itself (`smartPairs`):

* `.` is said `dot` or `point`;
* a run of dashes is said `dash` once per dash;
* an option with an optional part in brackets, `--[no-]progress`, stands for
  both options, `--no-progress` and `--progress` (the last bracketed part is
  expanded first);
* any other option is said by its letters and digits, with `slash` for `/`:
  `--set-upstream` is said `set upstream`.

`Builder.step` applies one building step and reports what it gave back; a
step given values of the wrong kind fails partway, keeping the options it
added before failing.
-/

namespace VoiceCommands.Git

open Text Vocabulary

/-- Whether a character is an ASCII letter or digit. -/
def isAsciiAlnum (c : Char) : Bool :=
  ('a' ≤ c ∧ c ≤ 'z') ∨ ('A' ≤ c ∧ c ≤ 'Z') ∨ ('0' ≤ c ∧ c ≤ '9')

/-- The alias of an option said letter by letter: `/` is said `slash` and
every other character that is not an ASCII letter or digit is a space. -/
def spokenAlias (option : String) : String :=
  let slashed := option.toList.flatMap fun c => if c = '/' then " slash ".toList else [c]
  String.ofList (slashed.map fun c => if isAsciiAlnum c then c else ' ')

/-- Whether an option is only dashes (possibly followed by one line break). -/
def isDashes (cs : List Char) : Bool :=
  let body := if cs.getLast? = some '\n' then cs.dropLast else cs
  !body.isEmpty && body.all (· = '-')

/-- Whether no line break lies among some characters. -/
def onOneLine (cs : List Char) : Bool := !cs.contains '\n'

/-- The optional part of an option starting with a dash: the positions of
its opening and closing brackets.  The opening bracket is the last one that
has a closing bracket after it on the same line, and the closing bracket the
last such one. -/
def optionalPart? (cs : List Char) : Option (Nat × Nat) :=
  match cs with
  | '-' :: _ =>
    let positions := (List.range cs.length).reverse
    let opens := positions.filter fun p =>
      1 ≤ p ∧ cs[p]? = some '[' ∧ onOneLine ((cs.take p).drop 1)
    opens.findSome? fun p =>
      let closes := positions.filter fun q =>
        p < q ∧ cs[q]? = some ']' ∧ onOneLine ((cs.take q).drop (p + 1))
      closes.head?.map fun q => (p, q)
  | _ => none

/-- The (alias, option) pairs an option stands for, in order.  `fuel` bounds
the number of bracket expansions; each removes at least two characters, so
the length of the option is enough. -/
def smartPairs : Nat → List Char → List (String × String)
  | 0, _ => []
  | fuel + 1, cs =>
    let s := String.ofList cs
    if s = "." then [("dot|point", s)]
    else if isDashes cs then [(String.join (List.replicate cs.length "dash "), s)]
    else
      match optionalPart? cs with
      | some (p, q) =>
        let before := '-' :: (cs.take p).drop 1
        smartPairs fuel (before ++ (cs.take q).drop (p + 1) ++ cs.drop (q + 1)) ++
          smartPairs fuel (before ++ cs.drop (q + 1))
      | none => [(spokenAlias s, s)]

/-- The (alias, option) pairs of an option. -/
def smartOption (option : String) : List (String × String) :=
  smartPairs (option.length + 1) option.toList

/-- The options of one command, as they are built. -/
structure Builder where
  /-- The command's name. -/
  name : String
  /-- How the command is said, as given: when it is true (not empty, zero or
  missing) it replaces the name, written out if it is not text. -/
  saidAs : Value
  /-- Options always given (left out when asking for help). -/
  baseOptions : List Action
  /-- Aliases with their options, in the order they were added. -/
  options : Entries
  deriving Inhabited

/-- What a building step gave back. -/
inductive Returned where
  /-- The builder, ready for more steps. -/
  | builder
  /-- Nothing: the alias was already taken. -/
  | nothing
  deriving Repr, DecidableEq, Inhabited

/-- Adds an option under an alias (stripped of surrounding blanks), after a
space if `space`; an alias already taken is left as it is. -/
def Builder.add (b : Builder) (said : String) (value : Action) (space : Bool) :
    Builder × Returned :=
  let key := strip said
  if b.options.any (·.1 = key) then (b, .nothing)
  else ({ b with options := b.options ++ [(key, if space then .text " " ++ value else value)] },
        .builder)

/-- Adds an option and its alias derived from it. -/
def Builder.addSmart (b : Builder) (option : String) (space : Bool) : Builder :=
  (smartOption option).foldl (fun b (a, o) => (b.add a (.text o) space).1) b

/-- Adds options with derived aliases, stopping at the first value that is
not text. -/
def Builder.addSmartAll (b : Builder) (space : Bool) : List Value → Builder × Option Fault
  | [] => (b, none)
  | .str s :: rest => (b.addSmart s space).addSmartAll space rest
  | v :: _ => (b, some (.notText v.typeName))

/-- The remotes every command that takes references knows. -/
def commonRemotes : List String := ["origin", "upstream"]

/-- The branches every command that takes references knows. -/
def commonBranches : List String := ["master", "develop", "HEAD"]

/-- Adds the common references: each remote's branches, the branches, the
remotes, the first stash and a fuzzy branch chooser. -/
def Builder.addCommonRefs (b : Builder) : Builder :=
  let refs := (commonRemotes.flatMap fun r => commonBranches.map fun br => r ++ "/" ++ br) ++
    commonBranches ++ commonRemotes
  let b := refs.foldl (fun b r => b.addSmart r true) b
  let b := (b.add "stash at [zero]" (.text "stash@\x7b0\x7d") true).1
  (b.add "select branch" (.text "`fbr`") true).1

/-- A building step. -/
inductive Step where
  /-- Options with derived aliases. -/
  | smartOptions (options : Value) (space : Bool)
  /-- One option under a given alias. -/
  | option (said : Value) (value : Action) (space : Bool)
  /-- The common references. -/
  | commonRefs

/-- Applies a step: the builder afterwards, and what the step gave back or
the fault that stopped it. -/
def Builder.step (b : Builder) : Step → Builder × Except Fault Returned
  | .smartOptions options space =>
    match options.elements with
    | .ok items =>
      match b.addSmartAll space items with
      | (b', none) => (b', .ok .builder)
      | (b', some f) => (b', .error f)
    | .error f => (b, .error f)
  | .option (.str said) value space =>
    let (b', r) := b.add said value space
    (b', .ok r)
  | .option v _ _ => (b, .error (.missingAttribute v.typeName "strip"))
  | .commonRefs => (b.addCommonRefs, .ok .builder)

/-- Applies steps in order, keeping what each gave back; a step that could
not be made fails with its fault and leaves the builder as it was. -/
def Builder.steps (b : Builder) :
    List (Except Fault Step) → Builder × List (Builder × Except Fault Returned)
  | [] => (b, [])
  | s :: rest =>
    let (b', r) := match s with
      | .ok step => b.step step
      | .error f => (b, .error f)
    let (final, results) := b'.steps rest
    (final, (b', r) :: results)

end VoiceCommands.Git
