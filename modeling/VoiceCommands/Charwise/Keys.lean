import VoiceCommands.Recognition.Grammar
import VoiceCommands.Value
import VoiceCommands.Formatting.Spoken

/-!
# The character-wise grammar: keys and commands

The character-wise grammar types one key at a time, with modifiers and
repeats, and offers a table of named commands.  This module holds its
vocabulary:

* `singleKeys`: every key that can be typed on its own, by its spoken
  specifications (letters have their own short words, chosen to be told
  apart easily);
* `modifierKeys`, `keyRepeats`: the modifiers and the repeat words that may
  come before a key;
* `keyPress`, `modifiedKey`: the action of a key with its modifiers and
  repeat count, including when the parts are given loosely typed;
* `commands`: named commands (editor shortcuts, typed operators, keywords),
  given the time the clock reads, which one of them types.
-/

namespace VoiceCommands.Charwise

open Recognition Formatting

/-- The words of the letters. -/
def letterKeys : List (String × String) :=
  [("share", "a"), ("bat", "b"), ("cot", "c"), ("drum", "d"), ("each", "e"), ("fine", "f"),
   ("gust", "g"), ("harp", "h"), ("site", "i"), ("jury", "j"), ("crunch", "k"),
   ("look", "l"), ("made", "m"), ("need", "n"), ("odd", "o"), ("paint", "p"),
   ("quest", "q"), ("red", "r"), ("sun", "s"), ("trap", "t"), ("urge", "u"),
   ("vote", "v"), ("whale", "w"), ("plex", "x"), ("yes", "y"), ("zeal", "z")]

/-- The symbols, brackets, quotes and white space keys. -/
def symbolKeys : List (String × String) :=
  [("(left (paren|parenthesis)|push)", "lparen"), ("(right (paren|parenthesis)|pop)", "rparen"),
   ("left square|lacket", "lbracket"), ("right square|racket", "rbracket"),
   ("left brace|lace", "lbrace"), ("right brace|race", "rbrace"),
   ("less than|left angle|langle", "langle"), ("greater than|right angle|wrangle", "rangle"),
   ("(single|sing) quote", "squote"), ("(double|dub) quote", "dquote"),
   ("backtick", "backtick"), ("backslash", "backslash"), ("[forward] slash", "slash"),
   ("(exclamation [mark]|bang)", "exclamation"), ("at sign", "at"), ("hash", "hash"),
   ("dollar", "dollar"), ("percent", "percent"), ("caret", "caret"),
   ("ampersand", "ampersand"), ("(asterisk|aster)", "asterisk"),
   ("space", "space"), ("tab", "tab"), ("enter", "enter"),
   ("point", "dot"), ("comma", "comma"), ("question [mark]", "question"),
   ("underscore", "underscore"), ("dash", "minus"), ("ratio", "colon"), ("piper", "bar"),
   ("equals", "equal"), ("plus", "plus"), ("tilde", "tilde"), ("(semicolon|semi)", "semicolon")]

/-- Escape, deletion and cursor movement keys. -/
def specialKeys : List (String × String) :=
  [("escape", "escape"), ("(backspace|delete)", "backspace"), ("gup", "up"),
   ("down", "down"), ("left", "left"), ("right", "right"), ("page up", "pgup"),
   ("page down", "pgdown"), ("home", "home"), ("end", "end")]

/-- The digit keys. -/
def digitKeys : List (String × String) :=
  [("zero", "0"), ("one", "1"), ("two", "2"), ("three", "3"), ("four", "4"), ("five", "5"),
   ("six", "6"), ("seven", "7"), ("eight", "8"), ("(niner|nine)", "9")]

/-- Every key that can be typed on its own. -/
def singleKeys : Mapping String :=
  { name := "SingleKeyRule", grammar := "charwise_vim", kind := "SingleKeyRule"
    entries := letterKeys ++ symbolKeys ++ specialKeys ++ digitKeys
    extras := [], defaults := [] }

/-- The modifiers, by the letters that name them in a key specification. -/
def modifierKeys : Mapping String :=
  { name := "ModifierKeyRule", grammar := "charwise_vim", kind := "ModifierKeyRule"
    entries := [("(shift|big)", "s"), ("(control|con)", "c"), ("alter", "a"),
                ("(windows|command|apple)", "w"), ("mash mod", "csw")]
    extras := [], defaults := [] }

/-- Words repeating a key. -/
def keyRepeats : Mapping Nat :=
  { name := "KeyRepeatRule", grammar := "charwise_vim", kind := "KeyRepeatRule"
    entries := [("double", 2), ("triple", 3), ("quadruple", 4)]
    extras := [], defaults := [] }

/-- A key pressed `times` times (none if `times` is not positive), with
modifiers (letters such as `cs`) when there are any. -/
def keyPress (times : Int) (modifiers key : String) : Action :=
  .repeated (.key (if modifiers.isEmpty then key else modifiers ++ "-" ++ key)) times.toNat

/-- A repeat count given loosely: a false value means once, a number (or
true) is a count, anything else is refused. -/
def pressCount (v : Value) : Except Fault Int :=
  if !v.truthy then .ok 1
  else
    match v with
    | .int n => .ok n
    | .bool _ => .ok 1
    | _ => .error (.badMultiplier v.repr)

/-- The key press described by loosely given parts, read by position: the
repeat count, the modifiers and the key.  The modifiers (nothing for a false
value) are joined; with modifiers the key is written after them, otherwise
the key itself is the specification, which must be text or missing.  The
count is checked last, when the press is repeated. -/
def modifiedKey (values : Value) : Except Fault Action := do
  let r ← values.item 0
  let m ← values.item 1
  let modifiers ← if m.truthy then joinValues "" m else pure ""
  let k ← values.item 2
  let spec : Value := if modifiers.isEmpty then k else .str (modifiers ++ "-" ++ k.show)
  let press ← Action.ofSpec .key spec false
  let times ← pressCount r
  return .repeated press times.toNat

/-- Actions run one after the other, each on its own with no data, as a
function that executes them one by one runs them: one that fails does not
hold back the next. -/
def runEachAlone (as : List Action) : Action := .series (as.map (.bound · []))

section
variable (now : String)

/-- Completes a line of notes: cuts the line, moves down the list and pastes
it there after the time `now`, as the clock writes it. -/
def completeNoteLine : Action :=
  runEachAlone [.key "w-right,ws-left,w-x,backspace", .key "w-down, asterisk, space",
    .text now, .key "space, w-v", .pause "40", .key "w-up"]

/-- Named commands, with the clock reading `now`. -/
def commands : Mapping Action :=
  { name := "SimpleCommandRule", grammar := "charwise_vim", kind := "SimpleCommandRule"
    entries :=
      [("click left", .mouse "left"), ("click right", .mouse "right"),
       ("align (par|paragraph)", .text "gwip"),
       ("quit", .series [.key "escape", .pause "20"]),
       ("save file", .key "escape,colon,w,enter"), ("exit", .key "colon,q,enter"),
       ("force save", .key "escape,colon,w,exclamation,enter"),
       ("save exit", .key "escape,colon,w,q,enter"),
       ("save all", .key "escape,colon,w,a,enter"),
       ("move line up", .text "ddkP"), ("move line down", .text "ddp"),
       ("change word", .text "ciw"), ("switch split", .key "c-w,c-w"),
       ("(jump deaf|jump to definition)", .key "c-rbracket"), ("jump back", .key "c-t"),
       ("find (action|actions)", .key "ws-a"), ("find (usages|uses)", .key "a-f7"),
       ("find (subclasses|subclass)", .key "wa-b"), ("find in superclass", .key "w-u"),
       ("find in (path|files)", .key "ws-f"), ("do rename", .key "s-f6"),
       ("next error", .key "f2"), ("previous error", .key "s-f2"),
       ("toggle breakpoint", .key "w-f8"), ("file structure", .key "w-f12"),
       ("mac delete line", .key "w-right,ws-left,w-x,backspace"),
       ("mac line up", .key "w-right,ws-left,w-x,backspace,w-left,w-v,enter,up,w-right"),
       ("mac line down", .key "w-right,ws-left,w-x,backspace,down,w-right,enter,w-v"),
       ("mac copy all", .key "w-a,w-c"), ("mac cut all", .key "w-a,w-x"),
       ("notes complete line", completeNoteLine now),
       ("win copy all", .key "c-a,c-c,right"), ("win cut all", .key "c-a,c-x,right"),
       ("switch panes", .key "c-s,semicolon,c-s,z"),
       ("compare equal", .text " == "), ("compare not equal", .text " != "),
       ("compare greater", .text " > "), ("compare less", .text " < "),
       ("compare greater equal", .text " >= "), ("compare less equal", .text " <= "),
       ("boolean or", .text " || "), ("boolean and", .text " && "),
       ("bitwise or", .text " | "), ("bitwise and", .text " & "),
       ("bitwise ex or", .text " ^ "), ("math times", .text " * "),
       ("math divide", .text " / "), ("math add", .text " + "), ("math minus", .text " - "),
       ("set value", .text " = "), ("set plus equal", .text " += "),
       ("set minus equal", .text " -= "), ("set times equal", .text " *= "),
       ("set divided equal", .text " /= "),
       ("key class", .text "class"), ("key fun", .text "fun"), ("key end", .text "end"),
       ("key function", .text "function"), ("key const", .text "const"),
       ("key let", .text "let"), ("key var", .text "var"), ("key val", .text "val"),
       ("key bool", .text "bool"), ("key boolean", .text "boolean"), ("key int", .text "int"),
       ("key module", .text "module"), ("key deaf", .text "def"), ("key null", .text "null"),
       ("key nil", .text "nil"), ("key for", .text "for"), ("key while", .text "while"),
       ("key if", .text "if"), ("key else", .text "else"), ("key do", .text "do"),
       ("key when", .text "when"), ("key case", .text "case"), ("key conned", .text "cond"),
       ("key return", .text "return"), ("key ee-lif", .text "elif"), ("key new", .text "new"),
       ("key this", .text "this"), ("key self", .text "self"), ("key true", .text "true"),
       ("key false", .text "false"), ("key try", .text "try"), ("key except", .text "except"),
       ("key catch", .text "catch"), ("key finally", .text "finally"),
       ("lamb dash", .text " -> "), ("lamb eek", .text " => "), ("back dash", .text " <- "),
       ("pie opper", .text "|> "), ("slash comment", .text "// "), ("pie dunder", .text "__"),
       ("short cat", .series [.key "ws-space", .pause "10"]), ("do pause", .pause "40"),
       ("spotlight", openLauncher), ("edit in vim", .key "w-a,w-c,wc-v"),
       ("open in new tab", .key "w-c,w-t,w-v,enter"),
       ("clipboard", openLauncher ++ .text "clipboard" ++ .key "enter"),
       ("clear notifications", openLauncher ++ .text "clear notifications" ++ .key "enter"),
       ("toggle music", openLauncher ++ .text "play" ++ .key "enter"),
       ("jupiter run all", .series [.key "ws-f", .pause "10",
          .text "restart kernel and run all cells", .key "down,down,enter"]),
       ("term to do", .text "TODO: "), ("term to do next", .text "TODO NEXT: "),
       ("term to do after", .text "TODO AFTER: "),
       ("term to do sometime", .text "TODO SOMETIME: "),
       ("term to do later", .text "TODO LATER: "), ("term to do last", .text "TODO LAST: "),
       ("term whip", .text "WIP "), ("term tea mucks", .text "tmux"), ("term vim", .text "vim"),
       ("term imple", .text "impl"), ("term git", .text "git"), ("term diff", .text "diff"),
       ("term grep", .text "grep"), ("term kotlin", .text "kotlin"),
       ("term python", .text "python"), ("term cat", .text "cat"),
       ("term upper jason", .text "JSON"), ("term jason", .text "json"),
       ("term in it", .text "init"), ("term sync", .text "sync")]
    extras := [], defaults := [] }

end

end VoiceCommands.Charwise
