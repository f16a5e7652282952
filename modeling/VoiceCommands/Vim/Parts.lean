import VoiceCommands.Recognition.Grammar
import VoiceCommands.Recognition.Alphabet
import VoiceCommands.Vocabulary.Basic

/-!
# The modal editor grammar: its vocabulary

The editor grammar lets one utterance chain normal-mode commands and text
insertions.  This module holds its fixed vocabulary, as mappings from spoken
specifications to what they stand for:

* letters and counts (`letters`, `count`);
* the ways into insert mode (`insertModes`) and the keys, spelled characters
  and operators that can be inserted (`keyInsertions`, `spellings`,
  `arithmetic`);
* motions (`motions`, `uncountedMotions`, `motionTargets`), operators
  (`operators`, `doubledOperators`) and plain commands (`plainCommands`).

Most values are actions.  A few are text joined into larger commands (the
letter of a motion target), and two stand for behaviour decided later: a
doubled comment operator (`none` in `doubledOperators`) and macro replay
(`none` in `plainCommands`).
-/

namespace VoiceCommands.Vim

open Recognition

/-- The key that starts plugin commands. -/
def leader : String := "comma"

/-- A spoken count: one or two digit words. -/
def count : Element := .named "count" .digits (digitsElement 1 (some 3))

/-- The value of a count that may have been spoken (the tree of an optional
count). -/
def countOf (t : Tree) : Option Nat := t.present?.map fun c => digitsValue c.words

/-- The free dictation of an identifier. -/
def dictation : Element := .named "dictation" .dictation .dictation

/-- Letters by their spelling words. -/
def letters : Mapping String :=
  { name := "LetterMapping", grammar := "vim", kind := "LetterMapping", entries := letterWords
    extras := [], defaults := [] }

/-- The ways into insert mode. -/
def insertModes : Mapping Action :=
  { name := "InsertModeEntry", grammar := "vim", kind := "InsertModeEntry"
    entries := [("inns", .key "i"), ("syn", .key "a"), ("phyllo", .key "o"),
                ("phyhigh", .key "O")]
    extras := [], defaults := [] }

/-- Keys inserted a counted number of times. -/
def keyInsertions : Mapping Action :=
  { name := "KeyInsertion", grammar := "vim", kind := "KeyInsertion"
    entries := [("ace [<count>]", .key "space:%(count)d"), ("tab [<count>]", .key "tab:%(count)d"),
                ("slap [<count>]", .key "enter:%(count)d"), ("chuck [<count>]", .key "del:%(count)d"),
                ("scratch [<count>]", .key "backspace:%(count)d"), ("ack", .key "escape")]
    extras := [("count", count)]
    defaults := [("count", .int 1)] }

/-- Spelled digits (`dig` and the digit's word) and letters, typed as text. -/
def spellings : Mapping String :=
  { name := "SpellingInsertion", grammar := "vim", kind := "SpellingInsertion"
    entries := digitNames.map (fun (w, d) => ("dig " ++ w, d)) ++ letterWords
    extras := [], defaults := [] }

/-- Operators typed with a trailing space. -/
def arithmetic : Mapping Action :=
  { name := "ArithmeticInsertion", grammar := "vim", kind := "ArithmeticInsertion"
    entries := [("assign", .text "= "), ("compare eek", .text "== "),
                ("compare not eek", .text "!= "), ("compare greater", .text "> "),
                ("compare less", .text "< "), ("compare geck", .text ">= "),
                ("compare lack", .text "<= "), ("bit ore", .text "| "), ("bit and", .text "& "),
                ("bit ex or", .text "^ "), ("times", .text "* "), ("divided", .text "/ "),
                ("plus", .text "+ "), ("minus", .text "- "), ("plus equal", .text "+= "),
                ("minus equal", .text "-= "), ("times equal", .text "*= "),
                ("divided equal", .text "/= "), ("mod equal", .text "%%= ")]
    extras := [], defaults := [] }

/-- A motion that jumps with the leader key. -/
def leaderMotion (keys : String) : Action := .key (leader ++ ":2, " ++ keys)

/-- Motions that can take a count. -/
def motions : Mapping Action :=
  { name := "PrimitiveMotion", grammar := "vim", kind := "PrimitiveMotion"
    entries :=
      [("up", .text "k"), ("down", .text "j"), ("left", .text "h"), ("right", .text "l"),
       ("lope", .text "b"), ("yope", .text "w"), ("elope", .text "ge"), ("iyope", .text "e"),
       ("lopert", .text "B"), ("yopert", .text "W"), ("elopert", .text "gE"),
       ("eyopert", .text "E"),
       ("apla", .text "\x7b"), ("anla", .text "\x7d"), ("sapla", .text "("),
       ("sanla", .text ")"),
       ("care", .text "^"), ("hard care", .text "0"), ("doll", .text "$"),
       ("screecare", .text "g^"), ("screedoll", .text "g$"),
       ("scree up", .text "gk"), ("scree down", .text "gj"),
       ("wynac", .text "G"), ("wynac top", .text "H"), ("wynac toe", .text "L"),
       ("calalope", .text ",b"), ("calayope", .text ",w"), ("end calayope", .text ",e"),
       ("inner calalope", .text "i,b"), ("inner calayope", .text "i,w"),
       ("inner end calayope", .text "i,e"),
       ("easy lope", leaderMotion "b"), ("easy yope", leaderMotion "w"),
       ("easy elope", leaderMotion "g, e"), ("easy iyope", leaderMotion "e"),
       ("easy lopert", leaderMotion "B"), ("easy yopert", leaderMotion "W"),
       ("easy elopert", leaderMotion "g, E"), ("easy eyopert", leaderMotion "E"),
       ("inner (lope | yope)", .text "iw"), ("outer (lope | yope)", .text "aw"),
       ("inner (lopert | yopert)", .text "iW"), ("outer (lopert | yopert)", .text "aW")]
    extras := [], defaults := [] }

/-- Motions that take no count. -/
def uncountedMotions : Mapping Action :=
  { name := "UncountedMotion", grammar := "vim", kind := "UncountedMotion"
    entries := [("tect", .text "%%"), ("matu", .text "M")]
    extras := [], defaults := [] }

/-- Motions to a letter: the motion key, followed by the spelled letter. -/
def motionTargets : Mapping String :=
  { name := "MotionParameterMotion", grammar := "vim", kind := "MotionParameterMotion"
    entries := [("phytic", "f"), ("fitton", "F"), ("pre phytic", "t"), ("pre fitton", "T")]
    extras := [], defaults := [] }

/-- The spoken operators with their keys. -/
def operatorKeys : List (String × String) :=
  [("relo", ""), ("dell", "d"), ("chaos", "c"), ("nab", "y"), ("swap case", "g~"),
   ("uppercase", "gU"), ("lowercase", "gu"), ("external filter", "!"),
   ("external format", "="), ("format text", "gq"), ("rotate thirteen", "g?"),
   ("indent left", "<"), ("indent right", ">"), ("define fold", "zf")]

/-- Operators, waiting for a motion; `comm nop` toggles comments. -/
def operators : Mapping Action :=
  { name := "PrimitiveOperator", grammar := "vim", kind := "PrimitiveOperator"
    entries := operatorKeys.map (fun (w, k) => (w, .text k)) ++ [("comm nop", .text "gc")]
    extras := [], defaults := [] }

/-- Operators said twice, acting on counted lines.  The comment operator
(`none`) is typed by the command itself, as its count changes the keys. -/
def doubledOperators : Mapping (Option Action) :=
  { name := "OperatorSelfApplication", grammar := "vim", kind := "OperatorSelfApplication"
    entries := operatorKeys.map (fun (w, k) =>
        (w ++ " [<count>] " ++ w, some (.text (k ++ "%(count)d" ++ k)))) ++
      [("comm nop [<count>] comm nop", none)]
    extras := [("count", count)]
    defaults := [("count", .int 1)] }

/-- Commands on their own; `ripple` (`none`) replays the macro of a register. -/
def plainCommands : Mapping (Option Action) :=
  { name := "PrimitiveCommand", grammar := "vim", kind := "PrimitiveCommand"
    entries := [("vim scratch", some (.key "X")), ("vim chuck", some (.key "x")),
                ("vim undo", some (.key "u")), ("plap", some (.key "P")),
                ("plop", some (.key "p")), ("ditto", some (.text ".")), ("ripple", none)]
    extras := [], defaults := [] }

end VoiceCommands.Vim
