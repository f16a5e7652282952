import VoiceCommands.Recognition.Grammar
import VoiceCommands.Session

/-!
# The window manager grammar

Commands for a tiling window manager, all pressed with the window key.  Most
start with one of the words `whim`, `notion` or `ion`; a screen or tag
number is a single spoken digit.  `change screen` may leave its number out,
and then its key cannot be written: the key is reported as failed.
-/

namespace VoiceCommands.WindowManager

open Recognition

/-- The window key. -/
def windowKey : String := "W"

/-- Window manager commands. -/
def commands : Mapping Action :=
  let cmd (spoken : String) (keys : String) : String × Action :=
    ("(whim | notion | ion) " ++ spoken, .key (windowKey ++ keys))
  { name := "Basics", grammar := "awesome", kind := "Basics"
    entries :=
      [("termie", .key (windowKey ++ "-enter")), cmd "screen" "c-k", cmd "up" "-k",
       cmd "down" "-j", cmd "left" "s-k", cmd "right" "s-j",
       cmd "change screen [<n>]" "-o:%(n)d", cmd "close client" "s-c",
       cmd "snap" "c-enter", cmd "full" "-m", cmd "[work] <n>" "-%(n)d",
       cmd "tag <n>" "sc-%(n)d", cmd "tag marked <n>" "s-%(n)d",
       cmd "move marked <n>" "s-%(n)d"]
    extras := [("n", .named "n" .digits (digitsElement 1 none))]
    defaults := [] }

/-- The window manager grammar. -/
def grammar : CommandGrammar Unit :=
  { rules := [commands.rule]
    perform := fun _ t _ => ((commands.bound t).perform Data.base, ()) }

end VoiceCommands.WindowManager
