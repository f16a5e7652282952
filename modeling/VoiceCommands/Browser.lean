import VoiceCommands.Recognition.Grammar
import VoiceCommands.Session

/-!
# The browser grammar

Tab and history commands for a web browser, each a key shortcut.  Counts go
up to nine and default to one; `search` and `find` type the dictated words
after opening the search field.
-/

namespace VoiceCommands.Browser

open Recognition

/-- Browser commands. -/
def commands : Mapping Action :=
  { name := "ChromiumRule", grammar := "chromium", kind := "ChromiumRule"
    entries :=
      [("close [<n>] ( frame | frames )", .key "c-w:%(n)d"), ("open frame", .key "c-t"),
       ("open window", .key "c-n"), ("reopen [<n>] ( frame | frames )", .key "cs-t:%(n)d"),
       ("[ go to ] frame [<n>]", .key "c-%(n)d"), ("frame left [<n>]", .key "cs-tab:%(n)d"),
       ("frame right [<n>]", .key "c-tab:%(n)d"),
       ("search [<text>]", .key "c-k" ++ .text "%(text)s"),
       ("find [<text>]", .key "c-f" ++ .text "%(text)s"),
       ("history", .key "c-h"), ("reload", .key "c-r"), ("next [<n>]", .key "c-g:%(n)d"),
       ("previous [<n>]", .key "cs-g:%(n)d"), ("back [<n>]", .key "a-left:%(n)d"),
       ("forward [<n>]", .key "a-right:%(n)d")]
    extras := [("n", .named "n" .integer (integerElement 1 10)),
               ("text", .named "text" .dictation .dictation)]
    defaults := [("n", .int 1), ("text", .text "")] }

/-- The browser grammar. -/
def grammar : CommandGrammar Unit :=
  { rules := [commands.rule]
    perform := fun _ t _ => ((commands.bound t).perform Data.base, ()) }

end VoiceCommands.Browser
