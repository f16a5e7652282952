import VoiceCommands.Vocabulary.Basic

/-!
# The built-in vocabulary

The blocks of vocabulary the grammars start with, in the order they are read:
the dynamic blocks (editor shortcuts, programming operators, keywords of a
scripting language, symbols) and the static block of abbreviations.

Dynamic phrases are spoken literally.  Static phrases are specifications, so
`abbreviate (config|configuration)` can be spoken either way.
-/

namespace VoiceCommands.Vocabulary

/-- The blocks of the dynamic vocabulary, in the order they are read. -/
def dynamicBlocks : List Block :=
  [{ tags := ["multiedit", "global"]
     entries := [("save file", .key "c-s"),
       ("save all", .key "a-s"),
       ("popup", .key "apps"),
       ("close tab", .key "c-w"),
       ("close all tabs", .key "cs-w"),
       ("cut it", .key "c-x"),
       ("copy it", .key "c-c"),
       ("who calls", .key "ca-h"),
       ("link", .key "f3"),
       ("refresh", .key "f5"),
       ("hierarchy", .key "c-t"),
       ("open type", .key "cs-t"),
       ("open resource", .key "ca-r"),
       ("rename", .key "cs-r"),
       ("correct", .key "c-1"),
       ("organize imports", .key "cs-o"),
       ("new java docs", .key "sa-j"),
       ("find", .key "c-f"),
       ("go home", .key "home:2"),
       ("go end", .key "end:2"),
       ("pair", .key "cs-p"),
       ("chirp", .key "c-q"),
       ("choices", .key "c-space")] },
   { tags := ["multiedit.count"]
     entries := [("move tab left", .key "c-pgup"),
       ("move tab right", .key "c-pgdown"),
       ("complete", .key "a-slash"),
       ("undo", .key "c-z"),
       ("redo", .key "c-y"),
       ("spike", .key "sc-up"),
       ("mud", .key "sc-down"),
       ("block", .key "sa-up"),
       ("shrink", .key "sa-down"),
       ("squirt", .key "sa-right"),
       ("land", .key "sa-left"),
       ("glide", .key "a-right"),
       ("slip", .key "a-left"),
       ("slug", .key "c-dot"),
       ("snail", .key "c-comma"),
       ("stint", .key "f5"),
       ("stover", .key "f6"),
       ("stout", .key "f7"),
       ("step continue", .key "f8"),
       ("perspective", .key "ctrl:down, f8, ctrl:up"),
       ("view", .key "ctrl:down, f7, ctrl:up")] },
   { tags := ["vim.insertions.code", "multiedit.count", "global"]
     entries := [("assign", .text "= "),
       ("compare eek", .text "== "),
       ("compare not eek", .text "!= "),
       ("compare greater", .text "> "),
       ("compare less", .text "< "),
       ("compare geck", .text ">= "),
       ("compare lack", .text "<= "),
       ("bit ore", .text "| "),
       ("bit and", .text "& "),
       ("bit ex or", .text "^ "),
       ("times", .text "* "),
       ("divided", .text "/ "),
       ("plus", .text "+ "),
       ("minus", .text "- "),
       ("plus equal", .text "+= "),
       ("minus equal", .text "-= "),
       ("times equal", .text "*= "),
       ("divided equal", .text "/= "),
       ("mod equal", .text "%%= ")] },
   { tags := ["vim.insertions.code", "multiedit", "global"]
     entries := [("values", .text "values"),
       ("get atter", .text "getattr"),
       ("set atter", .text "setattr"),
       ("has atter", .text "hasattr"),
       ("print", .text "print"),
       ("if test", .text "if "),
       ("elif", .text "elif "),
       ("else", .text "else"),
       ("deaf", .text "def "),
       ("log and", .text "and "),
       ("log or", .text "or "),
       ("log not", .text "not "),
       ("not", .text "not "),
       ("for loop", .text "for "),
       ("bit ore", .text "| "),
       ("bit and", .text "& "),
       ("bit ex or", .text "^ "),
       ("times", .text "* "),
       ("divided", .text "/ "),
       ("plus", .text "+ "),
       ("minus", .text "- "),
       ("plus equal", .text "+= "),
       ("minus equal", .text "-= "),
       ("times equal", .text "*= "),
       ("divided equal", .text "/= "),
       ("mod equal", .text "%%= "),
       ("as name", .text "as "),
       ("in", .text "in "),
       ("is", .text "is "),
       ("while", .text "while "),
       ("class", .text "class "),
       ("with context", .text "with "),
       ("import", .text "import "),
       ("raise", .text "raise "),
       ("return", .text "return "),
       ("none", .text "None"),
       ("try", .text "try"),
       ("except", .text "except"),
       ("lambda", .text "lambda "),
       ("assert", .text "assert "),
       ("delete", .text "del "),
       ("assign", .text "= "),
       ("compare eek", .text "== "),
       ("compare not eek", .text "!= "),
       ("compare greater", .text "> "),
       ("compare less", .text "< "),
       ("compare geck", .text ">= "),
       ("compare lack", .text "<= "),
       ("private", .series [.text "____", .key "left:2"]),
       ("dock string", .series [.text "''''''", .key "left:3"]),
       ("dub dock string", .series [.text "\"\"\"\"\"\"", .key "left:3"])] },
   { tags := ["vim.insertions", "multiedit.count", "global"]
     entries := [("amp", .key "ampersand"),
       ("ash", .key "slash"),
       ("at sign", .key "at"),
       ("back ash", .key "backslash"),
       ("backtick", .key "backtick"),
       ("bang", .key "exclamation"),
       ("bar", .key "bar"),
       ("cross", .key "plus"),
       ("dollar", .key "dollar"),
       ("dot", .key "dot"),
       ("drip", .key "comma"),
       ("eek", .key "equal"),
       ("hat", .key "caret"),
       ("hyph", .key "hyphen"),
       ("percent", .key "percent"),
       ("pop", .key "rparen"),
       ("pound", .key "hash"),
       ("push", .key "lparen"),
       ("quest", .key "question"),
       ("quote", .key "dquote"),
       ("rail", .key "underscore"),
       ("semi", .key "semicolon"),
       ("smote", .key "squote"),
       ("star", .key "asterisk"),
       ("tilde", .key "tilde"),
       ("yeah", .key "colon"),
       ("box", .series [.text "\x7b\x7d", .key "left:1"]),
       ("circle", .series [.text "()", .key "left:1"]),
       ("diamond", .series [.text "<>", .key "left:1"]),
       ("nest quote", .series [.text "\"\"", .key "left:1"]),
       ("nest smote", .series [.text "''", .key "left:1"]),
       ("square", .series [.text "[]", .key "left:1"])] }]

/-- The blocks of the static vocabulary, in the order they are read. -/
def staticBlocks : List Block :=
  [{ tags := ["vim.insertions", "multiedit", "global"]
     entries := [("abbreviate administrator", .text "admin"),
       ("abbreviate administrators", .text "admins"),
       ("abbreviate application", .text "app"),
       ("abbreviate applications", .text "apps"),
       ("abbreviate argument", .text "arg"),
       ("abbreviate arguments", .text "args"),
       ("abbreviate attribute", .text "attr"),
       ("abbreviate attributes", .text "attrs"),
       ("abbreviate (authenticate|authentication)", .text "auth"),
       ("abbreviate binary", .text "bin"),
       ("abbreviate button", .text "btn"),
       ("abbreviate class", .text "cls"),
       ("abbreviate command", .text "cmd"),
       ("abbreviate (config|configuration)", .text "cfg"),
       ("abbreviate context", .text "ctx"),
       ("abbreviate control", .text "ctrl"),
       ("abbreviate database", .text "db"),
       ("abbreviate (define|definition)", .text "def"),
       ("abbreviate description", .text "desc"),
       ("abbreviate (develop|development)", .text "dev"),
       ("abbreviate (dictionary|dictation)", .text "dict"),
       ("abbreviate (direction|directory)", .text "dir"),
       ("abbreviate dynamic", .text "dyn"),
       ("abbreviate example", .text "ex"),
       ("abbreviate execute", .text "exec"),
       ("abbreviate exception", .text "exc"),
       ("abbreviate expression", .text "exp"),
       ("abbreviate (extension|extend)", .text "ext"),
       ("abbreviate function", .text "func"),
       ("abbreviate framework", .text "fw"),
       ("abbreviate (initialize|initializer)", .text "init"),
       ("abbreviate instance", .text "inst"),
       ("abbreviate integer", .text "int"),
       ("abbreviate iterate", .text "iter"),
       ("abbreviate java archive", .text "jar"),
       ("abbreviate javascript", .text "js"),
       ("abbreviate keyword", .text "kw"),
       ("abbreviate keyword arguments", .text "kwargs"),
       ("abbreviate language", .text "lng"),
       ("abbreviate library", .text "lib"),
       ("abbreviate length", .text "len"),
       ("abbreviate number", .text "num"),
       ("abbreviate object", .text "obj"),
       ("abbreviate okay", .text "ok"),
       ("abbreviate package", .text "pkg"),
       ("abbreviate parameter", .text "param"),
       ("abbreviate parameters", .text "params"),
       ("abbreviate pixel", .text "px"),
       ("abbreviate position", .text "pos"),
       ("abbreviate point", .text "pt"),
       ("abbreviate previous", .text "prev"),
       ("abbreviate property", .text "prop"),
       ("abbreviate python", .text "py"),
       ("abbreviate query string", .text "qs"),
       ("abbreviate reference", .text "ref"),
       ("abbreviate references", .text "refs"),
       ("abbreviate (represent|representation)", .text "repr"),
       ("abbreviate regular (expression|expressions)", .text "regex"),
       ("abbreviate request", .text "req"),
       ("abbreviate revision", .text "rev"),
       ("abbreviate ruby", .text "rb"),
       ("abbreviate session aidee", .text "sid"),
       ("abbreviate source", .text "src"),
       ("abbreviate (special|specify|specific|specification)", .text "spec"),
       ("abbreviate standard", .text "std"),
       ("abbreviate standard in", .text "stdin"),
       ("abbreviate standard out", .text "stdout"),
       ("abbreviate string", .text "str"),
       ("abbreviate (synchronize|synchronous)", .text "sync"),
       ("abbreviate system", .text "sys"),
       ("abbreviate utility", .text "util"),
       ("abbreviate utilities", .text "utils"),
       ("abbreviate temporary", .text "tmp"),
       ("abbreviate text", .text "txt"),
       ("abbreviate value", .text "val"),
       ("abbreviate window", .text "win")] }]

/-- The built-in vocabularies, with no tag given outright. -/
def Vocabularies.builtin : Vocabularies :=
  { static := ⟨staticBlocks, []⟩, dynamic := ⟨dynamicBlocks, []⟩ }

end VoiceCommands.Vocabulary
