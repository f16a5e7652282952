import VoiceCommands.Vim.Commands
import VoiceCommands.Charwise.Commands
import VoiceCommands.MultiEdit
import VoiceCommands.Browser
import VoiceCommands.WindowManager
import VoiceCommands.Git.Commands
import VoiceCommands.Context
import VoiceCommands.Vocabulary.Builtin

/-!
# Loading grammar modules

Each grammar lives in a module that, when loaded, builds its grammar, tells
the vocabulary service which vocabularies it takes over, and may print a
line.  Unloading a module releases what it took and drops its grammar.

* `LoadedGrammar`: a grammar as loaded: its name, its context, the names of
  the rules that can be said on their own, the number of the others, and how
  it hears utterances.
* `GrammarName`: the grammars that can be listened to directly, loaded with
  the built-in vocabularies and no configuration.
* `Module`, `Module.load`: loading a module with a configuration and
  vocabularies, unloading it some number of times, and the record of its
  calls to the vocabulary service (`VocabularyCall`) and of what it printed.
-/

namespace VoiceCommands

open Vocabulary

/-- A grammar as loaded. -/
structure LoadedGrammar where
  /-- The grammar's name. -/
  name : String
  /-- Where it is listened to (nothing when it was given no context). -/
  context : Option Context
  /-- The rules that can be said on their own, in the order they are tried. -/
  ruleNames : List String
  /-- How many rules can only be used from other rules. -/
  hiddenRules : Nat
  /-- Hears utterances in order, from a fresh state. -/
  hearAll : List Value → List Outcome

/-- The context of the editor grammar. -/
def editorContext : Context :=
  .remoteOrLocal (.proxyApp [("match", "regex"), ("title", "(?i).*VIM.*")]) (.title "VIM")

/-- The context of the character-wise grammar. -/
def charwiseContext : Context := .remoteOrLocal .always (.title "VIM")

/-- The context of the version control grammar: a terminal. -/
def terminalContext : Context :=
  .remoteOrLocal
    (.proxyApp [("match", "regex"), ("app_id", "(?i)(?:(?:DOS|CMD).*)|(?:.*(?:TERM|SHELL).*)")])
    (.title "git")

/-- The context of the browser grammar. -/
def browserContext : Context :=
  .remoteOrLocal (.proxyApp [("cls_name", "chromium"), ("cls", "chromium")])
    (.either (.executable "chrome") (.executable "chromium"))

/-- The context of the window manager grammar. -/
def windowManagerContext : Context := .proxyPlatform "linux"

/-- The message printed for a local disabling setting that is not text. -/
def localSettingMessage : String := "Local disable context may only be a string."

/-- Where the multiple-edit grammar is disabled, from its configuration:
a local application name and a remote window, each possibly absent; and the
lines printed while reading them. -/
def disabledContext (config : List (String × Value)) : Context × List String :=
  let setting (name : String) : Option Value :=
    match config.find? (·.1 = name) with
    | some (_, .none) | none => none
    | some (_, v) => some v
  let (loc, printed) := match setting "local_disable_context" with
    | none => (Context.never, [])
    | some (.str s) => (Context.executable s, [])
    | some _ => (Context.never, [localSettingMessage])
  let remote := match setting "proxy_disable_context" with
    | none => Context.never
    | some (.dict entries) => .proxyApp (entries.map fun (k, v) => (k, v.show))
    | some v => .proxyApp [("title", v.show), ("match", "substring")]
  (.remoteOrLocal remote loc, printed)

/-- The context of the multiple-edit grammar: wherever it is not disabled. -/
def multiEditContext (config : List (String × Value)) : Context :=
  .negation (disabledContext config).1

/-- The editor grammar as loaded. -/
def editorGrammar (v : Vocabularies) : LoadedGrammar :=
  { name := "vim", context := some editorContext
    ruleNames := (Vim.rules (Vim.sources v)).map (·.name), hiddenRules := 0
    hearAll := fun ws => (Vim.grammar v).hearAll ws () }

/-- The reading of the clock that loaded grammars are given, as the clock
writes itself. -/
def clockReading : String := "2000-01-01 00:00:00"

/-- The character-wise grammar as loaded. -/
def charwiseGrammar : LoadedGrammar :=
  { name := "charwise_vim", context := some charwiseContext
    ruleNames := (Charwise.rules clockReading).map (·.name), hiddenRules := 0
    hearAll := fun ws => (Charwise.grammar clockReading).hearAll ws Charwise.Memory.initial }

/-- The multiple-edit grammar as loaded. -/
def multiEditGrammar (v : Vocabularies) (config : List (String × Value)) : LoadedGrammar :=
  { name := "multiedit", context := some (multiEditContext config)
    ruleNames := (MultiEdit.rules (MultiEdit.Parts.of v)).map (·.name), hiddenRules := 5
    hearAll := fun ws => (MultiEdit.grammar v).hearAll ws () }

/-- The browser grammar as loaded. -/
def browserGrammar : LoadedGrammar :=
  { name := "chromium", context := some browserContext
    ruleNames := Browser.grammar.rules.map (·.name), hiddenRules := 1
    hearAll := fun ws => Browser.grammar.hearAll ws () }

/-- The window manager grammar as loaded. -/
def windowManagerGrammar : LoadedGrammar :=
  { name := "awesome", context := some windowManagerContext
    ruleNames := WindowManager.grammar.rules.map (·.name), hiddenRules := 0
    hearAll := fun ws => WindowManager.grammar.hearAll ws () }

/-- The version control grammar as loaded: one line rule, and for each
command its rule and the mapping of its options, all hidden. -/
def gitGrammar : LoadedGrammar :=
  { name := "git", context := some terminalContext
    ruleNames := Git.moduleGrammar.rules.map (·.name)
    hiddenRules := 1 + 2 * Git.catalogue.length
    hearAll := fun ws => Git.moduleGrammar.hearAll ws () }

/-- The version control grammar with its line rule said on its own. -/
def gitExportedGrammar : LoadedGrammar :=
  { name := "git_exported", context := none
    ruleNames := Git.exportedGrammar.rules.map (·.name)
    hiddenRules := 2 * Git.catalogue.length
    hearAll := fun ws => Git.exportedGrammar.hearAll ws () }

/-- A grammar called `grammar`, built from one command's options, said after
`git`. -/
def builderGrammar (grammar : String) (b : Git.Builder) : LoadedGrammar :=
  { name := "git " ++ b.name, context := none
    ruleNames := (Git.builderGrammar grammar b).rules.map (·.name), hiddenRules := 2
    hearAll := fun ws => (Git.builderGrammar grammar b).hearAll ws () }

/-- The grammars that can be listened to directly. -/
inductive GrammarName where
  | git
  | gitExported
  | vim
  | charwise
  | multiEdit
  | browser
  | windowManager
  deriving Repr, DecidableEq, Inhabited

/-- A grammar by the name it is asked for with. -/
def GrammarName.ofString? : String → Option GrammarName
  | "git" => some .git
  | "git_exported" => some .gitExported
  | "vim" => some .vim
  | "charwise_vim" => some .charwise
  | "multiedit" => some .multiEdit
  | "chromium" => some .browser
  | "awesome" => some .windowManager
  | _ => none

/-- A grammar loaded with the built-in vocabularies and no configuration. -/
def GrammarName.grammar : GrammarName → LoadedGrammar
  | .git => gitGrammar
  | .gitExported => gitExportedGrammar
  | .vim => editorGrammar Vocabularies.builtin
  | .charwise => charwiseGrammar
  | .multiEdit => multiEditGrammar Vocabularies.builtin []
  | .browser => browserGrammar
  | .windowManager => windowManagerGrammar

/-! ## Loading modules -/

/-- A call to the vocabulary service. -/
inductive VocabularyCall where
  /-- The grammar takes over the global vocabularies of these tags, where
  the context holds (everywhere when none is given). -/
  | inhibit (grammar : String) (tags : List String) (context : Option Context)
  /-- The grammar gives the vocabularies back. -/
  | uninhibit (grammar : String) (tags : List String)
  /-- The dynamic vocabulary of a tag is asked for. -/
  | register (tag : String)
  /-- The dynamic vocabulary of a tag is no longer needed. -/
  | unregister (tag : String)
  /-- The static vocabulary of a tag is asked for. -/
  | getStatic (tag : String)
  deriving Repr, Inhabited

/-- The grammar modules. -/
inductive Module where
  | git
  | vim
  | charwise
  | multiEdit
  | browser
  | windowManager
  deriving Repr, DecidableEq, Inhabited

/-- A module by its name. -/
def Module.ofString? : String → Option Module
  | "git" => some .git
  | "vim" => some .vim
  | "charwise_vim" => some .charwise
  | "multiedit" => some .multiEdit
  | "chromium" => some .browser
  | "awesome" => some .windowManager
  | _ => none

/-- How a module is loaded. -/
structure LoadRequest where
  /-- The module's configuration. -/
  config : List (String × Value)
  /-- Static vocabularies replacing the built-in ones, by tag, as given:
  their values are made into actions when the module asks for them. -/
  staticVocabulary : List (String × Value)
  /-- Dynamic vocabularies replacing the built-in ones, by tag, as given. -/
  dynamicVocabulary : List (String × Value)
  /-- Whether the command catalogue is missing. -/
  catalogueMissing : Bool
  /-- How many times the module is unloaded afterwards. -/
  unloads : Nat

/-- What loading a module did. -/
structure LoadReport where
  /-- The grammar it built. -/
  grammar : LoadedGrammar
  /-- Its calls to the vocabulary service, while loading and unloading. -/
  calls : List VocabularyCall
  /-- The lines it printed. -/
  printed : List String
  /-- Its grammar after the unloads, if it still has one. -/
  remaining : Option String

/-- The grammar a module still has after its unloads, as described to the
user. -/
def LoadReport.afterUnload (r : LoadReport) : String :=
  match r.remaining with
  | some name => "Grammar(" ++ name ++ ")"
  | none => "None"

/-- The name of the service function a call goes to. -/
def VocabularyCall.name : VocabularyCall → String
  | .inhibit _ _ _ => "inhibit_global_dynamic_vocabulary"
  | .uninhibit _ _ => "uninhibit_global_dynamic_vocabulary"
  | .register _ => "register_dynamic_vocabulary"
  | .unregister _ => "unregister_dynamic_vocabulary"
  | .getStatic _ => "get_static_vocabulary"

/-- Given vocabularies made into entries; a vocabulary whose values do not
all make actions is left empty (loading stops before it is used). -/
def givenEntries (given : List (String × Value)) : List (String × Entries) :=
  given.map fun (tag, v) => (tag, (entriesOf v).toOption.getD [])

/-- The vocabularies of a load. -/
def LoadRequest.vocabularies (r : LoadRequest) : Vocabularies :=
  { static := Vocabularies.builtin.static.give (givenEntries r.staticVocabulary)
    dynamic := Vocabularies.builtin.dynamic.give (givenEntries r.dynamicVocabulary) }

/-- The fault of making the given vocabulary of a tag into actions, if it
was given and one of its values makes none. -/
def givenFault (given : List (String × Value)) (tag : String) : Option Fault :=
  (given.lookup tag).bind fun v =>
    match entriesOf v with
    | .error f => some f
    | .ok _ => none

/-- The first fault met by a module's calls for vocabularies, in the order
it makes them: a vocabulary is made into actions when it is asked for. -/
def LoadRequest.firstFault (r : LoadRequest) (calls : List VocabularyCall) : Option Fault :=
  calls.findSome? fun
    | .register tag => givenFault r.dynamicVocabulary tag
    | .getStatic tag => givenFault r.staticVocabulary tag
    | _ => none

/-- The tags the editor grammar takes over. -/
def editorTags : List String := ["vim.insertions.code", "vim.insertions"]

/-- The tags the character-wise grammar takes over. -/
def charwiseTags : List String := ["vim.insertions", "multiedit.count", "global"]

/-- The tags the multiple-edit grammar takes over. -/
def multiEditTags : List String := ["multiedit", "multiedit.count"]

/-- The message of a load that misses the command catalogue. -/
def missingCatalogueMessage : String :=
  "You need to copy the \"git_commands.py\" file to <repo>/_git"

/-- The vocabulary calls of loading the editor module: static vocabularies
are asked for again for each mapping built from them. -/
def editorCalls (v : Vocabularies) : List VocabularyCall :=
  let again (tag : String) : List VocabularyCall :=
    if (v.static.entries tag).isEmpty then [] else [.getStatic tag]
  [.inhibit "vim" editorTags (some editorContext), .register "vim.insertions.code",
   .register "vim.insertions", .getStatic "vim.insertions.code", .getStatic "vim.insertions"] ++
  again "vim.insertions.code" ++ again "vim.insertions"

/-- Loads a module, then unloads it as many times as asked. -/
def Module.load (m : Module) (r : LoadRequest) : Except (Fault × List String) LoadReport :=
  let v := r.vocabularies
  let remaining (name : String) : Option String :=
    if r.unloads = 0 then some name else none
  match m with
  | .git =>
    if r.catalogueMissing then .error (.importFailure missingCatalogueMessage, [])
    else .ok ⟨gitGrammar, [], [], remaining "git"⟩
  | .vim =>
    let release := [VocabularyCall.uninhibit "vim" editorTags] ++
      editorTags.map VocabularyCall.unregister
    match r.firstFault (editorCalls v) <|> Vim.specFault v with
    | some f => .error (f, [])
    | none =>
      .ok ⟨editorGrammar v, editorCalls v ++ (List.replicate r.unloads release).flatten, [],
        remaining "vim"⟩
  | .charwise =>
    let release := if r.unloads = 0 then [] else [VocabularyCall.uninhibit "charwise_vim" charwiseTags]
    .ok ⟨charwiseGrammar, [.inhibit "charwise_vim" charwiseTags none] ++ release,
      ["Loading _charwise_vim.py"], remaining "charwise_vim"⟩
  | .multiEdit =>
    let loading := [VocabularyCall.inhibit "multiedit" multiEditTags none,
      .getStatic "multiedit.count", .register "multiedit.count", .register "multiedit",
      .getStatic "multiedit"]
    let release := [VocabularyCall.uninhibit "multiedit" multiEditTags] ++
      multiEditTags.map VocabularyCall.unregister
    match r.firstFault loading with
    | some f => .error (f, [])
    | none =>
      .ok ⟨multiEditGrammar v r.config, loading ++ (List.replicate r.unloads release).flatten,
        (disabledContext r.config).2, remaining "multiedit"⟩
  | .browser => .ok ⟨browserGrammar, [], [], remaining "chromium"⟩
  | .windowManager => .ok ⟨windowManagerGrammar, [], [], remaining "awesome"⟩

end VoiceCommands
