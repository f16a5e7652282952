import VoiceCommands.Git.Options

/-!
# The catalogue of version control commands

The commands the grammar knows, each given as a `Recipe`: its name, how it is
said when not by its name, its base options and the steps that add its
options.  `commonRecipes` are the everyday commands and `extraRecipes` the
rest; `catalogue` builds both, in order.
-/

namespace VoiceCommands.Git

/-- How to build the options of one command. -/
structure Recipe where
  name : String
  saidAs : Option String
  baseOptions : List Action
  steps : List Step

/-- Options with derived aliases. -/
def smart (options : List String) : Step := .smartOptions (.list (options.map .str)) true

/-- One option under its own alias. -/
def given (said option : String) : Step := .option (.str said) (.text option) true

/-- A command said by its name, with no base options. -/
def plain (name : String) (steps : List Step) : Recipe := ⟨name, none, [], steps⟩

/-- The builder a recipe gives. -/
def Recipe.build (r : Recipe) : Builder :=
  (Builder.steps ⟨r.name, (r.saidAs.map .str).getD .none, r.baseOptions, []⟩
    (r.steps.map .ok)).1

/-- The everyday commands. -/
def commonRecipes : List Recipe :=
  [plain "add" [smart ["--", "--all", "--force", "--interactive", "--patch", "--update", "."]],
   plain "bisect" [smart ["bad", "good", "log", "new", "next", "old", "replay", "reset", "run",
     "skip", "start"]],
   plain "branch" [given "easy all" "--verbose --verbose --all", .commonRefs,
     smart ["--all", "--delete", "--force", "--list", "--move", "--set-upstream", "--verbose"]],
   plain "checkout" [.commonRefs, given "branch|be" "-b", smart [".", "-", "--"],
     smart ["--", "--patch", "--track"]],
   plain "clone" [smart ["--branch"]],
   ⟨"commit", none, [.text " -v"], [smart ["."], smart ["--", "--all", "--allow-empty", "--amend",
     "--cleanup=", "--interactive", "--long", "--message=", "--patch"]]⟩,
   plain "diff" [.commonRefs, smart ["--", "--cached", "--staged", "--stat", "."]],
   plain "fetch" [given "easy all" "--all --tags --prune", .commonRefs,
     smart ["--all", "--force", "--prune", "--tags", "--verbose", "--[no-]recurse-submodules"]],
   plain "grep" [given "extended" "--extended-regexp"],
   plain "init" [smart ["--quiet"]],
   plain "log" [given "easy all" "--graph --all --oneline --topo-order",
     given "easy oneline" "--graph --oneline --topo-order", .commonRefs, smart [".", "-", "--"],
     smart ["--", "--all", "--author-date-order", "--date-order", "--decorate", "--first-parent",
       "--follow", "--graph", "--oneline", "--patch", "--stat", "--topo-order", "--word-diff"]],
   plain "merge" [.commonRefs, given "fast forward only" "--ff-only",
     given "no fast forward" "--no-ff",
     smart ["--abort", "--allow-unrelated-histories", "--commit", "--continue"]],
   ⟨"mv", some "move|em-vee", [], [smart ["--dry-run", "--force", "--verbose"]]⟩,
   plain "pull" [given "easy push" "--rebase && git push", .commonRefs,
     smart ["--force", "--rebase"]],
   plain "push" [.commonRefs, smart ["--all", "--delete", "--tags", "--force", "--set-upstream"]],
   plain "rebase" [.commonRefs, smart ["-"],
     smart ["--abort", "--autosquash", "--autostash", "--committer-date-is-author-date",
       "--continue", "--edit-todo", "--exec", "--force-rebase", "--fork-point", "--gpg-sign",
       "--ignore-date", "--ignore-whitespace", "--interactive", "--keep-empty", "--merge",
       "--no-autosquash", "--no-autostash", "--no-ff", "--no-fork-point", "--no-stat",
       "--no-verify", "--onto", "--preserve-merges", "--quiet", "--quit", "--root", "--signoff",
       "--skip", "--stat", "--strategy-option=", "--strategy=", "--verbose", "--verify",
       "--whitespace="]],
   plain "reset" [.commonRefs, smart ["--", "--hard", "--mixed", "--patch", "--soft"]],
   ⟨"rm", some "remove|are-em", [], [smart ["--", "--cached", "--diff-filter=", "--dry-run",
     "--force", "--ignore-unmatch", "--name-only", "--quiet"]]⟩,
   plain "show" [.commonRefs, smart ["--", "--stat"]],
   plain "status" [smart ["--", "--branch", "--column", "--ignore-submodules",
     "--ignore-submodules=", "--ignored", "--long", "--no-column", "--porcelain", "--short",
     "--show-stash", "--summary-limit", "--untracked-files", "--verbose"]],
   plain "tag" [smart ["--annotate", "--cleanup=", "--color", "--column", "--contains",
     "--create-reflog", "--delete", "--file=", "--force", "--ignore-case", "--list",
     "--local-user=", "--merged", "--message=", "--no-column", "--no-contains", "--no-merged",
     "--points-at", "--sign", "--sort=", "--verify"]]]

/-- The other commands. -/
def extraRecipes : List Recipe :=
  [plain "apply" [smart ["--check", "--stat"]],
   plain "blame" [smart ["--", "--[no-]progress", "--abbrev=", "--contents", "--date",
     "--diff-filter=", "--encoding=", "--incremental", "--line-porcelain", "--porcelain",
     "--pretty=", "--reverse", "--root", "--score-debug", "--show-email", "--show-name",
     "--show-number", "--show-stats", "--since="]],
   plain "cherry-pick" [.commonRefs, smart ["-"], smart ["--abort", "--continue"]],
   plain "clean" [.commonRefs, given "directories" "-d", smart ["--dry-run", "--force"]],
   plain "config" [smart ["--global"]],
   ⟨"ls-files", some "(el-es|list) files", [], [smart ["--no-empty-directory"]]⟩,
   plain "merge-base" [.commonRefs, smart ["--all", "--fork-point", "--independent",
     "--is-ancestor", "--octopus", "--onto", "--verify"]],
   plain "remote" [smart commonRemotes, smart ["add", "remove", "rename", "set-url", "show"],
     smart ["--verbose"]],
   plain "revert" [.commonRefs, smart ["--abort", "--continue", "--edit", "--gpg-sign",
     "--mainline", "--no-commit", "--no-edit", "--quit", "--signoff", "--strategy-option=",
     "--strategy="]],
   plain "shortlog" [.commonRefs, smart ["--committer", "--email", "--format", "--numbered",
     "--pretty=", "--summary"]],
   plain "stash" [smart ["apply", "branch", "clear", "create", "drop", "list", "pop", "push",
     "save", "save", "show", "store"], smart ["0", "1", "2", "3", "4", "5"],
     smart ["--patch", "--stat"]],
   plain "submodule" [smart ["add", "foreach", "status", "update"],
     smart ["--", "--init", "--merge", "--rebase", "--recursive"]],
   plain "worktree" [.commonRefs, smart ["add", "list", "lock", "move", "prune", "remove",
     "unlock"]]]

/-- Every command, built. -/
def catalogue : List Builder := (commonRecipes ++ extraRecipes).map Recipe.build

/-- The part of the catalogue named by a loose value: `all`, `common` or
`extra`.  Another value names no part; a list or table cannot name one. -/
def recipesNamed : Value → Except Fault (List Recipe)
  | .str "all" => .ok (commonRecipes ++ extraRecipes)
  | .str "common" => .ok commonRecipes
  | .str "extra" => .ok extraRecipes
  | .list _ => .error (.unhashable "list")
  | .dict _ => .error (.unhashable "dict")
  | v => .error (.missingKey v.repr)

/-- The commands to show: those of the named part (all by default), and of
those, when `only` is given, the ones whose name it holds. -/
def chooseCommands (which only : Option Value) : Except Fault (List Builder) := do
  let recipes ← match which with
    | some w => recipesNamed w
    | none => pure (commonRecipes ++ extraRecipes)
  let builders := recipes.map Recipe.build
  match only with
  | none => pure builders
  | some o => builders.filterM fun b => o.holds b.name

end VoiceCommands.Git
