import VoiceCommands.Text.Case
import VoiceCommands.Text.Words

/-!
# Contexts

A grammar is only listened to in some *context*: a given application in
front, a window title, a platform.  Contexts are not evaluated here (that
needs a screen); they are described, in the notation the speech framework
uses for them.

* `Context`: the kinds of context and their combinations.
* `Context.describe`: the description, e.g.
  `AeneaContext(ProxyAppContext(match='regex', title='(?i).*VIM.*'), AppContext(None, ['vim'], False))`.
  Settings of a proxy context are listed by name in order; application names
  and titles are compared without case, so they are written in lowercase.
-/

namespace VoiceCommands

open Text

/-- Where a grammar is listened to. -/
inductive Context where
  /-- Everywhere. -/
  | always
  /-- Nowhere. -/
  | never
  /-- A window of the remote machine, matched by its settings (name, value). -/
  | proxyApp (settings : List (String × String))
  /-- A remote machine running the given platform. -/
  | proxyPlatform (platform : String)
  /-- A local application, by executable names and window titles. -/
  | app (executables titles : Option (List String)) (exclude : Bool)
  /-- The remote context when working remotely, the local one otherwise. -/
  | remoteOrLocal (remote loc : Context)
  /-- Where the context does not hold. -/
  | negation (c : Context)
  /-- Where either context holds. -/
  | either (a b : Context)
  deriving Repr, Inhabited

/-- A local application given by its executable name. -/
def Context.executable (name : String) : Context := .app (some [lower name]) none false

/-- A local application given by its window title. -/
def Context.title (title : String) : Context := .app none (some [lower title]) false

/-- Inserts a setting into settings sorted by name. -/
def insertSetting (s : String × String) : List (String × String) → List (String × String)
  | [] => [s]
  | t :: ts => if s.1 ≤ t.1 then s :: t :: ts else t :: insertSetting s ts

/-- A list of names written as a list of quoted texts, or `None`. -/
def describeNames : Option (List String) → String
  | none => "None"
  | some ns => "[" ++ ", ".intercalate (ns.map quote) ++ "]"

/-- The description of a context. -/
def Context.describe : Context → String
  | .always => "AlwaysContext()"
  | .never => "NeverContext()"
  | .proxyApp settings =>
    let sorted := settings.foldr insertSetting []
    "ProxyAppContext(" ++ ", ".intercalate (sorted.map fun (k, v) => k ++ "=" ++ quote v) ++ ")"
  | .proxyPlatform p => "ProxyPlatformContext(" ++ quote p ++ ")"
  | .app exes titles exclude =>
    "AppContext(" ++ describeNames exes ++ ", " ++ describeNames titles ++ ", " ++
      (if exclude then "True" else "False") ++ ")"
  | .remoteOrLocal r l => "AeneaContext(" ++ r.describe ++ ", " ++ l.describe ++ ")"
  | .negation c => "LogicNotContext(" ++ c.describe ++ ")"
  | .either a b => "LogicOrContext(" ++ a.describe ++ ", " ++ b.describe ++ ")"

end VoiceCommands
