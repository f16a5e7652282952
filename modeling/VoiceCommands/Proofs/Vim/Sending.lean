import Mathlib.Data.List.Basic
import VoiceCommands.Vim.Commands
import VoiceCommands.Proofs.Except
import VoiceCommands.Proofs.Actions

/-!
# What a command line sends

Every action `runSteps` sends for a command line, named by where it comes from
(`Sent`, `sentOf`), so that the editor's mode can be followed along them;
`perform_commandLine` says a recognized line sends exactly these.
-/

namespace VoiceCommands.Vim

open Recognition

/-! ## The words of the parts of a tree -/

theorem Tree.words_inner (t : Tree) : t.inner.words = t.words := by
  fun_induction Tree.inner t <;> simp_all [Tree.words]

theorem Tree.words_body (t : Tree) : t.body.words = t.words := by
  cases t <;> rfl

theorem Tree.wordsAll_eq : ∀ ts : List Tree, Tree.wordsAll ts = ts.flatMap Tree.words
  | [] => rfl
  | t :: ts => by simp [Tree.wordsAll, Tree.wordsAll_eq ts]

theorem Tree.words_subset_of_mem_parts {t p : Tree} (h : p ∈ t.parts) : p.words ⊆ t.words := by
  cases t with
  | seq ps =>
    intro w hw
    simp only [Tree.words, Tree.wordsAll_eq, List.mem_flatMap]
    exact ⟨p, h, hw⟩
  | _ => simp_all [Tree.parts]

theorem Tree.words_of_present {t b : Tree} (h : t.present? = some b) : b.words = t.words := by
  cases t with
  | opt body => cases h; rfl
  | _ => cases h

/-! ## Tagged steps -/

inductive Insertion where
  /-- The placeholder that follows a command when `chaos` was said; `chaos`
  tells whether that command's own words say it. -/
  | placeholder (chaos : Bool)
  | spoken (entry : Option Action) (payload : Action)

/-- A step of a command line with its origin. -/
inductive Tagged where
  | command (chaos : Bool) (a : Action)
  | insertion (i : Insertion)

def Insertion.pair : Insertion → Option Action × Action
  | .placeholder _ => (some .idle, .idle)
  | .spoken e p => (e, p)

def Tagged.step : Tagged → Step
  | .command _ a => .normal a
  | .insertion i => .insert i.pair.1 i.pair.2

def Tagged.ofStep : Step → Tagged
  | .normal a => .command false a
  | .insert e p => .insertion (.spoken e p)

@[simp] theorem Tagged.step_ofStep (s : Step) : (Tagged.ofStep s).step = s := by
  cases s <;> rfl

def commandTagged (heard : List String) (c : Tree) : List Tagged :=
  match commandAction c with
  | some a =>
    .command (c.words.contains "chaos") a ::
      if heard.contains "chaos" then [.insertion (.placeholder (c.words.contains "chaos"))]
      else []
  | none => []

def chunkTagged (ss : List Source) (heard : List String) : Tree → Except Fault (List Tagged)
  | .alt 0 c => .ok (commandTagged heard c)
  | .alt _ c => List.map Tagged.ofStep <$> insertionSteps ss c
  | _ => .ok []

def taggedChunks (ss : List Source) (heard : List String) (app : Tree) :
    Except Fault (List (List Tagged)) :=
  match app.present?.map Tree.body with
  | some (.rep items) => items.mapM (chunkTagged ss heard)
  | _ => pure []

def lineTagged (ss : List Source) (t : Tree) : Except Fault (List Tagged) :=
  match t.inner.parts with
  | [app, lit] => do
    let chunks ← taggedChunks ss t.words app
    let literal ← literalPart lit
    return chunks.flatten ++ literal.map Tagged.ofStep
  | _ => .ok []

theorem commandTagged_steps (heard : List String) (c : Tree) :
    (commandTagged heard c).map Tagged.step = commandSteps heard c := by
  unfold commandTagged commandSteps
  cases commandAction c with
  | none => rfl
  | some a =>
    by_cases h : "chaos" ∈ heard <;> simp [h, Tagged.step, Insertion.pair, leaveInsert]

theorem chunkTagged_steps (ss : List Source) (heard : List String) (x : Tree) :
    List.map Tagged.step <$> chunkTagged ss heard x = chunkSteps ss heard x := by
  match x with
  | .alt 0 c => exact congrArg Except.ok (commandTagged_steps heard c)
  | .alt (_ + 1) c => simp [chunkTagged, chunkSteps, Function.comp_def]
  | .word _ | .seq _ | .opt _ | .rep _ | .named .. | .rule .. | .phrase _ | .dictation _ => rfl

theorem taggedChunks_steps (ss : List Source) (heard : List String) (app : Tree) :
    List.map (List.map Tagged.step) <$> taggedChunks ss heard app = lineChunks ss heard app := by
  unfold taggedChunks lineChunks
  -- both sides match on the same body; cases on it reduce the two together
  generalize app.present?.map Tree.body = body
  match body with
  | some (.rep items) =>
    simp only [← List.mapM_map_results]
    exact congrArg (List.mapM · items) (funext (chunkTagged_steps ss heard))
  | none | some (.word _) | some (.seq _) | some (.alt ..) | some (.opt _) | some (.named ..)
  | some (.rule ..) | some (.phrase _) | some (.dictation _) => rfl

theorem lineTagged_steps (ss : List Source) (t : Tree) :
    List.map Tagged.step <$> lineTagged ss t = commandLine ss t := by
  unfold lineTagged commandLine
  generalize t.inner.parts = parts
  match parts with
  | [app, lit] =>
    simp only [← taggedChunks_steps]
    cases taggedChunks ss t.words app with
    | error f => rfl
    | ok chunks =>
      cases literalPart lit with
      | error f => rfl
      | ok literal =>
        show Except.ok _ = Except.ok _
        simp [Function.comp_def, List.map_flatten]
  | [] | [_] | _ :: _ :: _ :: _ => rfl

/-! ## Every action sent -/

/-- An action sent for a command line, by where it comes from. -/
inductive Sent where
  | command (chaos : Bool) (a : Action)
  | entry (a : Action)
  | placeholder (chaos : Bool)
  | payload (a : Action)
  | close

def Sent.action : Sent → Action
  | .command _ a | .entry a | .payload a => a
  | .placeholder _ => .idle
  | .close => .key "escape:2"

/-- Sends an action: a command with the data of the recognition, the actions
of a run with none. -/
def Sent.send (data : Data) (x : Sent) (t : Trace) : Trace :=
  match x with
  | .command _ a => (a.exec data t).1
  | x => (x.action.exec [] t).1

def sendAll (data : Data) (xs : List Sent) (t : Trace) : Trace :=
  xs.foldl (fun t x => x.send data t) t

def Insertion.opening : Insertion → List Sent
  | .placeholder c => [.placeholder c, .placeholder c]
  | .spoken e p => [.entry (e.getD (.key "a")), .payload p]

def Insertion.later : Insertion → Sent
  | .placeholder c => .placeholder c
  | .spoken _ p => .payload p

def runOf : List Insertion → List Sent
  | [] => []
  | i :: is => i.opening ++ is.map Insertion.later ++ [.close]

/-- Every action sent for tagged steps after the insertions `pending`, as
`runSteps` sends them. -/
def sentOf : List Tagged → List Insertion → List Sent
  | [], pending => runOf pending
  | .command c a :: rest, pending => runOf pending ++ .command c a :: sentOf rest []
  | .insertion i :: rest, pending => sentOf rest (pending ++ [i])

theorem runOf_actions : ∀ pending : List Insertion,
    (runOf pending).map Sent.action = insertAll (pending.map Insertion.pair)
  | [] => rfl
  | .placeholder _ :: is | .spoken .. :: is => by
    simp only [runOf, insertAll, List.map_append, List.map_map, Insertion.opening,
      Insertion.pair, List.map_cons, List.map_nil, List.cons_append, List.nil_append]
    congr 4
    funext i
    cases i <;> rfl

theorem sendAll_cons (data : Data) (x : Sent) (xs : List Sent) (t : Trace) :
    sendAll data (x :: xs) t = sendAll data xs (x.send data t) := rfl

theorem sendAll_append (data : Data) (xs ys : List Sent) (t : Trace) :
    sendAll data (xs ++ ys) t = sendAll data ys (sendAll data xs t) :=
  List.foldl_append

theorem sendAll_runOf (data : Data) (pending : List Insertion) (t : Trace) :
    sendAll data (runOf pending) t = flushInsertions (pending.map Insertion.pair) t := by
  -- a run holds no command, so each of its actions is sent without data
  have hrun : ∀ x ∈ runOf pending, x.send data = fun t => (x.action.exec [] t).1 := by
    intro x hx
    match pending, hx with
    | i :: is, hx =>
      simp only [runOf, List.mem_append, List.mem_map, List.mem_singleton] at hx
      rcases hx with (hx | ⟨j, -, rfl⟩) | rfl
      · cases i <;> simp only [Insertion.opening, List.mem_cons, List.not_mem_nil, or_false] at hx <;>
          rcases hx with rfl | rfl <;> rfl
      · cases j <;> rfl
      · rfl
  rw [flushInsertions, ← runOf_actions, Action.execEach_eq_foldl, List.foldl_map, sendAll]
  exact List.foldl_ext _ _ _ fun t x hx => congrFun (hrun x hx) t

theorem runSteps_sentOf (data : Data) : ∀ (ts : List Tagged) (pending : List Insertion)
    (t : Trace), runSteps data (ts.map Tagged.step) (pending.map Insertion.pair) t =
      sendAll data (sentOf ts pending) t
  | [], pending, t => (sendAll_runOf data pending t).symm
  | .command c a :: rest, pending, t => by
    rw [List.map_cons, Tagged.step, runSteps, sentOf, sendAll_append, sendAll_runOf,
      sendAll_cons, ← runSteps_sentOf data rest []]
    rfl
  | .insertion i :: rest, pending, t => by
    rw [List.map_cons, Tagged.step, runSteps, sentOf, ← runSteps_sentOf data rest]
    simp

/-- A recognized command line sends the actions of its tagged steps, or
stops with the fault met while reading it, having sent nothing. -/
theorem perform_commandLine (ss : List Source) (t : Tree) :
    perform ss (commandLineRule ss) t =
      match lineTagged ss t with
      | .ok ts => sendAll (commandLineData ss t) (sentOf ts []) {}
      | .error f => { fault := some f } := by
  rw [perform, if_pos rfl, ← lineTagged_steps]
  cases lineTagged ss t with
  | error f => rfl
  | ok ts => exact runSteps_sentOf (commandLineData ss t) ts [] {}

/-! ## The shape of the tagged steps -/

/-- Tagged steps as the chunks of a line produce them: a command that says
`chaos` is followed at once by its placeholder, and a placeholder comes only
right after its own command. -/
inductive Shaped : List Tagged → Prop
  | nil : Shaped []
  | command {a : Action} {rest : List Tagged} : Shaped rest → Shaped (.command false a :: rest)
  | placeheld {c : Bool} {a : Action} {rest : List Tagged} :
      Shaped rest → Shaped (.command c a :: .insertion (.placeholder c) :: rest)
  | spoken {e : Option Action} {p : Action} {rest : List Tagged} :
      Shaped rest → Shaped (.insertion (.spoken e p) :: rest)

theorem Shaped.append {xs ys : List Tagged} (hx : Shaped xs) (hy : Shaped ys) :
    Shaped (xs ++ ys) := by
  induction hx with
  | nil => exact hy
  | command _ ih => exact .command ih
  | placeheld _ ih => exact .placeheld ih
  | spoken _ ih => exact .spoken ih

theorem Shaped.flatten : ∀ {ls : List (List Tagged)}, (∀ l ∈ ls, Shaped l) → Shaped ls.flatten
  | [], _ => .nil
  | l :: _, h => (h l (by simp)).append (Shaped.flatten fun l' hl' => h l' (by simp [hl']))

theorem commandTagged_shaped {heard : List String} {c : Tree} (hw : c.words ⊆ heard) :
    Shaped (commandTagged heard c) := by
  unfold commandTagged
  cases commandAction c with
  | none => exact .nil
  | some a =>
    by_cases hh : heard.contains "chaos"
    · rw [if_pos hh]
      exact .placeheld .nil
    · -- `chaos` was not heard, so the command does not say it either
      have hc : c.words.contains "chaos" = false := by
        rw [Bool.eq_false_iff]
        exact fun h => hh (List.contains_iff_mem.2 (hw (List.contains_iff_mem.1 h)))
      rw [if_neg hh, hc]
      exact .command .nil

theorem insertionSteps_shaped {ss : List Source} {c : Tree} {l : List Step}
    (h : insertionSteps ss c = .ok l) : Shaped (l.map Tagged.ofStep) := by
  unfold insertionSteps at h
  split at h
  · obtain ⟨_, -, h⟩ := Except.bind_eq_ok h
    cases Except.pure_eq_ok h
    exact .spoken .nil
  · cases h; exact .nil

theorem literalPart_shaped {lit : Tree} {l : List Step} (h : literalPart lit = .ok l) :
    Shaped (l.map Tagged.ofStep) := by
  unfold literalPart literalSteps at h
  split at h
  · split at h
    · obtain ⟨_, -, h⟩ := Except.bind_eq_ok h
      cases Except.pure_eq_ok h
      exact .spoken .nil
    · cases h; exact .nil
  · cases h; exact .nil

theorem chunkTagged_shaped {ss : List Source} {heard : List String} {x : Tree}
    {l : List Tagged} (hw : x.words ⊆ heard) (h : chunkTagged ss heard x = .ok l) : Shaped l := by
  match x, h with
  | .alt 0 c, h => cases h; exact commandTagged_shaped hw
  | .alt (_ + 1) c, h =>
    obtain ⟨l', hl', rfl⟩ := Except.map_eq_ok h
    exact insertionSteps_shaped hl'
  | .word _, h | .seq _, h | .opt _, h | .rep _, h | .named .., h | .rule .., h
  | .phrase _, h | .dictation _, h => cases h; exact .nil

theorem taggedChunks_shaped {ss : List Source} {heard : List String} {app : Tree}
    {chunks : List (List Tagged)} (hw : app.words ⊆ heard)
    (h : taggedChunks ss heard app = .ok chunks) : ∀ l ∈ chunks, Shaped l := by
  unfold taggedChunks at h
  split at h
  next items hitems =>
    obtain ⟨b, hb, hbody⟩ := Option.map_eq_some_iff.1 hitems
    have hrep : (Tree.rep items).words ⊆ heard := by
      rw [← hbody, Tree.words_body, Tree.words_of_present hb]; exact hw
    refine List.mapM_ok_forall (fun x hx l hl => chunkTagged_shaped (fun w hw' => ?_) hl) h
    exact hrep (by simpa [Tree.words, Tree.wordsAll_eq] using ⟨x, hx, hw'⟩)
  next => cases h; simp

theorem lineTagged_shaped {ss : List Source} {t : Tree} {ts : List Tagged}
    (h : lineTagged ss t = .ok ts) : Shaped ts := by
  unfold lineTagged at h
  split at h
  next app lit hparts =>
    obtain ⟨chunks, hc, h⟩ := Except.bind_eq_ok h
    obtain ⟨literal, hl, h⟩ := Except.bind_eq_ok h
    cases Except.pure_eq_ok h
    have happ : app.words ⊆ t.words := by
      rw [← Tree.words_inner t]; exact Tree.words_subset_of_mem_parts (by simp [hparts])
    exact (Shaped.flatten (taggedChunks_shaped happ hc)).append (literalPart_shaped hl)
  next => cases h; exact .nil

end VoiceCommands.Vim
