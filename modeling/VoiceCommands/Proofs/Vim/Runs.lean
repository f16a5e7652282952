import Mathlib.Data.List.Chain
import VoiceCommands.Vim.Commands
import VoiceCommands.Proofs.Actions

/-!
# Runs of insertions

The buffer of pending insertions cuts the steps of a command line into blocks:
each command on its own, and each maximal run of insertions (`Separated`).
`runSteps_maximal_runs` says sending the steps sends what the blocks of any
separated cut of them send: a run once, at its place, as the way in of its
first insertion, every payload and two escapes.
-/

namespace VoiceCommands.Vim

/-- A block of the steps of a command line: a command, or a run of
insertions, each with its way into insert mode (if one was said) and its
payload. -/
inductive Block where
  | command (a : Action)
  | run (first : Option Action × Action) (rest : List (Option Action × Action))

def Block.isRun : Block → Bool
  | .command _ => false
  | .run _ _ => true

def insertStep (i : Option Action × Action) : Step := .insert i.1 i.2

def Block.steps : Block → List Step
  | .command a => [.normal a]
  | .run first rest => (first :: rest).map insertStep

/-- No two runs of insertions stand next to each other, so every run is
maximal. -/
def Separated (bs : List Block) : Prop := bs.IsChain fun b c => b.isRun → c.isRun = false

def blocks : List Step → List Block
  | [] => []
  | .normal a :: rest => .command a :: blocks rest
  | .insert e p :: rest =>
    match blocks rest with
    | .run first more :: bs => .run (e, p) (first :: more) :: bs
    | bs => .run (e, p) [] :: bs

/-- What a block sends, in order, each action with the data it is sent
with: a command with the data of the recognition; a run the way in of its
first insertion (`a` when none was said), every payload and two escapes, all
with no data. -/
def Block.sends (data : Data) : Block → List (Action × Data)
  | .command a => [(a, data)]
  | .run (entry, payload) rest =>
    (entry.getD (.key "a"), []) :: (payload, []) :: rest.map (fun i => (i.2, [])) ++
      [(.key "escape:2", [])]

def sendEach (xs : List (Action × Data)) (t : Trace) : Trace :=
  xs.foldl (fun t x => (x.1.exec x.2 t).1) t

/-! ## Cutting steps into blocks -/

theorem blocks_steps : ∀ steps : List Step, (blocks steps).flatMap Block.steps = steps
  | [] => rfl
  | .normal a :: rest => by simp [blocks, Block.steps, blocks_steps rest]
  | .insert e p :: rest => by
    have ih := blocks_steps rest
    -- the insertion opens a run, or joins the run the rest starts with
    cases hb : blocks rest with
    | nil => simp only [blocks, hb]; rw [hb] at ih; rw [← ih]; rfl
    | cons b bs =>
      rw [hb] at ih
      cases b with
      | command a => simp only [blocks, hb]; rw [← ih]; rfl
      | run first more => simp only [blocks, hb]; rw [← ih]; rfl

theorem blocks_separated : ∀ steps : List Step, Separated (blocks steps)
  | [] => .nil
  | .normal a :: rest => List.IsChain.cons (blocks_separated rest) (by simp [Block.isRun])
  | .insert e p :: rest => by
    have ih := blocks_separated rest
    cases hb : blocks rest with
    | nil => simp only [blocks, hb]; exact .singleton _
    | cons b bs =>
      rw [hb] at ih
      cases b with
      | command a =>
        simp only [blocks, hb]
        exact List.IsChain.cons ih (by simp [Block.isRun])
      | run first more =>
        simp only [blocks, hb]
        -- the run took in the one that followed, so what follows it followed a run already
        exact List.IsChain.cons (List.isChain_cons.1 ih).2 fun c hc _ =>
          (List.isChain_cons.1 ih).1 c hc rfl

/-! ## Sending through the buffer -/

section
variable (data : Data)

theorem sendEach_append (xs ys : List (Action × Data)) (t : Trace) :
    sendEach (xs ++ ys) t = sendEach ys (sendEach xs t) :=
  List.foldl_append

theorem sendEach_map (as : List Action) (d : Data) (t : Trace) :
    sendEach (as.map (·, d)) t = Action.execEach as d t := by
  rw [sendEach, List.foldl_map, Action.execEach_eq_foldl]

theorem flushInsertions_nil (t : Trace) : flushInsertions [] t = t := rfl

theorem sendEach_run (first : Option Action × Action) (rest : List (Option Action × Action))
    (t : Trace) : sendEach ((Block.run first rest).sends data) t = flushInsertions (first :: rest) t := by
  obtain ⟨entry, payload⟩ := first
  rw [flushInsertions, ← sendEach_map]
  simp [Block.sends, insertAll, Function.comp_def]

theorem runSteps_inserts (ins : List (Option Action × Action)) (rest : List Step)
    (pending : List (Option Action × Action)) (t : Trace) :
    runSteps data (ins.map insertStep ++ rest) pending t = runSteps data rest (pending ++ ins) t := by
  induction ins generalizing pending with
  | nil => simp
  | cons i ins ih =>
    rw [List.map_cons, List.cons_append, insertStep, runSteps, ih, List.append_assoc,
      List.singleton_append]

theorem runSteps_flush {rest : List Step} (h : ∀ e p rest', rest ≠ .insert e p :: rest')
    (pending : List (Option Action × Action)) (t : Trace) :
    runSteps data rest pending t = runSteps data rest [] (flushInsertions pending t) := by
  match rest with
  | [] => rfl
  | .normal a :: rest' => rfl
  | .insert e p :: rest' => exact absurd rfl (h e p rest')

theorem runSteps_blocks : ∀ bs : List Block, Separated bs → ∀ t : Trace,
    runSteps data (bs.flatMap Block.steps) [] t = sendEach (bs.flatMap (Block.sends data)) t
  | [], _, t => rfl
  | .command a :: bs, h, t => by
    rw [List.flatMap_cons, List.flatMap_cons, Block.steps, List.singleton_append, runSteps,
      flushInsertions_nil, runSteps_blocks bs (List.isChain_cons.1 h).2]
    rfl
  | .run first rest :: bs, h, t => by
    obtain ⟨hnext, hbs⟩ := List.isChain_cons.1 h
    -- the run is maximal: the blocks after it start with a command, if any
    have hcmd : ∀ e p rest', bs.flatMap Block.steps ≠ .insert e p :: rest' := by
      intro e p rest' heq
      cases bs with
      | nil => cases heq
      | cons b bs' =>
        cases b with
        | command a => simp [Block.steps] at heq
        | run _ _ => exact absurd (hnext _ rfl rfl) (by simp [Block.isRun])
    rw [List.flatMap_cons, List.flatMap_cons, Block.steps, runSteps_inserts, List.nil_append,
      runSteps_flush data hcmd, runSteps_blocks bs hbs, sendEach_append, sendEach_run]

end

/-- Sending the steps of a command line, whatever they are, sends exactly
what their maximal runs and commands send: every list of steps is cut into
separated blocks, and for every such cut, each command is sent at its place
with the data of the recognition, and each run once at its place, as the way
in of its first insertion (`a` when none was said), its payloads and two
escapes, with no data. -/
theorem runSteps_maximal_runs (data : Data) (steps : List Step) (t : Trace) :
    (∃ bs, Separated bs ∧ bs.flatMap Block.steps = steps) ∧
      ∀ bs, Separated bs → bs.flatMap Block.steps = steps →
        runSteps data steps [] t = sendEach (bs.flatMap (Block.sends data)) t := by
  refine ⟨⟨blocks steps, blocks_separated steps, blocks_steps steps⟩, ?_⟩
  rintro bs hsep rfl
  exact runSteps_blocks data bs hsep t

theorem perform_commandLine_blocks (ss : List Source) (t : Recognition.Tree) :
    perform ss (commandLineRule ss) t =
      match commandLine ss t with
      | .ok steps => sendEach ((blocks steps).flatMap (Block.sends (commandLineData ss t))) {}
      | .error f => { fault := some f } := by
  rw [perform, if_pos rfl]
  cases commandLine ss t with
  | error f => rfl
  | ok steps =>
    dsimp only
    conv_lhs => rw [← blocks_steps steps]
    exact runSteps_blocks (commandLineData ss t) (blocks steps) (blocks_separated steps) {}

end VoiceCommands.Vim
