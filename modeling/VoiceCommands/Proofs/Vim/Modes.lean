import VoiceCommands.Proofs.Vim.Sending

/-!
# The modes of the editor along a command line

The mode is followed along the actions a command line sends, each moving it by
its origin (`Sent.next`): a command that says `chaos` and an entry key enter
insert mode, the closing escapes leave it, and a payload leaves it when it
presses escape (`esc`, a parameter of everything here).  The invariant `Ready`
ties the mode to the pending insertions; `commandLine_mode_discipline` says
what every recognized command line sends keeps the discipline.
-/

namespace VoiceCommands.Vim

open Recognition

inductive Mode where
  | normal
  | insert
  deriving DecidableEq, Repr

section
variable (esc : Action → Bool)

def Sent.next : Sent → Mode → Mode
  | .command c _, m => if c then .insert else m
  | .entry _, _ => .insert
  | .placeholder _, m => m
  | .payload a, m => if esc a then .normal else m
  | .close, _ => .normal

def modeAfter (m : Mode) (xs : List Sent) : Mode :=
  xs.foldl (fun m x => x.next esc m) m

def Sent.fits : Sent → Mode → Prop
  | .command _ _, m | .entry _, m => m = .normal
  | .placeholder true, m => m = .insert
  | _, _ => True

/-- Sent from mode `m`, every action is sent in a mode it fits. -/
def Allowed : Mode → List Sent → Prop
  | _, [] => True
  | m, x :: xs => x.fits m ∧ Allowed (x.next esc m) xs

@[simp] theorem modeAfter_nil (m : Mode) : modeAfter esc m [] = m := rfl

@[simp] theorem modeAfter_cons (m : Mode) (x : Sent) (xs : List Sent) :
    modeAfter esc m (x :: xs) = modeAfter esc (x.next esc m) xs := rfl

theorem modeAfter_append (m : Mode) (xs ys : List Sent) :
    modeAfter esc m (xs ++ ys) = modeAfter esc (modeAfter esc m xs) ys :=
  List.foldl_append

theorem allowed_append : ∀ (m : Mode) (xs ys : List Sent),
    Allowed esc m (xs ++ ys) ↔ Allowed esc m xs ∧ Allowed esc (modeAfter esc m xs) ys
  | m, [], ys => by simp [Allowed]
  | m, x :: xs, ys => by
    simp only [List.cons_append, Allowed, allowed_append _ xs ys, modeAfter_cons, and_assoc]

end

/-! ## Runs and commands keep the discipline -/

def Insertion.isSpoken : Insertion → Bool
  | .spoken .. => true
  | .placeholder _ => false

def Insertion.waitsIn : Insertion → Mode
  | .spoken .. => .normal
  | .placeholder c => if c then .insert else .normal

/-- The pending insertions wait in mode `m`: with none pending the mode is
normal, the run waits in the mode its first insertion needs, and only its
first insertion may be the placeholder. -/
def Ready (m : Mode) : List Insertion → Prop
  | [] => m = .normal
  | i :: is => m = i.waitsIn ∧ ∀ j ∈ is, j.isSpoken

section
variable (esc : Action → Bool)

theorem allowed_later : ∀ (m : Mode) (is : List Insertion), (∀ j ∈ is, j.isSpoken) →
    Allowed esc m (is.map Insertion.later)
  | _, [], _ => trivial
  | _, .spoken .. :: is, h =>
    ⟨trivial, allowed_later _ is fun j hj => h j (List.mem_cons_of_mem _ hj)⟩
  | _, .placeholder c :: _, h => absurd (h (.placeholder c) (by simp)) (by simp [Insertion.isSpoken])

theorem runOf_allowed {m : Mode} : ∀ {pending : List Insertion}, Ready m pending →
    Allowed esc m (runOf pending) ∧ modeAfter esc m (runOf pending) = .normal
  | [], h => ⟨trivial, h⟩
  | i :: is, ⟨hm, his⟩ => by
    have hopen : Allowed esc m i.opening := by
      cases i with
      | spoken e p => exact ⟨hm, trivial, trivial⟩
      | placeholder c =>
        cases c
        · exact ⟨trivial, trivial, trivial⟩
        · have hm : m = .insert := hm
          exact ⟨hm, hm, trivial⟩
    simp only [runOf, allowed_append, modeAfter_append]
    exact ⟨⟨⟨hopen, allowed_later esc _ is his⟩, trivial, trivial⟩, rfl⟩

/-- Along the actions of shaped steps sent after ready insertions, every
action is sent in a mode it fits, and the last leaves normal mode. -/
theorem sentOf_allowed {ts : List Tagged} (hts : Shaped ts) :
    ∀ (m : Mode) (pending : List Insertion), Ready m pending →
      Allowed esc m (sentOf ts pending) ∧ modeAfter esc m (sentOf ts pending) = .normal := by
  induction hts with
  | nil => exact fun _ _ => runOf_allowed esc
  | @command a rest _ ih =>
    intro m pending hready
    obtain ⟨hrun, hmode⟩ := runOf_allowed esc hready
    obtain ⟨hrest, hend⟩ := ih .normal [] rfl
    simp only [sentOf, allowed_append, modeAfter_append, hmode]
    exact ⟨⟨hrun, rfl, hrest⟩, hend⟩
  | @placeheld c a rest _ ih =>
    intro m pending hready
    obtain ⟨hrun, hmode⟩ := runOf_allowed esc hready
    -- the placeholder waits in the mode the command left
    obtain ⟨hrest, hend⟩ := ih (if c then .insert else .normal) [.placeholder c] ⟨rfl, by simp⟩
    simp only [sentOf, List.nil_append, allowed_append, modeAfter_append, hmode]
    exact ⟨⟨hrun, rfl, hrest⟩, hend⟩
  | @spoken e p rest _ ih =>
    intro m pending hready
    apply ih
    cases pending with
    | nil => exact ⟨hready, by simp⟩
    | cons i is =>
      obtain ⟨hm, his⟩ := hready
      refine ⟨hm, fun j hj => ?_⟩
      rcases List.mem_append.1 hj with hj | hj
      · exact his j hj
      · simp only [List.mem_singleton] at hj; subst hj; rfl

end

/-! ## The discipline of a command line -/

def Sent.needsNormal : Sent → Bool
  | .command _ _ | .entry _ => true
  | _ => false

def Sent.opensInsert : Sent → Bool
  | .entry _ => true
  | .placeholder c => c
  | _ => false

def Sent.keepsInsert (esc : Action → Bool) : Sent → Bool
  | .placeholder _ => true
  | .payload a => !esc a
  | _ => false

/-- The mode discipline of actions sent from normal mode: every command and
every entry key is sent in normal mode; after an entry key, or after the
placeholder of a chaos command, the payloads are sent in insert mode up to
the first that presses escape; and the mode after the last is normal. -/
structure ModeDiscipline (esc : Action → Bool) (xs : List Sent) : Prop where
  normal : ∀ pre x post, xs = pre ++ x :: post → x.needsNormal →
    modeAfter esc .normal pre = .normal
  insert : ∀ pre o mid a post, xs = pre ++ o :: (mid ++ .payload a :: post) → o.opensInsert →
    (∀ x ∈ mid, x.keepsInsert esc) → modeAfter esc .normal (pre ++ o :: mid) = .insert
  final : modeAfter esc .normal xs = .normal

section
variable {esc : Action → Bool}

theorem Allowed.fits_at {m : Mode} {xs pre post : List Sent} {x : Sent} (h : Allowed esc m xs)
    (hx : xs = pre ++ x :: post) : x.fits (modeAfter esc m pre) := by
  subst hx
  exact ((allowed_append esc m pre _).1 h).2.1

theorem modeAfter_keepsInsert : ∀ {mid : List Sent}, (∀ x ∈ mid, x.keepsInsert esc) →
    modeAfter esc .insert mid = .insert
  | [], _ => rfl
  | x :: mid, h => by
    have hx : x.next esc .insert = .insert := by
      have := h x (by simp)
      cases x <;> simp_all [Sent.keepsInsert, Sent.next]
    rw [modeAfter_cons, hx, modeAfter_keepsInsert fun y hy => h y (by simp [hy])]

theorem ModeDiscipline.of_allowed {xs : List Sent} (h : Allowed esc .normal xs)
    (hend : modeAfter esc .normal xs = .normal) : ModeDiscipline esc xs where
  normal pre x post hx hn := by
    have := h.fits_at hx
    cases x <;> simp_all [Sent.needsNormal, Sent.fits]
  insert pre o mid a post hx ho hmid := by
    have hfit : o.fits (modeAfter esc .normal pre) := h.fits_at hx
    -- the opening action leaves insert mode, which the middle keeps
    have hopen : o.next esc (modeAfter esc .normal pre) = .insert := by
      cases o with
      | entry _ => rfl
      | placeholder c => cases c <;> simp_all [Sent.opensInsert, Sent.fits, Sent.next]
      | _ => simp [Sent.opensInsert] at ho
    rw [modeAfter_append, modeAfter_cons, hopen, modeAfter_keepsInsert hmid]
  final := hend

end

/-- What a recognized command line sends keeps the mode discipline, whatever
payloads press escape: it reads the line into tagged steps and sends their
actions, or stops with the fault met while reading, having sent nothing. -/
theorem commandLine_mode_discipline (ss : List Source) (t : Tree) (esc : Action → Bool) :
    match lineTagged ss t with
    | .ok ts => perform ss (commandLineRule ss) t = sendAll (commandLineData ss t) (sentOf ts []) {} ∧
        ModeDiscipline esc (sentOf ts [])
    | .error f => perform ss (commandLineRule ss) t = { fault := some f } := by
  rw [perform_commandLine]
  cases h : lineTagged ss t with
  | error f => rfl
  | ok ts =>
    obtain ⟨hallowed, hend⟩ := sentOf_allowed esc (lineTagged_shaped h) .normal [] rfl
    exact ⟨rfl, .of_allowed hallowed hend⟩

/-! ## The placeholder of another command

The placeholder follows every command of an utterance in which `chaos` was
said, also a command that does not say it.  That command leaves normal mode,
and the placeholder then opens the run of the insertions after it in place of
their own entry key, so that they are typed in normal mode. -/

def opensWithSlip : List Sent → Bool
  | .command false _ :: .placeholder false :: .placeholder false :: .payload _ :: _ => true
  | _ => false

theorem payload_normal_of_opensWithSlip {xs : List Sent} (h : opensWithSlip xs = true) :
    ∃ pre a post, xs = pre ++ .payload a :: post ∧
      ∀ esc : Action → Bool, modeAfter esc .normal pre = .normal := by
  unfold opensWithSlip at h
  split at h
  next a p rest =>
    exact ⟨[.command false a, .placeholder false, .placeholder false], p, rest, rfl, fun _ => rfl⟩
  next => cases h

/-- In `dell yope inns alpha chaos yope` only the second command says `chaos`,
but the placeholder follows the first too and opens the run of `inns alpha`:
the letter is typed in normal mode, whatever payloads press escape.  (The
words take nothing from the vocabularies, so none are loaded.) -/
theorem chaos_elsewhere_types_in_normal_mode :
    match recognizeFirst (rules (sources default))
        ["dell", "yope", "inns", "alpha", "chaos", "yope"] with
    | some (r, t) => r.name = "VimCommand" ∧
      match lineTagged (sources default) t with
      | .ok ts => ∃ pre a post, sentOf ts [] = pre ++ .payload a :: post ∧
          ∀ esc : Action → Bool, modeAfter esc .normal pre = .normal
      | .error _ => False
    | none => False := by
  have h : (match recognizeFirst (rules (sources default))
          ["dell", "yope", "inns", "alpha", "chaos", "yope"] with
      | some (r, t) => r.name == "VimCommand" &&
        match lineTagged (sources default) t with
        | .ok ts => opensWithSlip (sentOf ts [])
        | .error _ => false
      | none => false) = true := by decide +kernel
  revert h
  split
  next r t _ =>
    split
    next ts _ =>
      intro h
      obtain ⟨hr, hslip⟩ := Bool.and_eq_true_iff.1 h
      exact ⟨beq_iff_eq.1 hr, payload_normal_of_opensWithSlip hslip⟩
    next => simp
  next => exact fun h => Bool.false_ne_true h

end VoiceCommands.Vim
