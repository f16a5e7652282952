import Mathlib.Control.Monad.Basic
import VoiceCommands.Fault

/-!
# Peeling computations that can fail

Lemmas that take a successful computation in `Except` apart step by step, so
that proofs about the readers never unfold the monad, and follow a failed one
by its error (`Except.error?`).
-/

namespace VoiceCommands

variable {ε α β γ : Type}

@[simp] theorem Except.ok_bind (a : α) (f : α → Except ε β) : (Except.ok a >>= f) = f a := rfl

@[simp] theorem Except.error_bind (e : ε) (f : α → Except ε β) :
    (Except.error e >>= f) = .error e := rfl

@[simp] theorem Except.pure_eq_ok_self (a : α) : (pure a : Except ε α) = .ok a := rfl

@[simp] theorem Except.throw_eq_error (e : ε) : (throw e : Except ε α) = .error e := rfl

theorem Except.bind_eq_ok {x : Except ε α} {f : α → Except ε β} {b : β}
    (h : x >>= f = .ok b) : ∃ a, x = .ok a ∧ f a = .ok b := by
  cases x with
  | error e => cases h
  | ok a => exact ⟨a, rfl, h⟩

theorem Except.map_eq_ok {x : Except ε α} {f : α → β} {b : β} (h : f <$> x = .ok b) :
    ∃ a, x = .ok a ∧ f a = b := by
  cases x with
  | error e => cases h
  | ok a => exact ⟨a, rfl, by cases h; rfl⟩

theorem Except.pure_eq_ok {a b : α} (h : (pure a : Except ε α) = .ok b) : a = b := by
  cases h; rfl

theorem List.mapM_ok_forall {f : α → Except ε β} {P : β → Prop} :
    ∀ {xs : List α} {ys : List β}, (∀ x ∈ xs, ∀ y, f x = .ok y → P y) → xs.mapM f = .ok ys →
      ∀ y ∈ ys, P y
  | [], _, _, h => by cases h; simp
  | x :: xs, ys, hf, h => by
    rw [List.mapM_cons] at h
    obtain ⟨y, hy, h⟩ := Except.bind_eq_ok h
    obtain ⟨ys', hys, h⟩ := Except.bind_eq_ok h
    cases Except.pure_eq_ok h
    intro z hz
    rcases List.mem_cons.1 hz with rfl | hz
    · exact hf x (by simp) z hy
    · exact List.mapM_ok_forall (fun x hx => hf x (by simp [hx])) hys z hz

theorem List.mapM_ok_exists {f : α → Except ε β} {P : α → Prop} {Q : β → Prop} :
    ∀ {xs : List α} {ys : List β}, (∀ x ∈ xs, ∀ y, f x = .ok y → (Q y ↔ P x)) →
      xs.mapM f = .ok ys → ((∃ y ∈ ys, Q y) ↔ ∃ x ∈ xs, P x)
  | [], _, _, h => by cases h; simp
  | x :: xs, ys, hf, h => by
    rw [List.mapM_cons] at h
    obtain ⟨y, hy, h⟩ := Except.bind_eq_ok h
    obtain ⟨ys', hys, h⟩ := Except.bind_eq_ok h
    cases Except.pure_eq_ok h
    have ih := List.mapM_ok_exists (fun x' hx' => hf x' (List.mem_cons_of_mem x hx')) hys
    simp only [List.mem_cons, exists_eq_or_imp, hf x List.mem_cons_self y hy, ih]

theorem List.mapM_map_results {m : Type → Type} [Monad m] [LawfulMonad m] (f : α → m β)
    (g : β → γ) : ∀ xs : List α, xs.mapM (fun x => g <$> f x) = List.map g <$> xs.mapM f
  | [] => by simp
  | x :: xs => by simp [List.mapM_map_results f g xs, map_bind]

/-! ## The first error -/

/-- The error a computation ended with, if it failed. -/
def Except.error? : Except ε α → Option ε
  | .ok _ => none
  | .error e => some e

@[simp] theorem Except.error?_ok (a : α) : Except.error? (.ok a : Except ε α) = none := rfl

@[simp] theorem Except.error?_error (e : ε) : Except.error? (.error e : Except ε α) = some e := rfl

@[simp] theorem Except.error?_map (f : α → β) (x : Except ε α) :
    Except.error? (f <$> x) = Except.error? x := by
  cases x <;> rfl

theorem Except.error?_eq_some {x : Except ε α} {e : ε} : Except.error? x = some e ↔ x = .error e := by
  cases x <;> simp

theorem Except.error?_bind_pure (x : Except ε α) (f : α → β) :
    Except.error? (x >>= fun a => pure (f a)) = Except.error? x := by
  cases x <;> rfl

/-- A list mapped in order fails with the first error of its elements. -/
theorem List.error?_mapM (f : α → Except ε β) :
    ∀ xs : List α, Except.error? (xs.mapM f) = xs.findSome? fun x => Except.error? (f x)
  | [] => rfl
  | x :: xs => by
    rw [List.mapM_cons, List.findSome?_cons]
    cases f x with
    | error e => rfl
    | ok b =>
      rw [Except.ok_bind, Except.error?_ok, ← List.error?_mapM f xs]
      exact Except.error?_bind_pure _ _

theorem List.findSome?_filterMap (h : α → Option β) (g : β → Option γ) :
    ∀ xs : List α, (xs.filterMap h).findSome? g = xs.findSome? fun x => (h x).bind g
  | [] => rfl
  | x :: xs => by
    rw [List.filterMap_cons, List.findSome?_cons]
    cases h x with
    | none => exact List.findSome?_filterMap h g xs
    | some b =>
      rw [List.findSome?_cons, Option.bind_some, List.findSome?_filterMap h g xs]

end VoiceCommands
