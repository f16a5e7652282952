import VoiceCommands.Action.Basic

/-!
# Running actions extends a trace

An action adds events after those already on its trace, or stops the trace
with a fault, and a stopped trace is left as it is (`Action.exec_stopped`,
`Action.exec_extend`).  On top of that: actions that run through
(`Action.RunsThrough`), that have no repetition (`Action.simple`), that never
stop a run (`Action.Faultless`), and the keys an action types (`Action.Types`).
-/

namespace VoiceCommands

instance : Append Trace := ⟨fun t u => { records := t.records ++ u.records, fault := u.fault }⟩

@[simp] theorem Trace.append_records (t u : Trace) : (t ++ u).records = t.records ++ u.records :=
  rfl

@[simp] theorem Trace.append_fault (t u : Trace) : (t ++ u).fault = u.fault := rfl

@[simp] theorem Trace.empty_records : ({} : Trace).records = [] := rfl

@[simp] theorem Trace.empty_fault : ({} : Trace).fault = none := rfl

theorem Trace.ext' {t u : Trace} (hr : t.records = u.records) (hf : t.fault = u.fault) :
    t = u := by
  cases t; cases u; simp_all

@[simp] theorem Trace.empty_append (u : Trace) : ({} : Trace) ++ u = u :=
  Trace.ext' (by simp) rfl

theorem Trace.append_empty {t : Trace} (h : t.fault = none) : t ++ {} = t :=
  Trace.ext' (by simp) (by simp [h])

theorem Trace.append_assoc (t u v : Trace) : t ++ u ++ v = t ++ (u ++ v) :=
  Trace.ext' (by simp) rfl

theorem Trace.push_eq {t : Trace} (h : t.fault = none) (r : Record) :
    t.push r = t ++ ({} : Trace).push r :=
  Trace.ext' (by simp [Trace.push]) (by simp [Trace.push, h])

theorem Trace.stop_eq (t : Trace) (f : Fault) : t.stop f = t ++ ({} : Trace).stop f :=
  Trace.ext' (by simp [Trace.stop]) rfl

/-! ## Stopped traces -/

theorem repeatSteps_stopped {t : Trace} (ht : t.fault.isSome) (step : Trace → Trace × Bool)
    (f : Fault) (hs : step t = (t, false)) : ∀ n, repeatSteps step f n t = t
  | 0 => rfl
  | _ + 1 => by simp [repeatSteps, hs, ht]

mutual
theorem Action.exec_stopped {t : Trace} (ht : t.fault.isSome) :
    ∀ (a : Action) (d : Data), a.exec d t = (t, false)
  | .send _ _ _, _ => by simp [Action.exec, ht]
  | .series ps, d => by simp [Action.exec, Action.execSeries_stopped ht ps d]
  | .repeated b n, d => by
    simp [Action.exec, repeatSteps_stopped ht _ _ (Action.exec_stopped ht b d)]
  | .bound b d', _ => by simp [Action.exec, Action.exec_stopped ht b d']
  | .idle, _ => rfl
  | .inert _, _ => by simp [Action.exec, ht]

theorem Action.execSeries_stopped {t : Trace} (ht : t.fault.isSome) :
    ∀ (ps : List Action) (d : Data), Action.execSeries ps d t = t
  | [], _ => rfl
  | a :: ps, d => by
    have hrest := Action.execSeries_stopped ht ps d
    cases a with
    | inert _ => rfl
    | _ => simp [Action.execSeries, Action.exec_stopped ht _ d, hrest]
end

theorem Action.execEach_stopped {t : Trace} (ht : t.fault.isSome) :
    ∀ (as : List Action) (d : Data), Action.execEach as d t = t
  | [], _ => rfl
  | a :: as, d => by simp [Action.execEach, Action.exec_stopped ht a d, Action.execEach_stopped ht as d]

/-! ## Running on a trace that has not stopped -/

theorem repeatSteps_extend (step : Trace → Trace × Bool) (f : Fault)
    (hs : ∀ t : Trace, t.fault = none → step t = (t ++ (step {}).1, (step {}).2)) :
    ∀ (n : Nat) (t : Trace), t.fault = none →
      repeatSteps step f n t = t ++ repeatSteps step f n {}
  | 0, t, ht => (Trace.append_empty ht).symm
  | n + 1, t, ht => by
    obtain ⟨u, failed, hst⟩ : ∃ u failed, step {} = (u, failed) := ⟨_, _, rfl⟩
    have htu : step t = (t ++ u, failed) := by rw [hs t ht, hst]
    simp only [repeatSteps, htu, hst, Trace.append_fault]
    split
    · rfl
    · split
      · exact Trace.ext' (by simp [Trace.stop]) rfl
      · have hu : u.fault = none := by simpa using ‹¬(u.fault.isSome = true)›
        rw [repeatSteps_extend step f hs n _ (by simpa using hu), repeatSteps_extend step f hs n u hu,
          Trace.append_assoc]

mutual
theorem Action.exec_extend :
    ∀ (a : Action) (d : Data) (t : Trace), t.fault = none →
      a.exec d t = (t ++ (a.exec d {}).1, (a.exec d {}).2)
  | .send o s st, d, t, ht => by simp [Action.exec, ht, Trace.push_eq ht]
  | .series ps, d, t, ht => by simp [Action.exec, Action.execSeries_extend ps d t ht]
  | .repeated b n, d, t, ht => by
    simp only [Action.exec]
    rw [repeatSteps_extend _ _ (fun t' ht' => Action.exec_extend b d t' ht') n t ht]
  | .bound b d', _, t, ht => by simp [Action.exec, Action.exec_extend b d' t ht]
  | .idle, _, t, ht => by simp [Action.exec, Trace.append_empty ht]
  | .inert _, _, t, ht => by simp only [Action.exec, ht]; exact congrArg (·, false) (Trace.stop_eq t _)

theorem Action.execSeries_extend :
    ∀ (ps : List Action) (d : Data) (t : Trace), t.fault = none →
      Action.execSeries ps d t = t ++ Action.execSeries ps d {}
  | [], _, t, ht => (Trace.append_empty ht).symm
  | a :: ps, d, t, ht => by
    obtain ⟨u, failed, hu⟩ : ∃ u failed, a.exec d {} = (u, failed) := ⟨_, _, rfl⟩
    have ha : a.exec d t = (t ++ u, failed) := by rw [Action.exec_extend a d t ht, hu]
    cases a with
    | inert _ => exact (Trace.append_empty ht).symm
    | _ =>
      simp only [Action.execSeries, ha, hu]
      split
      · rfl
      · cases hf : u.fault with
        | none =>
          rw [Action.execSeries_extend ps d _ (by simpa using hf),
            Action.execSeries_extend ps d u hf, Trace.append_assoc]
        | some f =>
          rw [Action.execSeries_stopped (by simp [hf]), Action.execSeries_stopped (by simp [hf])]
end

theorem Action.execEach_eq_foldl (as : List Action) (d : Data) (t : Trace) :
    Action.execEach as d t = as.foldl (fun t a => (a.exec d t).1) t := by
  induction as generalizing t with
  | nil => rfl
  | cons a as ih => exact ih _

theorem Action.execEach_extend (d : Data) :
    ∀ (as : List Action) (t : Trace), t.fault = none →
      Action.execEach as d t = t ++ Action.execEach as d {}
  | [], t, ht => (Trace.append_empty ht).symm
  | a :: as, t, ht => by
    simp only [Action.execEach, Action.exec_extend a d t ht]
    cases hf : (a.exec d {}).1.fault with
    | none =>
      rw [Action.execEach_extend d as _ (by simpa using hf), Action.execEach_extend d as _ hf,
        Trace.append_assoc]
    | some f =>
      rw [Action.execEach_stopped (by simp [hf]), Action.execEach_stopped (by simp [hf])]

/-! ## Actions that run through

An action *runs through* with some data when, run on its own, it neither
stops with a fault nor reports a failure.  Run one after the other, such
actions record their events in order, and a series of them records the same
as running them one by one. -/

/-- Run with `d`, the action neither stops nor reports a failure. -/
def Action.RunsThrough (a : Action) (d : Data) : Prop :=
  (a.exec d {}).1.fault = none ∧ (a.exec d {}).2 = false

instance (a : Action) (d : Data) : Decidable (a.RunsThrough d) :=
  inferInstanceAs (Decidable (_ ∧ _))

theorem Action.execEach_runsThrough (d : Data) :
    ∀ (as : List Action), (∀ a ∈ as, a.RunsThrough d) →
      Action.execEach as d {} = { records := as.flatMap fun a => (a.perform d).records }
  | [], _ => rfl
  | a :: as, h => by
    have ha := (h a (by simp)).1
    rw [Action.execEach, Action.execEach_extend d as _ ha,
      Action.execEach_runsThrough d as fun b hb => h b (by simp [hb])]
    exact Trace.ext' (by simp [Action.perform]) rfl

theorem Action.execSeries_cons_of_passes {a : Action} (ha : ∀ ty, a ≠ .inert ty) {d : Data}
    {t : Trace} (hpass : (a.exec d t).2 = false) (as : List Action) :
    Action.execSeries (a :: as) d t = Action.execSeries as d (a.exec d t).1 := by
  rw [Action.execSeries.eq_3 _ _ _ _ ha]
  rcases hexec : a.exec d t with ⟨t', failed⟩
  rw [hexec] at hpass
  cases hpass
  rfl

theorem Action.execSeries_singleton {a : Action} (ha : ∀ ty, a ≠ .inert ty) (d : Data)
    (t : Trace) : Action.execSeries [a] d t = (a.exec d t).1 := by
  rw [Action.execSeries.eq_3 _ _ _ _ ha]
  rcases a.exec d t with ⟨t', failed⟩
  cases failed <;> rfl

theorem Action.execSeries_eq_execEach {d : Data} :
    ∀ {ps : List Action}, (∀ p ∈ ps, (∀ ty, p ≠ .inert ty) ∧ (p.exec d {}).2 = false) →
      ∀ t, Action.execSeries ps d t = Action.execEach ps d t
  | [], _, _ => rfl
  | p :: ps, h, t => by
    obtain ⟨hinert, hreport⟩ := h p List.mem_cons_self
    -- whether a part reports a failure does not depend on the trace it runs on
    have hpass : (p.exec d t).2 = false := by
      cases ht : t.fault with
      | none => rw [Action.exec_extend p d t ht]; exact hreport
      | some f => rw [Action.exec_stopped (by simp [ht])]
    rw [Action.execSeries_cons_of_passes hinert hpass, Action.execEach]
    exact Action.execSeries_eq_execEach (fun q hq => h q (List.mem_cons_of_mem p hq)) _

theorem Action.execSeries_runsThrough (d : Data) (ps : List Action) (t : Trace)
    (h : ∀ p ∈ ps, p.RunsThrough d) : Action.execSeries ps d t = Action.execEach ps d t := by
  refine Action.execSeries_eq_execEach (fun p hp => ⟨fun ty hty => ?_, (h p hp).2⟩) t
  -- a part that is not an action stops the run, so it does not run through
  have hrun := h p hp
  subst hty
  simp [Action.RunsThrough, Action.exec, Trace.stop] at hrun

theorem Action.runsThrough_send (o : Output) (spec : Option String) (static : Bool) :
    (Action.send o spec static).RunsThrough [] := by
  cases spec <;> simp [Action.RunsThrough, Action.exec, sendRecord, Trace.push]

theorem Action.runsThrough_idle (d : Data) : Action.idle.RunsThrough d := ⟨rfl, rfl⟩

theorem Action.RunsThrough.series {ps : List Action} {d : Data}
    (h : ∀ p ∈ ps, p.RunsThrough d) : (Action.series ps).RunsThrough d := by
  refine ⟨?_, rfl⟩
  simp only [Action.exec, Action.execSeries_runsThrough d ps {} h,
    Action.execEach_runsThrough d ps h]

theorem Action.RunsThrough.repeated {b : Action} {d : Data} (hb : b.RunsThrough d) (n : Nat) :
    (Action.repeated b n).RunsThrough d := by
  refine ⟨?_, rfl⟩
  simp only [Action.exec]
  -- each copy adds the events of `b` and no fault
  suffices ∀ k (t : Trace), t.fault = none →
      (repeatSteps (fun t => b.exec d t) (.actionFailed (Action.repeated b n).describe) k t).fault
        = none from this n {} rfl
  intro k
  induction k with
  | zero => exact fun t ht => ht
  | succ k ih =>
    intro t ht
    simp only [repeatSteps, Action.exec_extend b d t ht, hb.1, hb.2, Trace.append_fault]
    exact ih _ (by simp [hb.1])

/-! ## Actions without repetitions -/

mutual
/-- Whether an action has no repetition and no part that is not an action.
Such an action never stops a run, whatever data it runs with: an event that
cannot be sent is recorded as failed, and only a repetition turns that into a
fault. -/
def Action.simple : Action → Bool
  | .send _ _ _ => true
  | .series ps => Action.simpleAll ps
  | .repeated _ _ => false
  | .bound b _ => b.simple
  | .idle => true
  | .inert _ => false
def Action.simpleAll : List Action → Bool
  | [] => true
  | a :: as => a.simple && Action.simpleAll as
end

mutual
theorem Action.simple_exec_fault :
    ∀ (a : Action) (d : Data), a.simple → (a.exec d {}).1.fault = none
  | .send _ _ _, _, _ => by simp [Action.exec, Trace.push]
  | .series ps, d, h => by
    simp only [Action.exec]
    exact Action.simpleAll_execSeries_fault ps d h {} rfl
  | .bound b d', _, h => by simp only [Action.exec]; exact Action.simple_exec_fault b d' h
  | .idle, _, _ => rfl

theorem Action.simpleAll_execSeries_fault :
    ∀ (ps : List Action) (d : Data), Action.simpleAll ps →
      ∀ t : Trace, t.fault = none → (Action.execSeries ps d t).fault = none
  | [], _, _, _, ht => ht
  | a :: ps, d, h, t, ht => by
    simp only [Action.simpleAll, Bool.and_eq_true] at h
    have ha := Action.simple_exec_fault a d h.1
    have hrest := Action.simpleAll_execSeries_fault ps d h.2
    cases a with
    | inert _ => exact ht
    | _ =>
      simp only [Action.execSeries, Action.exec_extend _ d t ht]
      split
      · simpa using ha
      · exact hrest _ (by simpa using ha)
end

theorem Action.runsThrough_bound {b : Action} (hb : b.simple) (e d : Data) :
    (Action.bound b e).RunsThrough d :=
  ⟨by simp only [Action.exec]; exact Action.simple_exec_fault b e hb, rfl⟩

theorem Action.simpleAll_eq_all : ∀ ps : List Action, Action.simpleAll ps = ps.all Action.simple
  | [] => rfl
  | p :: ps => by rw [Action.simpleAll, Action.simpleAll_eq_all ps, List.all_cons]

theorem Action.append_eq_andThen (a b : Action) : a ++ b = a.andThen b := rfl

theorem Action.simple_append {a b : Action} (ha : a.simple) (hb : b.simple) : (a ++ b).simple := by
  rw [Action.append_eq_andThen]
  cases a with
  | series ps =>
    simp only [Action.andThen, Action.simple, Action.simpleAll_eq_all, List.all_append,
      List.all_cons, List.all_nil, Bool.and_true, Bool.and_eq_true] at ha ⊢
    exact ⟨ha, hb⟩
  | _ => simp_all [Action.andThen, Action.simple, Action.simpleAll]

/-! ## Actions that never stop a run -/

/-- Run on its own with `d`, the action does not stop with a fault; it may
report a failure, which only a repetition turns into a fault. -/
def Action.Faultless (a : Action) (d : Data) : Prop := (a.exec d {}).1.fault = none

theorem Action.faultless_of_simple {a : Action} (h : a.simple) (d : Data) : a.Faultless d :=
  Action.simple_exec_fault a d h

theorem Action.Faultless.exec {a : Action} {d : Data} (h : a.Faultless d) {t : Trace}
    (ht : t.fault = none) : (a.exec d t).1.fault = none := by
  rw [Action.exec_extend a d t ht]
  exact h

theorem Action.execEach_faultless {d : Data} :
    ∀ {as : List Action} {t : Trace}, (∀ a ∈ as, a.Faultless d) → t.fault = none →
      (Action.execEach as d t).fault = none
  | [], _, _, ht => ht
  | a :: as, _, h, ht => by
    rw [Action.execEach]
    exact Action.execEach_faultless (fun b hb => h b (List.mem_cons_of_mem a hb))
      ((h a List.mem_cons_self).exec ht)

theorem Action.faultless_text_append_inert (s ty : String) (d : Data) :
    (Action.text s ++ .inert ty).Faultless d := by
  simp only [Action.Faultless, Action.append_eq_andThen, Action.text, Action.event,
    Action.andThen, Action.exec, Action.execSeries, Option.isSome_none, Bool.false_eq_true,
    ↓reduceIte]
  split <;> rfl

theorem Action.exec_inert_fault (ty : String) (d : Data) (t : Trace) :
    ((Action.inert ty).exec d t).1.fault.isSome := by
  simp only [Action.exec]
  split <;> simp_all [Trace.stop]

/-! ## Text events

An event is static when it holds no `%`: it is sent as written, whatever
the data.  Otherwise, run with data, it is formatted with the data, and text that
cannot be formatted is recorded as failed. -/

theorem Action.event_exec_verbatim (out : Output) {o : String} (ho : '%' ∉ o.toList) (d : Data)
    {t : Trace} (ht : t.fault = none) :
    (Action.event out o).exec d t = (t.push (.sent out (some o)), false) := by
  simp [Action.event, Action.exec, ht, sendRecord, ho]

theorem Action.text_exec_verbatim {o : String} (ho : '%' ∉ o.toList) (d : Data) {t : Trace}
    (ht : t.fault = none) : (Action.text o).exec d t = (t.push (.sent .text (some o)), false) :=
  Action.event_exec_verbatim .text ho d ht

theorem Action.text_exec_formatted {o : String} (ho : '%' ∈ o.toList) {d : Data} (hd : d ≠ [])
    {t : Trace} (ht : t.fault = none) :
    (Action.text o).exec d t = match interpolate o d with
      | some s => (t.push (.sent .text (some s)), false)
      | none => (t.push (.failed .text (some o)), true) := by
  cases hi : interpolate o d <;>
    simp [Action.text, Action.event, Action.exec, ht, sendRecord, ho, List.isEmpty_iff, hd, hi]

/-! ## The keys an action types

An action whose every event can be sent (`Action.Clean`) types, run on a
trace that has not stopped, exactly its keys (`Action.keys`): the text of
its events one after the other, read off the action without running it.
Actions joined by `++` type the keys of the first and then those of the
second. -/

def Record.sentText? : Record → Option String
  | .sent _ s => s
  | .failed _ _ => none

def Trace.typed (t : Trace) : String := String.join (t.records.filterMap Record.sentText?)

mutual
/-- The keys an action types with the data `d` when every event it sends can
be sent: each event its text as sent with the data it runs with, one after
the other; a series stops at a part that is not an action. -/
def Action.keys : Action → Data → String
  | .send out spec static, d => ((sendRecord out spec static d).sentText?).getD ""
  | .series ps, d => Action.keysAll ps d
  | .repeated b n, d => String.join (List.replicate n (b.keys d))
  | .bound b d', _ => b.keys d'
  | .idle, _ => ""
  | .inert _, _ => ""
def Action.keysAll : List Action → Data → String
  | [], _ => ""
  | .inert _ :: _, _ => ""
  | a :: as, d => a.keys d ++ Action.keysAll as d
end

/-- An action all of whose events can be sent with the data they run with:
it has no repetition and no part that is not an action. -/
inductive Action.Clean : Action → Data → Prop
  | send {out : Output} {spec : Option String} {static : Bool} {d : Data} (s : Option String) :
      sendRecord out spec static d = .sent out s → Action.Clean (.send out spec static) d
  | series {ps : List Action} {d : Data} : (∀ p ∈ ps, Action.Clean p d) → Action.Clean (.series ps) d
  | bound {b : Action} {d' d : Data} : Action.Clean b d' → Action.Clean (.bound b d') d
  | idle {d : Data} : Action.Clean .idle d

theorem Action.keysAll_cons {a : Action} (ha : ∀ ty, a ≠ .inert ty) (as : List Action) (d : Data) :
    Action.keysAll (a :: as) d = a.keys d ++ Action.keysAll as d := by
  rw [Action.keysAll.eq_3 _ _ _ ha]

theorem Trace.typed_push (t : Trace) (r : Record) :
    (t.push r).typed = t.typed ++ (r.sentText?).getD "" := by
  cases r with
  | sent out s =>
    cases s <;> simp [Trace.typed, Trace.push, Record.sentText?, List.filterMap_cons]
  | failed out s => simp [Trace.typed, Trace.push, Record.sentText?, List.filterMap_cons]

theorem Action.Clean.not_inert {a : Action} {d : Data} (h : a.Clean d) (ty : String) :
    a ≠ .inert ty := by
  cases h <;> simp

theorem Action.Clean.exec {a : Action} {d : Data} (h : a.Clean d) :
    ∀ {t : Trace}, t.fault = none →
      (a.exec d t).2 = false ∧ (a.exec d t).1.fault = none ∧
        (a.exec d t).1.typed = t.typed ++ a.keys d := by
  induction h with
  | send s hs =>
    intro t ht
    simp only [Action.exec, ht, Option.isSome_none, Bool.false_eq_true, if_false, hs,
      Trace.typed_push, Action.keys]
    exact ⟨trivial, ht, trivial⟩
  | @series ps d hparts ih =>
    intro t ht
    simp only [Action.exec, Action.keys, true_and]
    -- the parts run one after the other, each passing the run on
    induction ps generalizing t with
    | nil => simp [Action.execSeries, Action.keysAll, ht]
    | cons p ps ihps =>
      obtain ⟨hpass, hfault, htyped⟩ := ih p List.mem_cons_self ht
      have hinert := (hparts p List.mem_cons_self).not_inert
      obtain ⟨hrest, hrestTyped⟩ := ihps (fun q hq => hparts q (List.mem_cons_of_mem p hq))
        (fun q hq => ih q (List.mem_cons_of_mem p hq)) hfault
      rw [Action.execSeries_cons_of_passes hinert hpass, Action.keysAll_cons hinert]
      exact ⟨hrest, by rw [hrestTyped, htyped, String.append_assoc]⟩
  | bound _ ih =>
    intro t ht
    simp only [Action.exec, Action.keys, true_and]
    exact (ih ht).2
  | idle =>
    intro t ht
    simp [Action.exec, Action.keys, ht]

theorem Action.Clean.perform {a : Action} {d : Data} (h : a.Clean d) :
    (a.perform d).fault = none ∧ (a.perform d).typed = a.keys d := by
  obtain ⟨-, hfault, htyped⟩ := h.exec (t := {}) rfl
  exact ⟨hfault, by rw [Action.perform, htyped]; rfl⟩

theorem Action.keysAll_singleton (b : Action) (d : Data) : Action.keysAll [b] d = b.keys d := by
  cases b with
  | inert ty => rfl
  | _ => simp [Action.keysAll]

theorem Action.keysAll_append {d : Data} :
    ∀ {ps : List Action}, (∀ p ∈ ps, ∀ ty, p ≠ .inert ty) → ∀ qs : List Action,
      Action.keysAll (ps ++ qs) d = Action.keysAll ps d ++ Action.keysAll qs d
  | [], _, qs => by simp [Action.keysAll]
  | p :: ps, h, qs => by
    have hp := h p List.mem_cons_self
    rw [List.cons_append, Action.keysAll_cons hp, Action.keysAll_cons hp,
      Action.keysAll_append (fun q hq => h q (List.mem_cons_of_mem p hq)), String.append_assoc]

theorem Action.Clean.keys_append {a : Action} {d : Data} (ha : a.Clean d) (b : Action) :
    (a ++ b).keys d = a.keys d ++ b.keys d := by
  rw [Action.append_eq_andThen]
  cases ha with
  | @series ps _ hparts =>
    simp only [Action.andThen, Action.keys]
    rw [Action.keysAll_append (fun p hp => (hparts p hp).not_inert), Action.keysAll_singleton]
  | _ =>
    show Action.keysAll [_, b] d = _
    rw [Action.keysAll_cons (by simp), Action.keysAll_singleton]

theorem Action.Clean.append {a b : Action} {d : Data} (ha : a.Clean d) (hb : b.Clean d) :
    (a ++ b).Clean d := by
  rw [Action.append_eq_andThen]
  cases ha with
  | @series ps _ hparts =>
    refine .series fun p hp => ?_
    rcases List.mem_append.1 hp with hp | hp
    · exact hparts p hp
    · rw [List.mem_singleton.1 hp]; exact hb
  | _ =>
    refine .series fun p hp => ?_
    simp only [List.mem_cons, List.not_mem_nil, or_false] at hp
    rcases hp with rfl | rfl
    · constructor <;> assumption
    · exact hb

/-- The action types `s` whatever data it runs with: every event it sends
can be sent, and their text is `s`. -/
def Action.Types (a : Action) (s : String) : Prop := ∀ d, a.Clean d ∧ a.keys d = s

theorem Action.Types.perform {a : Action} {s : String} (h : a.Types s) (d : Data) :
    (a.perform d).fault = none ∧ (a.perform d).typed = s := by
  obtain ⟨hclean, hkeys⟩ := h d
  rw [← hkeys]
  exact hclean.perform

theorem Action.Types.append {a b : Action} {s s' : String} (ha : a.Types s) (hb : b.Types s') :
    (a ++ b).Types (s ++ s') := fun d =>
  ⟨(ha d).1.append (hb d).1, by rw [(ha d).1.keys_append, (ha d).2, (hb d).2]⟩

theorem Action.types_text {s : String} (h : '%' ∉ s.toList) : (Action.text s).Types s := by
  intro d
  have hrecord : sendRecord .text (some s) (!s.contains '%') d = .sent .text (some s) := by
    simp [sendRecord, h]
  refine ⟨.send _ hrecord, ?_⟩
  simp only [Action.text, Action.event, Action.keys]
  rw [hrecord]
  rfl

theorem Action.types_idle : Action.idle.Types "" := fun _ => ⟨.idle, rfl⟩

theorem Action.types_bound {b : Action} {d' : Data} (h : b.Clean d') :
    (Action.bound b d').Types (b.keys d') := fun _ => ⟨.bound h, rfl⟩

/-! ## Data dictionaries

A name set in a data dictionary is looked up to its new value, and every
other name to what it was; setting names one after the other, the last value
given to a name wins. -/

theorem Data.lookup_append (l₁ l₂ : Data) (name : String) :
    Data.lookup (l₁ ++ l₂) name = (Data.lookup l₁ name).or (Data.lookup l₂ name) := by
  simp only [Data.lookup, List.find?_append, Option.map_or]

theorem Data.lookup_set (name : String) (v : Datum) : ∀ d : Data, (d.set name v).lookup name = some v
  | [] => by simp [Data.set, Data.lookup]
  | (k, w) :: d => by
    by_cases hk : k = name
    · subst hk
      simp [Data.set, Data.lookup]
    · -- the entry in front keeps its value, and the name is set behind it
      have hcons : Data.set ((k, w) :: d) name v = (k, w) :: Data.set d name v := by
        unfold Data.set
        by_cases hany : d.any (·.1 == name) <;> simp [hk, hany]
      rw [hcons]
      simpa [Data.lookup, hk] using Data.lookup_set name v d

theorem Data.lookup_set_ne {name k : String} (hk : k ≠ name) (v : Datum) (d : Data) :
    (d.set k v).lookup name = d.lookup name := by
  unfold Data.set
  split
  · -- every entry keeps its name, and the one found is not `k`
    have hkeep : ∀ x : String × Datum, (if (x.1 == k) = true then (x.1, v) else (x.1, x.2)).1 = x.1 :=
      fun x => by split <;> rfl
    simp only [Data.lookup, List.find?_map, Function.comp_def, hkeep, Option.map_map]
    cases hfind : List.find? (fun p => decide (p.1 = name)) d with
    | none => rfl
    | some x =>
      have hx : x.1 = name := by simpa using List.find?_some hfind
      have hxk : x.1 ≠ k := fun h => hk (h ▸ hx)
      simp [hxk]
  · rw [Data.lookup_append]
    simp [Data.lookup, hk]

theorem Data.lookup_map_self {α : Type} (f : α → Datum) (name : String) (l : List α) :
    Data.lookup (l.map fun a => (name, f a)) name = l.head?.map f := by
  cases l <;> simp [Data.lookup]

theorem Data.lookup_map_ne {α : Type} (f : α → Datum) {k name : String} (hk : k ≠ name)
    (l : List α) : Data.lookup (l.map fun a => (k, f a)) name = none := by
  simp [Data.lookup, List.find?_map, Function.comp_def, hk]

theorem Data.lookup_setAll (name : String) :
    ∀ (es d : Data), (d.setAll es).lookup name = (Data.lookup es.reverse name).or (d.lookup name)
  | [], d => by simp [Data.setAll, Data.lookup]
  | (k, v) :: es, d => by
    have ih := Data.lookup_setAll name es (d.set k v)
    rw [show d.setAll ((k, v) :: es) = (d.set k v).setAll es from rfl, ih, List.reverse_cons,
      Data.lookup_append, Option.or_assoc]
    congr 1
    by_cases hk : k = name
    · subst hk
      rw [Data.lookup_set]
      simp [Data.lookup]
    · rw [Data.lookup_set_ne hk]
      simp [Data.lookup, hk]

end VoiceCommands
