import VoiceCommands.Charwise.Commands
import VoiceCommands.Proofs.Actions
import VoiceCommands.Proofs.Except

/-!
# Replaying earlier work

The character-wise grammar remembers the actions of the last line that did
something, so that `repeat chunk` and `repeat last` can run them again; a line
remembers its own actions before its replays read the memory.
`hearLines_initial` gives what every sequence of lines records from the start.
-/

namespace VoiceCommands.Charwise

open Recognition Formatting

/-! ## Lines only produce actions that run through -/

theorem modifiedKeyAction_runsThrough (t : Tree) : (modifiedKeyAction t).RunsThrough [] := by
  unfold modifiedKeyAction keyPress
  split
  · exact (Action.runsThrough_send _ _ _).repeated _
  · exact Action.runsThrough_idle _

theorem commands_simple (now : String) : ∀ e ∈ (commands now).entries, e.2.simple := by
  -- whether an action has repetitions does not look at the text it types
  have h : (commands now).entries.all (·.2.simple) = true := rfl
  exact List.all_eq_true.1 h

theorem commands_bound_runsThrough (now : String) (t : Tree) :
    ((commands now).bound t).RunsThrough [] := by
  unfold Mapping.bound Mapping.choose
  split
  · rename_i hc
    split at hc
    · obtain ⟨e, he, he'⟩ := Option.map_eq_some_iff.1 hc
      cases he'
      exact Action.runsThrough_bound (commands_simple now e (List.mem_of_getElem? he)) _ _
    · cases hc
  · exact Action.runsThrough_idle _

theorem text_runsThrough (s : String) : (Action.text s).RunsThrough [] :=
  Action.runsThrough_send _ _ _

theorem partAction_runsThrough {now : String} (x : Tree) (a : Action) (h : partAction now x = .ok a) :
    a.RunsThrough [] := by
  unfold partAction at h
  split at h
  · cases h; exact modifiedKeyAction_runsThrough _
  · cases h; exact commands_bound_runsThrough _ _
  · simp only [WordsRule.action, Functor.map, Except.map] at h
    split at h
    · cases h
    · cases h; exact text_runsThrough _
  · cases h; exact Action.runsThrough_idle _

theorem launch_eq (s : String) :
    openLauncher ++ Action.text s ++ Action.key "enter" =
      .series [.key "w-space", .pause "10", .text s, .key "enter"] := rfl

theorem endingAction_runsThrough (x : Tree) (a : Action) (h : endingAction x = .ok a) :
    a.RunsThrough [] := by
  unfold endingAction at h
  split at h
  · simp only [WordsRule.action, Functor.map, Except.map] at h
    split at h
    · cases h
    · cases h; exact text_runsThrough _
  · simp only [WordsRule.action, bind, Except.bind, pure, Except.pure] at h
    split at h
    · cases h
    · cases h
      rw [launch_eq]
      refine Action.RunsThrough.series fun p hp => ?_
      simp only [List.mem_cons, List.not_mem_nil, or_false] at hp
      rcases hp with rfl | rfl | rfl | rfl <;> exact Action.runsThrough_send _ _ _
  · cases h; exact Action.runsThrough_idle _

theorem readParts_runsThrough {now : String} {x : Tree} {as : List Action}
    (h : readParts now x = .ok as) :
    ∀ a ∈ as, a.RunsThrough [] := by
  unfold readParts at h
  split at h
  · exact List.mapM_ok_forall (fun x _ => partAction_runsThrough x) h
  · cases h; simp

theorem readEnding_runsThrough {x : Tree} {as : List Action} (h : readEnding x = .ok as) :
    ∀ a ∈ as, a.RunsThrough [] := by
  unfold readEnding at h
  split at h
  · obtain ⟨a, ha, rfl⟩ := Except.map_eq_ok h
    simpa using endingAction_runsThrough _ _ ha
  · cases h; simp

theorem readLine_runsThrough {now : String} {t : Tree} {l : Line} (h : readLine now t = .ok l) :
    ∀ a ∈ l.actions, a.RunsThrough [] := by
  unfold readLine at h
  split at h
  · obtain ⟨parts, hparts, h⟩ := Except.bind_eq_ok h
    obtain ⟨last, hlast, h⟩ := Except.bind_eq_ok h
    cases Except.pure_eq_ok h
    intro a ha
    rcases List.mem_append.1 ha with ha | ha
    · exact readParts_runsThrough hparts a ha
    · exact readEnding_runsThrough hlast a ha
  · cases h; simp

/-! ## The chunk a replay reads -/

/-- The chunk a replay reads, given the action lists of the lines read so far,
the latest first: the latest one that is not empty, or one empty text when
there is none. -/
def remembered : List (List Action) → List Action
  | [] => [.text ""]
  | [] :: older => remembered older
  | (a :: as) :: _ => a :: as

theorem remembered_ne_nil : ∀ hs : List (List Action), remembered hs ≠ []
  | [] => by simp [remembered]
  | [] :: older => by simpa [remembered] using remembered_ne_nil older
  | (_ :: _) :: _ => by simp [remembered]

theorem remembered_runsThrough : ∀ {hs : List (List Action)},
    (∀ as ∈ hs, ∀ a ∈ as, a.RunsThrough []) → ∀ a ∈ remembered hs, a.RunsThrough []
  | [], _ => by simpa [remembered] using text_runsThrough ""
  | [] :: older, h => by simpa [remembered] using remembered_runsThrough fun as has => h as (by simp [has])
  | (b :: bs) :: _, h => by simpa [remembered] using h (b :: bs) (by simp)

theorem runLine_memory (l : Line) (hs : List (List Action)) :
    (runLine l ⟨remembered hs⟩).2 = ⟨remembered (l.actions :: hs)⟩ := by
  unfold runLine
  cases l.actions <;> simp [remembered]

/-! ## What a line records -/

def eventsOf (as : List Action) : List Record := as.flatMap fun a => (a.perform []).records

def Replay.picks : Replay → List Action → List Action
  | .chunk, c => c
  | .last, c => c.getLast?.toList

/-- The events of a line read as `l`, after lines that did `hs`: its own
actions, then for each replay what it picks from the chunk it reads. -/
def lineEvents (l : Line) (hs : List (List Action)) : List Record :=
  eventsOf l.actions ++ l.replays.flatMap fun r => eventsOf (r.picks (remembered (l.actions :: hs)))

theorem replay_run {c : List Action} (hc : c ≠ []) (hrun : ∀ a ∈ c, a.RunsThrough [])
    (r : Replay) {t : Trace} (ht : t.fault = none) :
    (Memory.replay ⟨c⟩ r).run t = t ++ { records := eventsOf (r.picks c) } := by
  cases r with
  | chunk =>
    simp only [Memory.replay, Action.run, Action.exec, Action.execSeries_runsThrough [] c t hrun,
      Action.execEach_extend [] c t ht, Action.execEach_runsThrough [] c hrun, Replay.picks,
      eventsOf]
  | last =>
    obtain ⟨a, ha⟩ : ∃ a, c.getLast? = some a := Option.isSome_iff_exists.1 (by simpa using hc)
    have hmem : a ∈ c := List.mem_of_getLast? ha
    have hlast : c.getLastD .idle = a := by simp [List.getLastD_eq_getLast?, ha]
    simp only [Memory.replay, Action.run, hlast, Action.exec_extend a [] t ht, Replay.picks, ha,
      Option.toList_some, eventsOf, List.flatMap_singleton]
    exact Trace.ext' rfl (by simpa [Action.perform] using (hrun a hmem).1)

theorem replays_run {c : List Action} (hc : c ≠ []) (hrun : ∀ a ∈ c, a.RunsThrough []) :
    ∀ (rs : List Replay) (t : Trace), t.fault = none →
      rs.foldl (fun tr r => (Memory.replay ⟨c⟩ r).run tr) t =
        t ++ { records := rs.flatMap fun r => eventsOf (r.picks c) }
  | [], t, ht => by simp [Trace.append_empty ht]
  | r :: rs, t, ht => by
    rw [List.foldl_cons, replay_run hc hrun r ht, replays_run hc hrun rs _ (by simp),
      Trace.append_assoc]
    exact congrArg (t ++ ·) (Trace.ext' (by simp) rfl)

theorem runLine_trace {l : Line} (hl : ∀ a ∈ l.actions, a.RunsThrough [])
    {hs : List (List Action)} (hhs : ∀ as ∈ hs, ∀ a ∈ as, a.RunsThrough []) :
    (runLine l ⟨remembered hs⟩).1 = { records := lineEvents l hs } := by
  have hc := remembered_ne_nil (l.actions :: hs)
  have hrun : ∀ a ∈ remembered (l.actions :: hs), a.RunsThrough [] := remembered_runsThrough fun as has => by
    rcases List.mem_cons.1 has with rfl | has
    · exact hl
    · exact hhs as has
  unfold runLine lineEvents
  cases hacts : l.actions with
  | nil =>
    simp only [hacts, remembered] at hc hrun ⊢
    simp [replays_run hc hrun _ {} rfl, eventsOf]
  | cons a as =>
    rw [hacts] at hl hc hrun
    simp only [List.isEmpty_cons, Bool.false_eq_true, ↓reduceIte, remembered]
    rw [Action.execEach_runsThrough [] _ hl, replays_run (by simp) hl _ _ rfl]
    exact Trace.ext' (by simp [eventsOf]) rfl

/-! ## Lines one after the other -/

section
variable (now : String)

/-- Lines heard one after the other by the line rule, with the clock reading
`now`, from a memory: what each line records, and the memory after the
last. -/
def hearLines : List Tree → Memory → List Trace × Memory
  | [], m => ([], m)
  | t :: ts, m =>
    let (tr, m') := perform now (lineRule now) t m
    let (trs, m'') := hearLines ts m'
    (tr :: trs, m'')

/-- What lines record, after lines that did `hs` (the latest first), and the
action lists of all the lines read: a line that cannot be read stops with its
fault before doing anything, and is not remembered. -/
def lineTraces : List Tree → List (List Action) → List Trace × List (List Action)
  | [], hs => ([], hs)
  | t :: ts, hs =>
    match readLine now t with
    | .ok l =>
      let (trs, hs') := lineTraces ts (l.actions :: hs)
      ({ records := lineEvents l hs } :: trs, hs')
    | .error f =>
      let (trs, hs') := lineTraces ts hs
      ({ fault := some f } :: trs, hs')

theorem perform_line {t : Tree} {hs : List (List Action)}
    (hhs : ∀ as ∈ hs, ∀ a ∈ as, a.RunsThrough []) :
    perform now (lineRule now) t ⟨remembered hs⟩ =
      match readLine now t with
      | .ok l => ({ records := lineEvents l hs }, ⟨remembered (l.actions :: hs)⟩)
      | .error f => ({ fault := some f }, ⟨remembered hs⟩) := by
  unfold perform
  simp only [↓reduceIte]
  cases hl : readLine now t with
  | error f => rfl
  | ok l =>
    exact Prod.ext (runLine_trace (readLine_runsThrough hl) hhs) (runLine_memory l hs)

theorem hearLines_remembered : ∀ (ts : List Tree) {hs : List (List Action)},
    (∀ as ∈ hs, ∀ a ∈ as, a.RunsThrough []) →
      hearLines now ts ⟨remembered hs⟩ =
        ((lineTraces now ts hs).1, ⟨remembered (lineTraces now ts hs).2⟩)
  | [], _, _ => rfl
  | t :: ts, hs, hhs => by
    simp only [hearLines, lineTraces, perform_line now hhs]
    cases hl : readLine now t with
    | error f => simp only [hearLines_remembered ts hhs]
    | ok l =>
      have hhs' : ∀ as ∈ l.actions :: hs, ∀ a ∈ as, a.RunsThrough [] := by
        intro as has
        rcases List.mem_cons.1 has with rfl | has
        · exact readLine_runsThrough hl
        · exact hhs as has
      simp only [hearLines_remembered ts hhs']

/-- From the start, every line records its own actions and then, for each
replay, what the replay picks from the latest non-empty action list read so
far, its own included; the memory is always that list, so it is never empty,
and a line that does nothing or cannot be read leaves it as it was. -/
theorem hearLines_initial (ts : List Tree) :
    hearLines now ts Memory.initial =
        ((lineTraces now ts []).1, ⟨remembered (lineTraces now ts []).2⟩) ∧
      (hearLines now ts Memory.initial).2.lastChunk ≠ [] := by
  have h : hearLines now ts ⟨remembered []⟩ = _ := hearLines_remembered now ts (by simp)
  exact ⟨h, by rw [show Memory.initial = ⟨remembered []⟩ from rfl, h]; exact remembered_ne_nil _⟩

end

end VoiceCommands.Charwise
