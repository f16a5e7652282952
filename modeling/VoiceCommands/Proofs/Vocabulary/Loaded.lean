import VoiceCommands.Loading
import VoiceCommands.Proofs.Vim.Values

/-!
# The vocabularies of a load

A vocabulary value makes an event or a series of events, so every vocabulary a
load gives the editor grammar has no repetition and runs through with no data:
`LoadRequest.editorSources_sound`.
-/

namespace VoiceCommands

/-- Whether an action is a single event. -/
def Action.isEvent : Action → Bool
  | .send .. => true
  | _ => false

/-- Whether an action is an event or a series of events, the actions a
vocabulary value makes. -/
def Action.eventSeries : Action → Bool
  | .series ps => ps.all Action.isEvent
  | a => a.isEvent

theorem Action.eventSeries_of_isEvent {a : Action} (h : a.isEvent) : a.eventSeries := by
  cases a with
  | send => rfl
  | _ => cases h

theorem Action.runsThrough_of_isEvent {a : Action} (h : a.isEvent) :
    a.simple ∧ a.RunsThrough [] := by
  cases a with
  | send o spec static => exact ⟨rfl, Action.runsThrough_send o spec static⟩
  | _ => cases h

theorem Action.runsThrough_of_eventSeries {a : Action} (h : a.eventSeries) :
    a.simple ∧ a.RunsThrough [] := by
  cases a with
  | series ps =>
    have hps : ∀ p ∈ ps, p.simple ∧ p.RunsThrough [] := fun p hp =>
      Action.runsThrough_of_isEvent (List.all_eq_true.1 h p hp)
    refine ⟨?_, Action.RunsThrough.series fun p hp => (hps p hp).2⟩
    rw [Action.simple, Action.simpleAll_eq_all, List.all_eq_true]
    exact fun p hp => (hps p hp).1
  | _ => exact Action.runsThrough_of_isEvent h

theorem Action.ofSpec_isEvent {out : Output} {spec : Value} {static : Bool} {a : Action}
    (h : Action.ofSpec out spec static = .ok a) : a.isEvent := by
  cases spec with
  | none => cases h; rfl
  | str s => cases h; rfl
  | _ => cases h

namespace Vocabulary

/-- Entries whose actions are all events or series of events. -/
def Entries.EventsOnly (es : Entries) : Prop := ∀ e ∈ es, e.2.eventSeries

theorem Entries.EventsOnly.set {es : Entries} (h : es.EventsOnly) (phrase : String) {a : Action}
    (ha : a.eventSeries) : (es.set phrase a).EventsOnly := by
  intro e he
  unfold Entries.set at he
  split at he
  · obtain ⟨e', he', rfl⟩ := List.mem_map.1 he
    split
    · exact ha
    · exact h e' he'
  · rcases List.mem_append.1 he with he | he
    · exact h e he
    · rw [List.mem_singleton.1 he]
      exact ha

theorem Entries.EventsOnly.setAll {es new : Entries} (h : es.EventsOnly) (hn : new.EventsOnly) :
    (es.setAll new).EventsOnly := by
  induction new generalizing es with
  | nil => exact h
  | cons e rest ih =>
    exact ih (h.set e.1 (hn e List.mem_cons_self)) fun e' he' => hn e' (List.mem_cons_of_mem _ he')

theorem Block.merge_eventsOnly {bs : List Block} (h : ∀ b ∈ bs, b.entries.EventsOnly)
    (tag : String) : (Block.merge bs tag).EventsOnly := by
  unfold Block.merge
  -- the fold keeps the entries merged so far made of events, from none at all
  generalize hnil : ([] : Entries) = acc
  have hacc : Entries.EventsOnly acc := hnil ▸ fun _ he => nomatch he
  clear hnil
  induction bs generalizing acc with
  | nil => exact hacc
  | cons b bs ih =>
    rw [List.foldl_cons]
    refine ih (fun b' hb' => h b' (List.mem_cons_of_mem _ hb')) _ ?_
    split
    · exact hacc.setAll (h b List.mem_cons_self)
    · exact hacc

theorem Library.entries_eventsOnly {l : Library} (hg : ∀ g ∈ l.given, g.2.EventsOnly)
    (hb : ∀ b ∈ l.blocks, b.entries.EventsOnly) (tag : String) : (l.entries tag).EventsOnly := by
  unfold Library.entries
  split
  · next h => exact hg _ (List.mem_of_find?_eq_some h)
  · exact Block.merge_eventsOnly hb tag

theorem Library.give_entries_eventsOnly {l : Library} {tags : List (String × Entries)}
    (hl : ∀ g ∈ l.given, g.2.EventsOnly) (hb : ∀ b ∈ l.blocks, b.entries.EventsOnly)
    (ht : ∀ g ∈ tags, g.2.EventsOnly) (tag : String) : ((l.give tags).entries tag).EventsOnly := by
  -- giving tags keeps the blocks and puts the tags before what was given
  have hb' : ∀ b ∈ (l.give tags).blocks, b.entries.EventsOnly := hb
  refine Library.entries_eventsOnly (fun g hg => ?_) hb' tag
  rcases List.mem_append.1 hg with hg | hg
  · exact ht g hg
  · exact hl g hg

theorem builtin_blocks_eventsOnly :
    (∀ b ∈ dynamicBlocks, b.entries.EventsOnly) ∧ ∀ b ∈ staticBlocks, b.entries.EventsOnly := by
  have hd : dynamicBlocks.all (·.entries.all (·.2.eventSeries)) = true := rfl
  have hs : staticBlocks.all (·.entries.all (·.2.eventSeries)) = true := rfl
  simp only [List.all_eq_true] at hd hs
  exact ⟨hd, hs⟩

/-! ## What vocabulary values make -/

theorem eventOf_isEvent {out : Output} {args : List Value} {a : Action}
    (h : eventOf out args = .ok a) : a.isEvent := by
  unfold eventOf at h
  split at h
  · exact Action.ofSpec_isEvent h
  · exact Action.ofSpec_isEvent h
  · exact Action.ofSpec_isEvent h
  · cases h

theorem partAction_isEvent {part : Value} {a : Action} (h : partAction part = .ok a) :
    a.isEvent := by
  unfold partAction at h
  -- a part is read through nested look-ups, and every way out of them but the
  -- event of the arguments is a fault
  repeat' split at h
  all_goals first
    | exact eventOf_isEvent h
    | cases h

theorem valueAction_eventSeries {v : Value} {a : Action} (h : valueAction v = .ok a) :
    a.eventSeries := by
  cases v with
  | list parts =>
    obtain ⟨as, has, h⟩ := Except.bind_eq_ok h
    have hev : ∀ p ∈ as, p.isEvent := List.mapM_ok_forall (fun _ _ _ => partAction_isEvent) has
    match as, h with
    | [], h => cases h
    | [_], h => cases h; exact Action.eventSeries_of_isEvent (hev _ List.mem_cons_self)
    | _ :: _ :: _, h => cases h; exact List.all_eq_true.2 hev
  | _ =>
    simp only [valueAction] at h
    exact Action.eventSeries_of_isEvent (Action.ofSpec_isEvent h)

theorem entriesOf_eventsOnly {v : Value} {es : Entries} (h : entriesOf v = .ok es) :
    es.EventsOnly := by
  cases v with
  | dict named =>
    have hentry : ∀ kv ∈ named, ∀ e : String × Action,
        ((fun a => (kv.1, a)) <$> valueAction kv.2) = .ok e → e.2.eventSeries := by
      intro kv _ e he
      obtain ⟨a, ha, rfl⟩ := Except.map_eq_ok he
      exact valueAction_eventSeries ha
    exact List.mapM_ok_forall hentry h
  | _ => cases h

end Vocabulary

open Vocabulary

theorem givenEntries_eventsOnly (given : List (String × Value)) :
    ∀ g ∈ givenEntries given, g.2.EventsOnly := by
  intro g hg
  obtain ⟨⟨tag, v⟩, -, rfl⟩ := List.mem_map.1 hg
  -- a vocabulary whose values do not all make actions is left empty
  cases h : entriesOf v with
  | error f => simp [h, Except.toOption, Entries.EventsOnly]
  | ok es => simpa [h, Except.toOption] using entriesOf_eventsOnly h

theorem LoadRequest.vocabularies_eventsOnly (r : LoadRequest) (tag : String) :
    (r.vocabularies.static.entries tag).EventsOnly ∧
      (r.vocabularies.dynamic.entries tag).EventsOnly := by
  have hnone : ∀ g ∈ ([] : List (String × Entries)), g.2.EventsOnly := fun _ h => nomatch h
  exact ⟨Library.give_entries_eventsOnly hnone builtin_blocks_eventsOnly.2
      (givenEntries_eventsOnly r.staticVocabulary) tag,
    Library.give_entries_eventsOnly hnone builtin_blocks_eventsOnly.1
      (givenEntries_eventsOnly r.dynamicVocabulary) tag⟩

/-- Every source of the editor grammar, with the vocabularies of any load, is
sound: its lists run through with no data and its static mappings have no
repetition. -/
theorem LoadRequest.editorSources_sound (r : LoadRequest) :
    ∀ s ∈ Vim.sources r.vocabularies, s.Sound := by
  have hlist : ∀ tag name, (Vim.Source.dynamic name (r.vocabularies.dynamic.entries tag)).Sound :=
    fun tag _ e he => (Action.runsThrough_of_eventSeries ((r.vocabularies_eventsOnly tag).2 e he)).2
  have hmapping : ∀ tag name, ∀ s ∈ Vim.staticSource r.vocabularies tag name, s.Sound := by
    intro tag name s hs
    simp only [Vim.staticSource] at hs
    split at hs
    · cases hs
    · rw [List.mem_singleton.1 hs]
      exact fun e he => (Action.runsThrough_of_eventSeries ((r.vocabularies_eventsOnly tag).1 e he)).1
  intro s hs
  simp only [Vim.sources, List.cons_append, List.nil_append, List.mem_cons, List.mem_append] at hs
  -- the keys, the identifiers, the two lists, arithmetic, spelling, the two static mappings
  rcases hs with rfl | rfl | rfl | rfl | rfl | rfl | hs | hs
  · trivial
  · trivial
  · exact hlist _ _
  · exact hlist _ _
  · trivial
  · trivial
  · exact hmapping _ _ s hs
  · exact hmapping _ _ s hs

end VoiceCommands
