import VoiceCommands.Recognition.Grammar
import VoiceCommands.Proofs.Recognition.Conforms
import VoiceCommands.Proofs.Actions

/-!
# Mapping rules

A mapping rule chooses among the specifications of its entries, and a mapping
of actions binds the entry spoken to the data of the recognition.
-/

namespace VoiceCommands.Recognition

theorem Mapping.choose_mem {α : Type} {m : Mapping α} {t : Tree} {a : α} {d : Data}
    (h : m.choose t = some (a, d)) : ∃ e ∈ m.entries, e.2 = a := by
  unfold Mapping.choose at h
  split at h
  · obtain ⟨e, he, hed⟩ := Option.map_eq_some_iff.1 h
    exact ⟨e, List.mem_of_getElem? he, (Prod.mk.inj hed).1⟩
  · cases h

theorem Mapping.entries_simple {m : Mapping Action} (h : m.entries.all (·.2.simple) = true) :
    ∀ e ∈ m.entries, e.2.simple := by
  simpa only [List.all_eq_true] using h

theorem Mapping.bound_simple {m : Mapping Action} (hm : ∀ e ∈ m.entries, e.2.simple) (t : Tree) :
    (m.bound t).simple := by
  unfold Mapping.bound
  cases h : m.choose t with
  | none => rfl
  | some ad =>
    obtain ⟨e, he, hea⟩ := Mapping.choose_mem h
    show ad.1.simple
    exact hea ▸ hm e he

/-- A mapping of actions without repetitions binds one to the data of the
recognition, which runs through with any data. -/
theorem Mapping.bound_runsThrough {m : Mapping Action} (hm : ∀ e ∈ m.entries, e.2.simple)
    (t : Tree) (d : Data) : (m.bound t).RunsThrough d := by
  unfold Mapping.bound
  cases h : m.choose t with
  | none => exact Action.runsThrough_idle d
  | some ad =>
    obtain ⟨e, he, hea⟩ := Mapping.choose_mem h
    exact Action.runsThrough_bound (hea ▸ hm e he) ad.2 d

theorem Mapping.bound_single {m : Mapping Action} {spec : String} {a : Action}
    (hm : m.entries = [(spec, a)]) {t : Tree} (ht : Conforms m.rule.ref t) :
    ∃ d, m.bound t = .bound a d := by
  obtain ⟨c, rfl, hc⟩ := ht.of_rule
  obtain ⟨i, e, spoken, rfl, he, -⟩ := hc.of_alt
  -- the only specification is the first
  have hi : i = 0 := by
    obtain ⟨hlt, -⟩ := List.getElem?_eq_some_iff.1 he
    simpa [Mapping.element, hm] using hlt
  subst hi
  simp only [Mapping.bound, Mapping.choose, Tree.inner, hm, List.getElem?_cons_zero, Option.map_some]
  exact ⟨_, rfl⟩

theorem Mapping.bound_key {m : Mapping Action} {spec k : String} (hm : m.entries = [(spec, .key k)])
    (hk : '%' ∉ k.toList) {t : Tree} (ht : Conforms m.rule.ref t) :
    (m.bound t).RunsThrough [] ∧ ((m.bound t).perform []).records = [.sent .key (some k)] := by
  obtain ⟨d, hd⟩ := Mapping.bound_single hm ht
  have hpress : (Action.key k).exec d {} = (({} : Trace).push (.sent .key (some k)), false) :=
    Action.event_exec_verbatim .key hk d rfl
  rw [hd]
  exact ⟨⟨by simp only [Action.exec, hpress]; rfl, rfl⟩, by simp only [Action.perform, Action.exec, hpress]; rfl⟩

end VoiceCommands.Recognition
