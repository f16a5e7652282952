import VoiceCommands.Recognition.Element

/-!
# Parse trees

`Conforms e t` says that `t` is a parse tree of the element `e`, shaped as
recognition builds it.  A list's node holds the words it took, which need not
spell one of its phrases.  `Element.accepts` computes the relation, so that a
given tree can be checked, and `Element.beq` compares elements.
-/

namespace VoiceCommands.Recognition

open Text

mutual
/-- `t` is a parse tree of the element `e`. -/
inductive Conforms : Element → Tree → Prop
  | word {w : String} : Conforms (.word w) (.word (lower w))
  | seq {es : List Element} {ts : List Tree} : ConformsAll es ts → Conforms (.seq es) (.seq ts)
  | alt {es : List Element} {i : Nat} {e : Element} {t : Tree} :
      es[i]? = some e → Conforms e t → Conforms (.alt es) (.alt i t)
  | present {e : Element} {t : Tree} : Conforms e t → Conforms (.opt e) (.opt (some t))
  | absent {e : Element} : Conforms (.opt e) (.opt none)
  | rep {e : Element} {least extra : Nat} {ts : List Tree} :
      least ≤ ts.length → ts.length ≤ least + extra → (∀ t ∈ ts, Conforms e t) →
      Conforms (.rep e least extra) (.rep ts)
  | named {n : String} {k : Extra} {e : Element} {t : Tree} :
      Conforms e t → Conforms (.named n k e) (.named n k t)
  | rule {n : String} {e : Element} {t : Tree} : Conforms e t → Conforms (.rule n e) (.rule n t)
  | list {n : String} {ps ws : List String} : ws ≠ [] → Conforms (.list n ps) (.phrase ws)
  | dictation {ws : List String} : ws ≠ [] → Conforms .dictation (.dictation ws)
/-- The trees are parse trees of the elements, one for one. -/
inductive ConformsAll : List Element → List Tree → Prop
  | nil : ConformsAll [] []
  | cons {e : Element} {es : List Element} {t : Tree} {ts : List Tree} :
      Conforms e t → ConformsAll es ts → ConformsAll (e :: es) (t :: ts)
end

/-! ## Reading a parse tree back

Each node of a parse tree is the node of its element: one inversion per
constructor of `Element`. -/

section
variable {t : Tree}

theorem Conforms.of_word {w : String} (h : Conforms (.word w) t) : t = .word (lower w) := by
  cases h with
  | word => rfl

theorem Conforms.of_seq {es : List Element} (h : Conforms (.seq es) t) :
    ∃ ts, t = .seq ts ∧ ConformsAll es ts := by
  cases h with
  | seq hs => exact ⟨_, rfl, hs⟩

theorem Conforms.of_alt {es : List Element} (h : Conforms (.alt es) t) :
    ∃ i e c, t = .alt i c ∧ es[i]? = some e ∧ Conforms e c := by
  cases h with
  | alt he hc => exact ⟨_, _, _, rfl, he, hc⟩

theorem Conforms.of_opt {e : Element} (h : Conforms (.opt e) t) :
    t = .opt none ∨ ∃ c, t = .opt (some c) ∧ Conforms e c := by
  cases h with
  | absent => exact .inl rfl
  | present hc => exact .inr ⟨_, rfl, hc⟩

theorem Conforms.of_rep {e : Element} {least extra : Nat} (h : Conforms (.rep e least extra) t) :
    ∃ ts, t = .rep ts ∧ ∀ c ∈ ts, Conforms e c := by
  cases h with
  | rep _ _ hs => exact ⟨_, rfl, hs⟩

theorem Conforms.of_named {n : String} {k : Extra} {e : Element} (h : Conforms (.named n k e) t) :
    ∃ c, t = .named n k c ∧ Conforms e c := by
  cases h with
  | named hc => exact ⟨_, rfl, hc⟩

theorem Conforms.of_opt_named {n : String} {k : Extra} {e : Element}
    (h : Conforms (.opt (.named n k e)) t) :
    ∃ o : Option Tree, t = .opt (o.map (.named n k)) ∧ ∀ c ∈ o, Conforms e c := by
  rcases h.of_opt with rfl | ⟨c, rfl, hc⟩
  · exact ⟨none, rfl, by simp⟩
  · obtain ⟨c', rfl, hc'⟩ := hc.of_named
    exact ⟨some c', rfl, by simpa using hc'⟩

theorem Conforms.of_rule {n : String} {e : Element} (h : Conforms (.rule n e) t) :
    ∃ c, t = .rule n c ∧ Conforms e c := by
  cases h with
  | rule hc => exact ⟨_, rfl, hc⟩

theorem Conforms.of_list {n : String} {ps : List String} (h : Conforms (.list n ps) t) :
    ∃ ws, t = .phrase ws ∧ ws ≠ [] := by
  cases h with
  | list hws => exact ⟨_, rfl, hws⟩

theorem Conforms.alt_words {ws : List String} (h : Conforms (.alt (ws.map .word)) t) :
    ∃ w ∈ ws, t.words = [lower w] := by
  obtain ⟨i, e, c, rfl, he, hc⟩ := h.of_alt
  rw [List.getElem?_map] at he
  obtain ⟨w, hw, rfl⟩ := Option.map_eq_some_iff.1 he
  rw [hc.of_word]
  exact ⟨w, List.mem_of_getElem? hw, rfl⟩

theorem ConformsAll.of_nil {ts : List Tree} (h : ConformsAll [] ts) : ts = [] := by
  cases h with
  | nil => rfl

theorem ConformsAll.of_cons {e : Element} {es : List Element} {ts : List Tree}
    (h : ConformsAll (e :: es) ts) : ∃ t ts', ts = t :: ts' ∧ Conforms e t ∧ ConformsAll es ts' := by
  cases h with
  | cons ht hts => exact ⟨_, _, rfl, ht, hts⟩

theorem Conforms.of_pair {a b : Element} (h : Conforms (.seq [a, b]) t) :
    ∃ x y, t = .seq [x, y] ∧ Conforms a x ∧ Conforms b y := by
  obtain ⟨ts, rfl, hts⟩ := h.of_seq
  obtain ⟨x, ts, rfl, hx, hts⟩ := hts.of_cons
  obtain ⟨y, ts, rfl, hy, hts⟩ := hts.of_cons
  cases hts.of_nil
  exact ⟨x, y, rfl, hx, hy⟩

theorem Conforms.of_triple {a b c : Element} (h : Conforms (.seq [a, b, c]) t) :
    ∃ x y z, t = .seq [x, y, z] ∧ Conforms a x ∧ Conforms b y ∧ Conforms c z := by
  obtain ⟨ts, rfl, hts⟩ := h.of_seq
  obtain ⟨x, ts, rfl, hx, hts⟩ := hts.of_cons
  obtain ⟨y, ts, rfl, hy, hts⟩ := hts.of_cons
  obtain ⟨z, ts, rfl, hz, hts⟩ := hts.of_cons
  cases hts.of_nil
  exact ⟨x, y, z, rfl, hx, hy, hz⟩

end

/-! ## Checking a tree -/

mutual
/-- Whether a tree is a parse tree of an element, computed. -/
def Element.accepts : Element → Tree → Bool
  | .word w, .word x => x == lower w
  | .seq es, .seq ts => Element.acceptsAll es ts
  | .alt es, .alt i t => Element.acceptsAt es i t
  | .opt _, .opt none => true
  | .opt e, .opt (some t) => e.accepts t
  | .rep e least extra, .rep ts =>
    decide (least ≤ ts.length) && decide (ts.length ≤ least + extra) && ts.all (e.accepts ·)
  | .named n k e, .named n' k' t => n == n' && k == k' && e.accepts t
  | .rule n e, .rule n' t => n == n' && e.accepts t
  | .list _ _, .phrase ws => !ws.isEmpty
  | .dictation, .dictation ws => !ws.isEmpty
  | _, _ => false
def Element.acceptsAll : List Element → List Tree → Bool
  | [], [] => true
  | e :: es, t :: ts => e.accepts t && Element.acceptsAll es ts
  | _, _ => false
def Element.acceptsAt : List Element → Nat → Tree → Bool
  | [], _, _ => false
  | e :: _, 0, t => e.accepts t
  | _ :: es, i + 1, t => Element.acceptsAt es i t
end

mutual
theorem Element.conforms_of_accepts : ∀ (e : Element) (t : Tree), e.accepts t = true → Conforms e t
  | .word w, t, h => by
    cases t with
    | word x =>
      simp only [Element.accepts, beq_iff_eq] at h
      rw [h]
      exact .word
    | _ => simp [Element.accepts] at h
  | .seq es, t, h => by
    cases t with
    | seq ts => exact .seq (Element.conformsAll_of_acceptsAll es ts (by simpa [Element.accepts] using h))
    | _ => simp [Element.accepts] at h
  | .alt es, t, h => by
    cases t with
    | alt i c =>
      obtain ⟨e, he, hc⟩ := Element.conforms_of_acceptsAt es i c (by simpa [Element.accepts] using h)
      exact .alt he hc
    | _ => simp [Element.accepts] at h
  | .opt e, t, h => by
    cases t with
    | opt body =>
      cases body with
      | none => exact .absent
      | some c => exact .present (Element.conforms_of_accepts e c (by simpa [Element.accepts] using h))
    | _ => simp [Element.accepts] at h
  | .rep e least extra, t, h => by
    cases t with
    | rep ts =>
      simp only [Element.accepts, Bool.and_eq_true, decide_eq_true_eq, List.all_eq_true] at h
      obtain ⟨⟨hleast, hmost⟩, hall⟩ := h
      exact .rep hleast hmost fun c hc => Element.conforms_of_accepts e c (hall c hc)
    | _ => simp [Element.accepts] at h
  | .named n k e, t, h => by
    cases t with
    | named n' k' c =>
      simp only [Element.accepts, Bool.and_eq_true, beq_iff_eq] at h
      obtain ⟨⟨rfl, rfl⟩, hc⟩ := h
      exact .named (Element.conforms_of_accepts e c hc)
    | _ => simp [Element.accepts] at h
  | .rule n e, t, h => by
    cases t with
    | rule n' c =>
      simp only [Element.accepts, Bool.and_eq_true, beq_iff_eq] at h
      obtain ⟨rfl, hc⟩ := h
      exact .rule (Element.conforms_of_accepts e c hc)
    | _ => simp [Element.accepts] at h
  | .list n ps, t, h => by
    cases t with
    | phrase ws => exact .list (by simpa [Element.accepts] using h)
    | _ => simp [Element.accepts] at h
  | .dictation, t, h => by
    cases t with
    | dictation ws => exact .dictation (by simpa [Element.accepts] using h)
    | _ => simp [Element.accepts] at h

theorem Element.conformsAll_of_acceptsAll :
    ∀ (es : List Element) (ts : List Tree), Element.acceptsAll es ts = true →
      ConformsAll es ts
  | [], [], _ => .nil
  | e :: es, t :: ts, h => by
    simp only [Element.acceptsAll, Bool.and_eq_true] at h
    exact .cons (Element.conforms_of_accepts e t h.1) (Element.conformsAll_of_acceptsAll es ts h.2)
  | [], _ :: _, h | _ :: _, [], h => by simp [Element.acceptsAll] at h

theorem Element.conforms_of_acceptsAt :
    ∀ (es : List Element) (i : Nat) (t : Tree), Element.acceptsAt es i t = true →
      ∃ e, es[i]? = some e ∧ Conforms e t
  | [], _, _, h => by simp [Element.acceptsAt] at h
  | e :: _, 0, t, h => ⟨e, rfl, Element.conforms_of_accepts e t h⟩
  | _ :: es, i + 1, t, h => Element.conforms_of_acceptsAt es i t h
end

/-! ## Comparing elements -/

mutual
/-- Whether two elements are the same, computed. -/
def Element.beq : Element → Element → Bool
  | .word w, .word v => w == v
  | .seq es, .seq fs => Element.beqAll es fs
  | .alt es, .alt fs => Element.beqAll es fs
  | .opt e, .opt f => e.beq f
  | .rep e least extra, .rep f least' extra' => e.beq f && least == least' && extra == extra'
  | .named n k e, .named n' k' f => n == n' && k == k' && e.beq f
  | .rule n e, .rule n' f => n == n' && e.beq f
  | .list n ps, .list n' qs => n == n' && ps == qs
  | .dictation, .dictation => true
  | _, _ => false
def Element.beqAll : List Element → List Element → Bool
  | [], [] => true
  | e :: es, f :: fs => e.beq f && Element.beqAll es fs
  | _, _ => false
end

mutual
theorem Element.eq_of_beq : ∀ (e f : Element), e.beq f = true → e = f
  | .word w, f, h => by
    cases f <;> simp_all [Element.beq]
  | .seq es, f, h => by
    cases f with
    | seq fs => rw [Element.eq_of_beqAll es fs (by simpa [Element.beq] using h)]
    | _ => simp [Element.beq] at h
  | .alt es, f, h => by
    cases f with
    | alt fs => rw [Element.eq_of_beqAll es fs (by simpa [Element.beq] using h)]
    | _ => simp [Element.beq] at h
  | .opt e, f, h => by
    cases f with
    | opt f => rw [Element.eq_of_beq e f (by simpa [Element.beq] using h)]
    | _ => simp [Element.beq] at h
  | .rep e least extra, f, h => by
    cases f with
    | rep f least' extra' =>
      simp only [Element.beq, Bool.and_eq_true, beq_iff_eq] at h
      obtain ⟨⟨hf, rfl⟩, rfl⟩ := h
      rw [Element.eq_of_beq e f hf]
    | _ => simp [Element.beq] at h
  | .named n k e, f, h => by
    cases f with
    | named n' k' f =>
      simp only [Element.beq, Bool.and_eq_true, beq_iff_eq] at h
      obtain ⟨⟨rfl, rfl⟩, hf⟩ := h
      rw [Element.eq_of_beq e f hf]
    | _ => simp [Element.beq] at h
  | .rule n e, f, h => by
    cases f with
    | rule n' f =>
      simp only [Element.beq, Bool.and_eq_true, beq_iff_eq] at h
      obtain ⟨rfl, hf⟩ := h
      rw [Element.eq_of_beq e f hf]
    | _ => simp [Element.beq] at h
  | .list n ps, f, h => by
    cases f <;> simp_all [Element.beq]
  | .dictation, f, h => by
    cases f <;> simp_all [Element.beq]

theorem Element.eq_of_beqAll : ∀ (es fs : List Element), Element.beqAll es fs = true → es = fs
  | [], [], _ => rfl
  | e :: es, f :: fs, h => by
    simp only [Element.beqAll, Bool.and_eq_true] at h
    rw [Element.eq_of_beq e f h.1, Element.eq_of_beqAll es fs h.2]
  | [], _ :: _, h | _ :: _, [], h => by simp [Element.beqAll] at h
end

end VoiceCommands.Recognition
