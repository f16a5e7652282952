import Mathlib
import VoiceCommands.Text.Words

/-!
# Case mappings keep the marker characters

The formatters read a space, a leading comma or dash character, a backslash
and a hyphen in a dictated word as structure (`markers`).  Lowercasing and
uppercasing replace each character by a non-empty chunk that holds a marker
only when the character is that marker, and is then the marker alone
(`Chunked`), so they commute with cutting, dropping and splitting at markers.
The case tables are checked for this entry by entry.
-/

namespace VoiceCommands.Text

/-- The marker characters. -/
def markers : List Char := [' ', ',', '-', '\\', Char.ofNat 0x96, Char.ofNat 0x97]

/-- `ch` stands for `c` in a case mapping: it is not empty, holds a marker
only when `c` is that marker, and is the marker alone when `c` is one. -/
def Chunk (c : Char) (ch : List Char) : Prop :=
  ch ≠ [] ∧ ∀ m ∈ markers, (m ∈ ch → c = m) ∧ (c = m → ch = [m])

theorem chunk_self (c : Char) : Chunk c [c] :=
  ⟨by simp, fun m _ => ⟨fun h => (List.mem_singleton.1 h).symm, fun h => h ▸ rfl⟩⟩

/-! ## The case tables -/

def CaseRun.sendsTo (r : CaseRun) (m : Nat) : Bool :=
  let n : Int := m - r.delta
  0 ≤ n ∧ (r.apply n.toNat).isSome ∧ 128 ≤ n.toNat ∧ n.toNat ≠ m

def runsKeepMarkers (runs : Array CaseRun) : Bool :=
  runs.toList.all fun r => markers.all fun m => !r.sendsTo m.toNat

def multiKeepsMarkers (multi : Array (Nat × List Char)) : Bool :=
  multi.toList.all fun e => !e.2.isEmpty && markers.all fun m => !e.2.contains m

-- The checks are computed over the lists of markers rather than decided as
-- statements over characters, which would go through every character.
theorem runs_keep {runs : Array CaseRun} (h : runsKeepMarkers runs = true) :
    ∀ r ∈ runs.toList, ∀ m ∈ markers, r.sendsTo m.toNat = false := by
  simpa only [runsKeepMarkers, List.all_eq_true, Bool.not_eq_eq_eq_not, Bool.not_true] using h

theorem multi_keep {multi : Array (Nat × List Char)} (h : multiKeepsMarkers multi = true) :
    ∀ e ∈ multi.toList, e.2 ≠ [] ∧ ∀ m ∈ markers, m ∉ e.2 := by
  simpa only [multiKeepsMarkers, List.all_eq_true, Bool.and_eq_true, Bool.not_eq_eq_eq_not,
    Bool.not_true, List.isEmpty_eq_false_iff, List.contains_eq_mem, decide_eq_false_iff_not] using h

/-- The four case tables pass their checks, computed together. -/
theorem tables_keep_markers : runsKeepMarkers lowerRunTable = true ∧ runsKeepMarkers upperRunTable = true ∧
    multiKeepsMarkers lowerMultiTable = true ∧ multiKeepsMarkers upperMultiTable = true := by
  decide +kernel

theorem lowerRuns_keep : ∀ r ∈ lowerRunTable.toList, ∀ m ∈ markers, r.sendsTo m.toNat = false :=
  runs_keep tables_keep_markers.1

theorem upperRuns_keep : ∀ r ∈ upperRunTable.toList, ∀ m ∈ markers, r.sendsTo m.toNat = false :=
  runs_keep tables_keep_markers.2.1

theorem lowerMulti_keep : ∀ e ∈ lowerMultiTable.toList, e.2 ≠ [] ∧ ∀ m ∈ markers, m ∉ e.2 :=
  multi_keep tables_keep_markers.2.2.1

theorem upperMulti_keep : ∀ e ∈ upperMultiTable.toList, e.2 ≠ [] ∧ ∀ m ∈ markers, m ∉ e.2 :=
  multi_keep tables_keep_markers.2.2.2

theorem lookupCase_markers :
    ∀ m ∈ markers, lookupCase lowerRunTable lowerMultiTable m = [m] ∧
      lookupCase upperRunTable upperMultiTable m = [m] := by
  have h : markers.all (fun m => lookupCase lowerRunTable lowerMultiTable m == [m] &&
      lookupCase upperRunTable upperMultiTable m == [m]) = true := by
    decide +kernel
  simpa only [List.all_eq_true, Bool.and_eq_true, beq_iff_eq] using h

theorem ascii_case_marker : ∀ n < 128,
    ((Char.ofNat n).toLower ∈ markers → (Char.ofNat n).toLower = Char.ofNat n) ∧
      ((Char.ofNat n).toUpper ∈ markers → (Char.ofNat n).toUpper = Char.ofNat n) := by
  decide +kernel

theorem ascii_lower_marker :
    ∀ n < 128, (Char.ofNat n).toLower ∈ markers → (Char.ofNat n).toLower = Char.ofNat n :=
  fun n hn => (ascii_case_marker n hn).1

theorem ascii_upper_marker :
    ∀ n < 128, (Char.ofNat n).toUpper ∈ markers → (Char.ofNat n).toUpper = Char.ofNat n :=
  fun n hn => (ascii_case_marker n hn).2

theorem markers_ascii_fixed : ∀ m ∈ markers, m.toLower = m ∧ m.toUpper = m := by
  have h : markers.all (fun m => m.toLower == m && m.toUpper == m) = true := by decide
  simpa only [List.all_eq_true, Bool.and_eq_true, beq_iff_eq] using h

theorem markers_pos : ∀ m ∈ markers, 0 < m.toNat := by
  have h : markers.all (fun m => 0 < m.toNat) = true := by decide
  simpa only [List.all_eq_true, decide_eq_true_eq] using h

theorem toNat_ofNat_of_pos {k : Nat} (h : 0 < (Char.ofNat k).toNat) : (Char.ofNat k).toNat = k := by
  unfold Char.ofNat at *
  split
  next => simp [Char.ofNatAux, Char.toNat]
  next => simp_all [Char.toNat]

theorem CaseRun.apply_marker {r : CaseRun} {n : Nat} {m : Char} (hm : m ∈ markers)
    (hr : r.sendsTo m.toNat = false) (hn : 128 ≤ n) (h : r.apply n = some m) : n = m.toNat := by
  unfold CaseRun.apply at h
  split at h
  next hin =>
    have hval : Char.ofNat ((n : Int) + r.delta).toNat = m := Option.some.inj h
    have hpos := markers_pos m hm
    have hshift : ((n : Int) + r.delta).toNat = m.toNat := by
      rw [← hval]
      exact (toNat_ofNat_of_pos (hval ▸ hpos)).symm
    -- otherwise `n` is the candidate that `sendsTo` rules out
    by_cases hne : n = m.toNat
    · exact hne
    · have hcand : ((m.toNat : Int) - r.delta).toNat = n := by omega
      have hsends : r.sendsTo m.toNat = true := by
        simp only [CaseRun.sendsTo, hcand, CaseRun.apply, if_pos hin, Option.isSome_some,
          decide_eq_true_eq]
        exact ⟨by omega, trivial, hn, hne⟩
      simp [hsends] at hr
  next => cases h

/-! ## Every character becomes a chunk -/

theorem Chunk.mem_marker_iff {c m : Char} {ch : List Char} (hc : Chunk c ch) (hm : m ∈ markers) :
    m ∈ ch ↔ c = m :=
  ⟨(hc.2 m hm).1, fun h => by rw [(hc.2 m hm).2 h]; simp⟩

theorem ascii_chunk {f : Char → Char}
    (hf : ∀ n < 128, f (Char.ofNat n) ∈ markers → f (Char.ofNat n) = Char.ofNat n)
    (hfix : ∀ m ∈ markers, f m = m) {c : Char} (hc : c.toNat < 128) : Chunk c [f c] := by
  refine ⟨by simp, fun m hm => ⟨fun hin => ?_, fun h => by rw [h, hfix m hm]⟩⟩
  have hfc : m = f c := List.mem_singleton.1 hin
  have hback := hf c.toNat hc
  rw [Char.ofNat_toNat] at hback
  rw [hfc] at hm ⊢
  exact (hback hm).symm

theorem lookupCase_chunk {runs : Array CaseRun} {multi : Array (Nat × List Char)}
    (hruns : ∀ r ∈ runs.toList, ∀ m ∈ markers, r.sendsTo m.toNat = false)
    (hmulti : ∀ e ∈ multi.toList, e.2 ≠ [] ∧ ∀ m ∈ markers, m ∉ e.2)
    (hfix : ∀ m ∈ markers, lookupCase runs multi m = [m]) {c : Char} (hc : 128 ≤ c.toNat) :
    Chunk c (lookupCase runs multi c) := by
  refine ⟨?_, fun m hm => ⟨fun hin => ?_, fun h => by rw [h]; exact hfix m hm⟩⟩
  · unfold lookupCase
    split
    next hfind => exact (hmulti _ (Array.mem_toList_iff.2 (Array.mem_of_find?_eq_some hfind))).1
    next => split <;> simp
  · unfold lookupCase at hin
    split at hin
    next hfind =>
      exact absurd hin ((hmulti _ (Array.mem_toList_iff.2 (Array.mem_of_find?_eq_some hfind))).2 m hm)
    next =>
      split at hin
      next d hd =>
        -- the run that produced `d` moves nothing else onto a marker
        obtain ⟨r, hr, happ⟩ := Array.exists_of_findSome?_eq_some hd
        rw [List.mem_singleton] at hin
        subst hin
        exact Char.toNat_inj.1
          (CaseRun.apply_marker hm (hruns r (Array.mem_toList_iff.2 hr) m hm) hc happ)
      next => exact (List.mem_singleton.1 hin).symm

theorem lowerChar_chunk (c : Char) : Chunk c (lowerChar c) := by
  unfold lowerChar
  split
  next hc => exact ascii_chunk ascii_lower_marker (fun m hm => (markers_ascii_fixed m hm).1) hc
  next hc =>
    exact lookupCase_chunk lowerRuns_keep lowerMulti_keep (fun m hm => (lookupCase_markers m hm).1)
      (by omega)

theorem upperChar_chunk (c : Char) : Chunk c (upperChar c) := by
  unfold upperChar
  split
  next hc => exact ascii_chunk ascii_upper_marker (fun m hm => (markers_ascii_fixed m hm).2) hc
  next hc =>
    exact lookupCase_chunk upperRuns_keep upperMulti_keep (fun m hm => (lookupCase_markers m hm).2)
      (by omega)

theorem capitalSigma_chunk (b : Bool) :
    Chunk capitalSigma [Char.ofNat (if b then 0x3C2 else 0x3C3)] := by
  have hcapital : capitalSigma ∉ markers := by decide
  have hsmall : Char.ofNat (if b then 0x3C2 else 0x3C3) ∉ markers := by cases b <;> decide
  refine ⟨by simp, fun m hm => ⟨fun hin => ?_, fun h => absurd (h ▸ hm) hcapital⟩⟩
  rw [List.mem_singleton] at hin
  exact absurd (hin ▸ hm) hsmall

/-! ## Chunked copies -/

/-- `out` is `cs` with every character replaced by a chunk standing for it. -/
inductive Chunked : List Char → List Char → Prop
  | nil : Chunked [] []
  | cons {c : Char} {cs ch out : List Char} : Chunk c ch → Chunked cs out → Chunked (c :: cs) (ch ++ out)

theorem Chunked.refl : ∀ cs : List Char, Chunked cs cs
  | [] => .nil
  | c :: cs => .cons (chunk_self c) (Chunked.refl cs)

theorem chunked_flatMap {f : Char → List Char} (hf : ∀ c, Chunk c (f c)) :
    ∀ cs : List Char, Chunked cs (cs.flatMap f)
  | [] => .nil
  | c :: cs => by
    rw [List.flatMap_cons]
    exact .cons (hf c) (chunked_flatMap hf cs)

theorem lowerAfter_chunked (before cs : List Char) : Chunked cs (lowerAfter before cs) := by
  induction cs generalizing before with
  | nil => exact .nil
  | cons c cs ih =>
    rw [lowerAfter]
    refine .cons ?_ (ih _)
    split
    next h => exact h ▸ capitalSigma_chunk _
    next => exact lowerChar_chunk c

theorem lower_chunked (s : String) : Chunked s.toList (lower s).toList := by
  rw [lower, String.toList_ofList]
  exact lowerAfter_chunked [] _

theorem upper_chunked (s : String) : Chunked s.toList (upper s).toList := by
  rw [upper, String.toList_ofList]
  exact chunked_flatMap upperChar_chunk _

section
variable {m : Char} {cs out : List Char}

theorem Chunked.eq_nil_iff (h : Chunked cs out) : out = [] ↔ cs = [] := by
  cases h with
  | nil => exact Iff.rfl
  | cons hc _ => simp [hc.1]

theorem Chunked.mem_marker (hm : m ∈ markers) (h : Chunked cs out) : m ∈ out ↔ m ∈ cs := by
  induction h with
  | nil => exact Iff.rfl
  | cons hc _ ih => rw [List.mem_append, List.mem_cons, ih, hc.mem_marker_iff hm, eq_comm]

theorem Chunked.head?_marker (hm : m ∈ markers) (h : Chunked cs out) :
    out.head? = some m ↔ cs.head? = some m := by
  cases h with
  | nil => exact Iff.rfl
  | @cons c _ ch _ hc _ =>
    obtain ⟨d, ds, rfl⟩ := List.exists_cons_of_ne_nil hc.1
    simp only [List.cons_append, List.head?_cons, Option.some.injEq]
    -- the chunk starts with the marker exactly when it is the marker alone
    constructor
    · rintro rfl
      exact (hc.mem_marker_iff hm).1 List.mem_cons_self
    · intro hcm
      have := (hc.2 m hm).2 hcm
      simp_all

theorem Chunked.all_eq_marker (hm : m ∈ markers) (h : Chunked cs out) :
    (∀ c ∈ out, c = m) ↔ ∀ c ∈ cs, c = m := by
  induction h with
  | nil => simp
  | @cons c _ ch _ hc _ ih =>
    rw [List.forall_mem_append, ih, List.forall_mem_cons]
    refine and_congr_left fun _ => ⟨fun hall => ?_, fun hcm => ?_⟩
    · -- a chunk is not empty, and any character of it is `m` only for `c = m`
      obtain ⟨a, as, hch⟩ := List.exists_cons_of_ne_nil hc.1
      have ha : a = m := hall a (hch ▸ List.mem_cons_self)
      exact (hc.mem_marker_iff hm).1 (ha ▸ hch ▸ List.mem_cons_self)
    · rw [(hc.2 m hm).2 hcm]
      simp

theorem Chunk.ne_marker {c : Char} {ch : List Char} (hc : Chunk c ch) (hm : m ∈ markers)
    (hcm : c ≠ m) : ∀ a ∈ ch, decide (a ≠ m) = true := by
  intro a ha
  simp only [ne_eq, decide_eq_true_eq]
  rintro rfl
  exact hcm ((hc.mem_marker_iff hm).1 ha)

theorem Chunked.takeWhile_ne (hm : m ∈ markers) (h : Chunked cs out) :
    Chunked (cs.takeWhile (· ≠ m)) (out.takeWhile (· ≠ m)) := by
  induction h with
  | nil => exact .nil
  | @cons c _ ch _ hc _ ih =>
    by_cases hcm : c = m
    · rw [(hc.2 m hm).2 hcm, hcm]
      simpa using Chunked.nil
    · rw [List.takeWhile_append_of_pos (hc.ne_marker hm hcm),
        List.takeWhile_cons_of_pos (by simpa using hcm)]
      exact .cons hc ih

theorem Chunked.filter_ne (hm : m ∈ markers) (h : Chunked cs out) :
    Chunked (cs.filter (· ≠ m)) (out.filter (· ≠ m)) := by
  induction h with
  | nil => exact .nil
  | @cons c _ ch _ hc _ ih =>
    by_cases hcm : c = m
    · rw [(hc.2 m hm).2 hcm, hcm]
      simpa using ih
    · rw [List.filter_append, List.filter_eq_self.2 (hc.ne_marker hm hcm),
        List.filter_cons_of_pos (by simpa using hcm)]
      exact .cons hc ih

end

/-! ## Mappings character by character

A mapping that sends each character to a chunk standing for it, whatever its
neighbours (uppercasing is one), commutes with cutting a text at a marker,
dropping a marker and splitting at a marker. -/

section
variable {f : Char → List Char} {m : Char}

theorem flatMap_takeWhile_ne (hf : ∀ c, Chunk c (f c)) (hm : m ∈ markers) :
    ∀ cs : List Char, (cs.flatMap f).takeWhile (· ≠ m) = (cs.takeWhile (· ≠ m)).flatMap f
  | [] => rfl
  | c :: cs => by
    by_cases hcm : c = m
    · subst hcm
      rw [List.flatMap_cons, ((hf c).2 c hm).2 rfl]
      simp
    · rw [List.flatMap_cons, List.takeWhile_append_of_pos ((hf c).ne_marker hm hcm),
        List.takeWhile_cons_of_pos (by simpa using hcm), List.flatMap_cons,
        flatMap_takeWhile_ne hf hm cs]

theorem flatMap_filter_ne (hf : ∀ c, Chunk c (f c)) (hm : m ∈ markers) :
    ∀ cs : List Char, (cs.flatMap f).filter (· ≠ m) = (cs.filter (· ≠ m)).flatMap f
  | [] => rfl
  | c :: cs => by
    rw [List.flatMap_cons, List.filter_append, flatMap_filter_ne hf hm cs]
    by_cases hcm : c = m
    · subst hcm
      rw [((hf c).2 c hm).2 rfl]
      simp
    · rw [List.filter_eq_self.2 ((hf c).ne_marker hm hcm),
        List.filter_cons_of_pos (by simpa using hcm), List.flatMap_cons]

theorem splitOn_append_of_not_mem {ch : List Char} (hch : m ∉ ch) (rest : List Char) :
    (ch ++ rest).splitOn m = (rest.splitOn m).modifyHead (ch ++ ·) := by
  induction ch with
  | nil => exact (congrFun List.modifyHead_id _).symm
  | cons a ch ih =>
    have ha : a ≠ m := fun h => hch (h ▸ List.mem_cons_self)
    rw [List.cons_append, List.splitOn_cons_eq_if_modifyHead, if_neg (by simpa using ha),
      ih (fun h => hch (List.mem_cons_of_mem a h)), List.modifyHead_modifyHead]
    rfl

theorem flatMap_splitOn (hf : ∀ c, Chunk c (f c)) (hm : m ∈ markers) :
    ∀ cs : List Char, (cs.flatMap f).splitOn m = (cs.splitOn m).map (·.flatMap f)
  | [] => by simp [List.splitOn_nil]
  | c :: cs => by
    rw [List.flatMap_cons, List.splitOn_cons_eq_if_modifyHead]
    by_cases hcm : c = m
    · rw [((hf c).2 m hm).2 hcm, List.singleton_append, List.splitOn_cons_eq_if_modifyHead,
        if_pos (beq_self_eq_true m), if_pos (beq_iff_eq.2 hcm), flatMap_splitOn hf hm cs]
      simp
    · -- the chunk of `c` starts the first piece
      rw [splitOn_append_of_not_mem (fun h => hcm (((hf c).mem_marker_iff hm).1 h)),
        flatMap_splitOn hf hm cs, if_neg (by simpa using hcm)]
      obtain ⟨q, qs, hqs⟩ := List.exists_cons_of_ne_nil (List.splitOn_ne_nil m cs)
      simp [hqs]

end

end VoiceCommands.Text
