import Mathlib
import VoiceCommands.Git.Options

/-!
# Options with optional parts

An option such as `--[no-]progress` stands for every option obtained by keeping
or dropping its optional parts (`expansions`), each said by its `optionAlias`.
The expansion of the program takes the last optional part first, under a bound
taken from the option's length that never runs out; an option
`p₀[g₁]p₁…[gₖ]pₖ` stands for exactly the `2 ^ k` ways of keeping or dropping
each `gᵢ` (`expansions_bracketed`).
-/

namespace VoiceCommands.Git

open Text

/-! ## The optional part -/

theorem filter_range_reverse {f : Nat → Bool} {P : Nat} (hP : f P = true) :
    ∀ {n : Nat}, P < n → (∀ k, P < k → k < n → f k = false) →
      ∃ rest, (List.range n).reverse.filter f = P :: rest
  | 0, h, _ => absurd h (Nat.not_lt_zero P)
  | m + 1, h, hgt => by
    rw [List.range_succ, List.reverse_append, List.reverse_singleton, List.singleton_append,
      List.filter_cons]
    by_cases hm : m = P
    · subst hm
      exact ⟨_, by rw [if_pos hP]⟩
    · rw [hgt m (by omega) (by omega)]
      exact filter_range_reverse hP (by omega) fun k hk hk' => hgt k hk (by omega)

theorem optionalPart?_bounds {cs : List Char} {p q : Nat} (h : optionalPart? cs = some (p, q)) :
    cs.head? = some '-' ∧ 1 ≤ p ∧ p < q ∧ q < cs.length ∧ cs[p]? = some '[' ∧
      cs[q]? = some ']' := by
  unfold optionalPart? at h
  split at h
  next c rest =>
    obtain ⟨o, ho, hfo⟩ := List.exists_of_findSome?_eq_some h
    simp only [List.mem_filter, List.mem_reverse, List.mem_range, decide_eq_true_eq] at ho
    obtain ⟨-, hp1, hpo, -⟩ := ho
    obtain ⟨c', hc, hpair⟩ := Option.map_eq_some_iff.1 hfo
    simp only [Prod.mk.injEq] at hpair
    obtain ⟨rfl, rfl⟩ := hpair
    have hcm := List.mem_of_mem_head? hc
    simp only [List.mem_filter, List.mem_reverse, List.mem_range, decide_eq_true_eq] at hcm
    obtain ⟨hlt, hpq, hq, -⟩ := hcm
    exact ⟨rfl, hp1, hpq, hlt, hpo, hq⟩
  next => cases h

theorem optionalPart?_eq_none {cs : List Char} (h : '[' ∉ cs) : optionalPart? cs = none := by
  cases hp : optionalPart? cs with
  | none => rfl
  | some pq =>
    obtain ⟨-, -, -, -, hopen, -⟩ := optionalPart?_bounds hp
    exact absurd (List.mem_iff_getElem?.2 ⟨_, hopen⟩) h

theorem mem_drop_of_getElem? {cs : List Char} {a : Char} {i k : Nat} (hik : i ≤ k)
    (h : cs[k]? = some a) : a ∈ cs.drop i := by
  refine List.mem_iff_getElem?.2 ⟨k - i, ?_⟩
  rw [List.getElem?_drop, Nat.add_sub_cancel' hik, h]

theorem onOneLine_of_sublist {cs ds : List Char} (hs : ds.Sublist cs) (h : '\n' ∉ cs) :
    onOneLine ds = true := by
  simp only [onOneLine, Bool.not_eq_true', List.contains_eq_mem, decide_eq_false_iff_not]
  exact fun hd => h (hs.subset hd)

theorem optionalPart?_eq_some {tail : List Char} {P Q : Nat} (hP : 1 ≤ P) (hPQ : P < Q)
    (hQ : Q < tail.length + 1) (hopen : ('-' :: tail)[P]? = some '[')
    (hclose : ('-' :: tail)[Q]? = some ']')
    (hopens : ∀ k, P < k → ('-' :: tail)[k]? ≠ some '[')
    (hcloses : ∀ k, Q < k → ('-' :: tail)[k]? ≠ some ']') (hline : '\n' ∉ '-' :: tail) :
    optionalPart? ('-' :: tail) = some (P, Q) := by
  unfold optionalPart?
  -- the opening bracket is the first position, from the top, that can open
  obtain ⟨opens, hopens'⟩ := filter_range_reverse (n := ('-' :: tail).length)
    (f := fun p => decide (1 ≤ p ∧ ('-' :: tail)[p]? = some '[' ∧
      onOneLine (List.drop 1 (List.take p ('-' :: tail))) = true))
    (by simp only [decide_eq_true_eq]
        exact ⟨hP, hopen, onOneLine_of_sublist ((List.drop_sublist _ _).trans
          (List.take_sublist _ _)) hline⟩)
    (by simp only [List.length_cons]; omega)
    (fun k hk _ => by simp [hopens k hk])
  -- and the closing bracket the first position, from the top, that can close it
  obtain ⟨closes, hcloses'⟩ := filter_range_reverse (n := ('-' :: tail).length)
    (f := fun q => decide (P < q ∧ ('-' :: tail)[q]? = some ']' ∧
      onOneLine (List.drop (P + 1) (List.take q ('-' :: tail))) = true))
    (by simp only [decide_eq_true_eq]
        exact ⟨hPQ, hclose, onOneLine_of_sublist ((List.drop_sublist _ _).trans
          (List.take_sublist _ _)) hline⟩)
    (by simp only [List.length_cons]; omega)
    (fun k hk _ => by simp [hcloses k hk])
  simp only [hopens', List.findSome?_cons, hcloses', List.head?_cons, Option.map_some]

theorem optionalPart?_last {pre g post : List Char} (hpre : pre.head? = some '-')
    (hg : '[' ∉ g) (hpost : '[' ∉ post ∧ ']' ∉ post)
    (hline : '\n' ∉ pre ++ '[' :: (g ++ ']' :: post)) :
    optionalPart? (pre ++ '[' :: (g ++ ']' :: post)) =
      some (pre.length, pre.length + (g.length + 1)) := by
  obtain ⟨pre', rfl⟩ := List.head?_eq_some_iff.1 hpre
  rw [List.cons_append] at hline ⊢
  set bracketed := '[' :: (g ++ ']' :: post) with hbracketed
  -- positions after the dash and `pre'` are positions in the bracketed part
  have hget : ∀ n, ('-' :: (pre' ++ bracketed))[pre'.length + 1 + n]? = bracketed[n]? := by
    intro n
    rw [Nat.add_right_comm, List.getElem?_cons_succ, List.getElem?_append_right (by omega),
      Nat.add_sub_cancel_left]
  have hdrop : ∀ n, ('-' :: (pre' ++ bracketed)).drop (pre'.length + 1 + n) = bracketed.drop n := by
    intro n
    rw [Nat.add_right_comm, List.drop_succ_cons, List.drop_append,
      List.drop_eq_nil_of_le (by omega), List.nil_append, Nat.add_sub_cancel_left]
  have hclose : bracketed[g.length + 1]? = some ']' := by
    simp [bracketed]
  rw [List.length_cons]
  refine optionalPart?_eq_some (by omega) (by omega) ?_ (by rw [hget 0]; rfl) ?_ ?_ ?_ hline
  · have := (List.getElem?_eq_some_iff.1 hclose).1
    simp only [List.length_append] at this ⊢
    omega
  · rw [hget, hclose]
  · intro k hk hopen
    have hmem := mem_drop_of_getElem? (i := pre'.length + 1 + 1) hk hopen
    simp only [hdrop, bracketed, List.drop_succ_cons, List.drop_zero, List.mem_append,
      List.mem_cons] at hmem
    rcases hmem with h | h | h
    · exact hg h
    · cases h
    · exact hpost.1 h
  · intro k hk hclose'
    have hmem := mem_drop_of_getElem? (i := pre'.length + 1 + (g.length + 1 + 1)) (by omega) hclose'
    rw [hdrop, hbracketed, List.drop_succ_cons, List.drop_append, List.drop_eq_nil_of_le (by omega),
      List.nil_append, Nat.add_sub_cancel_left, List.drop_succ_cons, List.drop_zero] at hmem
    exact hpost.2 hmem

/-! ## What an option stands for -/

theorem optionalPart?_shorter {cs : List Char} {p q : Nat} (h : optionalPart? cs = some (p, q)) :
    ((cs.eraseIdx q).eraseIdx p).length + 2 = cs.length ∧
      (cs.take p ++ cs.drop (q + 1)).length + 2 ≤ cs.length := by
  obtain ⟨-, -, hpq, hq, -, -⟩ := optionalPart?_bounds h
  simp only [List.length_eraseIdx, List.length_append, List.length_take, List.length_drop]
  split <;> split <;> omega

/-- The options an option stands for.  `.` and a run of dashes stand for
themselves; an option with an optional part stands for the options of the
option with the part kept (its brackets removed), then those of the option
with the part dropped; any other option stands for itself. -/
def expansions (cs : List Char) : List (List Char) :=
  if cs = ['.'] ∨ (cs ≠ [] ∧ ∀ c ∈ cs, c = '-') then [cs]
  else
    match h : optionalPart? cs with
    | some (p, q) =>
      have := optionalPart?_shorter h
      expansions ((cs.eraseIdx q).eraseIdx p) ++ expansions (cs.take p ++ cs.drop (q + 1))
    | none => [cs]
termination_by cs.length
decreasing_by all_goals omega

/-- The alias an option is said by: `dot` or `point` for `.`, `dash` once per
dash for a run of dashes, and otherwise its letters and digits, with `slash`
for `/`. -/
def optionAlias (cs : List Char) : String :=
  if cs = ['.'] then "dot|point"
  else if cs ≠ [] ∧ ∀ c ∈ cs, c = '-' then String.join (List.replicate cs.length "dash ")
  else spokenAlias (String.ofList cs)

theorem expansions_of_optionalPart? {cs : List Char} {p q : Nat}
    (hplain : ¬(cs = ['.'] ∨ (cs ≠ [] ∧ ∀ c ∈ cs, c = '-')))
    (h : optionalPart? cs = some (p, q)) :
    expansions cs = expansions ((cs.eraseIdx q).eraseIdx p) ++ expansions (cs.take p ++ cs.drop (q + 1)) := by
  rw [expansions, if_neg hplain]
  split
  next p' q' h' => rw [h] at h'; cases h'; rfl
  next h' => rw [h] at h'; cases h'

theorem expansions_of_none {cs : List Char} (h : optionalPart? cs = none) : expansions cs = [cs] := by
  rw [expansions]
  split
  · rfl
  · split
    next h' => rw [h] at h'; cases h'
    next => rfl

theorem expansions_of_plain {cs : List Char} (h : cs = ['.'] ∨ (cs ≠ [] ∧ ∀ c ∈ cs, c = '-')) :
    expansions cs = [cs] := by
  rw [expansions, if_pos h]

/-! ## The bound never runs out -/

theorem ofList_eq_dot {cs : List Char} : String.ofList cs = "." ↔ cs = ['.'] := by
  rw [← String.toList_inj, String.toList_ofList]
  rfl

theorem isDashes_eq {cs : List Char} (h : '\n' ∉ cs) :
    isDashes cs = true ↔ cs ≠ [] ∧ ∀ c ∈ cs, c = '-' := by
  have hlast : cs.getLast? ≠ some '\n' := fun hl => h (List.mem_of_getLast? hl)
  simp [isDashes, hlast]

theorem eraseIdx_eraseIdx {cs : List Char} {p q : Nat} (hpq : p < q) (hq : q < cs.length) :
    (cs.eraseIdx q).eraseIdx p = cs.take p ++ (cs.take q).drop (p + 1) ++ cs.drop (q + 1) := by
  rw [List.eraseIdx_eq_take_drop_succ, List.eraseIdx_eq_take_drop_succ,
    List.take_append_of_le_length (by simp; omega), List.drop_append_of_le_length (by simp; omega),
    List.take_take, Nat.min_eq_left hpq.le, List.append_assoc]

theorem dash_take {cs : List Char} {p : Nat} (hhead : cs.head? = some '-') (hp : 1 ≤ p) :
    '-' :: (cs.take p).drop 1 = cs.take p := by
  obtain ⟨rest, rfl⟩ := List.head?_eq_some_iff.1 hhead
  obtain ⟨p, rfl⟩ := Nat.exists_eq_add_of_le' hp
  rfl

/-- The bounded expansion of an option on one line, given more expansions
than its length, pairs each option it stands for with its alias. -/
theorem smartPairs_eq_expansions : ∀ (fuel : Nat) (cs : List Char), cs.length < fuel →
    '\n' ∉ cs → smartPairs fuel cs = (expansions cs).map fun r => (optionAlias r, String.ofList r)
  | 0, _, hlen, _ => absurd hlen (Nat.not_lt_zero _)
  | fuel + 1, cs, hlen, hline => by
    rw [smartPairs]
    by_cases hdot : cs = ['.']
    · subst hdot
      simp only [↓reduceIte]
      rw [expansions_of_plain (.inl rfl)]
      rfl
    by_cases hdash : cs ≠ [] ∧ ∀ c ∈ cs, c = '-'
    · simp only [ofList_eq_dot, hdot, ↓reduceIte, (isDashes_eq hline).2 hdash]
      rw [expansions_of_plain (.inr hdash), List.map_singleton, optionAlias, if_neg hdot,
        if_pos hdash]
    have hplain : ¬(cs = ['.'] ∨ (cs ≠ [] ∧ ∀ c ∈ cs, c = '-')) := by tauto
    have hnotDashes : isDashes cs = false := by
      rw [Bool.eq_false_iff]
      exact fun h => hdash ((isDashes_eq hline).1 h)
    simp only [ofList_eq_dot, hdot, ↓reduceIte, hnotDashes, Bool.false_eq_true]
    cases hopt : optionalPart? cs with
    | none =>
      rw [expansions_of_none hopt, List.map_singleton, optionAlias, if_neg hdot, if_neg hdash]
    | some pq =>
      obtain ⟨p, q⟩ := pq
      obtain ⟨hhead, hp, hpq, hq, -, -⟩ := optionalPart?_bounds hopt
      obtain ⟨hkept, hdropped⟩ := optionalPart?_shorter hopt
      have hsub : ∀ ds : List Char, ds.Sublist cs → '\n' ∉ ds := fun ds hs hd => hline (hs.subset hd)
      have hdroppedSub : (cs.take p ++ cs.drop (q + 1)).Sublist cs := by
        conv_rhs => rw [← List.take_append_drop p cs]
        exact (List.Sublist.refl _).append (List.drop_sublist_drop_left cs (by omega))
      dsimp only
      rw [dash_take hhead hp, ← eraseIdx_eraseIdx hpq hq, expansions_of_optionalPart? hplain hopt,
        List.map_append,
        smartPairs_eq_expansions fuel _ (by omega) (hsub _ ((List.eraseIdx_sublist _ _).trans
          (List.eraseIdx_sublist _ _))),
        smartPairs_eq_expansions fuel _ (by omega) (hsub _ hdroppedSub)]

example : smartOption "--[no-]progress" =
    [("  no progress", "--no-progress"), ("  progress", "--progress")] := by
  decide

/-! ## Options written with optional parts -/

/-- An option written with optional parts, `p₀[g₁]p₁…[gₖ]pₖ`: its first
piece, then each optional part with the piece that follows it. -/
def bracketed (first : List Char) (parts : List (List Char × List Char)) : List Char :=
  first ++ parts.flatMap fun part => '[' :: (part.1 ++ ']' :: part.2)

/-- The option with each optional part kept or dropped, as `keep` says. -/
def keepParts (first : List Char) (parts : List (List Char × List Char)) (keep : List Bool) :
    List Char :=
  first ++ (parts.zip keep).flatMap fun (part, k) => (if k then part.1 else []) ++ part.2

def Unbracketed (cs : List Char) : Prop := '[' ∉ cs ∧ ']' ∉ cs

theorem keepParts_snoc (first : List Char) {parts : List (List Char × List Char)}
    {keep : List Bool} (h : keep.length = parts.length) (g p : List Char) (k : Bool) :
    keepParts first (parts ++ [(g, p)]) (keep ++ [k]) =
      keepParts first parts keep ++ ((if k then g else []) ++ p) := by
  simp [keepParts, List.zip_append h.symm]

theorem keepParts_snoc_iff (first : List Char) (parts : List (List Char × List Char))
    (g p x r : List Char) :
    (∃ keep : List Bool, keep.length = (parts ++ [(g, p)]).length ∧
        r = keepParts first (parts ++ [(g, p)]) keep ++ x) ↔
      (∃ keep : List Bool, keep.length = parts.length ∧
          r = keepParts first parts keep ++ (g ++ (p ++ x))) ∨
        ∃ keep : List Bool, keep.length = parts.length ∧ r = keepParts first parts keep ++ (p ++ x) := by
  constructor
  · rintro ⟨keep', hk', rfl⟩
    obtain ⟨keep, k, rfl⟩ : ∃ keep k, keep' = keep ++ [k] := by
      rcases List.eq_nil_or_concat keep' with h | ⟨keep, k, h⟩
      · subst h; simp at hk'
      · exact ⟨keep, k, by simpa using h⟩
    have hk : keep.length = parts.length := by simpa using hk'
    rw [keepParts_snoc first hk]
    cases k
    · exact .inr ⟨keep, hk, by simp⟩
    · exact .inl ⟨keep, hk, by simp⟩
  · rintro (⟨keep, hk, rfl⟩ | ⟨keep, hk, rfl⟩)
    · exact ⟨keep ++ [true], by simp [hk], by simp [keepParts_snoc first hk]⟩
    · exact ⟨keep ++ [false], by simp [hk], by simp [keepParts_snoc first hk]⟩

theorem eraseIdx_bracket (pre g post : List Char) :
    ((pre ++ '[' :: (g ++ ']' :: post)).eraseIdx (pre.length + (g.length + 1))).eraseIdx
      pre.length = pre ++ (g ++ post) := by
  simp [List.eraseIdx_append_of_length_le]

theorem take_drop_bracket (pre g post : List Char) :
    (pre ++ '[' :: (g ++ ']' :: post)).take pre.length ++
      (pre ++ '[' :: (g ++ ']' :: post)).drop (pre.length + (g.length + 1) + 1) = pre ++ post := by
  have : pre ++ '[' :: (g ++ ']' :: post) = (pre ++ '[' :: g ++ [']']) ++ post := by simp
  rw [List.take_left, this, List.drop_left' (by simp; omega)]

/-- An option `p₀[g₁]p₁…[gₖ]pₖ x` with no other brackets, starting with a
dash and on one line, stands for the `2 ^ k` options obtained by keeping or
dropping each optional part. -/
theorem expansions_bracketed {first : List Char} (hfirst : first.head? = some '-')
    (hplain : Unbracketed first) {parts : List (List Char × List Char)}
    (hparts : ∀ part ∈ parts, Unbracketed part.1 ∧ Unbracketed part.2) :
    ∀ x : List Char, Unbracketed x → '\n' ∉ bracketed first parts ++ x →
      (expansions (bracketed first parts ++ x)).length = 2 ^ parts.length ∧
        ∀ r, r ∈ expansions (bracketed first parts ++ x) ↔
          ∃ keep : List Bool, keep.length = parts.length ∧ r = keepParts first parts keep ++ x := by
  induction parts using List.reverseRecOn with
  | nil =>
    intro x hx hline
    -- no bracket is left: the option stands for itself
    have hnone : optionalPart? (bracketed first [] ++ x) = none :=
      optionalPart?_eq_none (by simp [bracketed, hplain.1, hx.1])
    rw [expansions_of_none hnone]
    refine ⟨rfl, fun r => ⟨fun hr => ⟨[], rfl, ?_⟩, ?_⟩⟩
    · simpa [keepParts, bracketed] using hr
    · rintro ⟨keep, hk, rfl⟩
      simp_all [keepParts, bracketed]
  | append_singleton parts part ih =>
    obtain ⟨g, p⟩ := part
    intro x hx hline
    have hpart := hparts (g, p) (by simp)
    have hinit : ∀ q ∈ parts, Unbracketed q.1 ∧ Unbracketed q.2 := fun q hq => hparts q (by simp [hq])
    -- the last optional part is the one expanded
    have hsplit : bracketed first (parts ++ [(g, p)]) ++ x =
        bracketed first parts ++ '[' :: (g ++ ']' :: (p ++ x)) := by
      simp [bracketed]
    rw [hsplit] at hline ⊢
    have hpre : (bracketed first parts).head? = some '-' := by
      simp [bracketed, List.head?_append, hfirst]
    have hopt := optionalPart?_last hpre hpart.1.1
      ⟨by simp [hpart.2.1, hx.1], by simp [hpart.2.2, hx.2]⟩ hline
    have hbracket : '[' ∈ bracketed first parts ++ '[' :: (g ++ ']' :: (p ++ x)) := by simp
    have hnotPlain : ¬(bracketed first parts ++ '[' :: (g ++ ']' :: (p ++ x)) = ['.'] ∨
        (bracketed first parts ++ '[' :: (g ++ ']' :: (p ++ x)) ≠ [] ∧
          ∀ c ∈ bracketed first parts ++ '[' :: (g ++ ']' :: (p ++ x)), c = '-')) := by
      rintro (h | ⟨-, h⟩)
      · rw [h] at hbracket; simp at hbracket
      · cases h _ hbracket
    rw [expansions_of_optionalPart? hnotPlain hopt, eraseIdx_bracket, take_drop_bracket]
    have hline' : '\n' ∉ bracketed first parts ++ (g ++ (p ++ x)) ∧
        '\n' ∉ bracketed first parts ++ (p ++ x) := by
      simp only [List.mem_append, List.mem_cons] at hline ⊢
      tauto
    obtain ⟨hlenKept, hmemKept⟩ := ih hinit (g ++ (p ++ x))
      ⟨by simp [hpart.1.1, hpart.2.1, hx.1], by simp [hpart.1.2, hpart.2.2, hx.2]⟩ hline'.1
    obtain ⟨hlenDropped, hmemDropped⟩ := ih hinit (p ++ x)
      ⟨by simp [hpart.2.1, hx.1], by simp [hpart.2.2, hx.2]⟩ hline'.2
    constructor
    · rw [List.length_append, hlenKept, hlenDropped, List.length_append, List.length_singleton,
        Nat.pow_succ]
      omega
    · intro r
      rw [List.mem_append, hmemKept, hmemDropped, keepParts_snoc_iff]

/-! ## Empty aliases -/

theorem strip_ne_empty_iff (s : String) : strip s ≠ "" ↔ ∃ c ∈ s.toList, isSpace c = false := by
  have hsuffix : ∀ l : List Char, (∃ c ∈ l.dropWhile isSpace, isSpace c = false) ↔
      ∃ c ∈ l, isSpace c = false := by
    intro l
    constructor
    · rintro ⟨c, hc, hs⟩
      exact ⟨c, (List.dropWhile_suffix isSpace).subset hc, hs⟩
    · rintro ⟨c, hc, hs⟩
      -- something is left after the leading white space, and it starts with no white space
      have hne : l.dropWhile isSpace ≠ [] := by
        rw [Ne, List.dropWhile_eq_nil_iff]
        exact fun h => by simp [h c hc] at hs
      exact ⟨_, List.head_mem hne, List.head_dropWhile_not isSpace hne⟩
  rw [strip, Ne, ← String.toList_inj, String.toList_ofList, String.toList_empty,
    List.reverse_eq_nil_iff, List.dropWhile_eq_nil_iff, ← hsuffix]
  simp only [List.mem_reverse, not_forall, Bool.not_eq_true, exists_prop]

theorem isSpace_of_isAsciiAlnum {c : Char} (h : isAsciiAlnum c = true) : isSpace c = false := by
  simp only [isAsciiAlnum, decide_eq_true_eq, Char.le_def, UInt32.le_iff_toNat_le] at h
  have hne : c ≠ ' ' := by rintro rfl; simp at h
  simp only [isSpace, ← Char.toNat_val]
  simp only [Char.toNat_val] at h ⊢
  simp at h
  rw [if_pos (by omega)]
  simp [hne]
  omega

theorem spokenAlias_visible (r : List Char) :
    (∃ c ∈ (spokenAlias (String.ofList r)).toList, isSpace c = false) ↔
      ∃ c ∈ r, isAsciiAlnum c = true ∨ c = '/' := by
  simp only [spokenAlias, String.toList_ofList, List.mem_map, List.mem_flatMap]
  constructor
  · rintro ⟨_, ⟨c, ⟨d, hd, hc⟩, rfl⟩, hspace⟩
    -- what is not white space was kept, a letter or a digit
    have halnum : isAsciiAlnum c = true := by
      by_contra h
      simp [h] at hspace
      exact absurd hspace (by decide)
    refine ⟨d, hd, ?_⟩
    by_cases hslash : d = '/'
    · exact .inr hslash
    · simp only [hslash, ↓reduceIte, List.mem_singleton] at hc
      exact .inl (hc ▸ halnum)
  · rintro ⟨d, hd, h | rfl⟩
    · have hslash : d ≠ '/' := by rintro rfl; simp [isAsciiAlnum] at h
      exact ⟨d, ⟨d, ⟨d, hd, by simp [hslash]⟩, by simp [h]⟩, isSpace_of_isAsciiAlnum h⟩
    · exact ⟨'s', ⟨'s', ⟨'/', hd, by decide⟩, by decide⟩, by decide⟩

theorem strip_optionAlias_ne_empty_iff (r : List Char) :
    strip (optionAlias r) ≠ "" ↔
      r = ['.'] ∨ (r ≠ [] ∧ ∀ c ∈ r, c = '-') ∨ ∃ c ∈ r, isAsciiAlnum c = true ∨ c = '/' := by
  rw [strip_ne_empty_iff, optionAlias]
  by_cases hdot : r = ['.']
  · simp only [hdot, ↓reduceIte, true_or, iff_true]
    exact ⟨'d', by decide, by decide⟩
  by_cases hdash : r ≠ [] ∧ ∀ c ∈ r, c = '-'
  · rw [if_neg hdot, if_pos hdash]
    -- one `dash` at least
    refine iff_of_true ⟨'d', ?_, by decide⟩ (.inr (.inl hdash))
    have hpos : 0 < r.length := List.length_pos_iff.2 hdash.1
    simp only [String.toList_join, List.mem_flatMap, List.mem_replicate]
    exact ⟨"dash ", ⟨by omega, rfl⟩, by decide⟩
  · rw [if_neg hdot, if_neg hdash, spokenAlias_visible]
    simp [hdot, hdash]

/-! ## Adding an option with derived aliases -/

theorem step_smartOptions_single (b : Builder) (s : String) (space : Bool)
    (hs : '\n' ∉ s.toList) :
    b.step (.smartOptions (.list [.str s]) space) =
      ((expansions s.toList).foldl
        (fun b r => (b.add (optionAlias r) (.text (String.ofList r)) space).1) b, .ok .builder) := by
  have hpairs := smartPairs_eq_expansions (s.length + 1) s.toList (Nat.lt_add_one _) hs
  simp only [Builder.step, Value.elements, Builder.addSmartAll, Builder.addSmart, smartOption,
    hpairs, List.foldl_map]

/-- Adding an option `s` on one line with derived aliases adds, in order,
each option `r` that `s` stands for under the alias `optionAlias r`, and
gives back the builder.  An option `p₀[g₁]p₁…[gₖ]pₖ` starting with a dash,
with no other brackets, stands for exactly the `2 ^ k` options obtained by
keeping or dropping each `gᵢ`; and the alias of each option it stands for is
empty once stripped unless that option is `.`, a run of dashes, or has a
letter, a digit or a slash. -/
theorem smartOptions_expansions (s : String) (hs : '\n' ∉ s.toList) :
    (∀ (b : Builder) (space : Bool), b.step (.smartOptions (.list [.str s]) space) =
      ((expansions s.toList).foldl
        (fun b r => (b.add (optionAlias r) (.text (String.ofList r)) space).1) b, .ok .builder)) ∧
    (∀ (first : List Char) (parts : List (List Char × List Char)),
      s.toList = bracketed first parts → first.head? = some '-' → Unbracketed first →
      (∀ part ∈ parts, Unbracketed part.1 ∧ Unbracketed part.2) →
        (expansions s.toList).length = 2 ^ parts.length ∧
          ∀ r, r ∈ expansions s.toList ↔
            ∃ keep : List Bool, keep.length = parts.length ∧ r = keepParts first parts keep) ∧
    ∀ r ∈ expansions s.toList, strip (optionAlias r) ≠ "" ↔
      r = ['.'] ∨ (r ≠ [] ∧ ∀ c ∈ r, c = '-') ∨ ∃ c ∈ r, isAsciiAlnum c = true ∨ c = '/' := by
  refine ⟨fun b space => step_smartOptions_single b s space hs, ?_,
    fun r _ => strip_optionAlias_ne_empty_iff r⟩
  intro first parts hwritten hfirst hplain hparts
  have h := expansions_bracketed hfirst hplain hparts [] ⟨List.not_mem_nil, List.not_mem_nil⟩
    (by rwa [List.append_nil, ← hwritten])
  simpa only [List.append_nil, ← hwritten] using h

/-- Adding `--[no-]progress`, an option of the catalogue, with derived
aliases. -/
theorem noProgress_expansions :
    '\n' ∉ "--[no-]progress".toList ∧
    (∀ (b : Builder) (space : Bool), b.step (.smartOptions (.list [.str "--[no-]progress"]) space) =
      ((expansions "--[no-]progress".toList).foldl
        (fun b r => (b.add (optionAlias r) (.text (String.ofList r)) space).1) b, .ok .builder)) ∧
    (∀ (first : List Char) (parts : List (List Char × List Char)),
      "--[no-]progress".toList = bracketed first parts → first.head? = some '-' →
      Unbracketed first → (∀ part ∈ parts, Unbracketed part.1 ∧ Unbracketed part.2) →
        (expansions "--[no-]progress".toList).length = 2 ^ parts.length ∧
          ∀ r, r ∈ expansions "--[no-]progress".toList ↔
            ∃ keep : List Bool, keep.length = parts.length ∧ r = keepParts first parts keep) ∧
    ∀ r ∈ expansions "--[no-]progress".toList, strip (optionAlias r) ≠ "" ↔
      r = ['.'] ∨ (r ≠ [] ∧ ∀ c ∈ r, c = '-') ∨ ∃ c ∈ r, isAsciiAlnum c = true ∨ c = '/' :=
  ⟨by decide, smartOptions_expansions "--[no-]progress" (by decide)⟩

end VoiceCommands.Git
