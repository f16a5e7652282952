import VoiceCommands.Git.Catalogue

/-!
# The first registration of an alias wins

Every building step offers options to a builder, each under its alias stripped
of surrounding blanks (`Step.offers`), and an offer whose alias is taken is
dropped: the options of a builder are the first offer of each alias, in the
order the aliases were first offered (`firstWins`).
-/

namespace VoiceCommands.Git

open Text

/-! ## First offers -/

/-- The first entry of each key, in order of first appearance. -/
def firstWins {α : Type} : List (String × α) → List (String × α)
  | [] => []
  | e :: rest => e :: (firstWins rest).filter (·.1 ≠ e.1)

section
variable {α : Type}

theorem firstWins_sublist : ∀ l : List (String × α), (firstWins l).Sublist l
  | [] => .slnil
  | e :: rest => ((List.filter_sublist).trans (firstWins_sublist rest)).cons_cons e

theorem firstWins_nodup : ∀ l : List (String × α), ((firstWins l).map Prod.fst).Nodup
  | [] => List.nodup_nil
  | e :: rest => by
    rw [firstWins, List.map_cons, List.nodup_cons]
    refine ⟨fun h => ?_, ((firstWins_nodup rest).sublist (List.filter_sublist.map Prod.fst))⟩
    obtain ⟨x, hx, hxe⟩ := List.mem_map.1 h
    exact of_decide_eq_true (List.mem_filter.1 hx).2 hxe

theorem find?_firstWins (k : String) :
    ∀ l : List (String × α), (firstWins l).find? (·.1 = k) = l.find? (·.1 = k)
  | [] => rfl
  | e :: rest => by
    by_cases he : e.1 = k
    · simp [firstWins, he]
    · rw [firstWins, List.find?_cons_of_neg (by simpa using he),
        List.find?_cons_of_neg (by simpa using he), List.find?_filter, ← find?_firstWins k rest]
      congr 1
      funext x
      by_cases hx : x.1 = k
      · simp [hx, Ne.symm he]
      · simp [hx]

theorem any_firstWins (k : String) (l : List (String × α)) :
    (firstWins l).any (·.1 = k) = l.any (·.1 = k) := by
  rw [Bool.eq_iff_iff, List.any_eq_true, List.any_eq_true, ← List.find?_isSome, ← List.find?_isSome,
    find?_firstWins]

theorem firstWins_append_singleton (l : List (String × α)) (e : String × α) :
    firstWins (l ++ [e]) = if l.any (·.1 = e.1) then firstWins l else firstWins l ++ [e] := by
  induction l with
  | nil => rfl
  | cons a rest ih =>
    rw [List.cons_append, firstWins, ih, firstWins]
    by_cases hrest : rest.any (·.1 = e.1)
    · simp [hrest]
    · by_cases hae : a.1 = e.1
      · simp [hrest, hae, List.filter_append]
      · simp [hrest, hae, Ne.symm hae, List.filter_append]

theorem firstWins_of_nodup : ∀ {l : List (String × α)}, (l.map Prod.fst).Nodup → firstWins l = l
  | [], _ => rfl
  | e :: rest, h => by
    rw [List.map_cons, List.nodup_cons] at h
    rw [firstWins, firstWins_of_nodup h.2, List.filter_eq_self.2]
    intro x hx
    simpa using fun hxe => h.1 (List.mem_map.2 ⟨x, hx, hxe⟩)

end

/-! ## Offers -/

def storedAction (value : Action) (space : Bool) : Action :=
  if space then .text " " ++ value else value

def Builder.offer (b : Builder) (e : String × Action) : Builder :=
  if b.options.any (·.1 = e.1) then b else { b with options := b.options ++ [e] }

def Builder.offerAll (b : Builder) (es : List (String × Action)) : Builder := es.foldl Builder.offer b

def smartOffers (space : Bool) (option : String) : List (String × Action) :=
  (smartOption option).map fun (a, o) => (strip a, storedAction (.text o) space)

def smartOffersAll (space : Bool) : List Value → List (String × Action)
  | [] => []
  | .str s :: rest => smartOffers space s ++ smartOffersAll space rest
  | _ :: _ => []

def commonRefOffers : List (String × Action) :=
  ((commonRemotes.flatMap fun r => commonBranches.map fun br => r ++ "/" ++ br) ++
    commonBranches ++ commonRemotes).flatMap (smartOffers true) ++
  [(strip "stash at [zero]", storedAction (.text "stash@\x7b0\x7d") true),
   (strip "select branch", storedAction (.text "`fbr`") true)]

/-- The offers of a step, in order, each under its stripped alias with the
action it would be stored as. -/
def Step.offers : Step → List (String × Action)
  | .smartOptions options space =>
    match options.elements with
    | .ok items => smartOffersAll space items
    | .error _ => []
  | .option (.str said) value space => [(strip said, storedAction value space)]
  | .option _ _ _ => []
  | .commonRefs => commonRefOffers

def offersOf : Except Fault Step → List (String × Action)
  | .ok step => step.offers
  | .error _ => []

def Step.retakes (b : Builder) : Step → Bool
  | .option (.str said) _ _ => b.options.any (·.1 = strip said)
  | _ => false

/-- The values of a step have the kinds the builder reads: an option's alias
is text, and options with derived aliases are elements that are all text. -/
def Step.Typed : Step → Prop
  | .smartOptions options _ => ∃ items, options.elements = .ok items ∧ ∀ v ∈ items, ∃ s, v = .str s
  | .option said _ _ => ∃ s, said = .str s
  | .commonRefs => True

section
variable (b : Builder)

theorem Builder.add_eq (said : String) (value : Action) (space : Bool) :
    b.add said value space = (b.offer (strip said, storedAction value space),
      if b.options.any (·.1 = strip said) then .nothing else .builder) := by
  by_cases h : b.options.any (·.1 = strip said) <;> simp [Builder.add, Builder.offer, storedAction, h]

@[simp] theorem Builder.offerAll_nil : b.offerAll [] = b := rfl

@[simp] theorem Builder.offerAll_cons (e : String × Action) (es : List (String × Action)) :
    b.offerAll (e :: es) = (b.offer e).offerAll es := rfl

theorem Builder.offerAll_append (es es' : List (String × Action)) :
    b.offerAll (es ++ es') = (b.offerAll es).offerAll es' :=
  List.foldl_append

theorem Builder.offerAll_frame (es : List (String × Action)) :
    b.offerAll es = { b with options := (b.offerAll es).options } := by
  induction es generalizing b with
  | nil => rfl
  | cons e es ih =>
    rw [offerAll, List.foldl_cons, ← offerAll, ih (b.offer e)]
    unfold offer
    split <;> rfl

theorem Builder.addSmart_eq (option : String) (space : Bool) :
    b.addSmart option space = b.offerAll (smartOffers space option) := by
  rw [addSmart, offerAll, smartOffers, List.foldl_map]
  congr 1
  funext b' ⟨a, o⟩
  exact congrArg Prod.fst (b'.add_eq a (.text o) space)

theorem Builder.addSmartAll_eq (space : Bool) (items : List Value) :
    (b.addSmartAll space items).1 = b.offerAll (smartOffersAll space items) := by
  induction items generalizing b with
  | nil => rfl
  | cons v rest ih =>
    cases v with
    | str s => rw [addSmartAll, smartOffersAll, offerAll_append, addSmart_eq, ih]
    | _ => rfl

theorem Builder.addSmartAll_fault (space : Bool) (items : List Value) :
    (b.addSmartAll space items).2 = none ↔ ∀ v ∈ items, ∃ s, v = .str s := by
  induction items generalizing b with
  | nil => simp [addSmartAll]
  | cons v rest ih =>
    cases v with
    | str s => simp [addSmartAll, ih]
    | _ => simp [addSmartAll]

theorem Builder.addCommonRefs_eq : b.addCommonRefs = b.offerAll commonRefOffers := by
  have hrefs : ∀ refs : List String,
      refs.foldl (fun b r => b.addSmart r true) b = b.offerAll (refs.flatMap (smartOffers true)) := by
    intro refs
    rw [offerAll, List.foldl_flatMap]
    simp only [addSmart_eq, offerAll]
  rw [addCommonRefs, commonRefOffers, offerAll_append, hrefs, add_eq, add_eq, offerAll_cons,
    offerAll_cons, offerAll_nil]

theorem Builder.step_smartOptions (options : Value) (space : Bool) :
    b.step (.smartOptions options space) =
      match options.elements with
      | .ok items => ((b.addSmartAll space items).1,
          match (b.addSmartAll space items).2 with
          | none => .ok .builder
          | some f => .error f)
      | .error f => (b, .error f) := by
  simp only [step]
  cases options.elements with
  | ok items =>
    dsimp only
    rcases b.addSmartAll space items with ⟨b', _ | f⟩ <;> rfl
  | error f => rfl

/-- A step leaves the builder its offers give, whatever it gave back. -/
theorem Builder.step_eq_offerAll (step : Step) : (b.step step).1 = b.offerAll step.offers := by
  cases step with
  | smartOptions options space =>
    rw [step_smartOptions, Step.offers]
    cases options.elements with
    | ok items => exact addSmartAll_eq b space items
    | error _ => rfl
  | option said value space =>
    cases said with
    | str said => simp [step, add_eq, Step.offers, offerAll]
    | _ => rfl
  | commonRefs =>
    simp only [step, Step.offers]
    exact addCommonRefs_eq b

theorem Builder.steps_eq_offerAll (ss : List (Except Fault Step)) :
    (b.steps ss).1 = b.offerAll (ss.flatMap offersOf) := by
  induction ss generalizing b with
  | nil => rfl
  | cons s rest ih =>
    cases s with
    | ok step => simp [steps, ih, step_eq_offerAll, offersOf, offerAll_append]
    | error f => simp [steps, ih, offersOf]

theorem Builder.options_offer (e : String × Action) :
    (b.offer e).options = if b.options.any (·.1 = e.1) then b.options else b.options ++ [e] := by
  unfold offer
  split <;> rfl

theorem Builder.options_offerAll {R : List (String × Action)} (h : b.options = firstWins R)
    (es : List (String × Action)) : (b.offerAll es).options = firstWins (R ++ es) := by
  induction es generalizing b R with
  | nil => simp [offerAll, h]
  | cons e es ih =>
    have hoffer : (b.offer e).options = firstWins (R ++ [e]) := by
      rw [options_offer, firstWins_append_singleton, h, any_firstWins]
    rw [offerAll, List.foldl_cons, ← offerAll, ih (b.offer e) hoffer, List.append_assoc,
      List.singleton_append]

theorem Builder.step_of_retakes {step : Step} (h : step.retakes b = true) :
    b.step step = (b, .ok .nothing) := by
  cases step with
  | option said value space =>
    cases said with
    | str said =>
      simp only [Step.retakes] at h
      simp [step, add_eq, offer, h]
    | _ => cases h
  | _ => cases h

theorem Builder.step_of_typed {step : Step} (h : step.Typed) (hr : step.retakes b = false) :
    (b.step step).2 = .ok .builder := by
  cases step with
  | smartOptions options space =>
    obtain ⟨items, hitems, htexts⟩ := h
    rw [step_smartOptions, hitems]
    dsimp only
    rw [(b.addSmartAll_fault space items).2 htexts]
  | option said value space =>
    obtain ⟨said, rfl⟩ := h
    simp only [Step.retakes] at hr
    simp [step, add_eq, hr]
  | commonRefs => rfl

theorem Builder.step_of_untyped {step : Step} (h : ¬step.Typed) : ∃ f, (b.step step).2 = .error f := by
  cases step with
  | smartOptions options space =>
    simp only [Step.Typed, not_exists, not_and] at h
    rw [step_smartOptions]
    cases hitems : options.elements with
    | ok items =>
      -- some value is not text, and the first such stops the step
      have hsome : (b.addSmartAll space items).2 ≠ none := fun hn =>
        h items hitems ((b.addSmartAll_fault space items).1 hn)
      obtain ⟨f, hf⟩ := Option.ne_none_iff_exists'.1 hsome
      exact ⟨f, by simp [hf]⟩
    | error f => exact ⟨f, rfl⟩
  | option said value space =>
    cases said with
    | str said => exact absurd ⟨said, rfl⟩ h
    | _ => exact ⟨_, rfl⟩
  | commonRefs => exact absurd trivial h

end

/-! ## The builder after any steps -/

theorem Builder.options_steps (b : Builder) (hb : (b.options.map Prod.fst).Nodup)
    (ss : List (Except Fault Step)) :
    (b.steps ss).1.options = firstWins (b.options ++ ss.flatMap offersOf) := by
  rw [steps_eq_offerAll, b.options_offerAll (firstWins_of_nodup hb).symm]

/-- A builder made with a name, a spoken alias and base options, after any
building steps: the name, the alias and the base options are as given; its
options have distinct aliases, come in the order the steps offered them, and
under each alias hold the first option offered under it.  Each step changes
only the options; one that gives an alias that is taken to a single option
gives back nothing and changes nothing; every other step gives back the
builder when its values have the kinds the builder reads, and fails
otherwise. -/
theorem Builder.first_registration_wins :
    (∀ (name : String) (saidAs : Value) (base : List Action) (ss : List (Except Fault Step)),
      let final := (Builder.steps ⟨name, saidAs, base, []⟩ ss).1
      final.name = name ∧ final.saidAs = saidAs ∧ final.baseOptions = base ∧
      (final.options.map Prod.fst).Nodup ∧ final.options.Sublist (ss.flatMap offersOf) ∧
      ∀ k, final.options.find? (·.1 = k) = (ss.flatMap offersOf).find? (·.1 = k)) ∧
    ∀ (b : Builder) (step : Step),
      (b.step step).1 = { b with options := (b.step step).1.options } ∧
      (step.retakes b = true → b.step step = (b, .ok .nothing)) ∧
      (step.Typed → step.retakes b = false → (b.step step).2 = .ok .builder) ∧
      (¬step.Typed → ∃ f, (b.step step).2 = .error f) := by
  refine ⟨fun name saidAs base ss => ?_, fun b step => ?_⟩
  · dsimp only
    have hoptions := Builder.options_steps ⟨name, saidAs, base, []⟩ List.nodup_nil ss
    rw [List.nil_append] at hoptions
    -- the steps change the options only
    rw [Builder.steps_eq_offerAll, Builder.offerAll_frame, ← Builder.steps_eq_offerAll, hoptions]
    exact ⟨rfl, rfl, rfl, firstWins_nodup _, firstWins_sublist _, fun k => find?_firstWins k _⟩
  · refine ⟨?_, b.step_of_retakes, b.step_of_typed, b.step_of_untyped⟩
    rw [b.step_eq_offerAll]
    exact b.offerAll_frame _

-- the alias ` a ` is stripped to `a`, which is taken: the step gives back nothing
example :
    (Builder.steps ⟨"x", .none, [], []⟩ [.ok (given "a" "-1"), .ok (given " a " "-2")]).1.options =
        [("a", .text " " ++ .text "-1")] ∧
      ((Builder.steps ⟨"x", .none, [], []⟩
        [.ok (given "a" "-1"), .ok (given " a " "-2")]).2.map (·.2.toOption)) =
        [some .builder, some .nothing] := by
  refine ⟨rfl, by decide⟩

end VoiceCommands.Git
