import VoiceCommands.Proofs.Git.CommandText
import VoiceCommands.Proofs.Git.Registration
import VoiceCommands.Proofs.Recognition.Mappings

/-!
# What a command line runs

A command line is `cancel`, `git`, a command, `enter` and `cancel` again, each
but `git` spoken or not (`lineTree`).  Its actions are looked up by name and a
lookup finds the first part of that name, so the two places of `cancel` share
one action: `c-c` is pressed once, and first, wherever `cancel` was said.
-/

namespace VoiceCommands.Git

open Recognition

/-! ## The parts of a command line -/

/-- A command line from its parts: the tree of `cancel` said before `git`,
the spoken command (its place among the commands, the command and the tree of
its rule), the tree of `enter` and the tree of `cancel` said after. -/
def lineTree (lead : Option Tree) (cmd : Option (Nat × Builder × Tree))
    (enter trail : Option Tree) : Tree :=
  .rule "GitRule" (.seq [.opt (lead.map (.named "cancel" .plain)), .word "git",
    .opt (cmd.map fun c =>
      .named "command_with_options" .plain (.alt c.1 (.named c.2.1.name .plain c.2.2))),
    .opt (enter.map (.named "enter" .plain)), .opt (trail.map (.named "cancel" .plain))])

theorem lineRule_conforms {bs : List Builder} {exported : Bool} {t : Tree}
    (ht : Conforms (lineRule bs exported).ref t) :
    ∃ lead cmd enter trail, t = lineTree lead cmd enter trail ∧
      (∀ c ∈ lead, Conforms cancelKeys.rule.ref c) ∧
      (∀ c ∈ cmd, bs[c.1]? = some c.2.1 ∧ Conforms c.2.1.rule.ref c.2.2) ∧
      (∀ c ∈ enter, Conforms enterKey.rule.ref c) ∧
      (∀ c ∈ trail, Conforms cancelKeys.rule.ref c) := by
  obtain ⟨c, rfl, hc⟩ := ht.of_rule
  obtain ⟨ts, rfl, hts⟩ := hc.of_seq
  obtain ⟨t₁, ts, rfl, h₁, hts⟩ := hts.of_cons
  obtain ⟨t₂, ts, rfl, h₂, hts⟩ := hts.of_cons
  obtain ⟨t₃, ts, rfl, h₃, hts⟩ := hts.of_cons
  obtain ⟨t₄, ts, rfl, h₄, hts⟩ := hts.of_cons
  obtain ⟨t₅, ts, rfl, h₅, hts⟩ := hts.of_cons
  cases hts.of_nil
  obtain ⟨lead, rfl, hlead⟩ := h₁.of_opt_named
  obtain ⟨said, rfl, hsaid⟩ := h₃.of_opt_named
  obtain ⟨enter, rfl, henter⟩ := h₄.of_opt_named
  obtain ⟨trail, rfl, htrail⟩ := h₅.of_opt_named
  -- the command is the choice of one of the commands, named after it
  obtain ⟨cmd, rfl, hcmd⟩ : ∃ cmd : Option (Nat × Builder × Tree),
      said = cmd.map (fun c => .alt c.1 (.named c.2.1.name .plain c.2.2)) ∧
      ∀ c ∈ cmd, bs[c.1]? = some c.2.1 ∧ Conforms c.2.1.rule.ref c.2.2 := by
    cases said with
    | none => exact ⟨none, rfl, by simp⟩
    | some x =>
      obtain ⟨i, e, y, rfl, he, hy⟩ := (hsaid x rfl).of_alt
      rw [List.getElem?_map] at he
      obtain ⟨b, hb, rfl⟩ := Option.map_eq_some_iff.1 he
      obtain ⟨z, rfl, hz⟩ := hy.of_named
      exact ⟨some (i, b, z), rfl, by simpa using ⟨hb, hz⟩⟩
  have hgit : Text.lower "git" = "git" := by decide
  rw [h₂.of_word, hgit]
  refine ⟨lead, cmd, enter, trail, ?_, hlead, hcmd, henter, htrail⟩
  simp [lineTree, lineRule, Option.map_map, Function.comp_def]

/-! ## The actions of a command line -/

theorem performLine_eq_execEach {bs : List Builder} {lead enter trail : Option Tree}
    {cmd : Option (Nat × Builder × Tree)} (hcmd : ∀ c ∈ cmd, bs[c.1]? = some c.2.1) :
    performLine bs (lineTree lead cmd enter trail) =
      Action.execEach ((lead.or trail).toList.map cancelKeys.bound ++
        (cmd.map fun c => c.2.1.action "git" c.2.2).toList ++ enter.toList.map enterKey.bound)
        [] {} := by
  -- each part is found under its own name, and `cancel` where it was said first
  obtain ⟨hcancel, hcommand, henter⟩ :
      (lineTree lead cmd enter trail).find? "cancel" = (lead.or trail).map (.named "cancel" .plain) ∧
      (lineTree lead cmd enter trail).find? "command_with_options" = cmd.map (fun c =>
        .named "command_with_options" .plain (.alt c.1 (.named c.2.1.name .plain c.2.2))) ∧
      (lineTree lead cmd enter trail).find? "enter" = enter.map (.named "enter" .plain) := by
    cases lead <;> cases cmd <;> cases enter <;> cases trail <;>
      simp only [lineTree, Option.map_some, Option.map_none, Tree.find?, Tree.findAll?,
        Option.orElse_some, Option.orElse_none, Option.some_or, Option.none_or, String.reduceEq,
        ↓reduceIte, and_self]
  simp only [performLine, hcancel, hcommand, henter]
  cases cmd with
  | none => simp [Tree.body, Function.comp_def, Option.toList_map]
  | some c => simp [Tree.body, Function.comp_def, Option.toList_map, hcmd c rfl]

/-- A command line whose command runs through records `c-c` once when `cancel`
was said before `git`, after it, or both; then what the command records, run
on its own; then `enter` when it was said.  It never stops with a fault. -/
theorem performLine_records {bs : List Builder} {lead enter trail : Option Tree}
    {cmd : Option (Nat × Builder × Tree)}
    (hcmd : ∀ c ∈ cmd, bs[c.1]? = some c.2.1 ∧ (c.2.1.action "git" c.2.2).RunsThrough [])
    (hlead : ∀ c ∈ lead, Conforms cancelKeys.rule.ref c)
    (henter : ∀ c ∈ enter, Conforms enterKey.rule.ref c)
    (htrail : ∀ c ∈ trail, Conforms cancelKeys.rule.ref c) :
    performLine bs (lineTree lead cmd enter trail) =
      { records := (if lead.isSome || trail.isSome then [.sent .key (some "c-c")] else []) ++
          cmd.toList.flatMap (fun c => ((c.2.1.action "git" c.2.2).run {}).records) ++
          (if enter.isSome then [.sent .key (some "enter")] else []) } := by
  -- the cancel run is the first one said, a parse tree of the cancelling rule
  have hcancel : ∀ c ∈ lead.or trail, Conforms cancelKeys.rule.ref c := by
    cases lead with
    | none => exact htrail
    | some l => exact hlead
  have hpress := fun c hc => Mapping.bound_key (m := cancelKeys) rfl (by decide) (hcancel c hc)
  have henterPress := fun c hc => Mapping.bound_key (m := enterKey) rfl (by decide) (henter c hc)
  have hruns : ∀ a ∈ (lead.or trail).toList.map cancelKeys.bound ++
      (cmd.map fun c => c.2.1.action "git" c.2.2).toList ++ enter.toList.map enterKey.bound,
      a.RunsThrough [] := by
    intro a ha
    simp only [List.mem_append, List.mem_map, Option.mem_toList, Option.map_eq_some_iff] at ha
    rcases ha with (⟨c, hc, rfl⟩ | ⟨c, hc, rfl⟩) | ⟨c, hc, rfl⟩
    · exact (hpress c hc).1
    · exact (hcmd c hc).2
    · exact (henterPress c hc).1
  rw [performLine_eq_execEach fun c hc => (hcmd c hc).1, Action.execEach_runsThrough [] _ hruns,
    List.flatMap_append, List.flatMap_append, ← Option.isSome_or]
  -- a key pressed for a part records the key when the part was said
  have hkey : ∀ (o : Option Tree) (m : Mapping Action) (r : Record),
      (∀ c ∈ o, ((m.bound c).perform []).records = [r]) →
      (o.toList.map m.bound).flatMap (fun a => (a.perform []).records) =
        if o.isSome then [r] else [] := by
    intro o m r h
    cases o with
    | none => rfl
    | some c => simp [h c rfl]
  rw [hkey _ _ _ fun c hc => (hpress c hc).2, hkey _ _ _ fun c hc => (henterPress c hc).2]
  cases cmd <;> rfl

/-! ## The commands of the catalogue

Every option a building step offers is stored as typed text, after a space
when asked, unless the step is an option given with an action of its own.
The catalogue gives options as text only, and its base options are text, so
none of its commands has a repetition, and each runs through. -/

def Step.simpleValue : Step → Bool
  | .option _ value _ => value.simple
  | _ => true

theorem storedAction_simple {value : Action} (h : value.simple) (space : Bool) :
    (storedAction value space).simple := by
  cases space
  · exact h
  · exact Action.simple_append rfl h

theorem smartOffers_simple (space : Bool) (option : String) :
    ∀ e ∈ smartOffers space option, e.2.simple := by
  intro e he
  obtain ⟨⟨a, o⟩, -, rfl⟩ := List.mem_map.1 he
  exact storedAction_simple rfl space

theorem smartOffersAll_simple (space : Bool) :
    ∀ (items : List Value), ∀ e ∈ smartOffersAll space items, e.2.simple
  | [] => fun _ he => absurd he List.not_mem_nil
  | v :: rest => by
    intro e he
    cases v with
    | str s =>
      rcases List.mem_append.1 he with he | he
      · exact smartOffers_simple space s e he
      · exact smartOffersAll_simple space rest e he
    | _ => exact absurd he List.not_mem_nil

theorem commonRefOffers_simple : ∀ e ∈ commonRefOffers, e.2.simple := by
  intro e he
  simp only [commonRefOffers, List.mem_append, List.mem_flatMap, List.mem_cons, List.not_mem_nil,
    or_false] at he
  rcases he with ⟨r, -, hr⟩ | rfl | rfl
  · exact smartOffers_simple true r e hr
  · exact storedAction_simple rfl true
  · exact storedAction_simple rfl true

theorem Step.offers_simple {step : Step} (h : step.simpleValue) :
    ∀ e ∈ step.offers, e.2.simple := by
  cases step with
  | smartOptions options space =>
    simp only [Step.offers]
    split
    · exact smartOffersAll_simple space _
    · exact fun _ he => absurd he List.not_mem_nil
  | option said value space =>
    cases said with
    | str said =>
      intro e he
      rw [Step.offers, List.mem_singleton] at he
      exact he ▸ storedAction_simple h space
    | _ => exact fun _ he => absurd he List.not_mem_nil
  | commonRefs => exact commonRefOffers_simple

theorem Recipe.build_name (r : Recipe) : r.build.name = r.name := by
  rw [Recipe.build, Builder.steps_eq_offerAll, Builder.offerAll_frame]

theorem Recipe.build_baseOptions (r : Recipe) : r.build.baseOptions = r.baseOptions := by
  rw [Recipe.build, Builder.steps_eq_offerAll, Builder.offerAll_frame]

theorem Recipe.build_options_simple (r : Recipe) (h : r.steps.all Step.simpleValue) :
    ∀ e ∈ r.build.options, e.2.simple := by
  intro e he
  rw [Recipe.build,
    Builder.options_steps ⟨r.name, (r.saidAs.map .str).getD .none, r.baseOptions, []⟩
      List.nodup_nil, List.nil_append] at he
  obtain ⟨s, hs, he⟩ := List.mem_flatMap.1 ((firstWins_sublist _).subset he)
  obtain ⟨step, hstep, rfl⟩ := List.mem_map.1 hs
  exact Step.offers_simple (List.all_eq_true.1 h step hstep) e he

theorem Builder.action_runsThrough {b : Builder} (hbase : ∀ a ∈ b.baseOptions, a.simple)
    (hopts : ∀ e ∈ b.options, e.2.simple) (g : String) (t : Tree) :
    (b.action g t).RunsThrough [] := by
  unfold Builder.action
  split
  · refine ⟨Action.simple_exec_fault _ [] ?_, rfl⟩
    -- the text, the base options and the bound options have no repetitions
    rw [Action.simple, Action.simpleAll_eq_all, List.all_eq_true]
    intro p hp
    simp only [List.mem_append, List.mem_singleton] at hp
    rcases hp with (rfl | hp) | hp
    · rfl
    · split at hp
      · simp at hp
      · exact hbase p hp
    · split at hp
      · obtain ⟨x, -, rfl⟩ := List.mem_map.1 hp
        exact Mapping.bound_simple hopts x
      · simp at hp
  · exact Action.runsThrough_idle []

theorem catalogue_runsThrough : ∀ b ∈ catalogue, ∀ g t, (b.action g t).RunsThrough [] := by
  have hrecipes : (commonRecipes ++ extraRecipes).all
      (fun r => r.baseOptions.all Action.simple && r.steps.all Step.simpleValue) = true := by decide
  intro b hb g t
  obtain ⟨r, hr, rfl⟩ := List.mem_map.1 hb
  have h := List.all_eq_true.1 hrecipes r hr
  rw [Bool.and_eq_true] at h
  refine Builder.action_runsThrough (fun a ha => ?_) (Recipe.build_options_simple r h.2) g t
  rw [Recipe.build_baseOptions] at ha
  exact List.all_eq_true.1 h.1 a ha

/-! ## Command lines of the catalogue -/

/-- A command line of the catalogue records `c-c` once, first, when `cancel`
was said before `git`, after it, or both; then what the spoken command
records, run on its own; then `enter` when it was said.  It never stops with a
fault. -/
theorem performLine_cancel_first {t : Tree} (ht : Conforms (lineRule catalogue true).ref t) :
    ∃ lead cmd enter trail, t = lineTree lead cmd enter trail ∧
      (∀ c ∈ cmd, catalogue[c.1]? = some c.2.1 ∧ Conforms c.2.1.rule.ref c.2.2) ∧
      performLine catalogue t =
        { records := (if lead.isSome || trail.isSome then [.sent .key (some "c-c")] else []) ++
            cmd.toList.flatMap (fun c => ((c.2.1.action "git" c.2.2).run {}).records) ++
            (if enter.isSome then [.sent .key (some "enter")] else []) } := by
  obtain ⟨lead, cmd, enter, trail, rfl, hlead, hcmd, henter, htrail⟩ := lineRule_conforms ht
  have hruns : ∀ c ∈ cmd, catalogue[c.1]? = some c.2.1 ∧
      (c.2.1.action "git" c.2.2).RunsThrough [] := fun c hc =>
    ⟨(hcmd c hc).1, catalogue_runsThrough _ (List.mem_of_getElem? (hcmd c hc).1) _ _⟩
  exact ⟨lead, cmd, enter, trail, rfl, hcmd, performLine_records hruns hlead henter htrail⟩

/-- `git init enter cancel`, as the command line of the catalogue takes it. -/
def initEnterCancel : Tree :=
  .rule "GitRule" (.seq [.opt none, .word "git",
    .opt (some (.named "command_with_options" .plain (.alt 9 (.named "init" .plain
      (.rule "init" (.seq [.opt none, .word "init", .named "options" .plain (.rep [])])))))),
    .opt (some (.named "enter" .plain (.rule "enter" (.alt 0 (.word "enter"))))),
    .opt (some (.named "cancel" .plain
      (.rule "cancel" (.alt 0 (.seq [.word "cancel", .opt none])))))])

theorem initEnterCancel_conforms : Conforms (lineRule catalogue true).ref initEnterCancel :=
  Element.conforms_of_accepts _ _ (by decide +kernel)

theorem init_enter_cancel_records : Conforms (lineRule catalogue true).ref initEnterCancel ∧
    ∃ lead cmd enter trail, initEnterCancel = lineTree lead cmd enter trail ∧
      (∀ c ∈ cmd, catalogue[c.1]? = some c.2.1 ∧ Conforms c.2.1.rule.ref c.2.2) ∧
      performLine catalogue initEnterCancel =
        { records := (if lead.isSome || trail.isSome then [.sent .key (some "c-c")] else []) ++
            cmd.toList.flatMap (fun c => ((c.2.1.action "git" c.2.2).run {}).records) ++
            (if enter.isSome then [.sent .key (some "enter")] else []) } :=
  ⟨initEnterCancel_conforms, performLine_cancel_first initEnterCancel_conforms⟩

/-- A `cancel` said last is pressed first: `git init enter cancel` presses
`c-c`, types `git init` and presses `enter`, where the spoken order presses
`c-c` last. -/
theorem trailing_cancel_runs_first : Conforms (lineRule catalogue true).ref initEnterCancel ∧
    (performLine catalogue initEnterCancel).records =
      [.sent .key (some "c-c"), .sent .text (some "git init"), .sent .key (some "enter")] := by
  refine ⟨initEnterCancel_conforms, ?_⟩
  have hparts : Element.accepts cancelKeys.rule.ref
        (.rule "cancel" (.alt 0 (.seq [.word "cancel", .opt none]))) = true ∧
      Element.accepts enterKey.rule.ref (.rule "enter" (.alt 0 (.word "enter"))) = true := by
    decide +kernel
  -- `init`, the tenth command, said without help and without options
  have hname : (plain "init" [smart ["--quiet"]]).build.name = "init" := Recipe.build_name _
  have hbase : (plain "init" [smart ["--quiet"]]).build.baseOptions = [] :=
    Recipe.build_baseOptions _
  have hinit : catalogue[9]? = some (plain "init" [smart ["--quiet"]]).build := rfl
  have hline : initEnterCancel = lineTree none
      (some (9, (plain "init" [smart ["--quiet"]]).build,
        .rule (plain "init" [smart ["--quiet"]]).build.name
          (.seq [.opt none, .word "init", .named "options" .plain (.rep [])])))
      (some (.rule "enter" (.alt 0 (.word "enter"))))
      (some (.rule "cancel" (.alt 0 (.seq [.word "cancel", .opt none])))) := by
    simp only [lineTree, Option.map_some, Option.map_none, hname]
    rfl
  -- the command types `git init`: no help, no base options and no options
  have hcommand : (((plain "init" [smart ["--quiet"]]).build.action "git"
      (.rule (plain "init" [smart ["--quiet"]]).build.name
        (.seq [.opt none, .word "init", .named "options" .plain (.rep [])]))).run {}).records =
      [.sent .text (some "git init")] := by
    rw [Builder.run_action "git" (by simp [hbase]) none (.word "init") []]
    simp only [Option.isSome_none, Bool.false_eq_true, if_false, hbase, hname, List.map_nil,
      List.append_nil, String.append_empty, Action.execEach]
    rw [Action.text_exec_verbatim (by decide) [] rfl]
    rfl
  rw [hline, performLine_records (fun c hc => ?_) (by simp) (fun c hc => ?_) (fun c hc => ?_)]
  · simp only [Option.isSome_none, Option.isSome_some, Bool.false_or, if_true, Option.toList_some,
      List.flatMap_cons, List.flatMap_nil, List.append_nil]
    rw [hcommand]
    rfl
  · obtain rfl := Option.some.inj hc
    exact ⟨hinit, catalogue_runsThrough _ (List.mem_of_getElem? hinit) _ _⟩
  · obtain rfl := Option.some.inj hc
    exact Element.conforms_of_accepts _ _ hparts.2
  · obtain rfl := Option.some.inj hc
    exact Element.conforms_of_accepts _ _ hparts.1

end VoiceCommands.Git
