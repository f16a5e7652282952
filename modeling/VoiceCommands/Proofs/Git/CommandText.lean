import VoiceCommands.Git.Commands
import VoiceCommands.Proofs.Recognition.Conforms
import VoiceCommands.Proofs.Actions

/-!
# The text of a version control command

A recognized command types `git`, `help` if it was asked, the command's name,
its base options unless help was asked, and the option of each spoken alias.
An option runs bound to the data of its recognition, so an option typed as
text is formatted with that data when it holds a `%`.
-/

namespace VoiceCommands.Git

open Recognition

theorem option_bound_exec (o : String) (space : Bool) {d : Data} (hd : d ≠ []) (d' : Data)
    {t : Trace} (ht : t.fault = none) :
    (Action.bound (if space then Action.text " " ++ .text o else .text o) d).exec d' t =
      ({ t with records := t.records ++ (if space then [.sent .text (some " ")] else []) ++
          [if '%' ∈ o.toList then
             match interpolate o d with
             | some s => .sent .text (some s)
             | none => .failed .text (some o)
           else .sent .text (some o)] }, false) := by
  -- the text records one event, whether or not it could be formatted
  have htext : ∀ t' : Trace, t'.fault = none → ((Action.text o).exec d t').1 =
      t'.push (if '%' ∈ o.toList then
        match interpolate o d with
        | some s => .sent .text (some s)
        | none => .failed .text (some o)
      else .sent .text (some o)) := by
    intro t' ht'
    by_cases ho : '%' ∈ o.toList
    · rw [Action.text_exec_formatted ho hd ht', if_pos ho]
      cases interpolate o d <;> rfl
    · rw [Action.text_exec_verbatim ho d ht', if_neg ho]
  cases space with
  | false => simp [Action.exec, htext t ht, Trace.push]
  | true =>
    have hspace : '%' ∉ " ".toList := by decide
    have hsend : ∀ s ty, Action.text s ≠ .inert ty := fun s ty => by simp [Action.text, Action.event]
    have hseries : Action.text " " ++ .text o = .series [.text " ", .text o] := rfl
    rw [if_pos rfl, hseries]
    simp only [Action.exec]
    -- the space is sent and passes the run on to the text, which ends it
    rw [Action.execSeries_cons_of_passes (hsend " ") (by rw [Action.text_exec_verbatim hspace d ht]),
      Action.text_exec_verbatim hspace d ht, Action.execSeries_singleton (hsend o),
      htext _ (by exact ht)]
    simp [Trace.push]

/-! ## Recognized commands -/

section
variable {b : Builder} {e : Element}

/-- The specification of a command reads as `help`, the alias and the
options. -/
def Builder.ReadsPlainly (b : Builder) (e : Element) : Prop :=
  b.rule.element = .seq [.opt (.word "help"), e,
    .named "options" .plain (.rep (b.optionMapping "").rule.ref 0 9)]

theorem Builder.rule_conforms (hspec : b.ReadsPlainly e) {t : Tree} (ht : Conforms b.rule.ref t) :
    ∃ h a items, t = .rule b.name (.seq [.opt h, a, .named "options" .plain (.rep items)]) ∧
      items.length ≤ 9 ∧ ∀ x ∈ items, Conforms (b.optionMapping "").rule.ref x := by
  obtain ⟨c, rfl, hc⟩ := ht.of_rule
  rw [hspec] at hc
  obtain ⟨th, a, topts, rfl, hh, -, hopts⟩ := hc.of_triple
  obtain ⟨h, rfl⟩ : ∃ h, th = .opt h := by
    rcases hh.of_opt with rfl | ⟨c, rfl, -⟩
    · exact ⟨none, rfl⟩
    · exact ⟨some c, rfl⟩
  obtain ⟨r, rfl, hr⟩ := hopts.of_named
  cases hr with
  | rep _ hmost hitems => exact ⟨h, a, _, rfl, hmost, hitems⟩

theorem Builder.bound_alt (g r : String) {i : Nat} {opt : String × Action}
    (hopt : b.options[i]? = some opt) (spoken : Tree) :
    (b.optionMapping g).bound (.rule r (.alt i spoken)) = .bound opt.2
      (Data.ofRule g ("MappingRule(" ++ b.name ++ "_options)")
        (nodeText "Alternative(...)" spoken.words)) := by
  simp [Mapping.bound, Mapping.choose, Tree.inner, Builder.optionMapping, hopt, extrasData,
    Data.setAll, Mapping.describe, String.append_assoc]

theorem Builder.optionMapping_bound (g : String) {x : Tree}
    (hx : Conforms (b.optionMapping "").rule.ref x) :
    ∃ i opt spoken, x = .rule (b.name ++ "_options") (.alt i spoken) ∧ b.options[i]? = some opt ∧
      Conforms (specElement [] opt.1) spoken ∧
      (b.optionMapping g).bound x = .bound opt.2
        (Data.ofRule g ("MappingRule(" ++ b.name ++ "_options)")
          (nodeText "Alternative(...)" spoken.words)) := by
  obtain ⟨c, rfl, hc⟩ := hx.of_rule
  obtain ⟨i, el, spoken, rfl, hel, hspoken⟩ := hc.of_alt
  simp only [Builder.optionMapping, List.getElem?_map] at hel
  obtain ⟨opt, hopt, rfl⟩ := Option.map_eq_some_iff.1 hel
  exact ⟨i, opt, spoken, rfl, hopt, hspoken, Builder.bound_alt g _ hopt spoken⟩

theorem Builder.run_action (g : String) (hbase : ∀ a ∈ b.baseOptions, a.RunsThrough [])
    (h : Option Tree) (a : Tree) (items : List Tree) :
    (b.action g (.rule b.name (.seq [.opt h, a, .named "options" .plain (.rep items)]))).run {} =
      Action.execEach (.text ("git " ++ (if h.isSome then "help " else "") ++ b.name) ::
        ((if h.isSome then [] else b.baseOptions) ++ items.map (b.optionMapping g).bound)) [] {} := by
  simp only [Builder.action, Tree.inner, Tree.parts, Tree.present?, Tree.body, Action.run,
    Action.exec, List.singleton_append]
  refine Action.execSeries_eq_execEach (fun p hp => ?_) {}
  -- the text, the base options and the bound options all report no failure
  simp only [List.mem_cons, List.mem_append] at hp
  rcases hp with (rfl | hp) | hp
  · exact ⟨fun ty => by simp [Action.text, Action.event],
      by simp [Action.text, Action.event, Action.exec, sendRecord]⟩
  · have hrun : p.RunsThrough [] := by
      cases hh : h.isSome
      · exact hbase p (by simpa [hh] using hp)
      · simp [hh] at hp
    refine ⟨fun ty hty => ?_, hrun.2⟩
    subst hty
    simp [Action.RunsThrough, Action.exec, Trace.stop] at hrun
  · obtain ⟨x, -, rfl⟩ := List.mem_map.1 hp
    unfold Mapping.bound
    split <;> exact ⟨fun ty => by simp, rfl⟩

end

/-- A recognized command whose specification reads as `help`, the alias and
the options, with base options that run through without data, runs one after
the other: `git`, `help` if asked and the command's name, as text; its base
options unless help was asked; then, for each spoken alias, the action
registered under it, bound to the data of the alias's recognition.  An
option registered as text types, after a space when asked, that text exactly
when it holds no `%`; otherwise the text is formatted with the data of the
recognition, and recorded as failed when it cannot be. -/
theorem Builder.command_text (b : Builder) (g : String) {e : Element} (hspec : b.ReadsPlainly e)
    (hbase : ∀ a ∈ b.baseOptions, a.RunsThrough []) {t : Tree} (ht : Conforms b.rule.ref t) :
    (∃ h a items, t = .rule b.name (.seq [.opt h, a, .named "options" .plain (.rep items)]) ∧
      items.length ≤ 9 ∧
      (∀ x ∈ items, ∃ i opt spoken, x = .rule (b.name ++ "_options") (.alt i spoken) ∧
        b.options[i]? = some opt ∧ Conforms (specElement [] opt.1) spoken ∧
        (b.optionMapping g).bound x = .bound opt.2
          (Data.ofRule g ("MappingRule(" ++ b.name ++ "_options)")
            (nodeText "Alternative(...)" spoken.words))) ∧
      (b.action g t).run {} =
        Action.execEach (.text ("git " ++ (if h.isSome then "help " else "") ++ b.name) ::
          ((if h.isSome then [] else b.baseOptions) ++ items.map (b.optionMapping g).bound)) [] {}) ∧
    ∀ (o : String) (space : Bool) (node : String) (d : Data) (tr : Trace), tr.fault = none →
      (Action.bound (if space then Action.text " " ++ .text o else .text o)
          (Data.ofRule g ("MappingRule(" ++ b.name ++ "_options)") node)).exec d tr =
        ({ tr with records := tr.records ++ (if space then [.sent .text (some " ")] else []) ++
            [if '%' ∈ o.toList then
               match interpolate o (Data.ofRule g ("MappingRule(" ++ b.name ++ "_options)") node) with
               | some s => .sent .text (some s)
               | none => .failed .text (some o)
             else .sent .text (some o)] }, false) := by
  obtain ⟨h, a, items, rfl, hmost, hitems⟩ := Builder.rule_conforms hspec ht
  exact ⟨⟨h, a, items, rfl, hmost, fun x hx => Builder.optionMapping_bound g (hitems x hx),
    Builder.run_action g hbase h a items⟩,
    fun o space node d tr htr => option_bound_exec o space (by simp [Data.ofRule]) d htr⟩

/-- `commit`, always given `-v`, with the one option `--amend`. -/
def commitAmend : Builder :=
  (⟨"commit", none, [.text " -v"], [given "amend" "--amend"]⟩ : Recipe).build

def commitAmendSaid : Tree :=
  .rule "commit" (.seq [.opt none, .word "commit",
    .named "options" .plain (.rep [.rule "commit_options" (.alt 0 (.word "amend"))])])

theorem commit_amend_text :
    commitAmend.ReadsPlainly (.word "commit") ∧ Conforms commitAmend.rule.ref commitAmendSaid ∧
      ((commitAmend.action "git" commitAmendSaid).run {}).records =
        [.sent .text (some "git commit"), .sent .text (some " -v"), .sent .text (some " "),
         .sent .text (some "--amend")] := by
  have hspec : commitAmend.ReadsPlainly (.word "commit") := Element.eq_of_beq _ _ (by decide +kernel)
  have ht : Conforms commitAmend.rule.ref commitAmendSaid :=
    Element.conforms_of_accepts _ _ (by decide +kernel)
  have hname : commitAmend.name = "commit" := rfl
  have hbase : commitAmend.baseOptions = [.text " -v"] := rfl
  have hopts : commitAmend.options = [("amend", .text " " ++ .text "--amend")] := rfl
  obtain ⟨⟨h, a, items, heq, -, hitems, hrun⟩, hopt⟩ :=
    Builder.command_text commitAmend "git" hspec
      (by simpa [hbase, Action.text, Action.event] using Action.runsThrough_send .text (some " -v") _) ht
  refine ⟨hspec, ht, ?_⟩
  -- the recognition asks no help and says one option, the first registered
  simp only [commitAmendSaid, Tree.rule.injEq, Tree.seq.injEq, List.cons.injEq, Tree.opt.injEq,
    Tree.named.injEq, Tree.rep.injEq, true_and, and_true] at heq
  obtain ⟨-, rfl, rfl, rfl⟩ := heq
  obtain ⟨i, opt, spoken, hx, hi, -, hbound⟩ := hitems _ List.mem_cons_self
  simp only [Tree.rule.injEq, Tree.alt.injEq] at hx
  obtain ⟨-, rfl, rfl⟩ := hx
  simp only [hopts, List.getElem?_cons_zero, Option.some.injEq] at hi
  subst hi
  have hamend := fun tr => hopt "--amend" true (nodeText "Alternative(...)" (Tree.word "amend").words) [] tr
  simp only [hname, ↓reduceIte] at hamend
  rw [hrun]
  simp only [Action.execEach, List.map_cons, List.map_nil, hbound, hname, hbase, Option.isSome_none,
    Bool.false_eq_true, if_false, List.singleton_append]
  rw [Action.text_exec_verbatim (by decide) [] rfl, Action.text_exec_verbatim (by decide) [] rfl,
    hamend _ rfl, if_neg (by decide)]
  simp [Trace.push]

/-- `zz` with the one option `100%`, said `pp`. -/
def percentOption : Builder :=
  (({ name := "zz", saidAs := .none, baseOptions := [], options := [] } : Builder).step
    (.option (.str "pp") (.text "100%") true)).1

def percentOptionSaid : Tree :=
  .rule "zz" (.seq [.opt none, .word "zz",
    .named "options" .plain (.rep [.rule "zz_options" (.alt 0 (.word "pp"))])])

/-- An option given as the text `100%` is not typed as given: its `%` ends
the text and starts no conversion, so formatting it with the data of its
recognition fails, and the text is recorded as failed. -/
theorem percent_option_fails :
    percentOption.ReadsPlainly (.word "zz") ∧ Conforms percentOption.rule.ref percentOptionSaid ∧
      ((percentOption.action "oracle_git_builder" percentOptionSaid).run {}).records =
        [.sent .text (some "git zz"), .sent .text (some " "), .failed .text (some "100%")] := by
  have hname : percentOption.name = "zz" := rfl
  have hbase : percentOption.baseOptions = [] := rfl
  have hopts : percentOption.options[0]? = some ("pp", .text " " ++ .text "100%") := rfl
  refine ⟨Element.eq_of_beq _ _ (by decide +kernel),
    Element.conforms_of_accepts _ _ (by decide +kernel), ?_⟩
  have hdata : Data.ofRule "oracle_git_builder" ("MappingRule(" ++ "zz" ++ "_options)")
      (nodeText "Alternative(...)" (Tree.word "pp").words) ≠ [] := by simp [Data.ofRule]
  have hpp := fun tr => option_bound_exec "100%" true hdata [] (t := tr)
  -- a `%` that ends the text starts no conversion, whatever the data
  have hfail : interpolate "100%" (Data.ofRule "oracle_git_builder"
      ("MappingRule(" ++ "zz" ++ "_options)") (nodeText "Alternative(...)" (Tree.word "pp").words)) =
      none := rfl
  simp only [↓reduceIte, if_pos (show '%' ∈ "100%".toList by decide), hfail] at hpp
  rw [show percentOptionSaid = .rule percentOption.name _ from rfl,
    Builder.run_action "oracle_git_builder" (by simp [hbase])]
  simp only [Action.execEach, List.map_cons, List.map_nil,
    Builder.bound_alt "oracle_git_builder" "zz_options" hopts, hname, hbase, Option.isSome_none,
    Bool.false_eq_true, if_false, List.nil_append]
  rw [Action.text_exec_verbatim (by decide) [] rfl, hpp _ rfl]
  simp [Trace.push]

end VoiceCommands.Git
