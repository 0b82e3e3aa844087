import PageGrader.Proofs.Evidence
import PageGrader.Proofs.Provisional

namespace PageGrader

structure Outcome.Proper (o : Outcome) : Prop where
  message : o.message ≠ ""
  /-- A failure comes with a suggestion, and nothing else does. -/
  suggestion : o.suggestion.isSome = !o.passed
  genuine : o ≠ Execution.brokenDown

namespace Outcome

variable {message suggestion : String} {evidence : List Handle}

theorem proper_pass (h : message ≠ "") : (pass message evidence).Proper := ⟨h, rfl, nofun⟩

theorem proper_fail (h : message ≠ "") (hown : some suggestion ≠ Execution.brokenDown.suggestion) :
    (fail message suggestion evidence).Proper :=
  ⟨h, rfl, fun heq => hown (congrArg Outcome.suggestion heq)⟩

end Outcome

def Properly (result : Except Breakdown Outcome) : Prop := ∀ o, result = .ok o → o.Proper

namespace Properly

variable {α : Type} {message suggestion : String} {evidence : List Handle}

theorem of_proper {o : Outcome} (h : o.Proper) : Properly (.ok o) := by
  rintro _ ⟨⟩
  exact h

theorem pass (h : message ≠ "") : Properly (.ok (.pass message evidence)) :=
  of_proper (Outcome.proper_pass h)

theorem fail (h : message ≠ "") (hown : some suggestion ≠ Execution.brokenDown.suggestion) :
    Properly (.ok (.fail message suggestion evidence)) :=
  of_proper (Outcome.proper_fail h hown)

theorem bind {first : Except Breakdown α} {rest : α → Except Breakdown Outcome}
    (h : ∀ a, Properly (rest a)) : Properly (first >>= rest) := by
  intro o ho
  cases first with
  | error e => cases ho
  | ok a => exact h a o ho

theorem ite {c : Prop} [Decidable c] {result other : Except Breakdown Outcome} (h : Properly result)
    (h' : Properly other) : Properly (if c then result else other) := by
  split
  · exact h
  · exact h'

end Properly

theorem append_ne_of_not_prefix {s t text : String} (h : ¬ s.toList <+: text.toList) :
    s ++ t ≠ text := by
  rintro rfl
  apply h
  rw [String.toList_append]
  exact List.prefix_append _ _

namespace Rule

variable (d : Document) (page : List Char)

theorem properly_listItems : Properly (listItems.check d page) := by
  refine .bind fun items => ?_
  exact .ite (.pass (by simp [toString])) (.fail (by simp [toString]) (by decide))

theorem properly_targets : Properly (targets.check d page) := by
  refine .bind fun found => ?_
  exact .ite (.pass (by simp [toString])) (.fail (by simp [toString]) (by decide))

theorem properly_sources : Properly (sources.check d page) := by
  refine .bind fun found => .bind fun images => ?_
  exact .ite (.pass (by decide)) (.fail (by simp) (by decide))

theorem properly_buttons : Properly (buttons.check d page) := by
  refine .bind fun found => ?_
  exact .ite (.pass (by simp [toString])) (.fail (by simp [toString]) (by decide))

theorem properly_tables : Properly (tables.check d page) := by
  refine .bind fun found => ?_
  exact .ite (.pass (by decide)) (.fail (by simp [toString]) (by decide))

theorem properly_presentational : Properly (presentational.check d page) := by
  refine .bind fun found => ?_
  exact .ite (.pass (by decide)) (.fail (by simp [toString]) (by decide))

theorem properly_fileNames : Properly (fileNames.check d page) := by
  refine .bind fun found => ?_
  exact .ite (.pass (by decide)) (.fail (by simp [toString]) (by decide))

theorem properly_pageNames : Properly (pageNames.check d page) := by
  refine .bind fun found => ?_
  exact .ite (.pass (by decide)) (.fail (by simp [toString]) (by decide))

theorem properly_controls : Properly (controls.check d page) := by
  refine .bind fun audios => .bind fun videos => ?_
  refine .ite (.pass (by decide)) ?_
  exact .ite (.pass (by simp [toString])) (.fail (by simp [toString]) (by decide))

theorem properly_alternatives : Properly (alternatives.check d page) := by
  refine .bind fun images => ?_
  exact .ite (.pass (by simp [toString])) (.fail (by simp) (by decide))

theorem properly_imageSizes : Properly (imageSizes.check d page) := .pass (by decide)

theorem properly_singleTop : Properly (singleTop.check d page) := by
  refine .bind fun found => ?_
  split
  · exact .fail (by decide) (by decide)
  · exact .pass (by decide)
  · exact .fail (by simp [toString]) (by decide)

theorem properly_proportion : Properly (proportion.check d page) := by
  refine .bind fun divs => .bind fun spans => .bind fun found => ?_
  exact .ite (.pass (by simp [toString])) (.fail (by simp [toString]) (by decide))

theorem properly_landmarks : Properly (landmarks.check d page) := by
  refine .bind fun first => ?_
  refine .ite (.pass (by decide)) (.fail (by simp [toString]) ?_)
  -- The suggestion lists what is missing, so it is told apart by its beginning.
  rw [String.append_assoc]
  exact fun h => append_ne_of_not_prefix (by decide) (Option.some.inj h)

theorem properly_title : Properly (title.check d page) := by
  refine .bind fun first => ?_
  split
  · exact .fail (by decide) (by decide)
  · exact .ite (.fail (by decide) (by decide)) (.pass (by simp [toString]))

theorem properly_encoding : Properly (encoding.check d page) := by
  refine .bind fun short => .bind fun long => ?_
  dsimp only
  split
  · exact .pass (by decide)
  · exact .fail (by decide) (by decide)

theorem properly_viewport : Properly (viewport.check d page) := by
  refine .bind fun described => ?_
  dsimp only
  split
  · exact .fail (by decide) (by decide)
  · exact .ite (.pass (by decide)) (.fail (by decide) (by decide))

theorem properly_navigation : Properly (navigation.check d page) := by
  refine .bind fun navs => ?_
  refine .ite (.pass (by decide)) (.bind fun judged => ?_)
  exact .ite (.pass (by simp [toString])) (.fail (by simp [toString]) (by decide))

theorem properly_hierarchy : Properly (hierarchy.check d page) := by
  refine .bind fun flags => ?_
  exact .ite (.pass (by decide)) (.fail (by simp [toString]) (by decide))

theorem properly_skeleton : Properly (skeleton.check d page) := by
  refine .bind fun parts => ?_
  exact .ite (.pass (by decide)) (.fail (by simp [toString]) (by decide))

theorem properly_closure : Properly (closure.check d page) :=
  .ite (.pass (by decide)) (.fail (by simp [toString]) (by decide))

theorem properly_standard : ∀ rule ∈ Registry.standard.rules, Properly (rule.check d page) := by
  simp only [Registry.standard, List.forall_mem_cons, List.not_mem_nil, false_implies, implies_true]
  exact ⟨properly_singleTop d page, properly_listItems d page, properly_targets d page,
    properly_sources d page, properly_buttons d page, properly_tables d page,
    properly_presentational d page, properly_proportion d page, properly_landmarks d page,
    properly_fileNames d page, properly_imageSizes d page, properly_title d page,
    properly_encoding d page, properly_controls d page, properly_pageNames d page,
    properly_navigation d page, properly_skeleton d page, properly_closure d page,
    properly_viewport d page, properly_hierarchy d page, properly_alternatives d page, trivial⟩

theorem proper_outcome {rule : Rule} (hrule : rule ∈ Registry.standard.rules) :
    ∃ o, rule.check d page = .ok o ∧ o.Proper := by
  have hlisted := hrule
  rw [← citations_rules d page] at hlisted
  obtain ⟨c, hc, rfl⟩ := List.mem_map.mp hlisted
  obtain ⟨o, ho, -⟩ := cites_of_mem d page c hc
  exact ⟨o, ho, properly_standard d page _ hrule o ho⟩

end Rule

namespace Image

theorem message_ne_empty (measured oversized unverifiable limit : Nat) :
    message measured oversized unverifiable limit ≠ "" := by
  unfold message
  dsimp only
  split_ifs <;> simp [toString]

theorem proper_summary (limit : Nat) (known : List (Handle × Status)) :
    (summary limit known).Proper := by
  unfold summary
  dsimp only
  split
  · exact Outcome.proper_pass (message_ne_empty _ _ _ _)
  · refine Outcome.proper_fail (message_ne_empty _ _ _ _) fun h => ?_
    rw [String.append_assoc, String.append_assoc] at h
    exact append_ne_of_not_prefix (by decide) (Option.some.inj h)

theorem proper_check (resolve : String → Option String) (limit : Nat) (probe : Probe)
    (sources : List Source) : (check resolve probe limit sources).Proper := by
  by_cases hplans : plans resolve sources = []
  · rw [check_of_no_plans hplans]
    exact Outcome.proper_pass (by decide)
  · rw [check_of_plans hplans]
    exact proper_summary ..

end Image

theorem RedFlag.proper_finding (flag : RedFlag) : flag.finding.outcome.Proper :=
  Outcome.proper_fail (by simp) (by decide)

/-- Findings for a page in two parts: those for the red flags it raises, and those of the standard
rules. -/
structure Layout (page : List Char) (findings : List Finding) (flags : List RedFlag)
    (judged : List Finding) : Prop where
  parts : findings = flags.map RedFlag.finding ++ judged
  order : flags.Sublist RedFlag.all
  once : flags.Nodup
  raised : ∀ flag, flag ∈ flags ↔ flag.isRaised page = true
  /-- A red flag points at no element. -/
  blind : ∀ f ∈ flags.map RedFlag.finding, f.outcome.evidence = []
  count : judged.length = 21
  rules : judged.map (·.criterion) = Registry.standard.rules.map (·.criterion)

structure Run.Shaped (page : List Char) (r : Run) : Prop where
  layout : ∃ flags judged, Layout page r.findings flags judged
  distinct : (r.findings.map (·.id)).Nodup
  proper : ∀ f ∈ r.findings, f.outcome.Proper
  counted : r.score.passed + r.score.failed = r.findings.length

theorem layout_of_criteria {page : List Char} {judged : List Finding}
    (hrules : judged.map (·.criterion) = Registry.standard.rules.map (·.criterion)) :
    Layout page (RedFlag.findings page ++ judged) (RedFlag.all.filter (RedFlag.isRaised page))
      judged where
  parts := rfl
  order := List.filter_sublist
  once := List.Nodup.filter _ (by decide)
  raised flag := by
    have hall : flag ∈ RedFlag.all := by cases flag <;> decide
    rw [List.mem_filter]
    exact and_iff_right hall
  blind := by
    intro f hf
    obtain ⟨flag, -, rfl⟩ := List.mem_map.mp hf
    rfl
  count := by
    have hlength := congrArg List.length hrules
    rwa [List.length_map, List.length_map] at hlength
  rules := hrules

theorem Layout.distinct {page : List Char} {findings judged : List Finding} {flags : List RedFlag}
    (h : Layout page findings flags judged) : (findings.map (·.id)).Nodup := by
  have hall : (RedFlag.all.map (·.id) ++ Registry.standard.rules.map (·.id)).Nodup := by decide
  have hjudged : judged.map (·.id) = Registry.standard.rules.map (·.id) := by
    have hids := congrArg (List.map Criterion.id) h.rules
    rwa [List.map_map, List.map_map] at hids
  have hflags : (flags.map RedFlag.finding).map (·.id) = flags.map (·.id) := by
    rw [List.map_map]
    rfl
  rw [h.parts, List.map_append, hjudged, hflags]
  exact hall.sublist ((h.order.map _).append_right _)

namespace Prepared

variable {page : List Char} {d : Document} {p : Prepared}

theorem shaped_ofFindings {judged : List Finding}
    (hrules : judged.map (·.criterion) = Registry.standard.rules.map (·.criterion))
    (hproper : ∀ f ∈ judged, f.outcome.Proper) :
    (Run.ofFindings (RedFlag.findings page ++ judged)).Shaped page where
  layout := ⟨_, _, layout_of_criteria hrules⟩
  distinct := (layout_of_criteria hrules).distinct
  proper := by
    intro f hf
    rcases List.mem_append.mp hf with hflag | hjudged
    · obtain ⟨flag, -, rfl⟩ := List.mem_map.mp hflag
      exact flag.proper_finding
    · exact hproper f hjudged
  counted := Score.count_ofFindings _

theorem proper_of_mem_run {f : Finding}
    (hf : f ∈ (Execution.run Registry.standard.rules d page).findings) : f.outcome.Proper := by
  rw [Execution.run_findings] at hf
  obtain ⟨rule, hrule, rfl⟩ := List.mem_map.mp hf
  obtain ⟨o, ho, hproper⟩ := Rule.proper_outcome d page hrule
  rw [Execution.outcomeOf, ho]
  exact hproper

theorem shaped_provisional (hread : Document.read page = .ok d) (hp : ofPage .standard page = .ok p) :
    p.provisional.Shaped page := by
  rw [ofPage_eq .standard hread] at hp
  obtain rfl := Except.ok.inj hp
  exact shaped_ofFindings (Execution.criteria_run d page _) fun f => proper_of_mem_run

/-- Only the outcome on image sizes is another one once the images are measured. -/
theorem shaped_finishing (hread : Document.read page = .ok d) (hp : ofPage .standard page = .ok p)
    (resolve : Image.Resolver) (answers : Nat → Image.Probe) (s : Settings) :
    (p.finishing resolve answers s).Shaped page := by
  obtain ⟨earlier, later, sources, hlength, -, hbefore, hafter⟩ := finishing_standard hread hp
  have hfindings : p.findings =
      RedFlag.findings page ++ (Execution.run Registry.standard.rules d page).findings := by
    rw [ofPage_eq .standard hread] at hp
    obtain rfl := Except.ok.inj hp
    rfl
  -- The finding that changes follows the red flags, so they begin what comes before it.
  obtain ⟨mid, rfl⟩ : RedFlag.findings page <+: earlier :=
    List.prefix_of_prefix_length_le ⟨_, hfindings.symm⟩ ⟨_, hbefore.symm⟩ (by omega)
  rw [hfindings, List.append_assoc] at hbefore
  have hrun := List.append_cancel_left hbefore
  have hcriteria := Execution.criteria_run d page Registry.standard.rules
  rw [hrun] at hcriteria
  have hrest : p.finishing resolve answers s =
      Run.ofFindings (p.finishing resolve answers s).findings := rfl
  rw [hrest, hafter resolve answers s, List.append_assoc]
  apply shaped_ofFindings
  · rw [← hcriteria, List.map_append, List.map_append, List.map_cons, List.map_cons]
  · intro f hf
    have hproper (f : Finding) (hf : f ∈ mid ∨ f ∈ later) : f.outcome.Proper := by
      have hmem : f ∈ (Execution.run Registry.standard.rules d page).findings := by
        rw [hrun, List.mem_append, List.mem_cons]
        exact hf.imp_right .inr
      exact proper_of_mem_run hmem
    rcases List.mem_append.mp hf with hmid | hcons
    · exact hproper f (.inl hmid)
    · rcases List.mem_cons.mp hcons with rfl | hlater
      · exact Image.proper_check ..
      · exact hproper f (.inr hlater)

theorem shaped_ofPage (hread : Document.read page = .ok d) (resolve : Image.Resolver)
    (probe : Image.Probe) (s : Settings) :
    ∃ r, Run.ofPage resolve probe s page = .ok r ∧ r.Shaped page := by
  have hp := ofPage_eq .standard hread
  refine ⟨_, by rw [Run.ofPage, hp]; rfl, ?_⟩
  dsimp only
  split
  · exact shaped_finishing hread hp resolve (fun _ => probe) s
  · exact shaped_provisional hread hp

/-- No check of a standard rule breaks down, on any document. For every page that is read the findings
have the same shape before the images are measured and after, however sources are completed and whatever
servers answer. -/
theorem every_run_is_shaped (hread : Document.read page = .ok d) :
    (∀ rule ∈ Registry.standard.rules, ∀ d page, ∃ o, rule.check d page = .ok o) ∧
    ∃ p, ofPage .standard page = .ok p ∧ p.provisional.Shaped page ∧
      (∀ resolve answers s, (p.finishing resolve answers s).Shaped page) ∧
      (∀ resolve probe s, ∃ r, Run.ofPage resolve probe s page = .ok r ∧ r.Shaped page) ∧
      ∃ r, Run.offline page = .ok r ∧ r.Shaped page := by
  have hp := ofPage_eq .standard hread
  refine ⟨?_, _, hp, shaped_provisional hread hp, shaped_finishing hread hp, shaped_ofPage hread, ?_⟩
  · intro rule hrule d page
    obtain ⟨o, ho, -⟩ := Rule.proper_outcome d page hrule
    exact ⟨o, ho⟩
  · exact ⟨_, by rw [Run.offline, hp]; rfl, shaped_provisional hread hp⟩

/-- A page that raises one red flag. -/
theorem run_is_shaped_after_red_flag :
    let page := "<h1><h2>".toList
    Document.read page = .ok (Document.ofPage page) ∧ ∃ p, ofPage .standard page = .ok p ∧
      p.provisional.Shaped page ∧ ∀ resolve answers s, (p.finishing resolve answers s).Shaped page := by
  intro page
  have hread : Document.read page = .ok (Document.ofPage page) := rfl
  obtain ⟨-, p, hp, hprovisional, hfinishing, -⟩ := every_run_is_shaped hread
  exact ⟨hread, p, hp, hprovisional, hfinishing⟩

end Prepared

end PageGrader
