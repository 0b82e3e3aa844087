import PageGrader.Proofs.Run
import PageGrader.Registry.Session

namespace PageGrader.Registry

variable {r : Registry} {rule : Rule} {id : String}

theorem get?_eq_none_iff : r.get? id = none ↔ ∀ rule ∈ r.rules, rule.id ≠ id := by
  simp only [get?, List.find?_eq_none, beq_iff_eq]

theorem find?_toList {rules : List Rule} (h : (rules.map Rule.id).Nodup) (id : String) :
    (rules.find? (·.id == id)).toList = rules.filter (·.id == id) := by
  induction rules with
  | nil => rfl
  | cons first rest ih =>
    obtain ⟨hfirst, hrest⟩ := List.nodup_cons.mp h
    cases hid : first.id == id with
    | true =>
      have hnone : rest.filter (·.id == id) = [] := by
        rw [List.filter_eq_nil_iff]
        intro other hmem hother
        have hsame : other.id = first.id := (eq_of_beq hother).trans (eq_of_beq hid).symm
        exact hfirst (hsame ▸ List.mem_map_of_mem hmem)
      rw [List.find?_cons, List.filter_cons, hid, hnone]
      rfl
    | false =>
      rw [List.find?_cons, List.filter_cons, hid]
      exact ih hrest

/-- The check comes first, so an aborted step has changed nothing. -/
theorem step_register (r : Registry) (rule : Rule) :
    r.step (.register rule) =
      if (r.get? rule.id).isSome then (.error ⟨rule.id⟩, r) else (.ok (), ⟨r.rules ++ [rule]⟩) := by
  change (if (r.get? rule.id).isSome then throw ⟨rule.id⟩
    else modify fun r => ⟨r.rules ++ [rule]⟩ : Action Unit).run.run r = _
  split
  · rfl
  · rfl

theorem step_register_of_fresh (h : ∀ other ∈ r.rules, other.id ≠ rule.id) :
    r.step (.register rule) = (.ok (), ⟨r.rules ++ [rule]⟩) := by
  rw [step_register, get?_eq_none_iff.mpr h]
  rfl

theorem step_register_of_taken (h : ∃ other ∈ r.rules, other.id = rule.id) :
    r.step (.register rule) = (.error ⟨rule.id⟩, r) := by
  have hsome : (r.get? rule.id).isSome = true := by
    rw [Option.isSome_iff_ne_none, Ne, get?_eq_none_iff]
    push Not
    exact h
  rw [step_register, hsome]
  rfl

/-- The registry that a step leaves is the one that registering gives, if it gives one. -/
theorem step_register_eq (r : Registry) (rule : Rule) :
    r.step (.register rule) = match r.register rule with
      | .ok after => (.ok (), after)
      | .error e => (.error e, r) := by
  rw [step_register, register]
  split
  · rfl
  · rfl

/-- Rules with new ids that all differ are added one by one without an abort. -/
theorem run_forM_enrol (r : Registry) (rules : List Rule)
    (h : ((r.rules ++ rules).map Rule.id).Nodup) :
    (rules.forM enrol).run.run r = (.ok (), ⟨r.rules ++ rules⟩) := by
  induction rules generalizing r with
  | nil =>
    rw [List.append_nil]
    rfl
  | cons rule rest ih =>
    have hfresh : ∀ other ∈ r.rules, other.id ≠ rule.id := by
      intro other hmem hsame
      rw [List.map_append, List.map_cons] at h
      exact (List.nodup_append.mp h).2.2 _ (List.mem_map_of_mem hmem) _ List.mem_cons_self hsame
    have hassoc : r.rules ++ rule :: rest = r.rules ++ [rule] ++ rest := by simp
    rw [hassoc] at h ⊢
    have hrest := ih ⟨r.rules ++ [rule]⟩ h
    rw [← hrest]
    have hfirst := step_register_of_fresh hfresh
    change (enrol rule).run.run r = _ at hfirst
    change (enrol rule >>= fun _ => rest.forM enrol).run.run r = _
    rw [ExceptT.run_bind, StateT.run_bind, hfirst]
    rfl

def Distinct (r : Registry) : Prop := (r.rules.map Rule.id).Nodup

theorem distinct_empty : empty.Distinct := List.nodup_nil

theorem distinct_standard : standard.Distinct := by
  unfold Distinct
  decide

theorem run_setUp (r : Registry) : setUp.run.run r = (.ok (), standard) := by
  have hrules := run_forM_enrol empty standard.rules distinct_standard
  rw [setUp, ExceptT.run_bind, StateT.run_bind]
  exact hrules

theorem Distinct.step (h : r.Distinct) (s : Step) : (r.step s).2.Distinct := by
  cases s with
  | new => exact distinct_empty
  | standard | default =>
    change (setUp.run.run r).2.Distinct
    rw [run_setUp]
    exact distinct_standard
  | register rule =>
    by_cases htaken : ∃ other ∈ r.rules, other.id = rule.id
    · rw [step_register_of_taken htaken]
      exact h
    · push Not at htaken
      rw [step_register_of_fresh htaken]
      change ((r.rules ++ [rule]).map Rule.id).Nodup
      rw [List.map_append, List.nodup_append]
      refine ⟨h, by simp, ?_⟩
      intro id hid other hother
      obtain ⟨earlier, hmem, rfl⟩ := List.mem_map.mp hid
      rw [List.mem_singleton.mp hother]
      exact htaken earlier hmem

theorem Distinct.foldl (h : r.Distinct) (steps : List Step) :
    (steps.foldl (fun r s => (r.step s).2) r).Distinct := by
  induction steps generalizing r with
  | nil => exact h
  | cons s rest ih => exact ih (h.step s)

theorem distinct_after (steps : List Step) : (after steps).Distinct :=
  distinct_empty.foldl steps

/-- What looking up, listing, adding and running have in common. -/
structure Consistent (r : Registry) : Prop where
  distinct : (r.rules.map Rule.id).Nodup
  registers : ∀ rule, r.step (.register rule) = match r.register rule with
    | .ok after => (.ok (), after)
    | .error e => (.error e, r)
  adds : ∀ rule, (∀ other ∈ r.rules, other.id ≠ rule.id) →
    r.step (.register rule) = (.ok (), ⟨r.rules ++ [rule]⟩)
  aborts : ∀ rule, (∃ other ∈ r.rules, other.id = rule.id) →
    r.step (.register rule) = (.error ⟨rule.id⟩, r)
  finds : ∀ id rule, r.get? id = some rule ↔ r.rules.filter (·.id == id) = [rule]
  lacks : ∀ id, r.get? id = none ↔ ∀ rule ∈ r.rules, rule.id ≠ id
  size : r.size = r.rules.length
  isEmpty : r.isEmpty = true ↔ r.rules = []
  judges : ∀ page d, Document.read page = .ok d → ∃ p judged, Prepared.ofPage r page = .ok p ∧
    p.findings = RedFlag.findings page ++ judged ∧ judged.map (·.id) = r.rules.map Rule.id

theorem ids_run (rules : List Rule) (d : Document) (page : List Char) :
    (Execution.run rules d page).findings.map (·.id) = rules.map Rule.id := by
  rw [Execution.run_findings, List.map_map]
  rfl

/-- Whatever is done to a registry, step after step, aborted steps included, its ids are all different.
A rule with a new id goes to the end and one whose id is taken changes nothing; an id finds the one rule
that has it; and on every page that is read each rule gives one finding, in order. -/
theorem every_session_is_consistent (steps : List Step) : (after steps).Consistent where
  distinct := distinct_after steps
  registers := step_register_eq _
  adds _ := step_register_of_fresh
  aborts _ := step_register_of_taken
  finds id rule := by
    rw [← find?_toList (distinct_after steps), Option.toList_eq_singleton_iff]
    rfl
  lacks _ := get?_eq_none_iff
  size := rfl
  isEmpty := List.isEmpty_iff
  judges page _ hread :=
    ⟨_, _, Prepared.ofPage_eq (after steps) hread, rfl, ids_run (after steps).rules _ page⟩

end PageGrader.Registry
