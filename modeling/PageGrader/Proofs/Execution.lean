import Mathlib.Data.List.Basic
import PageGrader.Execution

namespace PageGrader

def Pending.after (n : Nat) (p : Pending) : Pending := { p with slot := p.slot + n }

namespace Execution

def append (e e' : Execution) : Execution where
  findings := e.findings ++ e'.findings
  pending := e.pending ++ e'.pending.map (Pending.after e.findings.length)

theorem append_assoc (e e' e'' : Execution) :
    (e.append e').append e'' = e.append (e'.append e'') := by
  have hshift : Pending.after e.findings.length ∘ Pending.after e'.findings.length =
      Pending.after (e.findings ++ e'.findings).length := by
    funext p
    simp only [Function.comp_apply, Pending.after, List.length_append, Pending.mk.injEq, and_true]
    omega
  simp only [append, List.map_append, List.map_map, List.append_assoc, hshift]

variable (d : Document) (page : List Char)

def single (rule : Rule) : Execution := step d page {} rule

theorem step_eq_append (e : Execution) (rule : Rule) :
    step d page e rule = e.append (single d page rule) := by
  have hpending (sources : Option (List Image.Source)) :
      (sources.map fun sources => Pending.mk e.findings.length sources).toList =
        ((sources.map fun sources => Pending.mk 0 sources).toList).map
          (Pending.after e.findings.length) := by
    cases sources with
    | none => rfl
    | some sources => simp [Pending.after]
  simp [step, single, append, hpending]

/-- A run goes on from an earlier execution as it would start from nothing. -/
theorem foldl_step (rules : List Rule) (e : Execution) :
    rules.foldl (step d page) e = e.append (run rules d page) := by
  induction rules generalizing e with
  | nil => simp [run, append]
  | cons rule rest ih =>
    have hrest := ih (step d page {} rule)
    rw [List.foldl_cons, ih, step_eq_append, append_assoc]
    change e.append ((step d page {} rule).append (run rest d page)) =
      e.append (rest.foldl (step d page) (step d page {} rule))
    rw [hrest]

theorem run_cons (rule : Rule) (rules : List Rule) :
    run (rule :: rules) d page = (single d page rule).append (run rules d page) :=
  foldl_step d page rules (step d page {} rule)

theorem run_append (rules others : List Rule) :
    run (rules ++ others) d page = (run rules d page).append (run others d page) := by
  rw [run, List.foldl_append]
  exact foldl_step d page others (run rules d page)

theorem run_findings (rules : List Rule) :
    (run rules d page).findings = rules.map fun r => ⟨r.criterion, outcomeOf r d page⟩ := by
  induction rules with
  | nil => rfl
  | cons rule rest ih =>
    rw [run_cons, List.map_cons, ← ih]
    rfl

theorem run_findings_length (rules : List Rule) :
    (run rules d page).findings.length = rules.length := by
  rw [run_findings, List.length_map]

theorem criteria_run (rules : List Rule) :
    (run rules d page).findings.map (·.criterion) = rules.map (·.criterion) := by
  rw [run_findings, List.map_map]
  rfl

theorem mem_single_pending {rule : Rule} {p : Pending} :
    p ∈ (single d page rule).pending ↔
      p.slot = 0 ∧ owed rule d (outcomeOf rule d page) = some p.sources := by
  obtain ⟨slot, sources⟩ := p
  change Pending.mk slot sources ∈ ((owed rule d (outcomeOf rule d page)).map _).toList ↔ _
  cases owed rule d (outcomeOf rule d page) with
  | none => simp
  | some owed => simp [eq_comm]

theorem mem_run_pending {rules : List Rule} {p : Pending} :
    p ∈ (run rules d page).pending ↔ ∃ rule, rules[p.slot]? = some rule ∧
      owed rule d (outcomeOf rule d page) = some p.sources := by
  -- A debt of the first rule has slot zero; every other one comes from the rest, one slot later.
  induction rules generalizing p with
  | nil => simp [run]
  | cons rule rest ih =>
    obtain ⟨slot, sources⟩ := p
    have hlength : (single d page rule).findings.length = 1 := rfl
    simp only [run_cons, append, List.mem_append, List.mem_map, mem_single_pending, hlength]
    cases slot with
    | zero =>
      constructor
      · rintro (h | ⟨q, -, hq⟩)
        · exact ⟨rule, rfl, h.2⟩
        · have := congrArg Pending.slot hq
          simp [Pending.after] at this
      · rintro ⟨r, hr, h⟩
        obtain rfl : rule = r := by simpa using hr
        exact .inl ⟨rfl, h⟩
    | succ slot =>
      constructor
      · rintro (h | ⟨q, hq, hqp⟩)
        · simp at h
        · obtain rfl : q = ⟨slot, sources⟩ := by
            obtain ⟨qslot, qsources⟩ := q
            simpa [Pending.after] using hqp
          simpa using ih.mp hq
      · intro h
        exact .inr ⟨⟨slot, sources⟩, ih.mpr (by simpa using h), rfl⟩

theorem run_pending_slot_lt {rules : List Rule} {p : Pending}
    (hp : p ∈ (run rules d page).pending) : p.slot < rules.length := by
  obtain ⟨rule, hrule, -⟩ := (mem_run_pending d page).mp hp
  exact (List.getElem?_eq_some_iff.mp hrule).1

theorem run_pending_increasing (rules : List Rule) :
    ((run rules d page).pending.map (·.slot)).Pairwise (· < ·) := by
  induction rules with
  | nil => simp [run]
  | cons rule rest ih =>
    have hlength : (single d page rule).findings.length = 1 := rfl
    simp only [run_cons, append, hlength, List.map_append, List.map_map, List.pairwise_append]
    refine ⟨?_, ?_, ?_⟩
    · change (((owed rule d (outcomeOf rule d page)).map _).toList.map _).Pairwise _
      cases owed rule d (outcomeOf rule d page) <;> simp
    · rw [List.pairwise_map] at ih ⊢
      exact ih.imp fun h => Nat.add_lt_add_right h 1
    · intro slot hslot later hlater
      obtain ⟨p, hp, rfl⟩ := List.mem_map.mp hslot
      obtain ⟨q, -, rfl⟩ := List.mem_map.mp hlater
      rw [((mem_single_pending d page).mp hp).1]
      exact Nat.succ_pos _

theorem passed_of_owed {rule : Rule} {sources : List Image.Source}
    (h : owed rule d (outcomeOf rule d page) = some sources) :
    ∃ o, rule.check d page = .ok o ∧ o.passed = true := by
  unfold owed at h
  split at h
  next hpassed =>
    unfold outcomeOf at hpassed
    split at hpassed
    next o ho => exact ⟨o, ho, hpassed⟩
    next => simp [brokenDown, Outcome.fail] at hpassed
  next => cases h

theorem pending_around (before after : List Rule) (rule : Rule) :
    (run (before ++ rule :: after) d page).pending.filter (·.slot ≠ before.length) =
      (run before d page).pending ++
        (run after d page).pending.map (Pending.after (before.length + 1)) := by
  rw [run_append, run_cons]
  simp only [append, List.filter_append, List.map_append, List.map_map, run_findings_length]
  have hearlier : (run before d page).pending.filter (·.slot ≠ before.length) =
      (run before d page).pending := by
    apply List.filter_eq_self.mpr
    intro p hp
    have := run_pending_slot_lt d page hp
    exact decide_eq_true (Nat.ne_of_lt this)
  have hown : ((single d page rule).pending.map (Pending.after before.length)).filter
      (·.slot ≠ before.length) = [] := by
    apply List.filter_eq_nil_iff.mpr
    intro p hp
    obtain ⟨q, hq, rfl⟩ := List.mem_map.mp hp
    simp [Pending.after, ((mem_single_pending d page).mp hq).1]
  have hshift : Pending.after before.length ∘ Pending.after (single d page rule).findings.length =
      Pending.after (before.length + 1) := by
    have hone : (single d page rule).findings.length = 1 := rfl
    funext p
    simp only [Function.comp_apply, Pending.after, hone, Pending.mk.injEq, and_true]
    omega
  have hlater : ((run after d page).pending.map (Pending.after (before.length + 1))).filter
      (·.slot ≠ before.length) =
      (run after d page).pending.map (Pending.after (before.length + 1)) := by
    apply List.filter_eq_self.mpr
    intro p hp
    obtain ⟨q, -, rfl⟩ := List.mem_map.mp hp
    apply decide_eq_true
    change q.slot + (before.length + 1) ≠ before.length
    omega
  rw [hearlier, hown, hshift, hlater, List.nil_append]

theorem pending_set (rules : List Rule) (i : Nat) (other : Rule) :
    (run (rules.set i other) d page).pending.filter (·.slot ≠ i) =
      (run rules d page).pending.filter (·.slot ≠ i) := by
  by_cases hi : i < rules.length
  · have hlength : (rules.take i).length = i := List.length_take_of_le (Nat.le_of_lt hi)
    have hrules : rules = rules.take i ++ rules[i] :: rules.drop (i + 1) := by simp
    have hset : rules.set i other = rules.take i ++ other :: rules.drop (i + 1) := by
      rw [List.set_eq_take_append_cons_drop, if_pos hi]
    have hother := pending_around d page (rules.take i) (rules.drop (i + 1)) other
    have hrule := pending_around d page (rules.take i) (rules.drop (i + 1)) rules[i]
    rw [← hset, hlength] at hother
    rw [← hrules, hlength] at hrule
    rw [hother, hrule]
  · rw [List.set_eq_of_length_le (Nat.le_of_not_lt hi)]

/-- Rules do not get in each other's way. A check that breaks down, however it does, makes the one
failed finding for its own rule; the rules before and after it are judged as if it were not there. -/
theorem rules_are_isolated (rules : List Rule) :
    ((run rules d page).findings = rules.map fun rule =>
      { criterion := rule.criterion
        outcome := match rule.check d page with
          | .ok outcome => outcome
          | .error _ =>
            { passed := false
              evidence := []
              message := "Internal error during validation."
              suggestion := some "Contact the instructor if this error persists." } }) ∧
    (∀ others,
      (run (rules ++ others) d page).findings =
          (run rules d page).findings ++ (run others d page).findings ∧
        (run (rules ++ others) d page).pending =
          (run rules d page).pending ++
            (run others d page).pending.map fun p => { p with slot := p.slot + rules.length }) ∧
    (∀ i other,
      (∀ j, j ≠ i →
        (run (rules.set i other) d page).findings[j]? = (run rules d page).findings[j]?) ∧
      (run (rules.set i other) d page).pending.filter (·.slot ≠ i) =
        (run rules d page).pending.filter (·.slot ≠ i)) ∧
    (∀ p ∈ (run rules d page).pending, ∃ rule outcome,
      rules[p.slot]? = some rule ∧ rule.check d page = .ok outcome ∧ outcome.passed = true) := by
  refine ⟨run_findings d page rules, ?_, ?_, ?_⟩
  · intro others
    rw [run_append]
    refine ⟨rfl, ?_⟩
    simp only [append, run_findings_length]
    rfl
  · intro i other
    refine ⟨?_, pending_set d page rules i other⟩
    intro j hj
    simp only [run_findings, List.map_set]
    exact List.getElem?_set_ne (Ne.symm hj)
  · intro p hp
    obtain ⟨rule, hrule, howed⟩ := (mem_run_pending d page).mp hp
    obtain ⟨outcome, hcheck, hpassed⟩ := passed_of_owed d page howed
    exact ⟨rule, outcome, hrule, hcheck, hpassed⟩

end Execution

end PageGrader
