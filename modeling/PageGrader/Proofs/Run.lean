import PageGrader.Proofs.Execution
import PageGrader.Proofs.Query
import PageGrader.Run

namespace PageGrader

namespace Execution

theorem owed_eq_some {rule : Rule} {d : Document} {o : Outcome} {sources : List Image.Source} :
    owed rule d o = some sources ↔
      o.passed = true ∧ rule.refinement.isSome = true ∧ Image.sources d = .ok sources := by
  have hsources := Image.sources_eq d
  unfold owed
  rw [hsources]
  cases o.passed <;> cases rule.refinement <;> simp [Except.toOption]

/-- The slots that wait are those of the refined rules that passed. -/
theorem mem_run_slots {rules : List Rule} {d : Document} {page : List Char} {i : Nat} :
    i ∈ (run rules d page).pending.map (·.slot) ↔ ∃ rule outcome,
      rules[i]? = some rule ∧ rule.refinement.isSome = true ∧ rule.check d page = .ok outcome ∧
        outcome.passed = true := by
  constructor
  · intro h
    obtain ⟨q, hq, rfl⟩ := List.mem_map.mp h
    obtain ⟨rule, hrule, howed⟩ := (mem_run_pending d page).mp hq
    obtain ⟨outcome, hcheck, hpassed⟩ := passed_of_owed d page howed
    exact ⟨rule, outcome, hrule, (owed_eq_some.mp howed).2.1, hcheck, hpassed⟩
  · rintro ⟨rule, outcome, hrule, hrefined, hcheck, hpassed⟩
    have houtcome : outcomeOf rule d page = outcome := by
      rw [outcomeOf, hcheck]
    obtain ⟨sources, hsources⟩ : ∃ sources, Image.sources d = .ok sources := ⟨_, Image.sources_eq d⟩
    have howed := owed_eq_some.mpr ⟨hpassed, hrefined, hsources⟩
    rw [← houtcome] at howed
    have hmem : ⟨i, sources⟩ ∈ (run rules d page).pending :=
      (mem_run_pending d page).mpr ⟨rule, hrule, howed⟩
    exact List.mem_map_of_mem hmem

end Execution

theorem slots_after (n : Nat) (pending : List Pending) :
    (pending.map (Pending.after n)).map (·.slot) = (pending.map (·.slot)).map (· + n) := by
  rw [List.map_map, List.map_map]
  rfl

namespace Prepared

variable {registry : Registry} {page : List Char} {d : Document}

theorem ofPage_eq (registry : Registry) (hread : Document.read page = .ok d) :
    ofPage registry page = .ok
      { findings := RedFlag.findings page ++ (Execution.run registry.rules d page).findings
        pending := (Execution.run registry.rules d page).pending.map
          (Pending.after (RedFlag.findings page).length) } := by
  rw [ofPage, hread]
  rfl

/-- What waits after the first phase: exactly the refined rules that passed, each in the slot of its
own finding. -/
structure Waits (registry : Registry) (page : List Char) (d : Document) (p : Prepared) : Prop where
  increasing : (p.pending.map (·.slot)).Pairwise (· < ·)
  inRange : ∀ q ∈ p.pending, q.slot < p.findings.length
  slots : ∀ slot, slot ∈ p.pending.map (·.slot) ↔ ∃ i rule outcome,
    slot = (RedFlag.findings page).length + i ∧ registry.rules[i]? = some rule ∧
      rule.refinement.isSome = true ∧ rule.check d page = .ok outcome ∧ outcome.passed = true
  sources : ∀ q ∈ p.pending, Image.sources d = .ok q.sources

theorem waits_ofPage {p : Prepared} (hread : Document.read page = .ok d)
    (hp : ofPage registry page = .ok p) : Waits registry page d p := by
  rw [ofPage_eq registry hread] at hp
  obtain rfl := Except.ok.inj hp
  let e := Execution.run registry.rules d page
  let n := (RedFlag.findings page).length
  refine ⟨?_, ?_, ?_, ?_⟩
  · change ((e.pending.map (Pending.after n)).map (·.slot)).Pairwise (· < ·)
    rw [slots_after, List.pairwise_map]
    exact (Execution.run_pending_increasing d page registry.rules).imp fun h =>
      Nat.add_lt_add_right h n
  · intro q hq
    obtain ⟨r, hr, rfl⟩ := List.mem_map.mp hq
    have hlt := Execution.run_pending_slot_lt d page hr
    simp only [Pending.after, List.length_append, Execution.run_findings_length]
    omega
  · intro slot
    change slot ∈ (e.pending.map (Pending.after n)).map (·.slot) ↔ _
    rw [slots_after, List.mem_map]
    constructor
    · rintro ⟨i, hi, rfl⟩
      obtain ⟨rule, outcome, hrule⟩ := Execution.mem_run_slots.mp hi
      exact ⟨i, rule, outcome, Nat.add_comm _ _, hrule⟩
    · rintro ⟨i, rule, outcome, rfl, hrule⟩
      exact ⟨i, Execution.mem_run_slots.mpr ⟨rule, outcome, hrule⟩, Nat.add_comm _ _⟩
  · intro q hq
    obtain ⟨r, hr, rfl⟩ := List.mem_map.mp hq
    obtain ⟨rule, -, howed⟩ := (Execution.mem_run_pending d page).mp hr
    exact (Execution.owed_eq_some.mp howed).2.2

variable (resolve : Image.Resolver) (answers : Nat → Image.Probe) (s : Settings)

theorem measure_length (findings : List Finding) (q : Pending) :
    (measure resolve answers s findings q).length = findings.length := by
  simp [measure]

theorem measure_getElem?_ne (findings : List Finding) {q : Pending} {i : Nat} (h : q.slot ≠ i) :
    (measure resolve answers s findings q)[i]? = findings[i]? := by
  simp [measure, h]

theorem measure_getElem?_eq (findings : List Finding) (q : Pending) :
    (measure resolve answers s findings q)[q.slot]? = findings[q.slot]?.map fun f =>
      { f with outcome := Image.check (resolve s.base) (answers q.slot) s.limit q.sources } := by
  simp [measure]

/-- Measuring all that waits leaves every other finding alone, whatever waits and in which order. -/
theorem foldl_measure_getElem?_ne (pending : List Pending) (findings : List Finding) {i : Nat}
    (h : i ∉ pending.map (·.slot)) :
    (pending.foldl (measure resolve answers s) findings)[i]? = findings[i]? := by
  induction pending generalizing findings with
  | nil => rfl
  | cons q rest ih =>
    simp only [List.map_cons, List.mem_cons, not_or] at h
    rw [List.foldl_cons, ih _ h.2, measure_getElem?_ne resolve answers s findings (Ne.symm h.1)]

theorem foldl_measure_length (pending : List Pending) (findings : List Finding) :
    (pending.foldl (measure resolve answers s) findings).length = findings.length := by
  induction pending generalizing findings with
  | nil => rfl
  | cons q rest ih => rw [List.foldl_cons, ih, measure_length]

/-- Each waiting finding gets the outcome of its own images; no later write touches it, since no slot
waits twice. -/
theorem foldl_measure_getElem?_eq (pending : List Pending) (findings : List Finding)
    (hdistinct : (pending.map (·.slot)).Nodup) {q : Pending} (hq : q ∈ pending) :
    (pending.foldl (measure resolve answers s) findings)[q.slot]? = findings[q.slot]?.map fun f =>
      { f with outcome := Image.check (resolve s.base) (answers q.slot) s.limit q.sources } := by
  induction pending generalizing findings with
  | nil => cases hq
  | cons r rest ih =>
    rw [List.map_cons, List.nodup_cons] at hdistinct
    rw [List.foldl_cons]
    rcases List.mem_cons.mp hq with rfl | hq
    · rw [foldl_measure_getElem?_ne resolve answers s rest _ hdistinct.1, measure_getElem?_eq]
    · have hne : r.slot ≠ q.slot := by
        intro h
        exact hdistinct.1 (h ▸ List.mem_map_of_mem hq)
      rw [ih _ hdistinct.2 hq, measure_getElem?_ne resolve answers s findings hne]

theorem foldl_measure_criteria (pending : List Pending) (findings : List Finding) :
    (pending.foldl (measure resolve answers s) findings).map (·.criterion) = findings.map (·.criterion) := by
  induction pending generalizing findings with
  | nil => rfl
  | cons q rest ih =>
    rw [List.foldl_cons, ih]
    apply List.ext_getElem?
    intro i
    by_cases h : q.slot = i
    · subst h
      simp [measure_getElem?_eq, Function.comp_def]
    · simp [measure_getElem?_ne resolve answers s findings h]

structure Finishes (resolve : Image.Resolver) (answers : Nat → Image.Probe) (s : Settings) (d : Document)
    (p : Prepared) (r : Run) : Prop where
  count : r.findings.length = p.findings.length
  criteria : r.findings.map (·.criterion) = p.findings.map (·.criterion)
  settled : ∀ i, i ∉ p.pending.map (·.slot) → r.findings[i]? = p.findings[i]?
  measured : ∀ i ∈ p.pending.map (·.slot), ∃ sources, Image.sources d = .ok sources ∧
    r.findings[i]?.map (·.outcome) =
      some (Image.check (resolve s.base) (answers i) s.limit sources)
  score : r.score = Score.ofFindings r.findings
  verdict : r.verdict = r.score.verdict

theorem finishes_finishing {p : Prepared} (h : Waits registry page d p) :
    Finishes resolve answers s d p (p.finishing resolve answers s) := by
  refine ⟨foldl_measure_length resolve answers s _ _, foldl_measure_criteria resolve answers s _ _,
    fun i hi => foldl_measure_getElem?_ne resolve answers s _ _ hi, ?_, rfl, rfl⟩
  intro i hi
  obtain ⟨q, hq, rfl⟩ := List.mem_map.mp hi
  refine ⟨q.sources, h.sources q hq, ?_⟩
  have hnodup : (p.pending.map (·.slot)).Nodup := h.increasing.imp fun h => Nat.ne_of_lt h
  have hlt := h.inRange q hq
  have hget : p.findings[q.slot]? = some p.findings[q.slot] := List.getElem?_eq_getElem hlt
  change ((p.pending.foldl (measure resolve answers s) p.findings)[q.slot]?).map _ = _
  rw [foldl_measure_getElem?_eq resolve answers s _ _ hnodup hq, hget]
  rfl

/-- Of the standard rules only the eleventh, on image sizes, is refined. -/
theorem eq_ten_of_refined {i : Nat} {rule : Rule} (hrule : Registry.standard.rules[i]? = some rule)
    (hrefined : rule.refinement.isSome = true) : i = 10 := by
  let refined := List.replicate 10 false ++ true :: List.replicate 10 false
  have hlist : Registry.standard.rules.map (·.refinement.isSome) = refined := rfl
  have hi : refined[i]? = some true := by
    rw [← hlist, List.getElem?_map, hrule, Option.map_some, hrefined]
  have hlt : i < 21 := (List.getElem?_eq_some_iff.mp hi).1
  have hall : ∀ j < 21, refined[j]? = some true → j = 10 := by decide
  exact hall i hlt hi

theorem eq_singleton_of_mem_iff {l : List Nat} {n : Nat} (hincreasing : l.Pairwise (· < ·))
    (hmem : ∀ m, m ∈ l ↔ m = n) : l = [n] := by
  match l with
  | [] => exact absurd ((hmem n).mpr rfl) (by simp)
  | [a] => rw [(hmem a).mp (by simp)]
  | a :: b :: rest =>
    have hlt : a < b := (List.pairwise_cons.mp hincreasing).1 b (by simp)
    have ha := (hmem a).mp (by simp)
    have hb := (hmem b).mp (by simp)
    omega

theorem slots_standard {p : Prepared} (h : Waits .standard page d p) :
    p.pending.map (·.slot) = [(RedFlag.findings page).length + 10] := by
  apply eq_singleton_of_mem_iff h.increasing
  intro slot
  rw [h.slots]
  constructor
  · rintro ⟨i, rule, outcome, rfl, hrule, hrefined, -⟩
    rw [eq_ten_of_refined hrule hrefined]
  · rintro rfl
    exact ⟨10, Rule.imageSizes, _, rfl, rfl, rfl, rfl, rfl⟩

end Prepared

end PageGrader
