import Mathlib.Algebra.BigOperators.Group.List.Basic
import Mathlib.Algebra.Ring.Int.Defs
import PageGrader.Proofs.Provisional

namespace PageGrader

namespace Arithmetic

variable {a : Arithmetic} {n start total : Int} {numbers : List Int}

theorem fits_bmod (n : Int) : Fits (n.bmod 0x100000000) :=
  ⟨Int.le_bmod (by decide), Int.bmod_lt (by decide)⟩

theorem bmod_of_fits (h : Fits n) : n.bmod 0x100000000 = n := Int.bmod_eq_of_le h.1 h.2

theorem foldlM_checked (hstart : Fits start) : numbers.foldlM checked.add start = some total ↔
    total = start + numbers.sum ∧ ∀ earlier, earlier <+: numbers → Fits (start + earlier.sum) := by
  induction numbers generalizing start with
  | nil => simp [hstart, eq_comm]
  | cons n rest ih =>
    rw [List.foldlM_cons, List.sum_cons, ← Int.add_assoc]
    by_cases hfits : Fits (start + n)
    · have hadd : checked.add start n = some (start + n) := if_pos hfits
      rw [hadd, Option.bind_eq_bind, Option.bind_some, ih hfits]
      refine and_congr_right fun _ => ⟨fun h earlier hearlier => ?_, fun h earlier hearlier => ?_⟩
      · rcases List.prefix_cons_iff.mp hearlier with rfl | ⟨after, rfl, hafter⟩
        · simpa using hstart
        · simpa [Int.add_assoc] using h after hafter
      · simpa [Int.add_assoc] using h (n :: earlier) (List.prefix_cons_inj n |>.mpr hearlier)
    · have hadd : checked.add start n = none := if_neg hfits
      rw [hadd, Option.bind_eq_bind, Option.bind_none]
      refine iff_of_false nofun fun h => hfits ?_
      simpa using h.2 [n] ⟨rest, rfl⟩

theorem foldlM_wrapping (hstart : Fits start) :
    numbers.foldlM wrapping.add start = some ((start + numbers.sum).bmod 0x100000000) := by
  induction numbers generalizing start with
  | nil =>
    rw [List.sum_nil, Int.add_zero, bmod_of_fits hstart]
    rfl
  | cons n rest ih =>
    have hadd : wrapping.add start n = some ((start + n).bmod 0x100000000) := rfl
    rw [List.foldlM_cons, hadd, Option.bind_eq_bind, Option.bind_some, ih (fits_bmod _), List.sum_cons,
      Int.bmod_add_bmod, Int.add_assoc]

/-- Where sums are checked, there is a sum just if all sums on the way fit, and it is exact. -/
theorem sum_checked_iff : checked.sum numbers = some total ↔
    total = numbers.sum ∧ ∀ earlier, earlier <+: numbers → Fits earlier.sum := by
  rw [sum, foldlM_checked (by decide)]
  simp only [Int.zero_add]

theorem sum_wrapping : wrapping.sum numbers = some (numbers.sum.bmod 0x100000000) := by
  rw [sum, foldlM_wrapping (by decide), Int.zero_add]

theorem eq_bmod_of_sum (h : a.sum numbers = some total) : total = numbers.sum.bmod 0x100000000 := by
  cases a with
  | checked =>
    obtain ⟨rfl, hfits⟩ := sum_checked_iff.mp h
    exact (bmod_of_fits (hfits _ List.prefix_rfl)).symm
  | wrapping => exact (Option.some.inj (sum_wrapping.symm.trans h)).symm

theorem eq_sum_of_sum (h : a.sum numbers = some total) (hexact : a = checked ∨ Fits numbers.sum) :
    total = numbers.sum := by
  rcases hexact with rfl | hfits
  · exact (sum_checked_iff.mp h).1
  · rw [eq_bmod_of_sum h, bmod_of_fits hfits]

theorem sum_bounds (bound : Int) (h : ∀ n ∈ numbers, -bound ≤ n ∧ n ≤ bound) :
    -(numbers.length * bound) ≤ numbers.sum ∧ numbers.sum ≤ numbers.length * bound := by
  induction numbers with
  | nil => simp
  | cons n rest ih =>
    obtain ⟨hn, hrest⟩ := List.forall_mem_cons.mp h
    have hbounds := ih hrest
    rw [List.sum_cons, List.length_cons, Int.natCast_succ, Int.add_mul, Int.one_mul]
    omega

/-- Numbers too few and too small to leave 32 bits have their exact sum, however they are added. -/
theorem sum_of_bounded (bound : Int) (hbound : 0 ≤ bound) (h : ∀ n ∈ numbers, -bound ≤ n ∧ n ≤ bound)
    (hlength : numbers.length * bound < 0x80000000) : a.sum numbers = some numbers.sum := by
  have hfits (earlier : List Int) (hearlier : earlier <+: numbers) : Fits earlier.sum := by
    have hbounds := sum_bounds bound fun n hn => h n (hearlier.mem hn)
    have hle : (earlier.length : Int) * bound ≤ numbers.length * bound :=
      Int.mul_le_mul_of_nonneg_right (Int.ofNat_le.mpr hearlier.length_le) hbound
    exact ⟨by omega, by omega⟩
  cases a with
  | checked => exact sum_checked_iff.mpr ⟨rfl, hfits⟩
  | wrapping => rw [sum_wrapping, bmod_of_fits (hfits _ List.prefix_rfl)]

example : checked.sum [2147483647, 2147483647] = none ∧
    wrapping.sum [2147483647, 2147483647] = some (-2) := by
  decide

end Arithmetic

variable {a : Arithmetic} {findings : List Finding} {run : Run}

theorem Score.total_eq_sum (findings : List Finding) :
    (ofFindings findings).total = (findings.map Finding.points).sum := by
  rw [List.sum_eq_foldr, List.foldr_map]
  rfl

namespace Run

theorem kept?_eq_some_iff : kept? a findings = some run ↔
    ∃ total, a.sum (findings.map Finding.points) = some total ∧
      run = let score := { Score.ofFindings findings with total }
        ⟨findings, score, score.verdict⟩ := by
  simp only [kept?, Score.kept?, Option.map_eq_some_iff]
  constructor
  · rintro ⟨_, ⟨total, htotal, rfl⟩, rfl⟩
    exact ⟨total, htotal, rfl⟩
  · rintro ⟨total, htotal, rfl⟩
    exact ⟨_, ⟨total, htotal, rfl⟩, rfl⟩

theorem kept?_of_exact (h : a.sum (findings.map Finding.points) = some (findings.map Finding.points).sum) :
    kept? a findings = some (.ofFindings findings) := by
  rw [← Score.total_eq_sum] at h
  exact kept?_eq_some_iff.mpr ⟨_, h, rfl⟩

end Run

namespace Prepared

variable {page : List Char} {d : Document} {p : Prepared}

def Modest (c : Criterion) : Prop := (-5 ≤ c.reward ∧ c.reward ≤ 5) ∧ -5 ≤ c.penalty ∧ c.penalty ≤ 5

instance : DecidablePred Modest := fun _ => inferInstanceAs (Decidable (_ ∧ _))

theorem modest_standard (hread : Document.read page = .ok d) (hp : ofPage .standard page = .ok p) :
    ∀ c ∈ p.findings.map (·.criterion), Modest c := by
  rw [ofPage_eq .standard hread] at hp
  obtain rfl := Except.ok.inj hp
  rw [List.map_append, List.forall_mem_append, Execution.criteria_run]
  refine ⟨?_, by decide⟩
  simp only [RedFlag.findings, List.map_map, List.forall_mem_map, Function.comp_apply]
  rintro flag -
  cases flag <;> decide

theorem length_standard (hread : Document.read page = .ok d) (hp : ofPage .standard page = .ok p) :
    p.findings.length ≤ 24 := by
  rw [ofPage_eq .standard hread] at hp
  obtain rfl := Except.ok.inj hp
  have hflags : (RedFlag.findings page).length ≤ RedFlag.all.length := by
    rw [RedFlag.findings, List.length_map]
    exact List.length_filter_le _ _
  have hall : RedFlag.all.length = 3 := rfl
  have hrules : Registry.standard.rules.length = 21 := rfl
  rw [List.length_append, Execution.run_findings_length]
  omega

/-- The standard rules are worth so little that their runs are exact, however totals are kept. -/
theorem kept_standard (hread : Document.read page = .ok d) (hp : ofPage .standard page = .ok p)
    (a : Arithmetic) : Run.kept? a p.findings = some p.provisional ∧
      ∀ resolve answers s,
        Run.kept? a (p.measured resolve answers s) = some (p.finishing resolve answers s) := by
  have hkept (findings : List Finding)
      (hcriteria : findings.map (·.criterion) = p.findings.map (·.criterion)) :
      Run.kept? a findings = some (.ofFindings findings) := by
    have hlength : findings.length ≤ 24 := by
      have hsame := congrArg List.length hcriteria
      rw [List.length_map, List.length_map] at hsame
      exact hsame.trans_le (length_standard hread hp)
    refine Run.kept?_of_exact (Arithmetic.sum_of_bounded 5 (by decide) ?_ ?_)
    · intro n hn
      obtain ⟨f, hf, rfl⟩ := List.mem_map.mp hn
      have hmodest := modest_standard hread hp f.criterion (hcriteria ▸ List.mem_map_of_mem hf)
      unfold Finding.points
      split
      · exact hmodest.1
      · exact hmodest.2
    · rw [List.length_map]
      omega
  exact ⟨hkept _ rfl, fun resolve answers s => hkept _ (foldl_measure_criteria resolve answers s _ _)⟩

end Prepared

end PageGrader
