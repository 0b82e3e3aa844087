import PageGrader.Proofs.Report

namespace PageGrader

def Verdict.grade : Verdict → Nat
  | .failed => 0
  | .improvable => 1
  | .passed => 2

namespace Score

variable {findings others earlier later : List Finding} {s t : Score}

/-- A mark is reached when the hundredfold of the adjusted points covers it for each finding. -/
theorem mark_le_percentage_iff {mark : Rat} (hlow : 0 < mark) (hhigh : mark ≤ 100) :
    mark ≤ s.percentage ↔ s.count ≠ 0 ∧ mark * s.count ≤ 100 * s.adjusted := by
  unfold percentage
  split
  case isTrue hempty =>
    simp only [hempty, ne_eq, not_true_eq_false, false_and, iff_false, not_le]
    exact hlow
  case isFalse hcount =>
    have hpos : (0 : Rat) < s.count := by exact_mod_cast Nat.pos_of_ne_zero hcount
    have hcut : mark ≤ cut 100 (s.ratio * 100) ↔ mark ≤ s.ratio * 100 := by
      unfold cut
      split_ifs <;> constructor <;> intro h <;> linarith
    have hratio : s.ratio * 100 = 100 * s.adjusted / s.count := by
      rw [ratio, div_mul_eq_mul_div, mul_comm]
    rw [hcut, hratio, le_div_iff₀ hpos, and_iff_right hcount]

/-- The same for findings and a mark that stands for the fraction `p / d`. -/
theorem fraction_le_percentage_iff (findings : List Finding) (mark : Rat) {p d : Int} (hp : 0 < p)
    (hpd : p ≤ d) (hmark : mark * d = 100 * p) :
    mark ≤ (ofFindings findings).percentage ↔
      findings ≠ [] ∧ p * findings.length ≤ d * (ofFindings findings).adjusted := by
  have hd : (0 : Rat) < d := by exact_mod_cast hp.trans_le hpd
  have hlow : 0 < mark := by
    have hfraction : (0 : Rat) < mark * d := by rw [hmark]; positivity
    exact pos_of_mul_pos_left hfraction hd.le
  have hhigh : mark ≤ 100 := by
    have hle : (p : Rat) ≤ d := by exact_mod_cast hpd
    nlinarith
  rw [mark_le_percentage_iff hlow hhigh, count_ofFindings, Ne, List.length_eq_zero_iff]
  refine and_congr_right fun _ => ?_
  rw [← mul_le_mul_iff_of_pos_right hd, mul_right_comm, hmark, ← Int.cast_le (R := Rat)]
  push_cast
  constructor <;> intro h <;> linarith

theorem verdict_cases (s : Score) :
    (60 ≤ s.percentage ∧ s.verdict = .passed) ∨
    (¬60 ≤ s.percentage ∧ 30 ≤ s.percentage ∧ s.verdict = .improvable) ∨
    (¬30 ≤ s.percentage ∧ s.verdict = .failed) := by
  by_cases hpassed : 60 ≤ s.percentage
  · exact .inl ⟨hpassed, by simp [verdict, Verdict.classify, hpassed]⟩
  · by_cases himprovable : 30 ≤ s.percentage
    · exact .inr (.inl ⟨hpassed, himprovable, by simp [verdict, Verdict.classify, hpassed, himprovable]⟩)
    · exact .inr (.inr ⟨himprovable, by simp [verdict, Verdict.classify, hpassed, himprovable]⟩)

theorem grade_mono (h : t.percentage ≤ s.percentage) : t.verdict.grade ≤ s.verdict.grade := by
  rcases verdict_cases t with ⟨ht, hverdict⟩ | ⟨-, ht, hverdict⟩ | ⟨-, hverdict⟩
  · -- What reaches sixty is reached by the higher percentage too.
    rcases verdict_cases s with ⟨-, hs⟩ | ⟨hs, -⟩ | ⟨hs, -⟩
    · rw [hverdict, hs]
    · exact absurd (ht.trans h) hs
    · exact absurd (le_trans (by norm_num) (ht.trans h)) hs
  · rcases verdict_cases s with ⟨-, hs⟩ | ⟨-, -, hs⟩ | ⟨hs, -⟩
    · rw [hverdict, hs]
      decide
    · rw [hverdict, hs]
    · exact absurd (ht.trans h) hs
  · rw [hverdict]
    exact Nat.zero_le _

theorem verdict_passed_iff (findings : List Finding) :
    (ofFindings findings).verdict = .passed ↔
      findings ≠ [] ∧ 3 * (findings.length : Int) ≤ 5 * (ofFindings findings).adjusted := by
  rw [← fraction_le_percentage_iff findings 60 (p := 3) (d := 5) (by norm_num) (by norm_num)
    (by norm_num)]
  rcases (ofFindings findings).verdict_cases with ⟨h, hv⟩ | ⟨h, -, hv⟩ | ⟨h, hv⟩ <;> rw [hv]
  · exact iff_of_true rfl h
  · exact iff_of_false (by decide) h
  · exact iff_of_false (by decide) fun hsixty => h (le_trans (by norm_num) hsixty)

theorem verdict_improvable_iff (findings : List Finding) :
    (ofFindings findings).verdict = .improvable ↔
      (ofFindings findings).verdict ≠ .passed ∧
        findings ≠ [] ∧ 3 * (findings.length : Int) ≤ 10 * (ofFindings findings).adjusted := by
  rw [← fraction_le_percentage_iff findings 30 (p := 3) (d := 10) (by norm_num) (by norm_num)
    (by norm_num)]
  rcases (ofFindings findings).verdict_cases with ⟨-, hv⟩ | ⟨-, h, hv⟩ | ⟨h, hv⟩ <;> rw [hv]
  · exact iff_of_false (by decide) fun hother => hother.1 rfl
  · exact iff_of_true rfl ⟨by decide, h⟩
  · exact iff_of_false (by decide) fun hthirty => h hthirty.2

theorem ofFindings_perm (h : findings.Perm others) : ofFindings findings = ofFindings others := by
  have htotal : (ofFindings findings).total = (ofFindings others).total := by
    rw [total_eq_sum, total_eq_sum, (h.map _).sum_eq]
  have hpassed : (ofFindings findings).passed = (ofFindings others).passed := (h.filter _).length_eq
  have hfailed : (ofFindings findings).failed = (ofFindings others).failed := (h.filter _).length_eq
  rw [ofFindings] at *
  exact congr (congr (congrArg Score.mk htotal) hpassed) hfailed

structure NoBetter (t s : Score) : Prop where
  total : t.total ≤ s.total
  percentage : t.percentage ≤ s.percentage
  verdict : t.verdict.grade ≤ s.verdict.grade

theorem percentage_nonneg (s : Score) : 0 ≤ s.percentage := by
  obtain ⟨-, -, -, -, -, hlow, -⟩ := s.part_fraction
  rw [percentage_eq]
  linarith

theorem percentage_le_hundred (s : Score) : s.percentage ≤ 100 := by
  obtain ⟨-, -, -, -, -, -, hhigh⟩ := s.part_fraction
  rw [percentage_eq]
  linarith

/-- More findings with fewer points reach no mark that was not reached before. -/
theorem percentage_le (hlength : findings.length ≤ others.length)
    (hadjusted : (ofFindings others).adjusted ≤ (ofFindings findings).adjusted) :
    (ofFindings others).percentage ≤ (ofFindings findings).percentage := by
  set mark := (ofFindings others).percentage with hmark
  rcases (ofFindings others).percentage_nonneg.eq_or_lt with hzero | hpos
  · rw [hmark, ← hzero]
    exact percentage_nonneg _
  have hhigh : mark ≤ 100 := percentage_le_hundred _
  obtain ⟨hcount, hreached⟩ := (mark_le_percentage_iff hpos hhigh).mp hmark.le
  rw [count_ofFindings] at hcount hreached
  have hfewer : mark * (findings.length : Rat) ≤ mark * others.length := by
    have : (findings.length : Rat) ≤ others.length := by exact_mod_cast hlength
    exact mul_le_mul_of_nonneg_left this hpos.le
  have hpoints : ((ofFindings others).adjusted : Rat) ≤ (ofFindings findings).adjusted := by
    exact_mod_cast hadjusted
  rw [mark_le_percentage_iff hpos hhigh, count_ofFindings]
  refine ⟨?_, by linarith⟩
  -- Without findings there would be no points to be ahead by.
  rintro hempty
  rw [List.length_eq_zero_iff] at hempty
  have hnone : ((ofFindings findings).adjusted : Rat) = 0 := by rw [hempty]; rfl
  have hsome : (0 : Rat) < others.length := by exact_mod_cast Nat.pos_of_ne_zero hcount
  nlinarith [mul_pos hpos hsome]

theorem noBetter (hlength : findings.length ≤ others.length)
    (htotal : (ofFindings others).total ≤ (ofFindings findings).total)
    (hadjusted : (ofFindings others).adjusted ≤ (ofFindings findings).adjusted) :
    NoBetter (ofFindings others) (ofFindings findings) where
  total := htotal
  percentage := percentage_le hlength hadjusted
  verdict := grade_mono (percentage_le hlength hadjusted)

theorem adjusted_append (findings others : List Finding) :
    (ofFindings (findings ++ others)).adjusted =
      (ofFindings findings).adjusted + (ofFindings others).adjusted := by
  simp only [adjusted, total_append, failed_append]
  push_cast
  ring

theorem adjusted_cons (f : Finding) (rest : List Finding) :
    (ofFindings (f :: rest)).adjusted = f.worth + (ofFindings rest).adjusted := by
  rw [adjusted_ofFindings, adjusted_ofFindings, List.foldr_cons]

/-- A rule that comes to be broken costs at least what is given back for it. -/
theorem noBetter_broken {c : Criterion} {o r : Outcome} (ho : o.passed = true) (hr : r.passed = false)
    (hpoints : 2 ≤ c.reward - c.penalty) :
    NoBetter (ofFindings (earlier ++ ⟨c, r⟩ :: later)) (ofFindings (earlier ++ ⟨c, o⟩ :: later)) := by
  have hkept : (⟨c, o⟩ : Finding).points = c.reward := by simp [Finding.points, Finding.passed, ho]
  have hbroken : (⟨c, r⟩ : Finding).points = c.penalty := by simp [Finding.points, Finding.passed, hr]
  have hworth : (⟨c, r⟩ : Finding).worth ≤ (⟨c, o⟩ : Finding).worth := by
    simp only [Finding.worth, hkept, hbroken, Finding.passed, ho, hr]
    norm_num
    linarith
  apply noBetter
  · simp only [List.length_append, List.length_cons, le_refl]
  · simp only [total_append, total_cons, hkept, hbroken]
    linarith
  · simp only [adjusted_append, adjusted_cons]
    linarith

/-- A finding that is worth nothing or less does not help, wherever it stands. -/
theorem noBetter_more {f : Finding} (hpoints : f.points ≤ 0) (hworth : f.worth ≤ 0) :
    NoBetter (ofFindings (earlier ++ f :: later)) (ofFindings (earlier ++ later)) := by
  apply noBetter
  · simp only [List.length_append, List.length_cons]
    omega
  · simp only [total_append, total_cons]
    linarith
  · simp only [adjusted_append, adjusted_cons]
    linarith

/-- Nothing but the rule gives or takes points, and a red flag only takes them. -/
theorem points_of_flag {f : Finding} (hreward : f.criterion.reward = 0)
    (hpenalty : f.criterion.penalty = -5) : f.points ≤ 0 ∧ f.worth ≤ 0 := by
  unfold Finding.worth Finding.points
  rw [hreward, hpenalty]
  cases f.passed <;> decide

/-- What holds of the score of a list of findings, however many points its rules give and take. -/
structure Fair (findings : List Finding) : Prop where
  orderFree : ∀ others, others.Perm findings → ofFindings others = ofFindings findings
  nonneg : 0 ≤ (ofFindings findings).percentage
  atMost : (ofFindings findings).percentage ≤ 100
  passed : (ofFindings findings).verdict = .passed ↔
    findings ≠ [] ∧ 3 * (findings.length : Int) ≤ 5 * (ofFindings findings).adjusted
  improvable : (ofFindings findings).verdict = .improvable ↔
    (ofFindings findings).verdict ≠ .passed ∧
      findings ≠ [] ∧ 3 * (findings.length : Int) ≤ 10 * (ofFindings findings).adjusted
  failed : (ofFindings findings).verdict = .failed ↔
    (ofFindings findings).verdict ≠ .passed ∧ (ofFindings findings).verdict ≠ .improvable
  /-- A rule of at least two points comes to be broken. -/
  broken : ∀ earlier later c o r, findings = earlier ++ ⟨c, o⟩ :: later → o.passed = true →
    r.passed = false → 2 ≤ c.reward - c.penalty →
    NoBetter (ofFindings (earlier ++ ⟨c, r⟩ :: later)) (ofFindings findings)
  /-- A red flag is raised. -/
  flagged : ∀ earlier later f, findings = earlier ++ later → f.criterion.reward = 0 →
    f.criterion.penalty = -5 →
    NoBetter (ofFindings (earlier ++ f :: later)) (ofFindings findings)

end Score

/-- Every list of findings is scored fairly. All standard rules are worth at least two points, and red
flags give none and cost five. -/
theorem scores_are_fair :
    (∀ findings, Score.Fair findings) ∧
    (∀ r ∈ Registry.standard.rules, 2 ≤ r.criterion.reward - r.criterion.penalty) ∧
    ∀ flag : RedFlag, flag.finding.criterion.reward = 0 ∧ flag.finding.criterion.penalty = -5 := by
  refine ⟨fun findings => ?_, by decide, fun flag => ⟨rfl, rfl⟩⟩
  exact {
    orderFree := fun _ => Score.ofFindings_perm
    nonneg := Score.percentage_nonneg _
    atMost := Score.percentage_le_hundred _
    passed := Score.verdict_passed_iff findings
    improvable := Score.verdict_improvable_iff findings
    failed := by
      cases (Score.ofFindings findings).verdict <;> decide
    broken := by
      rintro earlier later c o r rfl ho hr hpoints
      exact Score.noBetter_broken ho hr hpoints
    flagged := by
      rintro earlier later f rfl hreward hpenalty
      obtain ⟨hpoints, hworth⟩ := Score.points_of_flag hreward hpenalty
      exact Score.noBetter_more hpoints hworth }

/-- A page with one passing finding falls behind when that rule is broken, and when it is flagged. -/
theorem scores_are_fair_for_one_rule :
    let c := Rule.singleTop.criterion
    Score.NoBetter (.ofFindings [⟨c, .fail "" ""⟩]) (.ofFindings [⟨c, .pass ""⟩]) ∧
    Score.NoBetter (.ofFindings [RedFlag.headers.finding, ⟨c, .pass ""⟩])
      (.ofFindings [⟨c, .pass ""⟩]) := by
  intro c
  have hfair := scores_are_fair.1 [⟨c, .pass ""⟩]
  exact ⟨hfair.broken [] [] c (.pass "") (.fail "" "") rfl rfl rfl (by decide),
    hfair.flagged [] [⟨c, .pass ""⟩] RedFlag.headers.finding rfl rfl rfl⟩

end PageGrader
