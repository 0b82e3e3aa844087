import Mathlib.Data.List.Forall2
import PageGrader.Proofs.Arithmetic
import PageGrader.Proofs.Line
import PageGrader.Proofs.Rounding
import PageGrader.Report

namespace PageGrader

namespace Decimal.Binary64

/-- The percentage that is written for the part `x` of the points. -/
def percent (x : Rat) : Rat := near (near x * 100)

variable {x y : Rat}

theorem hundredfold_bounds (hx : 0 ≤ x) (hone : x ≤ 1) :
    0 ≤ near x * 100 ∧ near x * 100 < 2 ^ (100 : Int) := by
  have hnonneg := near_nonneg hx (lt_of_le_of_lt hone (by norm_num))
  have hle := near_mono hx hone (by norm_num)
  rw [near_one] at hle
  refine ⟨by positivity, lt_of_le_of_lt (b := 100) ?_ (by norm_num)⟩
  linarith

theorem percent_mono (hx : 0 ≤ x) (h : x ≤ y) (hone : y ≤ 1) : percent x ≤ percent y := by
  have hnear := near_mono hx h (lt_of_le_of_lt hone (by norm_num))
  apply near_mono (hundredfold_bounds hx (h.trans hone)).1 _ (hundredfold_bounds (hx.trans h) hone).2
  linarith

/-- A part is written as at least `mark` just if it is at least `t`, when `t` is and what lies next to
it is not. -/
theorem le_percent_iff {mark t next : Rat} (hx : 0 ≤ x) (hone : x ≤ 1) (ht : 0 ≤ t)
    (hat : mark ≤ percent t) (hnext : next ≤ 1) (hbelow : percent next < mark)
    (hgap : x < t → x ≤ next) : mark ≤ percent x ↔ t ≤ x := by
  constructor
  · intro hmark
    by_contra hless
    -- Nothing lies between `next` and `t`, so what is below `t` is written as no more than `next` is.
    have hle := percent_mono hx (hgap (lt_of_not_ge hless)) hnext
    linarith
  · intro hle
    exact hat.trans (percent_mono ht hle hone)

end Decimal.Binary64

namespace Score

open Decimal (Binary64)

variable {s : Score}

/-- The part of the points that was reached, cut off at both ends. -/
def part (s : Score) : Rat := if s.count = 0 then 0 else cut 1 s.ratio

theorem shown_eq (s : Score) : s.shown = .ofRat (Binary64.near s.part * 100) := rfl

theorem percentage_eq (s : Score) : s.percentage = s.part * 100 := by
  unfold percentage part cut
  split
  · exact (zero_mul 100).symm
  · split_ifs <;> linarith

/-- The part lies between zero and one and is a fraction whose denominator counts the findings, if there
are any. -/
theorem part_fraction (s : Score) :
    ∃ (a : Int) (n : Nat), 0 < n ∧ n ≤ max 1 s.count ∧ s.part = a / n ∧ 0 ≤ s.part ∧ s.part ≤ 1 := by
  unfold part cut
  split
  · exact ⟨0, 1, one_pos, le_max_left _ _, by norm_num⟩
  next hcount =>
    split
    · exact ⟨0, 1, one_pos, le_max_left _ _, by norm_num⟩
    next hlow =>
      split
      · exact ⟨1, 1, one_pos, le_max_left _ _, by norm_num⟩
      next hhigh =>
        exact ⟨s.adjusted, s.count, Nat.pos_of_ne_zero hcount, le_max_right _ _, rfl,
          not_lt.mp hlow, not_lt.mp hhigh⟩

/-- Two fractions that differ, differ by what their denominators allow. -/
theorem fraction_gap {a p : Int} {n d bound : Nat} (hn : 0 < n) (hd : 0 < d) (hbound : n ≤ bound)
    (h : (a : Rat) / n < p / d) : (a : Rat) / n ≤ p / d - 1 / (d * bound) := by
  have hn' : (0 : Rat) < n := by exact_mod_cast hn
  have hd' : (0 : Rat) < d := by exact_mod_cast hd
  have hstep : (a : Rat) * d + 1 ≤ p * n := by
    rw [div_lt_div_iff₀ hn' hd'] at h
    exact_mod_cast h
  have hfraction : (a : Rat) / n + 1 / (d * n) ≤ p / d := by
    rw [div_add_div _ _ hn'.ne' (by positivity), div_le_div_iff₀ (by positivity) hd']
    nlinarith [mul_pos hn' hd']
  have hfiner : (1 : Rat) / (d * bound) ≤ 1 / (d * n) := by
    gcongr
  linarith

/-- A mark that stands for the fraction `p / d` is reached by the written percentage just if it is
reached by the exact one. -/
theorem reaches_shown (hcount : s.count ≤ 2 ^ 51) {mark : Rat} {p : Int} {d : Nat} (hd : 0 < d)
    (hp : 0 ≤ p) (hmark : mark = p / d * 100)
    (hat : mark ≤ Binary64.percent (p / d))
    (hnext : (p : Rat) / d - 1 / (d * (2 ^ 51 : Nat)) ≤ 1)
    (hbelow : Binary64.percent (p / d - 1 / (d * (2 ^ 51 : Nat))) < mark) :
    s.shown.reaches mark = decide (mark ≤ s.percentage) := by
  obtain ⟨a, n, hn, hbound, hpart, hlow, hhigh⟩ := s.part_fraction
  obtain ⟨hnonneg, hsmall⟩ := Binary64.hundredfold_bounds hlow hhigh
  have hiff : mark ≤ Binary64.percent s.part ↔ (p : Rat) / d ≤ s.part := by
    apply Binary64.le_percent_iff hlow hhigh (by positivity) hat hnext hbelow
    rw [hpart]
    exact fraction_gap hn hd (hbound.trans (max_le (by norm_num) hcount))
  rw [shown_eq, Binary64.reaches_ofRat hnonneg hsmall, percentage_eq, decide_eq_decide]
  refine hiff.trans ?_
  rw [hmark]
  constructor
  · intro h
    linarith
  · intro h
    linarith

theorem classify_shown (hcount : s.count ≤ 2 ^ 51) : Verdict.classify s.shown.reaches = s.verdict := by
  -- The marks stand for three fifths and three tenths of the points.
  have hpassed : s.shown.reaches 60 = decide (60 ≤ s.percentage) :=
    reaches_shown hcount (p := 3) (d := 5) (by norm_num) (by norm_num) (by norm_num)
      (by decide +kernel) (by norm_num) (by decide +kernel)
  have himprovable : s.shown.reaches 30 = decide (30 ≤ s.percentage) :=
    reaches_shown hcount (p := 3) (d := 10) (by norm_num) (by norm_num) (by norm_num)
      (by decide +kernel) (by norm_num) (by decide +kernel)
  rw [verdict, Verdict.classify, Verdict.classify, hpassed, himprovable]

end Score

/-- The runs there are: those a prepared page gives before its images are measured and after, whatever
the rules, the answers of servers and the settings are, and however totals are kept. -/
inductive Run.Obtained (a : Arithmetic) (run : Run) : Prop
  | provisional (registry : Registry) (text : List Char) (p : Prepared)
      (hp : Prepared.ofPage registry text = .ok p) (hrun : Run.kept? a p.findings = some run)
  | finishing (registry : Registry) (text : List Char) (p : Prepared)
      (hp : Prepared.ofPage registry text = .ok p) (resolve : Image.Resolver)
      (answers : Nat → Image.Probe) (s : Settings)
      (hrun : Run.kept? a (p.measured resolve answers s) = some run)

/-- The invariant of both phases: the score kept with the findings is theirs. -/
theorem Run.Obtained.kept {a : Arithmetic} {run : Run} (h : run.Obtained a) :
    Run.kept? a run.findings = some run := by
  have hsame (findings : List Finding) (hrun : Run.kept? a findings = some run) :
      Run.kept? a run.findings = some run := by
    obtain ⟨total, -, rfl⟩ := Run.kept?_eq_some_iff.mp hrun
    exact hrun
  cases h with
  | provisional registry text p hp hrun => exact hsame _ hrun
  | finishing registry text p hp resolve answers s hrun => exact hsame _ hrun

/-- What an entry says of a finding: all of it, with the line of the first element it is about. -/
structure Entry.Tells (page : List Char) (f : Finding) (e : Entry) : Prop where
  id : e.id = f.criterion.id
  title : e.title = f.criterion.title
  severity : e.severity = f.criterion.severity
  passed : e.passed = f.outcome.passed
  message : e.message = f.outcome.message
  suggestion : e.suggestion = f.outcome.suggestion
  points : e.points = f.points
  line : e.line = f.outcome.evidence.head?.bind (Line.find? · page)

/-- The score that a reader of the entries alone comes to, who adds as the program does. -/
def Report.recount (a : Arithmetic) (r : Report) : Option Score :=
  (a.sum (r.entries.map (·.points))).map fun total =>
    { total
      passed := r.entries.countP (·.passed)
      failed := r.entries.countP (!·.passed) }

structure Report.Consistent (a : Arithmetic) (run : Run) (page : List Char) (r : Report) : Prop where
  entries : List.Forall₂ (Entry.Tells page) run.findings r.entries
  total : a.sum (r.entries.map (·.points)) = some r.summary.total
  /-- Only a sum that comes around is not the exact one. -/
  exact : a = .checked ∨ Arithmetic.Fits (r.entries.map (·.points)).sum →
    r.summary.total = (r.entries.map (·.points)).sum
  passed : r.summary.passed = r.entries.countP (·.passed)
  failed : r.summary.failed = r.entries.countP (!·.passed)
  recounted : ∃ s, r.recount a = some s ∧ r.summary.percentage = s.percentage ∧
    r.summary.shown = s.shown ∧ r.summary.status = s.verdict
  status : r.summary.status = Verdict.classify fun mark => decide (mark ≤ r.summary.percentage)
  /-- No memory holds more entries. -/
  written : r.entries.length ≤ 2 ^ 51 → r.summary.status = Verdict.classify r.summary.shown.reaches
  lines : ∀ e ∈ r.entries, ∀ n, e.line = some n → 1 ≤ n ∧ n ≤ page.count '\n' + 1

theorem Entry.tells_ofFinding (page : List Char) (f : Finding) :
    Entry.Tells page f (Entry.ofFinding page f) := by
  constructor <;> rfl

theorem Line.bounds_of_find? {h : Handle} {page : List Char} {n : Nat} (hn : find? h page = some n) :
    1 ≤ n ∧ n ≤ page.count '\n' + 1 := by
  rw [find?_eq, Option.map_eq_some_iff] at hn
  obtain ⟨span, -, rfl⟩ := hn
  have hprefix : (page.take span.start).count '\n' ≤ page.count '\n' :=
    (List.take_sublist _ _).count_le _
  unfold lineOf
  omega

theorem Report.recount_ofRun (a : Arithmetic) (run : Run) (page : List Char) (timestamp : String) :
    (Report.ofRun run page timestamp).recount a = Score.kept? a run.findings := by
  have hpoints : (run.findings.map (Entry.ofFinding page)).map (·.points) =
      run.findings.map Finding.points := List.map_map
  have hpassed : (run.findings.map (Entry.ofFinding page)).countP (·.passed) =
      (run.findings.filter Finding.passed).length := by
    rw [List.countP_map, List.countP_eq_length_filter]
    rfl
  have hfailed : (run.findings.map (Entry.ofFinding page)).countP (!·.passed) =
      (run.findings.filter (!Finding.passed ·)).length := by
    rw [List.countP_map, List.countP_eq_length_filter]
    rfl
  unfold recount ofRun Score.kept? Score.ofFindings
  rw [hpoints, hpassed, hfailed]

/-- A report on any run agrees with the findings and with itself. Its lines are those of the text it is
given, which need not be the text the run is about. -/
theorem report_is_consistent {a : Arithmetic} {run : Run} (h : run.Obtained a) (page : List Char)
    (timestamp : String) : (Report.ofRun run page timestamp).Consistent a run page := by
  have hrecount : (Report.ofRun run page timestamp).recount a = some run.score := by
    rw [Report.recount_ofRun]
    obtain ⟨score, hscore, hrun⟩ := Option.map_eq_some_iff.mp h.kept
    rw [hscore, ← hrun]
  have hverdict : run.verdict = run.score.verdict := by
    obtain ⟨score, -, hrun⟩ := Option.map_eq_some_iff.mp h.kept
    rw [← hrun]
  obtain ⟨total, htotal, hscore⟩ := Option.map_eq_some_iff.mp hrecount
  obtain rfl : total = run.score.total := congrArg Score.total hscore
  refine
    { entries := ?_
      total := htotal
      exact := Arithmetic.eq_sum_of_sum htotal
      passed := (congrArg Score.passed hscore).symm
      failed := (congrArg Score.failed hscore).symm
      recounted := ⟨run.score, hrecount, rfl, rfl, hverdict⟩
      status := hverdict
      written := ?_
      lines := ?_ }
  · refine List.forall₂_map_right_iff.mpr ?_
    exact List.forall₂_same.mpr fun f _ => Entry.tells_ofFinding page f
  · intro hlength
    have hcount : run.score.count = run.findings.length := by
      obtain ⟨total, -, hrun⟩ := Run.kept?_eq_some_iff.mp h.kept
      rw [congrArg Run.score hrun]
      exact Score.count_ofFindings run.findings
    have hsmall : run.score.count ≤ 2 ^ 51 := hcount.trans_le ((List.length_map _).symm.trans_le hlength)
    exact hverdict.trans (Score.classify_shown hsmall).symm
  · intro e he n hn
    obtain ⟨f, -, rfl⟩ := List.mem_map.mp he
    obtain ⟨first, -, hline⟩ := Option.bind_eq_some_iff.mp hn
    exact Line.bounds_of_find? hline

theorem report_on_large_image_is_consistent :
    let page := "<h1>\n<img src='https://a/1'>".toList
    ∃ p, Prepared.ofPage .standard page = .ok p ∧
      let run := p.finishing Image.resolver (fun _ _ => .size 512001) {}
      run.Obtained .checked ∧
        (Report.ofRun run page "2024-01-01T00:00:00+00:00").Consistent .checked run page := by
  intro page
  have hread : Document.read page = .ok (.ofPage page) := rfl
  obtain ⟨p, hp⟩ : ∃ p, Prepared.ofPage .standard page = .ok p :=
    ⟨_, Prepared.ofPage_eq .standard hread⟩
  have hrun : (p.finishing Image.resolver (fun _ _ => .size 512001) {}).Obtained .checked :=
    .finishing _ _ p hp _ _ _ ((Prepared.kept_standard hread hp .checked).2 _ _ _)
  exact ⟨p, hp, hrun, report_is_consistent hrun page _⟩

end PageGrader
