import PageGrader.CommandLine
import PageGrader.Proofs.Run
import PageGrader.Proofs.Summary

namespace PageGrader

/-- What a finding adds to the total once a loss of two points is given back. -/
def Finding.worth (f : Finding) : Int := f.points + if f.passed then 0 else 2

namespace Score

theorem total_cons (f : Finding) (rest : List Finding) :
    (ofFindings (f :: rest)).total = f.points + (ofFindings rest).total := rfl

theorem passed_cons (f : Finding) (rest : List Finding) :
    (ofFindings (f :: rest)).passed = (ofFindings rest).passed + if f.passed then 1 else 0 := by
  simp only [ofFindings, List.filter_cons]
  split
  · rw [List.length_cons]
  · rfl

theorem failed_cons (f : Finding) (rest : List Finding) :
    (ofFindings (f :: rest)).failed = (ofFindings rest).failed + if f.passed then 0 else 1 := by
  simp only [ofFindings, List.filter_cons]
  cases f.passed with
  | true => rfl
  | false => rfl

theorem total_append (findings others : List Finding) :
    (ofFindings (findings ++ others)).total =
      (ofFindings findings).total + (ofFindings others).total := by
  induction findings with
  | nil => exact (Int.zero_add _).symm
  | cons f rest ih => rw [List.cons_append, total_cons, total_cons, ih, Int.add_assoc]

theorem passed_append (findings others : List Finding) :
    (ofFindings (findings ++ others)).passed =
      (ofFindings findings).passed + (ofFindings others).passed := by
  simp only [ofFindings, List.filter_append, List.length_append]

theorem failed_append (findings others : List Finding) :
    (ofFindings (findings ++ others)).failed =
      (ofFindings findings).failed + (ofFindings others).failed := by
  simp only [ofFindings, List.filter_append, List.length_append]

theorem count_ofFindings (findings : List Finding) :
    (ofFindings findings).count = findings.length := by
  induction findings with
  | nil => rfl
  | cons f rest ih =>
    rw [count] at ih ⊢
    rw [passed_cons, failed_cons, List.length_cons]
    split <;> omega

theorem adjusted_ofFindings (findings : List Finding) :
    (ofFindings findings).adjusted = findings.foldr (·.worth + ·) 0 := by
  induction findings with
  | nil => rfl
  | cons f rest ih =>
    rw [adjusted] at ih
    rw [adjusted, total_cons, failed_cons, List.foldr_cons, ← ih, Finding.worth]
    split <;> push_cast <;> omega

theorem percentage_congr {s t : Score} (hcount : s.count = t.count)
    (hadjusted : s.adjusted = t.adjusted) : s.percentage = t.percentage := by
  rw [percentage, percentage, ratio, ratio, hcount, hadjusted]

theorem shown_congr {s t : Score} (hcount : s.count = t.count)
    (hadjusted : s.adjusted = t.adjusted) : s.shown = t.shown := by
  rw [shown, shown, ratio, ratio, hcount, hadjusted]

end Score

/-- What two results have in common that differ in whether one finding of two points passed; `fell`
says that it passed in the first and failed in the second. -/
structure Run.Differs (before after : Run) (fell : Bool) : Prop where
  ids : after.findings.map (·.id) = before.findings.map (·.id)
  total : after.score.total = before.score.total - if fell then 2 else 0
  failed : after.score.failed = before.score.failed + if fell then 1 else 0
  passed : after.score.passed + (if fell then 1 else 0) = before.score.passed
  percentage : after.score.percentage = before.score.percentage
  shown : after.score.shown = before.score.shown
  verdict : after.verdict = before.verdict

/-- The points of a finding fall by two when it fails; the loss that is given back makes up for it. -/
theorem Run.differs_of_replaced {c : Criterion} (hpoints : c.reward = c.penalty + 2) {o r : Outcome}
    (ho : o.passed = true) (earlier later : List Finding) :
    Differs (.ofFindings (earlier ++ ⟨c, o⟩ :: later)) (.ofFindings (earlier ++ ⟨c, r⟩ :: later))
      (!r.passed) := by
  have hworth : Finding.worth ⟨c, r⟩ = Finding.worth ⟨c, o⟩ := by
    unfold Finding.worth Finding.points Finding.passed
    rw [ho]
    cases r.passed with
    | true => rfl
    | false =>
      change c.penalty + 2 = c.reward + 0
      omega
  have hcount : (Score.ofFindings (earlier ++ ⟨c, r⟩ :: later)).count =
      (Score.ofFindings (earlier ++ ⟨c, o⟩ :: later)).count := by
    rw [Score.count_ofFindings, Score.count_ofFindings, List.length_append, List.length_append]
    rfl
  have hadjusted : (Score.ofFindings (earlier ++ ⟨c, r⟩ :: later)).adjusted =
      (Score.ofFindings (earlier ++ ⟨c, o⟩ :: later)).adjusted := by
    rw [Score.adjusted_ofFindings, Score.adjusted_ofFindings, List.foldr_append, List.foldr_append,
      List.foldr_cons, List.foldr_cons, hworth]
  have hpercentage := Score.percentage_congr hcount hadjusted
  refine ⟨?_, ?_, ?_, ?_, hpercentage, Score.shown_congr hcount hadjusted, ?_⟩
  · simp [ofFindings, Finding.id]
  · change (Score.ofFindings _).total = (Score.ofFindings _).total - _
    rw [Score.total_append, Score.total_append, Score.total_cons, Score.total_cons]
    unfold Finding.points Finding.passed
    cases r.passed with
    | true => simp [ho]
    | false =>
      simp only [ho, hpoints, if_true, Bool.false_eq_true, if_false, Bool.not_false]
      omega
  · change (Score.ofFindings _).failed = (Score.ofFindings _).failed + _
    rw [Score.failed_append, Score.failed_append, Score.failed_cons, Score.failed_cons]
    unfold Finding.passed
    cases r.passed with
    | true => simp [ho]
    | false => simp [ho, Nat.add_assoc]
  · change (Score.ofFindings _).passed + _ = (Score.ofFindings _).passed
    rw [Score.passed_append, Score.passed_append, Score.passed_cons, Score.passed_cons]
    unfold Finding.passed
    cases r.passed with
    | true => simp [ho]
    | false => simp [ho, Nat.add_assoc]
  · change Score.verdict _ = Score.verdict _
    rw [Score.verdict, Score.verdict]
    exact congrArg (fun q => Verdict.classify fun mark => decide (mark ≤ q)) hpercentage

namespace Image

theorem check_passed (resolve : String → Option String) (limit : Nat) (probe : Probe)
    (sources : List Source) :
    (check resolve probe limit sources).passed = !sources.any (isOversized resolve limit probe) := by
  by_cases hplans : plans resolve sources = []
  · have hsmall : sources.any (isOversized resolve limit probe) = false := by
      rw [List.any_eq_false]
      intro source hmem hover
      have hplanned := isPlanned_of_isMeasured resolve probe
        (isMeasured_of_isOversized resolve limit probe hover)
      rw [isPlanned, plans_eq_nil.mp hplans source hmem] at hplanned
      exact absurd hplanned (by decide)
    rw [check_of_no_plans hplans, hsmall]
    rfl
  · rw [check_of_plans hplans, summary_passed, tooLarge_learned_isEmpty, Bool.eq_iff_iff,
      beq_iff_eq, List.countP_eq_zero, Bool.not_eq_true', List.any_eq_false]

end Image

namespace Prepared

variable {page : List Char} {d : Document} {p : Prepared}

/-- Of the standard rules one finding waits. It passes until the images are measured and then has
their outcome; all others are what they were. -/
theorem finishing_standard (hread : Document.read page = .ok d) (hp : ofPage .standard page = .ok p) :
    ∃ (earlier later : List Finding) (sources : List Image.Source),
      earlier.length = (RedFlag.findings page).length + 10 ∧ Image.sources d = .ok sources ∧
      p.findings = earlier ++
        ⟨Rule.imageSizes.criterion, Execution.outcomeOf Rule.imageSizes d page⟩ :: later ∧
      ∀ resolve answers s, (p.finishing resolve answers s).findings = earlier ++
        ⟨Rule.imageSizes.criterion, Image.check (resolve s.base)
          (answers ((RedFlag.findings page).length + 10)) s.limit sources⟩ :: later := by
  have hwaits := waits_ofPage hread hp
  obtain ⟨q, hpending, hslot⟩ := List.map_eq_singleton_iff.mp (slots_standard hwaits)
  have hsources := hwaits.sources q (by rw [hpending]; exact List.mem_singleton_self q)
  let finding (r : Rule) : Finding := ⟨r.criterion, Execution.outcomeOf r d page⟩
  let earlier := RedFlag.findings page ++ (Registry.standard.rules.take 10).map finding
  let later := (Registry.standard.rules.drop 11).map finding
  have hlength : earlier.length = (RedFlag.findings page).length + 10 := List.length_append
  have hfindings : p.findings = earlier ++ finding Rule.imageSizes :: later := by
    rw [ofPage_eq .standard hread] at hp
    obtain rfl := Except.ok.inj hp
    change RedFlag.findings page ++ (Execution.run Registry.standard.rules d page).findings = _
    rw [Execution.run_findings, List.append_assoc]
    rfl
  refine ⟨earlier, later, q.sources, hlength, hsources, hfindings, ?_⟩
  intro resolve answers s
  change p.pending.foldl (measure resolve answers s) p.findings = _
  rw [hpending, hfindings]
  change (earlier ++ finding Rule.imageSizes :: later).modify q.slot _ = _
  rw [hslot, ← hlength, List.modify_eq_take_drop, List.take_left, List.drop_left]
  rfl

/-- What holds of every finding before the images are measured and of every outcome on images, holds of
every finding after. -/
theorem forall_finishing {P : Finding → Prop} (hread : Document.read page = .ok d)
    (hp : ofPage .standard page = .ok p) (hbefore : ∀ f ∈ p.findings, P f)
    (himages : ∀ (resolve : String → Option String) (limit : Nat) (probe : Image.Probe)
      (sources : List Image.Source),
      P ⟨Rule.imageSizes.criterion, Image.check resolve probe limit sources⟩)
    (resolve : Image.Resolver) (answers : Nat → Image.Probe) (s : Settings) :
    ∀ f ∈ (p.finishing resolve answers s).findings, P f := by
  obtain ⟨earlier, later, sources, -, -, hfindings, hafter⟩ := finishing_standard hread hp
  rw [hfindings, List.forall_mem_append, List.forall_mem_cons] at hbefore
  rw [hafter resolve answers s, List.forall_mem_append, List.forall_mem_cons]
  exact ⟨hbefore.1, himages _ _ _ sources, hbefore.2.2⟩

theorem isPending_standard (hread : Document.read page = .ok d) (hp : ofPage .standard page = .ok p) :
    p.isPending = true := by
  obtain ⟨q, hpending, -⟩ :=
    List.map_eq_singleton_iff.mp (slots_standard (waits_ofPage hread hp))
  rw [isPending, hpending]
  rfl

theorem differs_finishing (hread : Document.read page = .ok d) (hp : ofPage .standard page = .ok p)
    {sources : List Image.Source} (hsources : Image.sources d = .ok sources)
    (resolve : Image.Resolver) (answers : Nat → Image.Probe) (s : Settings) :
    Run.Differs p.provisional (p.finishing resolve answers s)
      (sources.any (Image.isOversized (resolve s.base) s.limit
        (answers ((RedFlag.findings page).length + 10)))) := by
  obtain ⟨earlier, later, sources', -, hsources', hbefore, hafter⟩ := finishing_standard hread hp
  obtain rfl : sources' = sources := Except.ok.inj (hsources'.symm.trans hsources)
  have hpassed := Image.check_passed (resolve s.base) s.limit
    (answers ((RedFlag.findings page).length + 10)) sources'
  have hdiffers := Run.differs_of_replaced (c := Rule.imageSizes.criterion) rfl
    (o := Execution.outcomeOf Rule.imageSizes d page) rfl
    (r := Image.check (resolve s.base) (answers ((RedFlag.findings page).length + 10))
      s.limit sources') earlier later
  rw [hpassed, Bool.not_not, ← hbefore, ← hafter resolve answers s] at hdiffers
  exact hdiffers

/-- However sources are completed and whatever servers answer, measuring the images takes two points off
the total if one of them is too large and nothing else; the percentage, the verdict and the exit code are
those from before. -/
theorem verdict_stands_before_measuring (hread : Document.read page = .ok d) :
    ∃ p sources, ofPage .standard page = .ok p ∧ Image.sources d = .ok sources ∧
      (∀ resolve answers s, Run.Differs p.provisional (p.finishing resolve answers s)
        (sources.any (Image.isOversized (resolve s.base) s.limit
          (answers ((RedFlag.findings page).length + 10))))) ∧
      (∀ resolve probe (s : Settings), Run.ofPage resolve probe s page =
        .ok (if s.measures then p.finish resolve probe s else p.provisional)) ∧
      ∀ resolve reader probe stamp (c : CommandLine.Check),
        Input.read reader c.path = .ok (String.ofList page) →
        (CommandLine.grade resolve reader probe stamp c).exit =
          CommandLine.exitOf p.provisional.verdict := by
  obtain ⟨p, hp⟩ : ∃ p, ofPage .standard page = .ok p := ⟨_, ofPage_eq .standard hread⟩
  have hsources := Image.sources_eq d
  have hdiffers := differs_finishing hread hp hsources
  have hofPage (resolve : Image.Resolver) (probe : Image.Probe) (s : Settings) :
      Run.ofPage resolve probe s page =
        .ok (if s.measures then p.finish resolve probe s else p.provisional) := by
    rw [Run.ofPage, hp, Except.map, isPending_standard hread hp, Bool.and_true]
  refine ⟨p, _, hp, hsources, hdiffers, hofPage, ?_⟩
  intro resolve reader probe stamp c hpath
  rw [CommandLine.grade, hpath]
  dsimp only
  rw [String.toList_ofList, hofPage]
  dsimp only
  split
  · exact congrArg CommandLine.exitOf (hdiffers resolve (fun _ => probe) c.settings).verdict
  · rfl

/-- An image one byte too large costs two points, and the page is judged as before. -/
theorem verdict_stands_for_large_image :
    let page := "<img src='https://a/1'>".toList
    Document.read page = .ok (Document.ofPage page) ∧ ∃ p, ofPage .standard page = .ok p ∧
      let r := p.finishing Image.resolver (fun _ _ => .size 512001) {}
      r.score.total = p.provisional.score.total - 2 ∧
        r.score.failed = p.provisional.score.failed + 1 ∧ r.verdict = p.provisional.verdict := by
  intro page
  have hread : Document.read page = .ok (Document.ofPage page) := rfl
  obtain ⟨p, sources, hp, hsources, hdiffers, -⟩ := verdict_stands_before_measuring hread
  have hover : sources.any (Image.isOversized (Image.resolver none) 512000 fun _ => .size 512001) = true := by
    have hlist : (Image.sources (Document.ofPage page)).toOption =
        some [⟨⟨3, "img", 0⟩, "https://a/1"⟩] := by decide +kernel
    rw [hsources] at hlist
    obtain rfl := Option.some.inj hlist
    decide +kernel
  have h := hdiffers Image.resolver (fun _ _ => .size 512001) {}
  rw [hover] at h
  exact ⟨hread, p, hp, h.total, h.failed, h.verdict⟩

end Prepared

end PageGrader
