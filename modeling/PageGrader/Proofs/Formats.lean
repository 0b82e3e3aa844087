import Mathlib.Data.List.Forall2
import PageGrader.Proofs.Provisional

namespace PageGrader

namespace Image

def Silent (resolve : String → Option String) (sources : List Source) : Prop :=
  ∀ source ∈ sources, ∀ url, plan resolve source.address ≠ some (.ask url)

variable {resolve : String → Option String} {sources : List Source}

theorem Silent.isOversized_eq_false (h : Silent resolve sources) (limit : Nat) (probe : Probe) :
    sources.any (isOversized resolve limit probe) = false := by
  rw [List.any_eq_false]
  intro source hmem
  have hsize : sizeOf? resolve probe source = none := by
    unfold sizeOf?
    split
    next url hplan => exact absurd hplan (h source hmem url)
    next => rfl
  rw [isOversized, hsize]
  exact Bool.false_ne_true

theorem Silent.check_eq_pass (h : Silent resolve sources) (limit : Nat) (probe : Probe) :
    ∃ message, check resolve probe limit sources = .pass message := by
  by_cases hplans : plans resolve sources = []
  · exact ⟨_, check_of_no_plans hplans⟩
  -- The other images cannot be verified, and what cannot be verified makes nothing fail.
  · have hnone : tooLarge (sources.filterMap (learned resolve limit probe)) = [] := by
      have hsmall := h.isOversized_eq_false limit probe
      rw [List.any_eq_false, ← List.countP_eq_zero] at hsmall
      rw [← List.isEmpty_iff, tooLarge_learned_isEmpty, hsmall]
      rfl
    exact ⟨_, (check_of_plans hplans).trans (summary_of_none hnone)⟩

end Image

/-- `g` is `f`, unless `f` is about the sizes of images: then its message may be another one. -/
def Finding.Restated (f g : Finding) : Prop :=
  g = f ∨ f.id = "image-size" ∧
    ∃ message, g = { f with outcome := { f.outcome with message := message } }

theorem Run.Differs.score_eq {before after : Run} (h : Run.Differs before after false) :
    after.score = before.score := by
  have htotal := h.total
  have hpassed := h.passed
  have hfailed := h.failed
  simp only [Bool.false_eq_true, if_false, Int.sub_zero, Nat.add_zero] at htotal hpassed hfailed
  cases hafter : after.score
  cases hbefore : before.score
  rw [hafter, hbefore] at htotal hpassed hfailed
  rw [Score.mk.injEq]
  exact ⟨htotal, hpassed, hfailed⟩

structure Run.Restates (before after : Run) : Prop where
  score : after.score = before.score
  verdict : after.verdict = before.verdict
  findings : List.Forall₂ Finding.Restated before.findings after.findings

theorem Run.restates_refl (run : Run) : run.Restates run where
  score := rfl
  verdict := rfl
  findings := List.forall₂_same.mpr fun _ _ => .inl rfl

namespace Prepared

variable {page : List Char} {d : Document} {p : Prepared} {sources : List Image.Source} {s : Settings}
  {resolve : Image.Resolver}

theorem restates_finishing (hread : Document.read page = .ok d) (hp : ofPage .standard page = .ok p)
    (hsources : Image.sources d = .ok sources) (hsilent : Image.Silent (resolve s.base) sources)
    (answers : Nat → Image.Probe) : p.provisional.Restates (p.finishing resolve answers s) := by
  have hdiffers := differs_finishing hread hp hsources resolve answers s
  rw [hsilent.isOversized_eq_false] at hdiffers
  obtain ⟨earlier, later, sources', -, hsources', hbefore, hafter⟩ := finishing_standard hread hp
  obtain rfl : sources' = sources := Except.ok.inj (hsources'.symm.trans hsources)
  obtain ⟨message, hcheck⟩ :=
    hsilent.check_eq_pass s.limit (answers ((RedFlag.findings page).length + 10))
  refine ⟨hdiffers.score_eq, hdiffers.verdict, ?_⟩
  -- One slot is written again, and with a pass again.
  change List.Forall₂ _ p.findings _
  rw [hbefore, hafter, hcheck]
  refine List.rel_append (List.forall₂_same.mpr fun _ _ => .inl rfl) (.cons ?_ ?_)
  · exact .inr ⟨rfl, message, rfl⟩
  · exact List.forall₂_same.mpr fun _ _ => .inl rfl

end Prepared

theorem Run.ofPage_of_read {page : List Char} {d : Document} (hread : Document.read page = .ok d) :
    ∃ p, Prepared.ofPage .standard page = .ok p ∧ Run.offline page = .ok p.provisional ∧
      ∀ resolve probe (s : Settings), Run.ofPage resolve probe s page =
        .ok (if s.measures then p.finish resolve probe s else p.provisional) := by
  obtain ⟨p, hp⟩ : ∃ p, Prepared.ofPage .standard page = .ok p :=
    ⟨_, Prepared.ofPage_eq .standard hread⟩
  refine ⟨p, hp, ?_, fun resolve probe s => ?_⟩
  · rw [Run.offline, hp]
    rfl
  · rw [Run.ofPage, hp, Except.map, Prepared.isPending_standard hread hp, Bool.and_true]

namespace CommandLine

/-- An output in a format shows a score and a verdict where the format has its summary. -/
inductive Shows (score : Score) (verdict : Verdict) : Format → String → Prop
  | table (rows : List String) :
    Shows score verdict .table (Transcript.joined (rows ++
      ["", "📊 Summary:",
        s!"   Score: {score.total} points ({Decimal.onePlace score.shown}%)",
        s!"   ✅ Passed: {score.passed}", s!"   ❌ Failed: {score.failed}",
        s!"   📋 Verdict: {verdict.label}"]))
  | json (timestamp : String) (results : List Json) :
    Shows score verdict .json ((Json.obj
      [("timestamp", .str timestamp),
        ("summary", .obj [("totalScore", .int score.total), ("percentage", .real score.shown),
          ("status", .str verdict.key), ("passedRules", .int score.passed),
          ("failedRules", .int score.failed)]),
        ("results", .arr results)]).pretty 0 ++ "\n")
  | transcript (rest : List String) :
    Shows score verdict .transcript (Transcript.joined
      (["HTML CODE REVIEW", Display.rule '=' 37, "", "SUMMARY:",
        s!"- Score: {score.total} points", s!"- Percentage: {Decimal.onePlace score.shown}%",
        s!"- Status: {verdict.label}", s!"- Passed rules: {score.passed}",
        s!"- Failed rules: {score.failed}", "", "DETAILED FINDINGS:", Display.rule '=' 18, ""] ++
        rest))

theorem shows_write (format : Format) (stamp : Stamp) (run : Run) (page : List Char) :
    Shows run.score run.verdict format (write format stamp run page) := by
  cases format with
  | table => exact .table _
  | json => exact .json stamp.inData _
  | transcript =>
    rw [write, Transcript.text, Transcript.lines, List.append_assoc]
    exact .transcript _

def Accepted (path : String) (c : Check) : Prop := c.path = path ∧ ∃ args, parse args = some (.check c)

/-- Nothing can be graded: there is no text behind the path, or the text is refused. -/
def Refused (reader : Input.Reader) (path : String) : Prop :=
  (∃ e, Input.read reader path = .error e) ∨
    ∃ text refusal, Input.read reader path = .ok text ∧ Document.read text.toList = .error refusal

/-- The check asks for no image of the page; without measuring it never does. -/
def Check.Silent (resolve : Image.Resolver) (c : Check) (page : List Char) : Prop :=
  c.settings.measures = true → ∀ d sources, Document.read page = .ok d →
    Image.sources d = .ok sources → Image.Silent (resolve c.settings.base) sources

/-- What is answered to a check of a page whose result without network is `offline`. -/
structure Answers (resolve : Image.Resolver) (offline : Run) (page : List Char) (probe : Image.Probe)
    (stamp : Stamp) (c : Check) (reply : Reply) : Prop where
  passed : reply.exit = 0 ↔ offline.verdict = .passed
  notPassed : reply.exit = 1 ↔ offline.verdict = .improvable ∨ offline.verdict = .failed
  shows : Shows offline.score offline.verdict c.format reply.output
  restates : ∃ run, Run.ofPage resolve probe c.settings page = .ok run ∧ offline.Restates run ∧
    reply.output = write c.format stamp run page

variable {resolve : Image.Resolver} {reader : Input.Reader} {path : String} {probe : Image.Probe}
  {stamp : Stamp} {c : Check}

theorem exitOf_eq_zero_iff (v : Verdict) : exitOf v = 0 ↔ v = .passed := by
  cases v <;> decide

theorem exitOf_eq_one_iff (v : Verdict) : exitOf v = 1 ↔ v = .improvable ∨ v = .failed := by
  cases v <;> decide

theorem exitOf_ne_two (v : Verdict) : exitOf v ≠ 2 := by
  cases v <;> decide

theorem grade_of_refused (h : Refused reader c.path) :
    (grade resolve reader probe stamp c).exit = 2 ∧ (grade resolve reader probe stamp c).output = "" := by
  rcases h with ⟨e, hpath⟩ | ⟨text, refusal, hpath, hread⟩
  · rw [grade, hpath]
    exact ⟨rfl, rfl⟩
  · have hrun : Run.ofPage resolve probe c.settings text.toList = .error refusal := by
      rw [Run.ofPage, Prepared.ofPage, hread]
      rfl
    rw [grade, hpath]
    dsimp only
    rw [hrun]
    exact ⟨rfl, rfl⟩

theorem grade_of_run {text : String} {run : Run} (hpath : Input.read reader c.path = .ok text)
    (hrun : Run.ofPage resolve probe c.settings text.toList = .ok run) :
    grade resolve reader probe stamp c =
      { exit := exitOf run.verdict, output := write c.format stamp run text.toList } := by
  rw [grade, hpath]
  dsimp only
  rw [hrun]

theorem refused_or_read (reader : Input.Reader) (path : String) :
    Refused reader path ∨
      ∃ text d, Input.read reader path = .ok text ∧ Document.read text.toList = .ok d := by
  cases hpath : Input.read reader path with
  | error e => exact .inl (.inl ⟨e, hpath⟩)
  | ok text =>
    cases hread : Document.read text.toList with
    | error refusal => exact .inl (.inr ⟨text, refusal, hpath, hread⟩)
    | ok d => exact .inr ⟨text, d, rfl, hread⟩

theorem answers_of_restates {text : String} {offline run : Run}
    (hpath : Input.read reader c.path = .ok text)
    (hrun : Run.ofPage resolve probe c.settings text.toList = .ok run) (hrestates : offline.Restates run) :
    Answers resolve offline text.toList probe stamp c (grade resolve reader probe stamp c) := by
  rw [grade_of_run hpath hrun]
  refine ⟨?_, ?_, ?_, run, hrun, hrestates, rfl⟩
  · rw [← hrestates.verdict]
    exact exitOf_eq_zero_iff _
  · rw [← hrestates.verdict]
    exact exitOf_eq_one_iff _
  · rw [← hrestates.score, ← hrestates.verdict]
    exact shows_write _ _ _ _

/-- However sources are completed, nothing is written and the exit code is two just if there is nothing to
grade. Otherwise all checks that ask for no image give the verdict and the score of the run without
network, in every format and with all settings. -/
theorem one_verdict_for_all_formats (resolve : Image.Resolver) (reader : Input.Reader) (path : String) :
    (∀ c, Accepted path c → ∀ probe stamp,
      (((Command.check c).reply resolve reader probe stamp).exit = 2 ∧
        ((Command.check c).reply resolve reader probe stamp).output = "" ↔ Refused reader path)) ∧
    (Refused reader path ∨ ∃ text offline, Input.read reader path = .ok text ∧
      Run.offline text.toList = .ok offline ∧
      ∀ c, Accepted path c → c.Silent resolve text.toList → ∀ probe stamp,
        Answers resolve offline text.toList probe stamp c
          ((Command.check c).reply resolve reader probe stamp)) := by
  constructor
  · rintro c ⟨rfl, -⟩ probe stamp
    refine ⟨?_, grade_of_refused⟩
    rintro ⟨hexit, -⟩
    -- Whatever the verdict on a page is, its exit code is not two.
    refine (refused_or_read reader c.path).resolve_right ?_
    rintro ⟨text, d, hpath, hread⟩
    obtain ⟨p, -, -, hrun⟩ := Run.ofPage_of_read hread
    change (grade resolve reader probe stamp c).exit = 2 at hexit
    rw [grade_of_run hpath (hrun resolve probe c.settings)] at hexit
    exact exitOf_ne_two _ hexit
  · refine (refused_or_read reader path).imp_right ?_
    rintro ⟨text, d, hpath, hread⟩
    obtain ⟨p, hp, hoffline, hrun⟩ := Run.ofPage_of_read hread
    refine ⟨text, _, hpath, hoffline, ?_⟩
    rintro c ⟨rfl, -⟩ hsilent probe stamp
    apply answers_of_restates hpath (hrun resolve probe c.settings)
    split
    next hmeasures =>
      have hsources := Image.sources_eq d
      exact Prepared.restates_finishing hread hp hsources (hsilent hmeasures d _ hread hsources) _
    next => exact p.provisional.restates_refl

/-- An image that is not served securely is never asked for, with network or without. -/
theorem one_verdict_for_insecure_image :
    ∃ offline, Run.offline "<img src='http://a/1'>".toList = .ok offline ∧
      ∀ args ∈ [["check", "-", "--json"], ["check", "-", "--transcript", "--no-network"]],
        ∃ c, parse args = some (.check c) ∧ ∀ probe stamp,
          Answers Image.resolver offline "<img src='http://a/1'>".toList probe stamp c
            ((Command.check c).reply Image.resolver (fun _ => .ok "<img src='http://a/1'>".toUTF8)
              probe stamp) := by
  have hpath : Input.read (fun _ => .ok "<img src='http://a/1'>".toUTF8) "-" =
      .ok "<img src='http://a/1'>" := rfl
  have hread : Document.read "<img src='http://a/1'>".toList =
      .ok (.ofPage "<img src='http://a/1'>".toList) := rfl
  have hgraded : ¬ Refused (fun _ => .ok "<img src='http://a/1'>".toUTF8) "-" := by
    rintro (⟨e, herror⟩ | ⟨text, refusal, htext, herror⟩)
    · cases hpath.symm.trans herror
    · obtain rfl := Except.ok.inj (hpath.symm.trans htext)
      cases hread.symm.trans herror
  have hsilent : Image.Silent (Image.resolver none) [⟨⟨3, "img", 0⟩, "http://a/1"⟩] := by
    unfold Image.Silent
    rw [List.forall_mem_singleton]
    have hplan : Image.plan (Image.resolver none) "http://a/1" = some (.give .notSecure) := by
      decide +kernel
    intro url hurl
    cases hplan.symm.trans hurl
  obtain ⟨-, hrest⟩ := one_verdict_for_all_formats Image.resolver
    (fun _ => .ok "<img src='http://a/1'>".toUTF8) "-"
  obtain ⟨text, offline, htext, hoffline, hanswers⟩ := hrest.resolve_left hgraded
  obtain rfl := Except.ok.inj (hpath.symm.trans htext)
  have hjson : parse ["check", "-", "--json"] = some (.check ⟨"-", .json, {}, false⟩) := by
    decide +kernel
  have htranscript : parse ["check", "-", "--transcript", "--no-network"] =
      some (.check ⟨"-", .transcript, { measures := false }, false⟩) := by decide +kernel
  refine ⟨offline, hoffline, ?_⟩
  rw [List.forall_mem_cons, List.forall_mem_singleton]
  refine ⟨⟨_, hjson, hanswers _ ⟨rfl, _, hjson⟩ fun _ d sources hd hsources => ?_⟩,
    ⟨_, htranscript, hanswers _ ⟨rfl, _, htranscript⟩ fun hmeasures => ?_⟩⟩
  · obtain rfl := Except.ok.inj (hread.symm.trans hd)
    have hlist : (Image.sources (Document.ofPage "<img src='http://a/1'>".toList)).toOption =
        some [⟨⟨3, "img", 0⟩, "http://a/1"⟩] := by decide +kernel
    rw [hsources] at hlist
    obtain rfl := Option.some.inj hlist
    exact hsilent
  · exact absurd hmeasures Bool.false_ne_true

end CommandLine

end PageGrader
