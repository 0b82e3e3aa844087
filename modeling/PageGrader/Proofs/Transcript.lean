import Mathlib.Algebra.BigOperators.Group.List.Basic
import Mathlib.Algebra.Ring.Nat
import PageGrader.Moment
import PageGrader.Proofs.Formats
import PageGrader.Proofs.Messages

namespace PageGrader

open Text (breaks IsLine)

namespace Text

theorem isLine_iff {s : String} : IsLine s ↔ '\n' ∉ s.toList := List.count_eq_zero

theorem length_splitOn {α : Type} [DecidableEq α] (separator : α) (l : List α) :
    (l.splitOn separator).length = l.count separator + 1 := by
  induction l with
  | nil => rw [List.splitOn_nil, List.count_nil, List.length_singleton]
  | cons c rest ih =>
    rw [List.splitOn_cons_eq_if_modifyHead, List.count_cons]
    split
    · rw [List.length_cons, ih]
    · rw [List.length_modifyHead, ih, Nat.add_zero]

end Text

theorem feed_not_mem_digits (n : Nat) : '\n' ∉ Decimal.digits n := fun hfeed =>
  absurd (Nat.isDigit_of_mem_toDigits (by decide) (by decide) hfeed) (by decide)

theorem feed_not_mem_padded (width n : Nat) : '\n' ∉ Decimal.padded width n := by
  rw [Decimal.padded, List.mem_append, not_or]
  exact ⟨fun hfeed => absurd (List.eq_of_mem_replicate hfeed) (by decide), feed_not_mem_digits n⟩

theorem isLine_onePlace (x : Decimal.Binary64) : IsLine (Decimal.onePlace x) := by
  cases x with
  | nan => exact .literal rfl
  | infinite negative => cases negative <;> exact .literal rfl
  | finite negative m e =>
    rw [Text.isLine_iff, Decimal.onePlace, String.toList_ofList]
    cases negative <;> simp [feed_not_mem_digits]

theorem Moment.isLine_inText (t : Moment) : IsLine t.inText := by
  have hyear (year : Int) : '\n' ∉ yearText year := by
    unfold yearText
    split_ifs <;> simp [feed_not_mem_padded]
  rw [Text.isLine_iff, inText, String.toList_ofList]
  simp [dateText, clockText, hyear, feed_not_mem_padded]

theorem isLine_signed (points : Int) : IsLine (Display.signed points) := by
  unfold Display.signed
  split
  · exact .append (.literal rfl) (.integer points)
  · exact .integer points

theorem Finding.isLine_label (f : Finding) : IsLine f.label := by
  unfold label
  cases f.passed with
  | true => exact .literal rfl
  | false => cases f.criterion.severity <;> exact .literal rfl

namespace Transcript

variable {d : Document} {run : Run} {f : Finding} {rows : List String}

theorem joined_cons (line : String) (rest : List String) :
    joined (line :: rest) = line ++ "\n" ++ joined rest := String.join_cons

theorem joined_append (before after : List String) :
    joined (before ++ after) = joined before ++ joined after := by
  rw [joined, List.map_append, String.join_append, joined, joined]

/-- Each line ends in one line feed, and some may have others. -/
theorem breaks_joined (rows : List String) :
    breaks (joined rows) = rows.length + (rows.map breaks).sum := by
  induction rows with
  | nil => rfl
  | cons line rest ih =>
    have hfeed : breaks "\n" = 1 := by decide
    rw [joined_cons, Text.breaks_append, Text.breaks_append, hfeed, ih, List.map_cons, List.sum_cons,
      List.length_cons]
    omega

theorem breaks_joined_of_lines (h : ∀ line ∈ rows, IsLine line) :
    breaks (joined rows) = rows.length := by
  have hnone : (rows.map breaks).sum = 0 := by
    rw [List.sum_eq_zero_iff_forall_eq_nat, List.forall_mem_map]
    exact h
  rw [breaks_joined, hnone, Nat.add_zero]

theorem toList_joined (rows : List String) :
    (joined rows).toList = ['\n'].intercalate (rows.map String.toList ++ [[]]) := by
  induction rows with
  | nil => rfl
  | cons line rest ih =>
    have hsome : rest.map String.toList ++ [[]] ≠ [] :=
      List.append_ne_nil_of_right_ne_nil _ (List.cons_ne_nil _ _)
    rw [joined_cons, String.toList_append, String.toList_append, ih, List.map_cons, List.cons_append,
      List.intercalate_cons_of_ne_nil hsome]
    rfl

/-- Lines can be told apart again just if the line feeds are all at their ends. -/
theorem splitOn_joined_iff : (joined rows).toList.splitOn '\n' = rows.map String.toList ++ [[]] ↔
    breaks (joined rows) = rows.length := by
  constructor
  · intro h
    have hlength := Text.length_splitOn '\n' (joined rows).toList
    rw [h, List.length_append, List.length_map, List.length_singleton] at hlength
    exact (Nat.add_right_cancel hlength).symm
  · intro h
    have hnone : ∀ line ∈ rows, IsLine line := by
      rw [breaks_joined, Nat.add_eq_left, List.sum_eq_zero_iff_forall_eq_nat, List.forall_mem_map] at h
      exact h
    rw [toList_joined]
    apply List.splitOn_intercalate
    · simp only [List.mem_append, List.mem_map, List.mem_singleton]
      rintro _ (⟨line, hline, rfl⟩ | rfl)
      · exact Text.isLine_iff.mp (hnone line hline)
      · exact List.not_mem_nil
    · exact List.append_ne_nil_of_right_ne_nil _ (List.cons_ne_nil _ _)

theorem breaks_heading (run : Run) : breaks (joined (heading run)) = 13 := by
  apply breaks_joined_of_lines
  unfold heading
  simp only [List.forall_mem_cons, List.not_mem_nil, false_implies, implies_true, and_true]
  refine ⟨.literal rfl, .literal rfl, .literal rfl, .literal rfl, ?_, ?_, ?_,
    .append (.literal rfl) (.number _), .append (.literal rfl) (.number _), .literal rfl, .literal rfl,
    .literal rfl, .literal rfl⟩
  · exact .append (.append (.literal rfl) (.integer _)) (.literal rfl)
  · exact .append (.append (.literal rfl) (isLine_onePlace _)) (.literal rfl)
  · refine .append (.literal rfl) ?_
    cases run.verdict <;> exact .literal rfl

theorem breaks_ending {date : String} (h : IsLine date) : breaks (joined (ending date)) = 3 := by
  apply breaks_joined_of_lines
  unfold ending
  simp only [List.forall_mem_cons, List.not_mem_nil, false_implies, implies_true, and_true]
  exact ⟨.literal rfl, .literal rfl, .append (.literal rfl) h⟩

/-- A finding whose texts bring no line feeds, but for `n` in the message. -/
structure Tells (n : Nat) (f : Finding) : Prop where
  title : IsLine f.criterion.title
  outcome : f.outcome.Breaks n
  /-- Just a failure comes with a suggestion. -/
  suggestion : f.outcome.suggestion.isSome = !f.passed

theorem Tells.entry_eq {n : Nat} (h : Tells n f) (index : Nat) : entry f index =
    [s!"{index + 1}. [{f.label}] {f.criterion.title} ({Display.signed f.points} pts)",
      "   " ++ f.outcome.message] ++
    (if f.passed then [] else ["   💡 Suggestion: " ++ f.outcome.suggestion.getD ""]) ++ [""] := by
  have hsuggestion := h.suggestion
  unfold entry
  cases hpassed : f.passed <;> cases hsome : f.outcome.suggestion <;> simp_all

theorem Tells.breaks_entry {n : Nat} (h : Tells n f) (index : Nat) :
    breaks (joined (entry f index)) = 3 + (if f.passed then 0 else 1) + n := by
  have hstatus : IsLine s!"{index + 1}. [{f.label}] {f.criterion.title} ({Display.signed f.points} pts)" :=
    .append (.append (.append (.append (.append (.append (.counted (.literal rfl)) f.isLine_label)
      (.literal rfl)) h.title) (.literal rfl)) (isLine_signed _)) (.literal rfl)
  have hindent : IsLine "   " := .literal rfl
  have hmessage : breaks ("   " ++ f.outcome.message) = n := by
    rw [Text.breaks_append, hindent, h.outcome.message, Nat.zero_add]
  have hempty : IsLine "" := .literal rfl
  rw [breaks_joined, h.entry_eq]
  cases hpassed : f.passed with
  | true =>
    simp only [if_true, List.append_nil, List.cons_append, List.nil_append, List.length_cons,
      List.length_nil, List.map_cons, List.map_nil, List.sum_cons, List.sum_nil]
    rw [hstatus, hmessage, hempty]
    omega
  | false =>
    have hadvice : IsLine ("   💡 Suggestion: " ++ f.outcome.suggestion.getD "") := by
      have hsome := h.suggestion
      rw [hpassed] at hsome
      obtain ⟨advice, hadvice⟩ := Option.isSome_iff_exists.mp hsome
      rw [hadvice]
      exact .append (.literal rfl) (h.outcome.suggestion advice hadvice)
    simp only [Bool.false_eq_true, if_false, List.cons_append, List.nil_append, List.length_cons,
      List.length_nil, List.map_cons, List.map_nil, List.sum_cons, List.sum_nil]
    rw [hstatus, hmessage, hadvice, hempty]
    omega

theorem Tells.length_entry {n : Nat} (h : Tells n f) (index : Nat) :
    (entry f index).length = 3 + if f.passed then 0 else 1 := by
  rw [h.entry_eq]
  cases f.passed <;> rfl

/-- What is measured of the lines of each finding adds up over all of them. -/
theorem measure_mapIdx (measure : List String → Nat) (hnil : measure [] = 0)
    (happend : ∀ before after, measure (before ++ after) = measure before + measure after)
    {findings : List Finding} {write : Nat → Finding → List String} {size : Finding → Nat}
    (h : ∀ f ∈ findings, ∀ index, measure (write index f) = size f) :
    measure (findings.mapIdx write).flatten = (findings.map size).sum := by
  induction findings generalizing write with
  | nil => exact hnil
  | cons f rest ih =>
    obtain ⟨hf, hrest⟩ := List.forall_mem_cons.mp h
    rw [List.mapIdx_cons, List.flatten_cons, happend, hf 0,
      ih fun g hg index => hrest g hg (index + 1), List.map_cons, List.sum_cons]

theorem sum_sizes (findings : List Finding) :
    (findings.map fun f => 3 + if f.passed then 0 else 1).sum =
      3 * findings.length + findings.countP (!·.passed) := by
  induction findings with
  | nil => rfl
  | cons f rest ih =>
    rw [List.map_cons, List.sum_cons, ih, List.length_cons, List.countP_cons]
    cases f.passed <;> simp <;> omega

variable {n : Finding → Nat} {date : String}

theorem breaks_text (h : ∀ f ∈ run.findings, Tells (n f) f) (hdate : IsLine date) :
    breaks (text run date) = 16 + 3 * run.findings.length + run.findings.countP (!·.passed) +
      (run.findings.map n).sum := by
  have hentries := measure_mapIdx (fun rows => breaks (joined rows)) rfl
    (fun before after => by rw [joined_append, Text.breaks_append])
    fun f hf index => (h f hf).breaks_entry index
  rw [text, lines, joined_append, joined_append, Text.breaks_append, Text.breaks_append, breaks_heading,
    breaks_ending hdate, hentries, List.sum_map_add, sum_sizes]
  omega

theorem length_lines (h : ∀ f ∈ run.findings, Tells (n f) f) (date : String) :
    (lines run date).length = 16 + 3 * run.findings.length + run.findings.countP (!·.passed) := by
  have hentries := measure_mapIdx List.length rfl (fun _ _ => List.length_append)
    fun f hf index => (h f hf).length_entry index
  have hheading : (heading run).length = 13 := rfl
  have hending : (ending date).length = 3 := rfl
  rw [lines, List.length_append, List.length_append, hentries, sum_sizes, hheading, hending]
  omega

/-- A run that a prepared page gives, before its images are measured or after. -/
inductive Given (p : Prepared) : Run → Prop where
  | provisional : Given p p.provisional
  | finishing (resolve : Image.Resolver) (answers : Nat → Image.Probe) (s : Settings) :
    Given p (p.finishing resolve answers s)

variable {page : List Char} {p : Prepared}

theorem tells_of_mem_run
    (hf : f ∈ (Execution.run Registry.standard.rules d page).findings) :
    Tells (Rule.breaksOf d f.criterion) f := by
  have hproper := Prepared.proper_of_mem_run hf
  rw [Execution.run_findings] at hf
  obtain ⟨rule, hrule, rfl⟩ := List.mem_map.mp hf
  have htitles : ∀ rule ∈ Registry.standard.rules, breaks rule.criterion.title = 0 := by decide
  obtain ⟨o, ho, -⟩ := Rule.proper_outcome d page hrule
  refine ⟨htitles rule hrule, ?_, hproper.suggestion⟩
  rw [Execution.outcomeOf, ho]
  exact Rule.breaking_standard d page rule hrule o ho

theorem tells_redFlag (flag : RedFlag) :
    Tells (Rule.breaksOf d flag.finding.criterion) flag.finding := by
  have hother : Rule.breaksOf d flag.finding.criterion = 0 := by cases flag <;> rfl
  rw [hother]
  exact ⟨.literal rfl, flag.breaks_finding, rfl⟩

theorem tells_images (resolve : String → Option String) (limit : Nat) (probe : Image.Probe)
    (sources : List Image.Source) : Tells (Rule.breaksOf d Rule.imageSizes.criterion)
      ⟨Rule.imageSizes.criterion, Image.check resolve probe limit sources⟩ :=
  ⟨.literal rfl, Image.breaks_check resolve limit probe sources,
    (Image.proper_check resolve limit probe sources).suggestion⟩

theorem Given.tells (hread : Document.read page = .ok d) (hp : Prepared.ofPage .standard page = .ok p)
    (h : Given p run) : ∀ f ∈ run.findings, Tells (Rule.breaksOf d f.criterion) f := by
  have hbefore : ∀ f ∈ p.findings, Tells (Rule.breaksOf d f.criterion) f := by
    rw [Prepared.ofPage_eq .standard hread] at hp
    obtain rfl := Except.ok.inj hp
    rw [List.forall_mem_append]
    refine ⟨fun f hf => ?_, fun f hf => tells_of_mem_run hf⟩
    obtain ⟨flag, -, rfl⟩ := List.mem_map.mp hf
    exact tells_redFlag flag
  cases h with
  | provisional => exact hbefore
  | finishing resolve answers s =>
    exact Prepared.forall_finishing hread hp hbefore tells_images resolve answers s

/-- One finding is about the title, so its line feeds come in once. -/
theorem sum_breaksOf {findings judged : List Finding} {flags : List RedFlag}
    (h : Layout page findings flags judged) :
    (findings.map fun f => Rule.breaksOf d f.criterion).sum = breaks (Rule.headline d) := by
  have hflags : ((flags.map RedFlag.finding).map fun f => Rule.breaksOf d f.criterion).sum = 0 := by
    rw [List.sum_eq_zero_iff_forall_eq_nat]
    simp only [List.forall_mem_map]
    rintro flag -
    cases flag <;> rfl
  have hjudged : judged.map (fun f => Rule.breaksOf d f.criterion) =
      Registry.standard.rules.map fun r => Rule.breaksOf d r.criterion := by
    have hrules := congrArg (List.map (Rule.breaksOf d)) h.rules
    rwa [List.map_map, List.map_map] at hrules
  have hstandard : (Registry.standard.rules.map fun r => Rule.breaksOf d r.criterion).sum =
      breaks (Rule.headline d) := by
    have hsizes : (Registry.standard.rules.map fun r => Rule.breaksOf d r.criterion) =
        List.replicate 11 0 ++ breaks (Rule.headline d) :: List.replicate 9 0 := rfl
    rw [hsizes, List.sum_append, List.sum_cons, List.sum_replicate, List.sum_replicate]
    simp
  rw [h.parts, List.map_append, List.sum_append, hflags, hjudged, hstandard, Nat.zero_add]

/-- What is known of a transcript when the title has `extra` line feeds inside. -/
structure LineByLine (extra : Nat) (run : Run) (date : String) : Prop where
  /-- Line feeds end the lines, and there are those of the title. -/
  breaks : Text.breaks (text run date) =
    16 + 3 * run.findings.length + run.findings.countP (!·.passed) + extra
  length : (lines run date).length = 16 + 3 * run.findings.length + run.findings.countP (!·.passed)
  /-- The status with its number, the message, a suggestion just after a failure, and an empty line. -/
  entries : ∀ f ∈ run.findings, ∀ index, entry f index =
    [s!"{index + 1}. [{f.label}] {f.criterion.title} ({Display.signed f.points} pts)",
      "   " ++ f.outcome.message] ++
    (if f.passed then [] else ["   💡 Suggestion: " ++ f.outcome.suggestion.getD ""]) ++ [""]
  /-- Reading by line feeds gives back the lines just if the title has none. -/
  recovered : (text run date).toList.splitOn '\n' = (lines run date).map String.toList ++ [[]] ↔ extra = 0

theorem lineByLine (hread : Document.read page = .ok d) (hp : Prepared.ofPage .standard page = .ok p)
    (h : Given p run) (t : Moment) : LineByLine (breaks (Rule.headline d)) run t.inText := by
  have htells := h.tells hread hp
  obtain ⟨flags, judged, hlayout⟩ : ∃ flags judged, Layout page run.findings flags judged := by
    cases h with
    | provisional => exact (Prepared.shaped_provisional hread hp).layout
    | finishing resolve answers s => exact (Prepared.shaped_finishing hread hp resolve answers s).layout
  have hbreaks := breaks_text htells t.isLine_inText
  rw [sum_breaksOf hlayout] at hbreaks
  have hlength := length_lines htells t.inText
  refine ⟨hbreaks, hlength, fun f hf => (htells f hf).entry_eq, splitOn_joined_iff.trans ?_⟩
  rw [hlength]
  change breaks (text run t.inText) = _ ↔ _
  rw [hbreaks, Nat.add_eq_left]

/-- For every page that is read, the transcript of its run comes at any time to sixteen lines, three for
each finding and one more for each that failed, and to the line feeds inside the title. -/
theorem transcript_is_line_by_line (hread : Document.read page = .ok d) :
    ∃ p, Prepared.ofPage .standard page = .ok p ∧ Run.offline page = .ok p.provisional ∧
      (∀ resolve probe (s : Settings), Run.ofPage resolve probe s page =
        .ok (if s.measures then p.finish resolve probe s else p.provisional)) ∧
      ∀ run, Given p run → ∀ t : Moment, LineByLine (breaks (Rule.headline d)) run t.inText := by
  obtain ⟨p, hp, hoffline, hmeasured⟩ := Run.ofPage_of_read hread
  exact ⟨p, hp, hoffline, hmeasured, fun run h t => lineByLine hread hp h t⟩

/-- A page with a plain title. -/
theorem transcript_is_line_by_line_for_title :
    let page := "<title>a b</title>".toList
    ∃ p, Prepared.ofPage .standard page = .ok p ∧
      ∀ t : Moment, LineByLine 0 p.provisional t.inText := by
  intro page
  have hread : Document.read page = .ok (Document.ofPage page) := rfl
  have htitle : breaks (Rule.headline (Document.ofPage page)) = 0 := by decide +kernel
  obtain ⟨p, hp, -, -, hlines⟩ := transcript_is_line_by_line hread
  rw [htitle] at hlines
  exact ⟨p, hp, hlines _ .provisional⟩

/-- A line feed inside the title makes a line more, so the lines cannot be told apart. -/
theorem line_added_by_title :
    let page := "<title>a\nb</title>".toList
    ∃ p, Prepared.ofPage .standard page = .ok p ∧ ∀ t : Moment,
      breaks (text p.provisional t.inText) = 1 + 16 + 3 * p.provisional.findings.length +
        p.provisional.findings.countP (!·.passed) ∧
      (text p.provisional t.inText).toList.splitOn '\n' ≠
        (lines p.provisional t.inText).map String.toList ++ [[]] := by
  intro page
  have hread : Document.read page = .ok (Document.ofPage page) := rfl
  have htitle : breaks (Rule.headline (Document.ofPage page)) = 1 := by decide +kernel
  obtain ⟨p, hp, -⟩ := Run.ofPage_of_read hread
  refine ⟨p, hp, fun t => ?_⟩
  have hlines := lineByLine hread hp .provisional t
  rw [htitle] at hlines
  refine ⟨by rw [hlines.breaks]; omega, fun hsplit => ?_⟩
  exact absurd (hlines.recovered.mp hsplit) (by decide)

end Transcript
end PageGrader
