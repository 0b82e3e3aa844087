import Mathlib.Data.List.Perm.Basic
import PageGrader.Image.Measurement
import PageGrader.Proofs.Sorting
import PageGrader.Settings

namespace PageGrader.Image

variable (resolve : String → Option String) (limit : Nat) (probe : Probe)

def isPlanned (source : Source) : Bool := (plan resolve source.address).isSome

/-- The size a server states in time, for a source that is asked for. -/
def sizeOf? (source : Source) : Option Nat :=
  match plan resolve source.address with
  | some (.ask url) =>
    match probe ⟨source.node, url⟩ with
    | .size bytes => some bytes
    | _ => none
  | _ => none

def isMeasured (source : Source) : Bool := (sizeOf? resolve probe source).isSome

def isOversized (source : Source) : Bool := (sizeOf? resolve probe source).any (limit < ·)

def isUnverifiable (source : Source) : Bool := isPlanned resolve source && !isMeasured resolve probe source

def learned (source : Source) : Option (Handle × Status) :=
  (plan resolve source.address).map fun plan =>
    (source.node, statusOf probe limit source.node plan)

theorem measured_plans (sources : List Source) :
    measured probe limit (plans resolve sources) =
      sources.filterMap (learned resolve limit probe) := by
  rw [measured, plans, List.map_filterMap]
  congr 1
  funext source
  rw [Option.map_map]
  rfl

theorem isSome_learned (source : Source) :
    (learned resolve limit probe source).isSome = isPlanned resolve source :=
  Option.isSome_map

/-- A source needs no plan, or its size is stated in time, or it is one that cannot be verified. -/
theorem learned_cases (source : Source) :
    (isPlanned resolve source = false ∧ sizeOf? resolve probe source = none ∧
      learned resolve limit probe source = none) ∨
    (∃ bytes, isPlanned resolve source = true ∧ sizeOf? resolve probe source = some bytes ∧
      learned resolve limit probe source = some (source.node, (Answer.size bytes).status limit)) ∨
    ∃ why, isPlanned resolve source = true ∧ sizeOf? resolve probe source = none ∧
      learned resolve limit probe source = some (source.node, .unverifiable why) := by
  unfold isPlanned sizeOf? learned
  cases plan resolve source.address with
  | none => exact .inl ⟨rfl, rfl, rfl⟩
  | some plan =>
    cases plan with
    | give up => exact .inr (.inr ⟨up, rfl, rfl, rfl⟩)
    | ask url =>
      simp only [Option.map_some, statusOf]
      cases probe ⟨source.node, url⟩ with
      | size bytes => exact .inr (.inl ⟨bytes, rfl, rfl, rfl⟩)
      | unstated => exact .inr (.inr ⟨_, rfl, rfl, rfl⟩)
      | failure f => exact .inr (.inr ⟨_, rfl, rfl, rfl⟩)
      | late => exact .inr (.inr ⟨_, rfl, rfl, rfl⟩)

theorem size_status (bytes limit : Nat) :
    (Answer.size bytes).status limit = if limit < bytes then .oversized bytes else .within bytes :=
  rfl

theorem size_isOversized (bytes limit : Nat) :
    ((Answer.size bytes).status limit).isOversized = decide (limit < bytes) := by
  rw [size_status]
  by_cases h : limit < bytes
  · rw [if_pos h, decide_eq_true h]
    rfl
  · rw [if_neg h, decide_eq_false h]
    rfl

theorem size_isUnverifiable (bytes limit : Nat) :
    ((Answer.size bytes).status limit).isUnverifiable = false := by
  rw [size_status]
  split
  · rfl
  · rfl

theorem learned_isOversized (source : Source) :
    ((learned resolve limit probe source).map (·.2.isOversized)).getD false =
      isOversized resolve limit probe source := by
  unfold isOversized
  obtain ⟨-, hsize, hlearned⟩ | ⟨bytes, -, hsize, hlearned⟩ | ⟨why, -, hsize, hlearned⟩ :=
    learned_cases resolve limit probe source
  · rw [hsize, hlearned]
    rfl
  · rw [hsize, hlearned]
    exact size_isOversized bytes limit
  · rw [hsize, hlearned]
    rfl

theorem learned_isUnverifiable (source : Source) :
    ((learned resolve limit probe source).map (·.2.isUnverifiable)).getD false =
      isUnverifiable resolve probe source := by
  unfold isUnverifiable isMeasured
  obtain ⟨hplan, hsize, hlearned⟩ | ⟨bytes, hplan, hsize, hlearned⟩ | ⟨why, hplan, hsize, hlearned⟩ :=
    learned_cases resolve limit probe source
  · rw [hplan, hsize, hlearned]
    rfl
  · rw [hplan, hsize, hlearned]
    exact size_isUnverifiable bytes limit
  · rw [hplan, hsize, hlearned]
    rfl

theorem isPlanned_of_isMeasured {source : Source} (h : isMeasured resolve probe source) :
    isPlanned resolve source := by
  unfold isMeasured sizeOf? at h
  unfold isPlanned
  cases hplan : plan resolve source.address with
  | none => simp [hplan] at h
  | some plan => rfl

theorem isMeasured_of_isOversized {source : Source} (h : isOversized resolve limit probe source) :
    isMeasured resolve probe source := by
  unfold isOversized at h
  unfold isMeasured
  cases hsize : sizeOf? resolve probe source with
  | none => simp [hsize] at h
  | some bytes => rfl

/-- Every planned source is counted once, as measured or as one that could not be. -/
theorem measured_add_unverifiable (sources : List Source) :
    sources.countP (isMeasured resolve probe) + sources.countP (isUnverifiable resolve probe) =
      sources.countP (isPlanned resolve) := by
  induction sources with
  | nil => rfl
  | cons source rest ih =>
    have himp : isMeasured resolve probe source → isPlanned resolve source :=
      isPlanned_of_isMeasured resolve probe
    have hsplit : isUnverifiable resolve probe source =
        (isPlanned resolve source && !isMeasured resolve probe source) := rfl
    rw [List.countP_cons, List.countP_cons, List.countP_cons, hsplit]
    cases hm : isMeasured resolve probe source with
    | false =>
      simp only [Bool.not_false, Bool.and_true, Bool.false_eq_true, if_false]
      omega
    | true =>
      have hp := himp hm
      simp only [hp, Bool.not_true, Bool.and_false, Bool.false_eq_true, if_false, if_true]
      omega

def tooLarge (known : List (Handle × Status)) : List Handle :=
  ((sortOn (·.1.index) known).filter (·.2.isOversized)).map (·.1)

theorem mem_tooLarge {known : List (Handle × Status)} {node : Handle} :
    node ∈ tooLarge known ↔ ∃ entry ∈ known, entry.2.isOversized ∧ entry.1 = node := by
  rw [tooLarge, List.mem_map]
  constructor
  · rintro ⟨entry, hentry, rfl⟩
    obtain ⟨hmem, hover⟩ := List.mem_filter.mp hentry
    exact ⟨entry, mem_sortOn.mp hmem, hover, rfl⟩
  · rintro ⟨entry, hmem, hover, rfl⟩
    exact ⟨entry, List.mem_filter.mpr ⟨mem_sortOn.mpr hmem, hover⟩, rfl⟩

theorem tooLarge_length (known : List (Handle × Status)) :
    (tooLarge known).length = known.countP (·.2.isOversized) := by
  rw [tooLarge, List.length_map, ← List.countP_eq_length_filter]
  exact (sortOn_perm (·.1.index) known).countP_eq _

theorem tooLarge_increasing {known : List (Handle × Status)}
    (hdistinct : (known.map (·.1.index)).Nodup) :
    (tooLarge known).Pairwise (·.index < ·.index) := by
  rw [tooLarge, List.pairwise_map]
  exact (sortOn_increasing (fun entry : Handle × Status => entry.1.index) hdistinct).filter _

def told (limit : Nat) (known : List (Handle × Status)) : String :=
  message (known.length - known.countP (·.2.isUnverifiable)) (tooLarge known).length
    (known.countP (·.2.isUnverifiable)) limit

theorem told_sorted (limit : Nat) (known : List (Handle × Status)) :
    message ((sortOn (·.1.index) known).length -
        ((sortOn (·.1.index) known).filter (·.2.isUnverifiable)).length) (tooLarge known).length
      ((sortOn (·.1.index) known).filter (·.2.isUnverifiable)).length limit = told limit known := by
  have hperm := sortOn_perm (fun entry : Handle × Status => entry.1.index) known
  rw [← List.countP_eq_length_filter, hperm.countP_eq, hperm.length_eq]
  rfl

theorem summary_of_none {limit : Nat} {known : List (Handle × Status)} (h : tooLarge known = []) :
    summary limit known = .pass (told limit known) := by
  rw [← told_sorted]
  exact if_pos (List.isEmpty_iff.mpr h)

theorem summary_of_some {limit : Nat} {known : List (Handle × Status)} (h : tooLarge known ≠ []) :
    ∃ suggestion, summary limit known = .fail (told limit known) suggestion (tooLarge known) := by
  rw [← told_sorted]
  exact ⟨_, if_neg fun hempty => h (List.isEmpty_iff.mp hempty)⟩

theorem summary_evidence (limit : Nat) (known : List (Handle × Status)) :
    (summary limit known).evidence = tooLarge known := by
  by_cases h : tooLarge known = []
  · rw [summary_of_none h, h]
    rfl
  · obtain ⟨suggestion, hfail⟩ := @summary_of_some limit known h
    rw [hfail]
    rfl

theorem summary_passed (limit : Nat) (known : List (Handle × Status)) :
    (summary limit known).passed = (tooLarge known).isEmpty := by
  by_cases h : tooLarge known = []
  · rw [summary_of_none h, h]
    rfl
  · obtain ⟨suggestion, hfail⟩ := @summary_of_some limit known h
    rw [hfail, List.isEmpty_eq_false_iff.mpr h]
    rfl

theorem summary_message (limit : Nat) (known : List (Handle × Status)) :
    (summary limit known).message = told limit known := by
  by_cases h : tooLarge known = []
  · rw [summary_of_none h]
    rfl
  · obtain ⟨suggestion, hfail⟩ := @summary_of_some limit known h
    rw [hfail]
    rfl

/-- Only a message about no images at all starts with this letter. -/
theorem message_ne (measured oversized unverifiable limit : Nat) :
    message measured oversized unverifiable limit ≠ "No images to check." := by
  intro h
  have hfirst := congrArg (fun text : String => text.toList.head?) h
  unfold message at hfirst
  by_cases hm : measured = 0
  · simp [hm, String.toList_append] at hfirst
  · by_cases ho : oversized = 0
    · simp [hm, ho, String.toList_append, toString] at hfirst
    -- Here the message starts with a number, so with a digit.
    · have hdigits : Nat.toDigits 10 oversized ≠ [] := Nat.toDigits_ne_nil
      obtain ⟨c, rest, hcons⟩ := List.exists_cons_of_ne_nil hdigits
      have hdigit : c.isDigit := by
        apply Nat.isDigit_of_mem_toDigits (by decide : 0 < 10) (by decide) (n := oversized)
        rw [hcons]
        exact List.mem_cons_self
      simp [hm, ho, String.toList_append, Nat.toList_repr, hcons] at hfirst
      rw [hfirst] at hdigit
      exact absurd hdigit (by decide)

variable {resolve : String → Option String} {limit : Nat} {probe : Probe} {sources : List Source}

theorem plans_indices_sublist (resolve : String → Option String) (sources : List Source) :
    ((plans resolve sources).map (·.1.index)).Sublist (sources.map (·.node.index)) := by
  induction sources with
  | nil => exact List.Sublist.refl _
  | cons source rest ih =>
    unfold plans at ih ⊢
    rw [List.filterMap_cons]
    cases plan resolve source.address with
    | none => exact ih.cons _
    | some plan => exact ih.cons_cons _

theorem measured_distinct {resolve : String → Option String} {limit : Nat}
    (hdistinct : (sources.map (·.node.index)).Nodup) :
    ((measured probe limit (plans resolve sources)).map (·.1.index)).Nodup := by
  have hsame : (measured probe limit (plans resolve sources)).map (·.1.index) =
      (plans resolve sources).map (·.1.index) := by
    rw [measured, List.map_map]
    rfl
  rw [hsame]
  exact (plans_indices_sublist resolve sources).nodup hdistinct

theorem plans_eq_nil :
    plans resolve sources = [] ↔
      ∀ source ∈ sources, plan resolve source.address = none := by
  rw [plans, List.filterMap_eq_nil_iff]
  apply forall₂_congr
  intro source _
  exact Option.map_eq_none_iff

theorem check_of_plans (h : plans resolve sources ≠ []) :
    check resolve probe limit sources =
      summary limit (sources.filterMap (learned resolve limit probe)) := by
  rw [← measured_plans]
  unfold check
  split
  next hnil => exact absurd hnil h
  next => rfl

theorem check_of_no_plans (h : plans resolve sources = []) :
    check resolve probe limit sources = .pass "No images to check." := by
  rw [check, h]

/-- What an outcome says about the sources it was reached for. -/
structure Reports (resolve : String → Option String) (limit : Nat) (probe : Probe)
    (sources : List Source) (o : Outcome) : Prop where
  fails : o.passed = false ↔ ∃ source ∈ sources, isOversized resolve limit probe source
  cites : ∀ node, node ∈ o.evidence ↔
    ∃ source ∈ sources, isOversized resolve limit probe source ∧ source.node = node
  increasing : o.evidence.Pairwise (·.index < ·.index)
  counts : sources.countP (isMeasured resolve probe) + sources.countP (isUnverifiable resolve probe) =
    sources.countP (isPlanned resolve)
  nothing : o.message = "No images to check." ↔
    ∀ source ∈ sources, plan resolve source.address = none
  tells : (∃ source ∈ sources, isPlanned resolve source) → o.message =
    (if sources.countP (isMeasured resolve probe) = 0 then "The image sizes could not be verified."
      else if o.passed then
        s!"All verified images ({sources.countP (isMeasured resolve probe)}) are ≤ {limit / 1024}KB."
      else s!"{sources.countP (isOversized resolve limit probe)} images are larger than {limit / 1024}KB.") ++
    (if sources.countP (isUnverifiable resolve probe) = 0 then ""
      else s!" {sources.countP (isUnverifiable resolve probe)} images could not be verified.")

theorem countP_learned (told : Status → Bool) (asked : Source → Bool)
    (h : ∀ source, ((learned resolve limit probe source).map (told ·.2)).getD false = asked source) :
    (sources.filterMap (learned resolve limit probe)).countP (told ·.2) = sources.countP asked := by
  rw [List.countP_filterMap]
  congr 1
  funext source
  exact h source

theorem length_learned :
    (sources.filterMap (learned resolve limit probe)).length = sources.countP (isPlanned resolve) := by
  rw [List.length_filterMap_eq_countP]
  exact congrArg (sources.countP ·) (funext (isSome_learned resolve limit probe))

theorem mem_tooLarge_learned {node : Handle} :
    node ∈ tooLarge (sources.filterMap (learned resolve limit probe)) ↔
      ∃ source ∈ sources, isOversized resolve limit probe source ∧ source.node = node := by
  rw [mem_tooLarge]
  constructor
  · rintro ⟨entry, hentry, hover, rfl⟩
    obtain ⟨source, hmem, hlearned⟩ := List.mem_filterMap.mp hentry
    refine ⟨source, hmem, ?_, ?_⟩
    · rw [← learned_isOversized, hlearned]
      exact hover
    · obtain ⟨plan, -, rfl⟩ := Option.map_eq_some_iff.mp hlearned
      rfl
  · rintro ⟨source, hmem, hover, rfl⟩
    rw [← learned_isOversized] at hover
    cases hlearned : learned resolve limit probe source with
    | none => simp [hlearned] at hover
    | some entry =>
      rw [hlearned] at hover
      refine ⟨entry, List.mem_filterMap.mpr ⟨source, hmem, hlearned⟩, hover, ?_⟩
      obtain ⟨plan, -, rfl⟩ := Option.map_eq_some_iff.mp hlearned
      rfl

theorem told_learned :
    told limit (sources.filterMap (learned resolve limit probe)) =
      message (sources.countP (isMeasured resolve probe)) (sources.countP (isOversized resolve limit probe))
        (sources.countP (isUnverifiable resolve probe)) limit := by
  have hcounts := measured_add_unverifiable resolve probe sources
  rw [told, tooLarge_length, length_learned, countP_learned _ _ (learned_isOversized resolve limit probe),
    countP_learned _ _ (learned_isUnverifiable resolve limit probe), ← hcounts, Nat.add_sub_cancel]

theorem tooLarge_learned_isEmpty :
    (tooLarge (sources.filterMap (learned resolve limit probe))).isEmpty =
      (sources.countP (isOversized resolve limit probe) == 0) := by
  have hlength := tooLarge_length (sources.filterMap (learned resolve limit probe))
  rw [countP_learned _ _ (learned_isOversized resolve limit probe)] at hlength
  rw [← hlength, Bool.eq_iff_iff, List.isEmpty_iff_length_eq_zero, beq_iff_eq]

theorem reports_of_no_plans (h : plans resolve sources = []) :
    Reports resolve limit probe sources (.pass "No images to check.") := by
  have hnone := plans_eq_nil.mp h
  have hunplanned : ∀ source ∈ sources, ¬ isPlanned resolve source := by
    intro source hmem hplanned
    rw [isPlanned, hnone source hmem] at hplanned
    exact absurd hplanned (by decide)
  have hsmall : ∀ source ∈ sources, ¬ isOversized resolve limit probe source := by
    intro source hmem hover
    have hmeasured := isMeasured_of_isOversized resolve limit probe hover
    exact hunplanned source hmem (isPlanned_of_isMeasured resolve probe hmeasured)
  refine ⟨?_, ?_, List.Pairwise.nil, measured_add_unverifiable resolve probe sources, ?_, ?_⟩
  · refine iff_of_false (by decide) ?_
    rintro ⟨source, hmem, hover⟩
    exact hsmall source hmem hover
  · intro node
    refine iff_of_false List.not_mem_nil ?_
    rintro ⟨source, hmem, hover, -⟩
    exact hsmall source hmem hover
  · exact iff_of_true rfl hnone
  · rintro ⟨source, hmem, hplanned⟩
    exact absurd hplanned (hunplanned source hmem)

theorem reports_of_plans (h : plans resolve sources ≠ [])
    (hdistinct : ((sources.filterMap (learned resolve limit probe)).map (·.1.index)).Nodup) :
    Reports resolve limit probe sources
      (summary limit (sources.filterMap (learned resolve limit probe))) := by
  have hpassed := summary_passed limit (sources.filterMap (learned resolve limit probe))
  refine ⟨?_, ?_, ?_, measured_add_unverifiable resolve probe sources, ?_, ?_⟩
  · rw [hpassed, List.isEmpty_eq_false_iff_exists_mem]
    constructor
    · rintro ⟨node, hnode⟩
      obtain ⟨source, hmem, hover, -⟩ := mem_tooLarge_learned.mp hnode
      exact ⟨source, hmem, hover⟩
    · rintro ⟨source, hmem, hover⟩
      exact ⟨source.node, mem_tooLarge_learned.mpr ⟨source, hmem, hover, rfl⟩⟩
  · intro node
    rw [summary_evidence]
    exact mem_tooLarge_learned
  · rw [summary_evidence]
    exact tooLarge_increasing hdistinct
  · rw [summary_message, told_learned]
    exact iff_of_false (message_ne _ _ _ _) fun hnone => h (plans_eq_nil.mpr hnone)
  · intro _
    rw [summary_message, told_learned, hpassed, tooLarge_learned_isEmpty]
    simp only [message, beq_iff_eq]

theorem check_reports (hdistinct : (sources.map (·.node.index)).Nodup) :
    Reports resolve limit probe sources (check resolve probe limit sources) := by
  by_cases hplans : plans resolve sources = []
  · rw [check_of_no_plans hplans]
    exact reports_of_no_plans hplans
  · rw [check_of_plans hplans]
    apply reports_of_plans hplans
    rw [← measured_plans]
    exact measured_distinct hdistinct

end PageGrader.Image
