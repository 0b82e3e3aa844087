import Mathlib.Order.WellFounded
import PageGrader.Image.Schedule
import PageGrader.Proofs.Summary

namespace PageGrader.Image

variable {room : Nat} {probe : Probe} {limit : Nat}

namespace Progress

theorem Reaches.trans {p q r : Progress} (h : Reaches room probe limit p q)
    (h' : Reaches room probe limit q r) : Reaches room probe limit p r := by
  induction h' with
  | refl => exact h
  | step _ hstep ih => exact .step ih hstep

/-- What holds from the first step to the last: there is room for all active images, requests are made
in the order of the plans, and every image is waiting, active or known. -/
structure Sound (room : Nat) (probe : Probe) (limit : Nat) (images : List (Handle × Plan))
    (p : Progress) : Prop where
  bounded : p.active.length ≤ room
  inOrder : p.asked ++ requests p.waiting = requests images
  complete : (p.known ++ measured probe limit (p.active ++ p.waiting)).Perm
    (measured probe limit images)

theorem sound_start (images : List (Handle × Plan)) :
    Sound room probe limit images (.start images) :=
  ⟨Nat.zero_le _, rfl, List.Perm.refl _⟩

theorem requests_append (images others : List (Handle × Plan)) :
    requests (images ++ others) = requests images ++ requests others :=
  List.filterMap_append

theorem Step.sound {images : List (Handle × Plan)} {p q : Progress}
    (hstep : Step room probe limit p q) (h : Sound room probe limit images p) :
    Sound room probe limit images q := by
  cases hstep with
  | @take image waiting active asked known hroom =>
    refine ⟨?_, ?_, ?_⟩
    · rw [List.length_append]
      exact hroom
    · have hasked := h.inOrder
      change asked ++ requests ([image] ++ waiting) = _ at hasked
      rw [requests_append] at hasked
      rw [List.append_assoc, hasked]
    · have hknown := h.complete
      rw [List.append_assoc]
      exact hknown
  | @done image waiting before after asked known =>
    refine ⟨?_, h.inOrder, ?_⟩
    · have hbounded := h.bounded
      simp only [List.length_append, List.length_cons] at hbounded ⊢
      omega
    -- The image that is done only moves to the front of those that are not known yet.
    · have hmoved : (known ++ measured probe limit (image :: (before ++ after ++ waiting))).Perm
          (known ++ measured probe limit (before ++ image :: after ++ waiting)) := by
        apply List.Perm.append_left
        apply List.Perm.map
        rw [List.append_assoc, List.append_assoc]
        exact List.perm_middle.symm
      have hsplit : measured probe limit (image :: (before ++ after ++ waiting)) =
          measured probe limit [image] ++ measured probe limit (before ++ after ++ waiting) := rfl
      rw [hsplit, ← List.append_assoc] at hmoved
      exact hmoved.trans h.complete

theorem Reaches.sound {images : List (Handle × Plan)} {p q : Progress}
    (hreach : Reaches room probe limit p q) (h : Sound room probe limit images p) :
    Sound room probe limit images q := by
  induction hreach with
  | refl => exact h
  | step _ hstep ih => exact hstep.sound ih

theorem Sound.known_perm {images : List (Handle × Plan)} {p : Progress}
    (h : Sound room probe limit images p) (hover : p.IsOver) :
    p.known.Perm (measured probe limit images) := by
  have hcomplete := h.complete
  rw [hover.1, hover.2] at hcomplete
  simpa [measured] using hcomplete

def left (p : Progress) : Nat := 2 * p.waiting.length + p.active.length

theorem Step.left_lt {p q : Progress} (h : Step room probe limit p q) : q.left < p.left := by
  cases h with
  | take _ =>
    simp only [left, List.length_append, List.length_cons, List.length_nil]
    omega
  | done =>
    simp only [left, List.length_append, List.length_cons]
    omega

theorem wellFounded_step (room : Nat) (probe : Probe) (limit : Nat) :
    WellFounded fun q p => Step room probe limit p q :=
  Subrelation.wf (fun h => h.left_lt) (measure left).wf

theorem exists_step (probe : Probe) (limit : Nat) {p : Progress} (hroom : 0 < room)
    (h : ¬ p.IsOver) : ∃ q, Step room probe limit p q := by
  obtain ⟨waiting, active, asked, known⟩ := p
  cases active with
  | cons image after =>
    have hdone : Step room probe limit ⟨waiting, [] ++ image :: after, asked, known⟩
        ⟨waiting, [] ++ after, asked, known ++ measured probe limit [image]⟩ := .done
    exact ⟨_, hdone⟩
  | nil =>
    cases waiting with
    | nil => exact absurd ⟨rfl, rfl⟩ h
    | cons image waiting => exact ⟨_, Step.take hroom⟩

/-- Wherever the measuring has come to, it can be brought to an end. -/
theorem exists_over (probe : Probe) (limit : Nat) (hroom : 0 < room) (p : Progress) :
    ∃ q, Reaches room probe limit p q ∧ q.IsOver := by
  induction p using (wellFounded_step room probe limit).induction with
  | _ p ih =>
    by_cases hover : p.IsOver
    · exact ⟨p, .refl, hover⟩
    · obtain ⟨q, hstep⟩ := exists_step probe limit hroom hover
      obtain ⟨r, hreach, hr⟩ := ih q hstep
      exact ⟨r, (Reaches.refl.step hstep).trans hreach, hr⟩

end Progress

variable {resolve : String → Option String} {s : Settings} {sources : List Source}

theorem summary_eq_of_perm {known known' : List (Handle × Status)} (hperm : known.Perm known')
    (hdistinct : (known.map (·.1.index)).Nodup) : summary limit known = summary limit known' := by
  unfold summary
  rw [sortOn_eq_of_perm (·.1.index) hperm hdistinct]

theorem room_pos (s : Settings) : 0 < s.room := by
  unfold Settings.room
  omega

theorem concludes_iff (hdistinct : (sources.map (·.node.index)).Nodup) (o : Outcome) :
    Concludes resolve s probe sources o ↔ o = check resolve probe s.limit sources := by
  have hknown : ((measured probe s.limit (plans resolve sources)).map
      (·.1.index)).Nodup := measured_distinct hdistinct
  constructor
  · rintro (hnil | ⟨hplans, hreach, hover⟩)
    · exact (check_of_no_plans hnil).symm
    · have hperm := (hreach.sound (Progress.sound_start _)).known_perm hover
      rw [check_of_plans hplans, ← measured_plans]
      exact (summary_eq_of_perm hperm.symm hknown).symm
  · rintro rfl
    by_cases hplans : plans resolve sources = []
    · rw [check_of_no_plans hplans]
      exact .nothing hplans
    · obtain ⟨p, hreach, hover⟩ := Progress.exists_over probe s.limit (room_pos s)
        (.start (plans resolve sources))
      have hperm := (hreach.sound (Progress.sound_start _)).known_perm hover
      rw [check_of_plans hplans, ← measured_plans, summary_eq_of_perm hperm.symm hknown]
      exact .all hplans hreach hover

theorem check_eq_of_perm {others : List Source} (hperm : others.Perm sources)
    (hdistinct : (sources.map (·.node.index)).Nodup) :
    check resolve probe s.limit others = check resolve probe s.limit sources := by
  have hplans : (plans resolve others).Perm (plans resolve sources) :=
    hperm.filterMap _
  by_cases hnil : plans resolve sources = []
  · have hnil' : plans resolve others = [] := by
      rw [hnil] at hplans
      exact hplans.eq_nil
    rw [check_of_no_plans hnil, check_of_no_plans hnil']
  · have hsome : plans resolve others ≠ [] := by
      intro h
      rw [h] at hplans
      exact hnil hplans.symm.eq_nil
    rw [check_of_plans hnil, check_of_plans hsome]
    apply summary_eq_of_perm (hperm.filterMap _)
    rw [← measured_plans]
    apply measured_distinct
    exact ((hperm.map _).nodup_iff).mpr hdistinct

/-- However relative sources are completed and whatever the order of the sources and of the answers,
measuring cannot get stuck, does not go on for ever and comes to the one outcome, which says just how many
images were found to be how large. -/
theorem one_outcome_for_all_orders (resolve : String → Option String) (s : Settings) (probe : Probe)
    (sources : List Source) (hdistinct : (sources.map (·.node.index)).Nodup) :
    Reports resolve s.limit probe sources (check resolve probe s.limit sources) ∧
      (∀ others : List Source, others.Perm sources →
        (∀ o, Concludes resolve s probe others o ↔ o = check resolve probe s.limit sources) ∧
        ∀ p, Progress.Reaches s.room probe s.limit (.start (plans resolve others)) p →
          p.active.length ≤ s.room ∧
            (p.IsOver ∨ ∃ q, Progress.Step s.room probe s.limit p q)) ∧
      WellFounded fun q p => Progress.Step s.room probe s.limit p q := by
  refine ⟨check_reports hdistinct, ?_, Progress.wellFounded_step s.room probe s.limit⟩
  intro others hperm
  have hothers : (others.map (·.node.index)).Nodup := ((hperm.map _).nodup_iff).mpr hdistinct
  refine ⟨?_, ?_⟩
  · intro o
    rw [concludes_iff hothers, check_eq_of_perm hperm hdistinct]
  · intro p hreach
    refine ⟨(hreach.sound (Progress.sound_start _)).bounded, ?_⟩
    by_cases hover : p.IsOver
    · exact .inl hover
    · exact .inr (Progress.exists_step probe s.limit (room_pos s) hover)

/-- Three images measured one at a time, from the last to the first: one is too large, one is of just
the limit, and for one no server answers in time. -/
theorem one_outcome_for_three_images :
    let s : Settings := { limit := 2048, concurrency := 0 }
    let probe : Probe := fun r =>
      if r.url = "https://a/1" then .size 2049 else if r.url = "https://a/2" then .size 2048 else .late
    let sources : List Source := [⟨⟨5, "img", 0⟩, "https://a/1"⟩, ⟨⟨6, "img", 1⟩, "https://a/2"⟩,
      ⟨⟨7, "img", 2⟩, "https://a/3"⟩]
    (sources.map (·.node.index)).Nodup ∧ ∀ o, Concludes (resolver s.base) s probe sources.reverse o →
      o.passed = false ∧ o.evidence = [⟨5, "img", 0⟩] ∧
        o.message = "1 images are larger than 2KB. 1 images could not be verified." := by
  intro s probe sources
  have hdistinct : (sources.map (·.node.index)).Nodup := by decide
  refine ⟨hdistinct, ?_⟩
  intro o ho
  have h := one_outcome_for_all_orders (resolver s.base) s probe sources hdistinct
  have hcheck := ((h.2.1 sources.reverse sources.reverse_perm).1 o).mp ho
  rw [hcheck]
  decide +kernel

end PageGrader.Image
