import Mathlib.Data.List.TakeWhile
import PageGrader.Proofs.Counting

namespace PageGrader.Text

theorem sameCase_iff {c d : Char} : sameCase c d = true ↔ fold c = fold d := by
  rw [sameCase, Bool.or_eq_true, beq_iff_eq, beq_iff_eq]
  exact or_iff_right_of_imp (congrArg fold)

namespace Shape

variable {shape rest : Shape} {p q : List Char → Prop} {s u : List Char}

/-- The shape takes just the stretches with the property, whatever follows them. -/
def Takes (shape : Shape) (p : List Char → Prop) : Prop :=
  ∀ s r, shape s = some r ↔ ∃ u, p u ∧ s = u ++ r

theorem Takes.of_iff (h : Takes shape p) (hpq : ∀ u, p u ↔ q u) : Takes shape q := by
  rwa [← funext fun u => propext (hpq u)]

theorem Takes.append (h : Takes shape p) (hu : p u) (r : List Char) : shape (u ++ r) = some r :=
  (h _ r).mpr ⟨u, hu, rfl⟩

theorem takes_one (kind : Char → Bool) : Takes (one kind) fun u => ∃ c, kind c = true ∧ u = [c] := by
  intro s r
  constructor
  · intro h
    cases s with
    | nil => cases h
    | cons c s =>
      rw [one] at h
      split at h
      next hc =>
        obtain rfl := Option.some.inj h
        exact ⟨[c], ⟨c, hc, rfl⟩, rfl⟩
      next => cases h
  · rintro ⟨_, ⟨c, hc, rfl⟩, rfl⟩
    rw [List.singleton_append, one, if_pos hc]

theorem takes_sign (sign : Char) : Takes (one (· == sign)) (· = [sign]) :=
  (takes_one (· == sign)).of_iff fun u => by simp

theorem takes_caseless (w : List Char) : Takes (caseless w) fun u => u.map fold = w.map fold := by
  intro s r
  induction w generalizing s with
  | nil => simp [caseless]
  | cons c w ih =>
    cases s with
    | nil =>
      constructor
      · intro h
        cases h
      · rintro ⟨u, hu, hs⟩
        rw [(List.append_eq_nil_iff.mp hs.symm).1] at hu
        cases hu
    | cons d s =>
      rw [caseless]
      constructor
      · intro h
        split at h
        next hcd =>
          obtain ⟨u, hu, rfl⟩ := (ih s).mp h
          exact ⟨d :: u, congrArg₂ List.cons (sameCase_iff.mp hcd).symm hu, rfl⟩
        next => cases h
      · rintro ⟨u, hu, hs⟩
        cases u with
        | nil => cases hu
        | cons d' u =>
          obtain ⟨rfl, rfl⟩ := List.cons.inj hs
          obtain ⟨hcd, hu⟩ := List.cons.inj hu
          rw [if_pos (sameCase_iff.mpr hcd.symm)]
          exact (ih _).mpr ⟨u, hu, rfl⟩

/-- The sign that begins a tag has no case, so after it the name alone may vary. -/
theorem takes_marked (w : List Char) :
    Takes (caseless ('<' :: w)) fun u => ∃ name, name.map fold = w.map fold ∧ u = '<' :: name := by
  refine (takes_caseless ('<' :: w)).of_iff fun u => ⟨fun h => ?_, ?_⟩
  · obtain ⟨c, name, rfl, hc, hname⟩ := List.map_eq_cons_iff.mp h
    obtain rfl := eq_of_sameCase_mark (.inl rfl) (sameCase_iff.mpr hc.symm)
    exact ⟨name, hname, rfl⟩
  · rintro ⟨name, hname, rfl⟩
    exact congrArg (fold '<' :: ·) hname

theorem takes_through : Takes (through '>') fun u => ∃ v, '>' ∉ v ∧ u = v ++ ['>'] := by
  intro s r
  constructor
  · intro h
    induction s with
    | nil => cases h
    | cons c s ih =>
      rw [through] at h
      split at h
      next hc =>
        obtain rfl := Option.some.inj h
        obtain rfl := eq_of_beq hc
        exact ⟨['>'], ⟨[], List.not_mem_nil, rfl⟩, rfl⟩
      next hc =>
        obtain ⟨_, ⟨v, hv, rfl⟩, rfl⟩ := ih h
        have hne : '>' ≠ c := fun heq => hc (beq_iff_eq.mpr heq.symm)
        exact ⟨c :: v ++ ['>'], ⟨c :: v, List.not_mem_cons_of_ne_of_not_mem hne hv, rfl⟩, rfl⟩
  · rintro ⟨_, ⟨v, hv, rfl⟩, rfl⟩
    rw [List.append_assoc]
    exact through_append hv

theorem takes_end : Takes (sequence []) fun u => u = [] := by
  intro s r
  simp [sequence]

theorem Takes.andThen (h : Takes shape p) (hrest : Takes rest q) :
    Takes (fun s => (shape s).bind rest) fun u => ∃ v w, p v ∧ q w ∧ u = v ++ w := by
  intro s r
  constructor
  · intro hs
    obtain ⟨t, ht, hr⟩ := Option.bind_eq_some_iff.mp hs
    obtain ⟨v, hv, rfl⟩ := (h s t).mp ht
    obtain ⟨w, hw, rfl⟩ := (hrest t r).mp hr
    exact ⟨v ++ w, ⟨v, w, hv, hw, rfl⟩, (List.append_assoc v w r).symm⟩
  · rintro ⟨_, ⟨v, w, hv, hw, rfl⟩, rfl⟩
    change (shape (v ++ w ++ r)).bind rest = some r
    rw [List.append_assoc, h.append hv, Option.bind_some, hrest.append hw]

theorem Takes.last (h : Takes shape p) : Takes (sequence [shape]) p :=
  (h.andThen takes_end).of_iff fun u => by simp

/-- White space is taken up as far as it goes, so the next shape must begin with something else. -/
theorem Takes.afterBlanks (h : Takes shape p) (hfront : ∀ u, p u → ∃ c ∈ u.head?, isBlank c = false) :
    Takes (fun s => (blanks s).bind shape)
      fun u => ∃ gap w, (∀ c ∈ gap, isBlank c = true) ∧ p w ∧ u = gap ++ w := by
  intro s r
  change shape (s.dropWhile isBlank) = some r ↔ _
  constructor
  · intro hs
    obtain ⟨w, hw, hrest⟩ := (h _ r).mp hs
    refine ⟨s.takeWhile isBlank ++ w, ⟨_, w, fun c hc => List.mem_takeWhile_imp hc, hw, rfl⟩, ?_⟩
    rw [List.append_assoc, ← hrest, List.takeWhile_append_dropWhile]
  · rintro ⟨_, ⟨gap, w, hgap, hw, rfl⟩, rfl⟩
    obtain ⟨c, hc, hblank⟩ := hfront w hw
    obtain ⟨w', rfl⟩ := List.head?_eq_some_iff.mp hc
    rw [List.append_assoc, List.dropWhile_append_of_pos hgap, List.cons_append,
      List.dropWhile_cons_of_neg (by simp [hblank])]
    exact h.append hw r

/-- The end of a word is looked for in what the next shape takes, as long as that is something. -/
theorem Takes.afterWord (h : Takes shape p) (hsome : ∀ u, p u → u ≠ []) :
    Takes (fun s => (wordEnd s).bind shape) fun u => p u ∧ endsWord u = true := by
  have hends : ∀ u r, u ≠ [] → endsWord (u ++ r) = endsWord u := by
    intro u r hu
    cases u with
    | nil => exact absurd rfl hu
    | cons c u => rfl
  intro s r
  change (if endsWord s then some s else none).bind shape = some r ↔ _
  constructor
  · intro hs
    split at hs
    next hword =>
      obtain ⟨u, hu, rfl⟩ := (h s r).mp hs
      exact ⟨u, ⟨hu, hends u r (hsome u hu) ▸ hword⟩, rfl⟩
    next => cases hs
  · rintro ⟨u, ⟨hu, hword⟩, rfl⟩
    rw [hends u r (hsome u hu), if_pos hword]
    exact h.append hu r

theorem occurs_iff_suffix : occurs shape s = true ↔ ∃ r, r <:+ s ∧ (shape r).isSome = true := by
  induction s with
  | nil => simp [occurs]
  | cons c s ih =>
    rw [occurs, Bool.or_eq_true, ih]
    constructor
    · rintro (h | ⟨r, hr, h⟩)
      · exact ⟨c :: s, List.suffix_refl _, h⟩
      · exact ⟨r, hr.trans (List.suffix_cons c s), h⟩
    · rintro ⟨r, hr, h⟩
      rcases List.suffix_cons_iff.mp hr with rfl | hr
      · exact .inl h
      · exact .inr ⟨r, hr, h⟩

/-- The shape occurs just if some stretch of the text has the property. -/
theorem Takes.occurs_iff (h : Takes shape p) :
    occurs shape s = true ↔ ∃ before u after, p u ∧ s = before ++ u ++ after := by
  rw [occurs_iff_suffix]
  constructor
  · rintro ⟨_, ⟨before, rfl⟩, hsome⟩
    obtain ⟨after, hafter⟩ := Option.isSome_iff_exists.mp hsome
    obtain ⟨u, hu, rfl⟩ := (h _ after).mp hafter
    exact ⟨before, u, after, hu, (List.append_assoc before u after).symm⟩
  · rintro ⟨before, u, after, hu, rfl⟩
    refine ⟨u ++ after, ⟨before, (List.append_assoc before u after).symm⟩, ?_⟩
    rw [h.append hu]
    rfl

end Shape
end PageGrader.Text
