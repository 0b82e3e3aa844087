import PageGrader.Line
import PageGrader.Proofs.Letters

namespace PageGrader

open Text (Shape Span isNameChar)

namespace Text.Shape

variable {shape : Shape} {place busy n : Nat} {s u r : List Char}

structure Angled (shape : Shape) : Prop where
  nil : shape [] = none
  cons : ∀ c r, c ≠ '<' → shape (c :: r) = none

/-- Where the shape stands, in a text whose front is at `place`. -/
def positions (shape : Shape) (place : Nat) : List Char → List Nat
  | [] => []
  | c :: r =>
    if (shape (c :: r)).isSome then place :: positions shape (place + 1) r
    else positions shape (place + 1) r

theorem le_of_mem_positions (h : n ∈ positions shape place s) : place ≤ n := by
  induction s generalizing place with
  | nil => cases h
  | cons c r ih =>
    rw [positions] at h
    split at h
    · rcases List.mem_cons.mp h with rfl | h
      · exact Nat.le_refl _
      · exact Nat.le_of_succ_le (ih h)
    · exact Nat.le_of_succ_le (ih h)

/-- A shape that stands wherever another one does, stands there and perhaps elsewhere. -/
theorem positions_sublist {other : Shape} (h : ∀ s, (shape s).isSome = true → (other s).isSome = true)
    (place : Nat) (s : List Char) : (positions shape place s).Sublist (positions other place s) := by
  induction s generalizing place with
  | nil => exact .refl []
  | cons c r ih =>
    unfold positions
    by_cases hhere : (shape (c :: r)).isSome = true
    · rw [if_pos hhere, if_pos (h _ hhere)]
      exact (ih (place + 1)).cons_cons place
    · rw [if_neg hhere]
      split
      · exact (ih (place + 1)).cons place
      · exact ih (place + 1)

theorem occurs_iff_positions (h : shape.Angled) (place : Nat) (s : List Char) :
    occurs shape s = true ↔ positions shape place s ≠ [] := by
  induction s generalizing place with
  | nil => simp [occurs, positions, h.nil]
  | cons c r ih =>
    unfold occurs positions
    split
    next hhere => simp [hhere]
    next hnone => rw [Bool.not_eq_true] at hnone; rw [hnone, Bool.false_or, ih]

theorem le_start_of_mem_spansFrom {span : Span} (h : span ∈ spansFrom shape place busy s) :
    place ≤ span.start := by
  induction s generalizing place busy with
  | nil => cases h
  | cons c r ih =>
    unfold spansFrom at h
    split at h
    · exact Nat.le_of_succ_le (ih h)
    · split at h
      · rcases List.mem_cons.mp h with rfl | h
        · exact Nat.le_refl _
        · exact Nat.le_of_succ_le (ih h)
      · exact Nat.le_of_succ_le (ih h)

/-- A shape that goes on without another `<` is found wherever it stands. -/
theorem starts_spansFrom (h : shape.Angled)
    (hinside : ∀ c r rest, shape (c :: r) = some rest → ∃ u, r = u ++ rest ∧ '<' ∉ u)
    (hbusy : '<' ∉ s.take busy) :
    (spansFrom shape place busy s).map (·.start) = positions shape place s := by
  induction s generalizing place busy with
  | nil => rfl
  | cons c r ih =>
    unfold spansFrom positions
    split
    -- The front belongs to an occurrence, which has no other `<`, so nothing stands there.
    next n =>
      rw [List.take_succ_cons, List.mem_cons, not_or] at hbusy
      rw [h.cons c r (Ne.symm hbusy.1), ih hbusy.2]
      rfl
    next =>
      split
      next rest hrest =>
        obtain ⟨u, rfl, hu⟩ := hinside c r rest hrest
        rw [hrest, List.map_cons, ih]
        · rfl
        · rwa [List.length_cons, List.length_append, Nat.add_right_comm, Nat.add_sub_cancel,
            Nat.add_sub_cancel, List.take_left]
      next hnone =>
        rw [hnone, ih]
        · rfl
        · exact List.not_mem_nil

theorem occurs_append (h : shape.Angled) (hu : '<' ∉ u) : occurs shape (u ++ r) = occurs shape r := by
  induction u with
  | nil => rfl
  | cons c u ih =>
    rw [List.mem_cons, not_or] at hu
    rw [List.cons_append, occurs, h.cons _ _ (Ne.symm hu.1), ih hu.2]
    rfl

/-- A `<` where the shape does not stand, and all up to the next one. -/
theorem occurs_cons (h : shape.Angled) (hu : '<' ∉ u) (hnone : shape ('<' :: (u ++ r)) = none) :
    occurs shape ('<' :: u ++ r) = occurs shape r := by
  rw [List.cons_append, occurs, hnone, occurs_append h hu]
  rfl

theorem eq_none_of_not_occurs (h : occurs shape s = false) : shape s = none := by
  cases s with
  | nil => exact Option.not_isSome_iff_eq_none.mp (by rw [occurs] at h; rw [h]; decide)
  | cons c r =>
    rw [occurs, Bool.or_eq_false_iff] at h
    exact Option.not_isSome_iff_eq_none.mp (by rw [h.1]; decide)

theorem not_occurs_of_suffix (h : occurs shape s = false) (hr : r <:+ s) : occurs shape r = false := by
  induction s with
  | nil => rwa [List.suffix_nil.mp hr]
  | cons c s ih =>
    rcases List.suffix_cons_iff.mp hr with rfl | hr
    · exact h
    · rw [occurs, Bool.or_eq_false_iff] at h
      exact ih h.2 hr

theorem spansFrom_eq_nil (h : ∀ r, r <:+ s → shape r = none) : spansFrom shape place busy s = [] := by
  induction s generalizing place busy with
  | nil => rfl
  | cons c r ih =>
    have hrest : ∀ r', r' <:+ r → shape r' = none :=
      fun r' hr' => h r' (hr'.trans (List.suffix_cons c r))
    unfold spansFrom
    rw [h _ (List.suffix_refl _)]
    split
    · exact ih hrest
    · exact ih hrest

theorem suffix_of_caseless {w : List Char} (h : caseless w s = some r) : r <:+ s := by
  induction w generalizing s with
  | nil =>
    obtain rfl := Option.some.inj h
    exact List.suffix_refl _
  | cons c w ih =>
    cases s with
    | nil => cases h
    | cons d s =>
      rw [caseless] at h
      split at h
      · exact (ih h).trans (List.suffix_cons d s)
      · cases h

theorem suffix_of_through {c : Char} (h : through c s = some r) : r <:+ s := by
  induction s with
  | nil => cases h
  | cons d s ih =>
    rw [through] at h
    split at h
    · obtain rfl := Option.some.inj h
      exact List.suffix_cons d s
    · exact (ih h).trans (List.suffix_cons d s)

theorem suffix_of_wordEnd (h : wordEnd s = some r) : r = s := by
  unfold wordEnd at h
  split at h
  · exact (Option.some.inj h).symm
  · cases h

theorem inside_of_caseless {w : List Char} (hw : ∀ c ∈ w, isNameChar c = true)
    (h : caseless w s = some r) : ∃ u, s = u ++ r ∧ '<' ∉ u := by
  induction w generalizing s with
  | nil =>
    obtain rfl := Option.some.inj h
    exact ⟨[], rfl, List.not_mem_nil⟩
  | cons c w ih =>
    obtain ⟨hc, hw⟩ := List.forall_mem_cons.mp hw
    cases s with
    | nil => cases h
    | cons d s =>
      rw [caseless] at h
      split at h
      next hcd =>
        obtain ⟨u, rfl, hu⟩ := ih hw h
        refine ⟨d :: u, rfl, List.not_mem_cons_of_ne_of_not_mem ?_ hu⟩
        rintro rfl
        rw [sameCase_eq_false hc (by decide) rfl] at hcd
        cases hcd
      next => cases h

end Text.Shape

namespace Line

open Text.Shape

variable {shape : Shape} {tag : String} {place busy : Nat} {page s u r body : List Char}

/-- Where the shape stands outside comments; the next `busy` characters still belong to one. -/
def visible (shape : Shape) (place busy : Nat) : List Char → List Nat
  | [] => []
  | c :: r =>
    match busy with
    | n + 1 => visible shape (place + 1) n r
    | 0 =>
      match comment (c :: r) with
      | some rest => visible shape (place + 1) ((c :: r).length - rest.length - 1) r
      | none =>
        if (shape (c :: r)).isSome then place :: visible shape (place + 1) 0 r
        else visible shape (place + 1) 0 r

theorem angled_comment : comment.Angled := by
  refine ⟨rfl, ?_⟩
  intro c r hc
  unfold comment
  split
  next heq => exact absurd (List.cons.inj heq).1 hc
  next => rfl

theorem suffix_afterComment (s : List Char) : afterComment s <:+ s := by
  fun_induction afterComment s with
  | case1 r => exact ⟨['-', '-', '>'], rfl⟩
  | case2 c r _ ih => exact ih.trans (List.suffix_cons c r)
  | case3 => exact List.suffix_refl _

theorem length_comment_lt {rest : List Char} (h : comment s = some rest) : rest.length < s.length := by
  unfold comment at h
  split at h
  next r =>
    obtain rfl := Option.some.inj h
    have hle := (suffix_afterComment r).length_le
    simp only [List.length_cons]
    omega
  next => cases h

/-- Past its own front a new comment hides as many places as its length keeps busy. -/
theorem outside_cons {c : Char} {rest : List Char} {n : Nat} {others : List Span}
    (hn : place + 1 ≤ n) (hrest : rest.length < (c :: r).length) :
    (decide (place + 0 ≤ n) &&
      !(⟨place, place + ((c :: r).length - rest.length)⟩ :: others : List Span).any (·.covers n)) =
    (decide (place + 1 + ((c :: r).length - rest.length - 1) ≤ n) && !others.any (·.covers n)) := by
  have hcovers : (⟨place, place + ((c :: r).length - rest.length)⟩ : Span).covers n =
      !decide (place + 1 + ((c :: r).length - rest.length - 1) ≤ n) := by
    rw [Span.covers, Bool.eq_iff_iff]
    simp only [Bool.and_eq_true, Bool.not_eq_true', decide_eq_true_eq, decide_eq_false_iff_not]
    omega
  rw [List.any_cons, hcovers, Bool.not_or, Bool.not_not, decide_eq_true (by omega : place + 0 ≤ n),
    Bool.true_and]

theorem filter_positions (shape : Shape) (place busy : Nat) (s : List Char) :
    (positions shape place s).filter (fun n =>
      place + busy ≤ n && !(spansFrom comment place busy s).any (·.covers n)) =
        visible shape place busy s := by
  induction s generalizing place busy with
  | nil => rfl
  | cons c r ih =>
    cases busy with
    -- Inside a comment the front is left out.
    | succ k =>
      have hshift : place + (k + 1) = place + 1 + k := by omega
      rw [visible, spansFrom, ← ih, hshift, positions]
      split
      · rw [List.filter_cons_of_neg]
        simp only [Bool.and_eq_true, decide_eq_true_eq]
        omega
      · rfl
    | zero =>
      rw [visible, spansFrom]
      cases hcomment : comment (c :: r) with
      -- What the new comment covers is what its length keeps busy.
      | some rest =>
        have hlt := length_comment_lt hcomment
        have hhere : (⟨place, place + ((c :: r).length - rest.length)⟩ : Span).covers place = true := by
          simp only [Span.covers, Bool.and_eq_true, decide_eq_true_eq]
          omega
        dsimp only
        rw [← ih, positions]
        split
        · rw [List.filter_cons_of_neg (by rw [List.any_cons, hhere]; simp)]
          exact List.filter_congr fun n hn => outside_cons (le_of_mem_positions hn) hlt
        · exact List.filter_congr fun n hn => outside_cons (le_of_mem_positions hn) hlt
      -- Later comments begin later, so none of them covers the front.
      | none =>
        have hrest : (positions shape (place + 1) r).filter (fun n =>
            place + 0 ≤ n && !(spansFrom comment (place + 1) 0 r).any (·.covers n)) =
            visible shape (place + 1) 0 r := by
          rw [← ih]
          apply List.filter_congr
          intro n hn
          have hle := le_of_mem_positions hn
          rw [decide_eq_true (by omega : place + 0 ≤ n), decide_eq_true (by omega : place + 1 + 0 ≤ n)]
        dsimp only
        rw [positions]
        split
        · rw [List.filter_cons_of_pos, hrest]
          rw [Bool.and_eq_true, decide_eq_true_eq, Bool.not_eq_true', List.any_eq_false]
          refine ⟨Nat.le_refl _, ?_⟩
          intro span hspan
          have hstart := le_start_of_mem_spansFrom hspan
          rw [Span.covers, Bool.and_eq_true, decide_eq_true_eq]
          omega
        · exact hrest

theorem visible_of_busy (hu : u.length = busy) :
    visible shape place busy (u ++ r) = visible shape (place + u.length) 0 r := by
  induction u generalizing place busy with
  | nil =>
    obtain rfl : 0 = busy := hu
    rfl
  | cons c u ih =>
    obtain rfl : u.length + 1 = busy := hu
    rw [List.cons_append, visible, ih rfl, List.length_cons, Nat.add_right_comm, Nat.add_assoc]

theorem visible_append (h : shape.Angled) (hu : '<' ∉ u) :
    visible shape place 0 (u ++ r) = visible shape (place + u.length) 0 r := by
  induction u generalizing place with
  | nil => rfl
  | cons c u ih =>
    rw [List.mem_cons, not_or] at hu
    rw [List.cons_append, visible, angled_comment.cons _ _ (Ne.symm hu.1), h.cons _ _ (Ne.symm hu.1)]
    dsimp only
    rw [if_neg (by decide), ih hu.2, List.length_cons, Nat.add_right_comm, Nat.add_assoc]

theorem visible_cons (h : shape.Angled) (hu : '<' ∉ u) (hcomment : comment ('<' :: (u ++ r)) = none) :
    visible shape place 0 ('<' :: u ++ r) =
      (if (shape ('<' :: (u ++ r))).isSome then [place] else []) ++
        visible shape (place + ('<' :: u).length) 0 r := by
  rw [List.cons_append, visible, hcomment]
  dsimp only
  rw [visible_append h hu, List.length_cons, Nat.add_right_comm, Nat.add_assoc]
  split <;> rfl

theorem afterComment_cons {c : Char} (h : ¬ ['-', '-', '>'] <+: c :: r) :
    afterComment (c :: r) = afterComment r := by
  rw [afterComment]
  rintro r' heq rfl
  subst heq
  exact h ⟨r', rfl⟩

/-- A comment ends with the first end mark after its beginning. -/
theorem afterComment_append (h : Text.holds ['-', '-', '>'] body = false) :
    afterComment (body ++ ['-', '-', '>'] ++ r) = r := by
  induction body with
  | nil => rfl
  | cons c body ih =>
    rw [Text.holds, Bool.or_eq_false_iff] at h
    rw [List.cons_append, List.cons_append, afterComment_cons, ih h.2]
    intro hmark
    -- An end mark that begins here would have to end in the body, which has none.
    match body, hmark with
    | [], hmark => simp [List.cons_prefix_cons] at hmark
    | [_], hmark => simp [List.cons_prefix_cons] at hmark
    | _ :: _ :: _, hmark =>
      have hbody := h.1
      simp only [List.cons_append, List.cons_prefix_cons] at hmark
      simp [List.isPrefixOf, ← hmark.1, ← hmark.2.1, ← hmark.2.2.1] at hbody

theorem visible_comment (h : Text.holds ['-', '-', '>'] body = false) :
    visible shape place 0 ('<' :: '!' :: '-' :: '-' :: (body ++ ['-', '-', '>']) ++ r) =
      visible shape (place + ('<' :: '!' :: '-' :: '-' :: (body ++ ['-', '-', '>'])).length) 0 r := by
  have hcomment : comment ('<' :: ('!' :: '-' :: '-' :: (body ++ ['-', '-', '>']) ++ r)) = some r :=
    congrArg some (afterComment_append h)
  have hlength : ('!' :: '-' :: '-' :: (body ++ ['-', '-', '>'])).length =
      ('<' :: ('!' :: '-' :: '-' :: (body ++ ['-', '-', '>']) ++ r)).length - r.length - 1 := by
    simp only [List.length_cons, List.length_append]
    omega
  rw [List.cons_append, visible, hcomment]
  dsimp only
  rw [visible_of_busy hlength, List.length_cons (a := '<'), Nat.add_right_comm, Nat.add_assoc]

theorem first_eq_none (h : occurs shape s = false) (passed : Nat) : first shape passed s = none := by
  induction s generalizing passed with
  | nil => rw [first, eq_none_of_not_occurs h]; rfl
  | cons c r ih =>
    have hnone := eq_none_of_not_occurs h
    rw [occurs, Bool.or_eq_false_iff] at h
    rw [first, hnone]
    exact ih h.2 _

theorem suffix_of_textOpening (h : textOpening tag s = some r) : r <:+ s := by
  simp only [textOpening, Shape.sequence, Option.bind_eq_some_iff] at h
  obtain ⟨t, ht, v, hv, x, hx, hr⟩ := h
  obtain rfl := Option.some.inj hr
  obtain rfl := suffix_of_wordEnd hv
  exact (suffix_of_through hx).trans (suffix_of_caseless ht)

theorem textElement_eq_none (h : occurs (closingTag tag) s = false) : textElement tag s = none := by
  rw [textElement, Option.bind_eq_none_iff]
  intro r hr
  rw [first_eq_none (not_occurs_of_suffix h (suffix_of_textOpening hr))]
  rfl

theorem hidden_eq (h : ∀ tag ∈ textTags, occurs (closingTag tag) page = false) :
    hidden page = comment.spans page := by
  have hnone : ∀ tag ∈ textTags, (textElement tag).spans page = [] := fun tag htag =>
    spansFrom_eq_nil fun r hr => textElement_eq_none (not_occurs_of_suffix (h tag htag) hr)
  have hcontents : (textTags.flatMap fun tag =>
      ((textElement tag).spans page).filterMap (contentOf tag page)) = [] := by
    rw [List.flatMap_eq_nil_iff]
    intro tag htag
    rw [hnone tag htag]
    rfl
  rw [hidden, hcontents, List.append_nil]

theorem angled_opening (tag : String) : (opening tag).Angled := by
  refine ⟨rfl, ?_⟩
  intro c r hc
  simp only [opening, Shape.sequence, one, beq_false_of_ne hc]
  rfl

theorem angled_closingTag (tag : String) : (closingTag tag).Angled := by
  refine ⟨rfl, ?_⟩
  intro c r hc
  have hcase : Text.sameCase '<' c = false :=
    Bool.eq_false_iff.mpr fun h => hc (Text.eq_of_sameCase_mark (.inl rfl) h)
  simp only [closingTag, Shape.sequence, caseless, hcase]
  rfl

theorem inside_of_opening (htag : ∀ c ∈ tag.toList, isNameChar c = true) (c : Char) (r rest : List Char)
    (h : opening tag (c :: r) = some rest) : ∃ u, r = u ++ rest ∧ '<' ∉ u := by
  simp only [opening, Shape.sequence, Option.bind_eq_some_iff] at h
  obtain ⟨s, hs, t, ht, x, hx, hrest⟩ := h
  obtain rfl := Option.some.inj hrest
  obtain rfl : r = s := by
    rw [one] at hs
    split at hs
    · exact Option.some.inj hs
    · cases hs
  obtain ⟨u, rfl, hu⟩ := inside_of_caseless htag ht
  cases t with
  | nil => cases hx
  | cons d t =>
    rw [one] at hx
    split at hx
    next hd =>
      obtain rfl := Option.some.inj hx
      refine ⟨u ++ [d], (List.append_assoc u [d] t).symm, ?_⟩
      rw [List.mem_append, List.mem_singleton, not_or]
      refine ⟨hu, ?_⟩
      rintro rfl
      exact absurd hd (by decide)
    next => cases hx

/-- Where a tag is opened outside of comments and of the content of elements that hold text. -/
def shown (tag : String) (page : List Char) : List Nat :=
  (positions (opening tag) 0 page).filter fun n => !(hidden page).any (·.covers n)

theorem starts_openings (htag : ∀ c ∈ tag.toList, isNameChar c = true) (page : List Char) :
    (openings tag page).map (·.start) = shown tag page := by
  have hstarts : ((opening tag).spans page).map (·.start) = positions (opening tag) 0 page :=
    starts_spansFrom (angled_opening tag) (inside_of_opening htag) List.not_mem_nil
  rw [shown, ← hstarts, List.filter_map]
  rfl

/-- The openings of a tag in a text where no element of text is closed. -/
theorem openings_eq (htag : ∀ c ∈ tag.toList, isNameChar c = true)
    (h : ∀ tag ∈ textTags, occurs (closingTag tag) page = false) :
    (openings tag page).map (·.start) = visible (opening tag) 0 0 page := by
  rw [starts_openings htag, shown, hidden_eq h, ← filter_positions]
  rfl

end Line

end PageGrader
