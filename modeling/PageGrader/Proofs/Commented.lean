import PageGrader.Proofs.Counting
import PageGrader.Proofs.Line

namespace PageGrader

open Text (Shape Span)

def Text.Span.shift (n : Nat) (s : Span) : Span := ⟨s.start + n, s.stop + n⟩

namespace Text.Shape

variable {shape : Shape} {place busy n : Nat} {s u v r rest page : List Char} {w : List Char}

def Keeps (shape : Shape) : Prop :=
  ∀ s, ∃ left : Option (List Char), ∀ r, shape (s ++ '>' :: r) = left.map (· ++ '>' :: r)

/-- A shape that goes no further than a `>`, so what follows one does not matter. -/
def Stops (shape : Shape) : Prop := ∀ s r, shape (s ++ '>' :: r) = (shape (s ++ ['>'])).map (· ++ r)

theorem keeps_one {p : Char → Bool} (hp : p '>' = false) : Keeps (one p) := by
  intro s
  cases s with
  | nil => exact ⟨none, fun r => by simp [one, hp]⟩
  | cons c s =>
    refine ⟨if p c then some s else none, fun r => ?_⟩
    rw [List.cons_append, one]
    split <;> rfl

theorem keeps_caseless (hw : ∀ c ∈ w, sameCase c '>' = false) : Keeps (caseless w) := by
  intro s
  induction w generalizing s with
  | nil => exact ⟨some s, fun r => rfl⟩
  | cons c w ih =>
    obtain ⟨hc, hw⟩ := List.forall_mem_cons.mp hw
    cases s with
    | nil => exact ⟨none, fun r => by simp [caseless, hc]⟩
    | cons d s =>
      obtain ⟨left, hleft⟩ := ih hw s
      refine ⟨if sameCase c d then left else none, fun r => ?_⟩
      rw [List.cons_append, caseless]
      split
      · exact hleft r
      · rfl

theorem keeps_blanks : Keeps blanks := by
  intro s
  refine ⟨some (s.dropWhile isBlank), fun r => ?_⟩
  have hmark : isBlank '>' = false := by decide
  rw [blanks, List.dropWhile_append, List.dropWhile_cons_of_neg (by simp [hmark])]
  split
  next hnil => simp [List.isEmpty_iff.mp hnil]
  next => rfl

theorem keeps_wordEnd : Keeps wordEnd := by
  intro s
  refine ⟨if endsWord (s ++ ['>']) then some s else none, fun r => ?_⟩
  have hends : endsWord (s ++ '>' :: r) = endsWord (s ++ ['>']) := by cases s <;> rfl
  rw [wordEnd, hends]
  split <;> rfl

theorem stops_one (p : Char → Bool) : Stops (one p) := by
  intro s r
  cases s with
  | nil =>
    simp only [List.nil_append, one]
    split <;> rfl
  | cons c s =>
    simp only [List.cons_append, one]
    split <;> simp

theorem stops_through : Stops (through '>') := by
  intro s r
  induction s with
  | nil => simp [through]
  | cons c s ih =>
    simp only [List.cons_append, through]
    split
    · simp
    · exact ih

theorem Stops.last (h : Stops shape) : Stops (sequence [shape]) := by
  intro s r
  have hsome (s : List Char) : sequence [shape] s = shape s := Option.bind_fun_some (shape s)
  rw [hsome, hsome, h]

theorem Keeps.andThen {shapes : List Shape} (hfirst : Keeps shape) (hrest : Stops (sequence shapes)) :
    Stops (sequence (shape :: shapes)) := by
  intro s r
  obtain ⟨left, hleft⟩ := hfirst s
  rw [sequence, sequence, hleft, hleft]
  cases left with
  | none => rfl
  | some t => exact hrest t r

def Marked (u : List Char) : Prop := ∀ c ∈ u.getLast?, c = '>'

theorem Marked.of_suffix (h : Marked u) (hv : v <:+ u) : Marked v := by
  obtain ⟨t, rfl⟩ := hv
  intro c hc
  apply h
  rw [List.getLast?_append, Option.mem_def.mp hc]
  rfl

theorem Stops.append (h : Stops shape) (hu : Marked u) (hne : u ≠ []) :
    shape (u ++ r) = (shape u).map (· ++ r) := by
  obtain ⟨s, c, rfl⟩ := List.eq_nil_or_concat u |>.resolve_left hne
  obtain rfl : c = '>' := hu c (by simp)
  rw [List.concat_eq_append, List.append_assoc]
  exact h s r

theorem spansFrom_of_none {c : Char} (h : shape (c :: r) = none) :
    spansFrom shape place 0 (c :: r) = spansFrom shape (place + 1) 0 r := by
  rw [spansFrom, h]

theorem spansFrom_of_some {c : Char} (h : shape (c :: r) = some rest) :
    spansFrom shape place 0 (c :: r) = ⟨place, place + ((c :: r).length - rest.length)⟩ ::
      spansFrom shape (place + 1) ((c :: r).length - rest.length - 1) r := by
  rw [spansFrom, h]

theorem spansFrom_shift (place busy k : Nat) (s : List Char) :
    spansFrom shape (place + k) busy s = (spansFrom shape place busy s).map (Span.shift k) := by
  induction s generalizing place busy with
  | nil => rfl
  | cons c r ih =>
    have hplace : place + k + 1 = place + 1 + k := Nat.add_right_comm place k 1
    cases busy with
    | succ n => rw [spansFrom, spansFrom, hplace, ih]
    | zero =>
      cases hshape : shape (c :: r) with
      | none => rw [spansFrom_of_none hshape, spansFrom_of_none hshape, hplace, ih]
      | some rest =>
        rw [spansFrom_of_some hshape, spansFrom_of_some hshape, hplace, ih, List.map_cons, Span.shift,
          Nat.add_right_comm]

/-- The rests of a text at which the shape is looked for, those that begin outside of its occurrences. -/
def looks (shape : Shape) (busy : Nat) : List Char → List (List Char)
  | [] => []
  | c :: r =>
    match busy with
    | n + 1 => looks shape n r
    | 0 =>
      (c :: r) :: looks shape (((shape (c :: r)).map fun rest => (c :: r).length - rest.length - 1).getD 0) r

theorem suffix_of_mem_looks (h : v ∈ looks shape busy u) : v <:+ u ∧ v ≠ [] := by
  induction u generalizing busy with
  | nil => cases h
  | cons c u ih =>
    have hlater {busy : Nat} (h : v ∈ looks shape busy u) : v <:+ c :: u ∧ v ≠ [] :=
      ⟨(ih h).1.trans (List.suffix_cons c u), (ih h).2⟩
    cases busy with
    | succ n => exact hlater h
    | zero =>
      rcases List.mem_cons.mp h with rfl | h
      · exact ⟨List.suffix_refl _, List.cons_ne_nil c u⟩
      · exact hlater h

/-- A second text adds just its own occurrences, as long as it changes nothing where the shape is looked
for in the first. -/
theorem spansFrom_append (hbusy : busy ≤ u.length)
    (h : ∀ v ∈ looks shape busy u, shape (v ++ page) = (shape v).map (· ++ page)) :
    spansFrom shape place busy (u ++ page) =
      spansFrom shape place busy u ++ spansFrom shape (place + u.length) 0 page := by
  induction u generalizing place busy with
  | nil =>
    obtain rfl : busy = 0 := Nat.le_zero.mp hbusy
    rfl
  | cons c u ih =>
    have hplace : place + (c :: u).length = place + 1 + u.length := by rw [List.length_cons]; omega
    rw [List.length_cons] at hbusy
    rw [hplace, List.cons_append]
    cases busy with
    | succ k => exact ih (by omega) h
    | zero =>
      obtain ⟨hhere, hlater⟩ := List.forall_mem_cons.mp h
      cases hshape : shape (c :: u) with
      | none =>
        rw [hshape, List.cons_append] at hhere
        rw [hshape] at hlater
        rw [spansFrom_of_none hhere, spansFrom_of_none hshape]
        exact ih (Nat.zero_le _) hlater
      | some rest =>
        have htaken : (c :: (u ++ page)).length - (rest ++ page).length = (c :: u).length - rest.length := by
          rw [← List.cons_append, List.length_append, List.length_append, Nat.add_sub_add_right]
        rw [hshape, List.cons_append] at hhere
        rw [hshape, Option.map_some, Option.getD_some] at hlater
        rw [spansFrom_of_some hhere, spansFrom_of_some hshape, htaken, List.cons_append,
          ih (by rw [List.length_cons]; omega) hlater]

theorem spans_append (h : ∀ v ∈ looks shape 0 u, shape (v ++ page) = (shape v).map (· ++ page)) :
    spans shape (u ++ page) = spans shape u ++ (spans shape page).map (Span.shift u.length) := by
  rw [spans, spansFrom_append (Nat.zero_le _) h, spansFrom_shift]
  rfl

theorem exists_of_mem_spansFrom {span : Span} (h : span ∈ spansFrom shape place busy s) :
    ∃ before v rest, s = before ++ v ∧ span.start = place + before.length ∧ v ≠ [] ∧
      shape v = some rest ∧ span.stop = span.start + (v.length - rest.length) := by
  induction s generalizing place busy with
  | nil => cases h
  | cons c r ih =>
    have hlater {busy : Nat} (h : span ∈ spansFrom shape (place + 1) busy r) :
        ∃ before v rest, c :: r = before ++ v ∧ span.start = place + before.length ∧ v ≠ [] ∧
          shape v = some rest ∧ span.stop = span.start + (v.length - rest.length) := by
      obtain ⟨before, v, rest, rfl, hstart, hv⟩ := ih h
      refine ⟨c :: before, v, rest, rfl, ?_, hv⟩
      rw [hstart, List.length_cons]
      omega
    unfold spansFrom at h
    split at h
    · exact hlater h
    · split at h
      next rest hrest =>
        rcases List.mem_cons.mp h with rfl | h
        · exact ⟨[], c :: r, rest, rfl, rfl, List.cons_ne_nil c r, hrest, rfl⟩
        · exact hlater h
      · exact hlater h

theorem start_lt_of_mem_spans {span : Span} (h : span ∈ spans shape s) : span.start < s.length := by
  obtain ⟨before, v, rest, rfl, hstart, hv, -⟩ := exists_of_mem_spansFrom h
  have hpos : 0 < v.length := List.length_pos_of_ne_nil hv
  rw [hstart, List.length_append]
  omega

end Text.Shape

namespace Line

open Text.Shape

variable {tag : String} {passed n : Nat} {page u v rest body : List Char} {span content : Span}

theorem sameCase_mark (htag : '>' ∉ tag.toList) : ∀ c ∈ tag.toList, Text.sameCase c '>' = false := by
  intro c hc
  rw [Bool.eq_false_iff]
  intro hsame
  rw [Text.sameCase_comm] at hsame
  exact htag (Text.eq_of_sameCase_mark (.inr rfl) hsame ▸ hc)

theorem stops_opening (htag : '>' ∉ tag.toList) : Stops (opening tag) :=
  (keeps_one (by decide)).andThen <| (keeps_caseless (sameCase_mark htag)).andThen (stops_one _).last

theorem stops_closingTag (htag : '>' ∉ tag.toList) : Stops (closingTag tag) := by
  have hname : ∀ c ∈ '<' :: '/' :: tag.toList, Text.sameCase c '>' = false :=
    List.forall_mem_cons.mpr ⟨by decide, List.forall_mem_cons.mpr ⟨by decide, sameCase_mark htag⟩⟩
  exact (keeps_caseless hname).andThen (keeps_blanks.andThen (stops_one _).last)

theorem stops_textOpening (htag : '>' ∉ tag.toList) : Stops (textOpening tag) := by
  have hname : ∀ c ∈ '<' :: tag.toList, Text.sameCase c '>' = false :=
    List.forall_mem_cons.mpr ⟨by decide, sameCase_mark htag⟩
  exact (keeps_caseless hname).andThen (keeps_wordEnd.andThen stops_through.last)

theorem mark_not_mem_textTags : ∀ tag ∈ textTags, '>' ∉ tag.toList := by decide

theorem first_passed (shape : Shape) (passed : Nat) (s : List Char) :
    first shape passed s = (first shape 0 s).map fun found => (passed + found.1, found.2) := by
  induction s generalizing passed with
  | nil => cases hshape : shape [] <;> simp [first, hshape]
  | cons c r ih =>
    cases hshape : shape (c :: r) with
    | some rest => simp [first, hshape]
    | none =>
      simp only [first, hshape]
      rw [ih (passed + 1), ih (0 + 1), Option.map_map]
      congr 1
      funext found
      simp only [Function.comp_apply, Prod.mk.injEq, and_true]
      omega

/-- A first place in the first text, or else one in the second. -/
theorem first_append {shape : Shape} (h : Stops shape) (hnil : shape [] = none) (hu : Marked u)
    (passed : Nat) (page : List Char) :
    first shape passed (u ++ page) =
      ((first shape passed u).map fun found => (found.1, found.2 ++ page)).or
        (first shape (passed + u.length) page) := by
  induction u generalizing passed with
  | nil => simp [first, hnil]
  | cons c u ih =>
    have happend := h.append (r := page) hu (List.cons_ne_nil c u)
    rw [List.cons_append] at happend ⊢
    rw [first, first, happend]
    cases shape (c :: u) with
    | some rest => rfl
    | none =>
      rw [List.length_cons, Nat.add_comm u.length, ← Nat.add_assoc]
      exact ih (hu.of_suffix (List.suffix_cons c u)) (passed + 1)

/-- An element of text is opened, outside of those that are closed, and not closed again. -/
def LeavesOpen (tag : String) (s : List Char) : Prop :=
  ∃ v ∈ looks (textElement tag) 0 s, (textOpening tag v).isSome ∧ textElement tag v = none

instance : Decidable (LeavesOpen tag u) :=
  inferInstanceAs (Decidable (∃ v ∈ _, _))

/-- What an element of text is does not depend on what follows, unless it is still open. -/
theorem textElement_append (htag : '>' ∉ tag.toList) (hu : Marked u) (hne : u ≠ [])
    (h : (textOpening tag u).isSome → textElement tag u = none → first (closingTag tag) 0 page = none) :
    textElement tag (u ++ page) = (textElement tag u).map (· ++ page) := by
  have hopening := (stops_textOpening htag).append (r := page) hu hne
  cases hrest : textOpening tag u with
  | none => simp [textElement, hopening, hrest]
  | some r =>
    have hmarked := hu.of_suffix (suffix_of_textOpening hrest)
    have hfirst := first_append (stops_closingTag htag) rfl hmarked 0 page
    simp only [textElement, hopening, hrest, Option.map_some, Option.bind_some, hfirst]
    cases hclosed : first (closingTag tag) 0 r with
    | some found => rfl
    | none =>
      have hnone := h (by rw [hrest]; rfl) (by simp [textElement, hrest, hclosed])
      rw [first_passed, hnone]
      rfl

theorem spans_textElement_append (htag : '>' ∉ tag.toList) (hu : Marked u)
    (h : LeavesOpen tag u → first (closingTag tag) 0 page = none) :
    (textElement tag).spans (u ++ page) =
      (textElement tag).spans u ++ ((textElement tag).spans page).map (Span.shift u.length) := by
  apply spans_append
  intro v hv
  obtain ⟨hsuffix, hne⟩ := suffix_of_mem_looks hv
  exact textElement_append htag (hu.of_suffix hsuffix) hne fun hsome hnone => h ⟨v, hv, hsome, hnone⟩

theorem spans_opening_append (htag : '>' ∉ tag.toList) (hu : Marked u) :
    (opening tag).spans (u ++ page) =
      (opening tag).spans u ++ ((opening tag).spans page).map (Span.shift u.length) := by
  apply spans_append
  intro v hv
  obtain ⟨hsuffix, hne⟩ := suffix_of_mem_looks hv
  exact (stops_opening htag).append (hu.of_suffix hsuffix) hne

theorem exists_of_first {shape : Shape} (h : first shape passed u = some (n, rest)) :
    ∃ before v, u = before ++ v ∧ n = passed + before.length ∧ shape v = some rest := by
  induction u generalizing passed with
  | nil =>
    obtain ⟨left, hleft, heq⟩ := Option.map_eq_some_iff.mp h
    obtain ⟨rfl, rfl⟩ := Prod.mk.inj heq
    exact ⟨[], [], rfl, rfl, hleft⟩
  | cons c u ih =>
    rw [first] at h
    split at h
    next left hleft =>
      obtain ⟨rfl, rfl⟩ := Prod.mk.inj (Option.some.inj h)
      exact ⟨[], c :: u, rfl, rfl, hleft⟩
    next =>
      obtain ⟨before, v, rfl, rfl, hv⟩ := ih h
      exact ⟨c :: before, v, rfl, by rw [List.length_cons]; omega, hv⟩

theorem suffix_of_closingTag (h : closingTag tag v = some rest) : rest <:+ v := by
  simp only [closingTag, Shape.sequence, Option.bind_eq_some_iff] at h
  obtain ⟨s, hs, t, ht, x, hx, hrest⟩ := h
  obtain rfl := Option.some.inj hrest
  obtain rfl := Option.some.inj ht
  have hone : x <:+ s.dropWhile Text.isBlank := by
    unfold one at hx
    split at hx
    next c r hcr =>
      split at hx
      · obtain rfl := Option.some.inj hx
        rw [hcr]
        exact List.suffix_cons c r
      · cases hx
    next => cases hx
  exact (hone.trans (List.dropWhile_suffix _)).trans (suffix_of_caseless hs)

theorem stop_contentOf_le (hspan : span ∈ (textElement tag).spans page)
    (hcontent : contentOf tag page span = some content) : content.stop ≤ span.stop := by
  obtain ⟨before, v, rest, rfl, hstart, -, hv, hstop⟩ := exists_of_mem_spansFrom hspan
  rw [Nat.zero_add] at hstart
  rw [contentOf, hstart, List.drop_left, Option.bind_eq_some_iff] at hcontent
  obtain ⟨r, hr, hcontent⟩ := hcontent
  obtain ⟨⟨n, left⟩, hfirst, rfl⟩ := Option.map_eq_some_iff.mp hcontent
  rw [textElement, hr, Option.bind_some, hfirst] at hv
  obtain rfl : left = rest := Option.some.inj hv
  obtain ⟨inside, w, rfl, rfl, hw⟩ := exists_of_first hfirst
  have hr := (suffix_of_textOpening hr).length_le
  have hw := (suffix_of_closingTag hw).length_le
  simp only [List.length_append] at *
  omega

theorem contentOf_shift (u page : List Char) (span : Span) :
    contentOf tag (u ++ page) (span.shift u.length) =
      (contentOf tag page span).map (Span.shift u.length) := by
  have hdrop : (u ++ page).drop (span.start + u.length) = page.drop span.start := by
    rw [Nat.add_comm, ← List.drop_drop, List.drop_left]
  rw [contentOf, contentOf, Span.shift, hdrop]
  cases hr : textOpening tag (page.drop span.start) with
  | none => rfl
  | some r =>
    have hle := (suffix_of_textOpening hr).length_le
    rw [List.length_drop] at hle
    simp only [Option.bind_some, Option.map_map]
    congr 1
    funext found
    simp only [Function.comp_apply, Span.shift, Span.mk.injEq, List.length_append]
    omega

def commentOf (body : List Char) : List Char := '<' :: '!' :: '-' :: '-' :: (body ++ ['-', '-', '>'])

theorem marked_commentOf (body : List Char) : Marked (commentOf body) := by
  intro c hc
  have hlast : (commentOf body).getLast? = some '>' := by
    simp [commentOf, List.getLast?_cons, List.getLast?_append]
  rw [hlast] at hc
  exact (Option.some.inj hc).symm

theorem spans_comment_append (hbody : Text.holds ['-', '-', '>'] body = false) (page : List Char) :
    comment.spans (commentOf body ++ page) =
      ⟨0, (commentOf body).length⟩ :: (comment.spans page).map (Span.shift (commentOf body).length) := by
  obtain ⟨u, hu⟩ : ∃ u, commentOf body = '<' :: u := ⟨_, rfl⟩
  have hcomment : comment ('<' :: (u ++ page)) = some page := by
    rw [← List.cons_append, ← hu]
    exact congrArg some (afterComment_append hbody)
  have htaken : ('<' :: (u ++ page)).length - page.length = u.length + 1 := by
    rw [List.length_cons, List.length_append]
    omega
  have hplace : 0 + 1 + u.length = 0 + ('<' :: u).length := by rw [List.length_cons]; omega
  rw [hu, spans, List.cons_append, spansFrom_of_some hcomment, htaken, Nat.add_sub_cancel,
    spansFrom_of_busy rfl, hplace, spansFrom_shift, Nat.zero_add, List.length_cons]
  rfl

theorem covers_shift (span : Span) (k n : Nat) : (span.shift k).covers (n + k) = span.covers n := by
  rw [Span.covers, Span.covers, Span.shift, Bool.eq_iff_iff]
  simp only [Bool.and_eq_true, decide_eq_true_eq]
  omega

theorem covers_eq_false (h : span.stop ≤ n) : span.covers n = false := by
  rw [Span.covers, Bool.and_eq_false_iff, decide_eq_false_iff_not, decide_eq_false_iff_not]
  omega

theorem stop_le_of_mem_spans {shape : Shape} (h : span ∈ shape.spans page) : span.stop ≤ page.length := by
  obtain ⟨before, v, rest, rfl, hstart, -, -, hstop⟩ := exists_of_mem_spansFrom h
  rw [List.length_append]
  omega

/-- Behind a text that leaves no element of text open, the contents of such elements are where they would
be without it. -/
theorem contents_append (htag : '>' ∉ tag.toList) (hu : Marked u)
    (h : LeavesOpen tag u → first (closingTag tag) 0 page = none) (n : Nat) :
    (((textElement tag).spans (u ++ page)).filterMap (contentOf tag (u ++ page))).any
        (·.covers (n + u.length)) =
      (((textElement tag).spans page).filterMap (contentOf tag page)).any (·.covers n) := by
  have hspans := spans_textElement_append htag hu h
  have hbefore : (((textElement tag).spans u).filterMap (contentOf tag (u ++ page))).any
      (·.covers (n + u.length)) = false := by
    rw [List.any_eq_false]
    intro content hcontent
    obtain ⟨span, hspan, hcontent⟩ := List.mem_filterMap.mp hcontent
    have hstop := stop_le_of_mem_spans hspan
    have hle := stop_contentOf_le (hspans ▸ List.mem_append_left _ hspan) hcontent
    rw [covers_eq_false (by omega)]
    decide
  rw [hspans, List.filterMap_append, List.any_append, hbefore, Bool.false_or, List.filterMap_map]
  have hshift : contentOf tag (u ++ page) ∘ Span.shift u.length =
      fun span => (contentOf tag page span).map (Span.shift u.length) :=
    funext (contentOf_shift u page)
  rw [hshift, ← List.map_filterMap, List.any_map]
  congr 1
  funext content
  exact covers_shift content u.length n

theorem hidden_append (hbody : Text.holds ['-', '-', '>'] body = false)
    (h : ∀ tag ∈ textTags, LeavesOpen tag (commentOf body) → first (closingTag tag) 0 page = none)
    (n : Nat) :
    (hidden (commentOf body ++ page)).any (·.covers (n + (commentOf body).length)) =
      (hidden page).any (·.covers n) := by
  have hfront : (⟨0, (commentOf body).length⟩ : Span).covers (n + (commentOf body).length) = false :=
    covers_eq_false (Nat.le_add_left _ _)
  have hcomments : ((comment.spans page).map (Span.shift (commentOf body).length)).any
      (·.covers (n + (commentOf body).length)) = (comment.spans page).any (·.covers n) := by
    rw [List.any_map]
    congr 1
    funext span
    exact covers_shift span _ n
  rw [hidden, hidden, List.any_append, List.any_append, spans_comment_append hbody, List.any_cons, hfront,
    Bool.false_or, hcomments, List.any_flatMap, List.any_flatMap]
  congr 1
  rw [Bool.eq_iff_iff, List.any_eq_true, List.any_eq_true]
  refine exists_congr fun tag => and_congr_right fun htag => ?_
  rw [contents_append (mark_not_mem_textTags tag htag) (marked_commentOf body) (h tag htag)]

theorem covers_front (hbody : Text.holds ['-', '-', '>'] body = false)
    (hn : n < (commentOf body).length) : (hidden (commentOf body ++ page)).any (·.covers n) = true := by
  rw [hidden, List.any_append, spans_comment_append hbody, List.any_cons, Span.covers]
  simp [hn]

theorem openings_append (hbody : Text.holds ['-', '-', '>'] body = false) (htag : '>' ∉ tag.toList)
    (h : ∀ tag ∈ textTags, LeavesOpen tag (commentOf body) → first (closingTag tag) 0 page = none) :
    openings tag (commentOf body ++ page) =
      (openings tag page).map (Span.shift (commentOf body).length) := by
  have hcomment : ((opening tag).spans (commentOf body)).filter
      (fun s => !(hidden (commentOf body ++ page)).any (·.covers s.start)) = [] := by
    rw [List.filter_eq_nil_iff]
    intro s hs
    rw [covers_front hbody (start_lt_of_mem_spans hs)]
    decide
  rw [openings, openings, spans_opening_append htag (marked_commentOf body), List.filter_append, hcomment,
    List.nil_append, List.filter_map]
  congr 1
  apply List.filter_congr
  intro s _
  exact congrArg _ (hidden_append hbody h s.start)

theorem lineOf_shift (u page : List Char) (s : Span) :
    lineOf (u ++ page) (s.shift u.length) = lineOf page s + u.count '\n' := by
  have htake : (u ++ page).take (s.start + u.length) = u ++ page.take s.start := by
    rw [Nat.add_comm, List.take_length_add_append]
  rw [lineOf, lineOf, Span.shift, htake, List.count_append]
  omega

theorem find?_append (hbody : Text.holds ['-', '-', '>'] body = false) (hd : Handle)
    (htag : '>' ∉ hd.tag.toList)
    (h : ∀ tag ∈ textTags, LeavesOpen tag (commentOf body) → first (closingTag tag) 0 page = none) :
    find? hd (commentOf body ++ page) = (find? hd page).map (· + (commentOf body).count '\n') := by
  rw [find?_eq, find?_eq, openings_append hbody htag h, List.getElem?_map, Option.map_map, Option.map_map]
  congr 1
  funext s
  exact lineOf_shift (commentOf body) page s

theorem exists_span_of_open (htag : '>' ∉ tag.toList) (hu : Marked u) (place : Nat) {busy : Nat}
    (h : ∃ v ∈ looks (textElement tag) busy u, (textOpening tag v).isSome ∧ textElement tag v = none) :
    ∃ before v, u = before ++ v ∧ v ≠ [] ∧ (textOpening tag v).isSome ∧ textElement tag v = none ∧
      ∀ page, (textElement tag (v ++ page)).isSome →
        ∃ span ∈ spansFrom (textElement tag) place busy (u ++ page), span.start = place + before.length := by
  induction u generalizing place busy with
  | nil =>
    obtain ⟨v, hv, -⟩ := h
    cases hv
  | cons c u ih =>
    have hmarked := hu.of_suffix (List.suffix_cons c u)
    cases busy with
    | succ k =>
      obtain ⟨before, v, rfl, hne, hopen, hnone, hspans⟩ := ih hmarked (place + 1) h
      refine ⟨c :: before, v, rfl, hne, hopen, hnone, fun page hpage => ?_⟩
      obtain ⟨span, hspan, hstart⟩ := hspans page hpage
      exact ⟨span, hspan, by rw [hstart, List.length_cons]; omega⟩
    | zero =>
      by_cases hhere : (textOpening tag (c :: u)).isSome ∧ textElement tag (c :: u) = none
      · refine ⟨[], c :: u, rfl, List.cons_ne_nil c u, hhere.1, hhere.2, fun page hpage => ?_⟩
        obtain ⟨rest, hrest⟩ := Option.isSome_iff_exists.mp hpage
        rw [List.cons_append] at hrest
        rw [List.cons_append, spansFrom_of_some hrest]
        exact ⟨_, List.mem_cons_self, rfl⟩
      · obtain ⟨v, hv, hopen⟩ := h
        have hlater := (List.mem_cons.mp hv).resolve_left fun heq => hhere (heq ▸ hopen)
        obtain ⟨before, v, rfl, hne, hopen, hnone, hspans⟩ := ih hmarked (place + 1) ⟨v, hlater, hopen⟩
        refine ⟨c :: before, v, rfl, hne, hopen, hnone, fun page hpage => ?_⟩
        obtain ⟨span, hspan, hstart⟩ := hspans page hpage
        refine ⟨span, ?_, by rw [hstart, List.length_cons]; omega⟩
        have happend : textElement tag (c :: (before ++ v ++ page)) =
            (textElement tag (c :: (before ++ v))).map (· ++ page) :=
          textElement_append htag hu (List.cons_ne_nil c _) fun hsome hnone => absurd ⟨hsome, hnone⟩ hhere
        rw [List.cons_append]
        cases helement : textElement tag (c :: (before ++ v)) with
        | none =>
          rw [helement] at happend hspan
          rw [spansFrom_of_none happend]
          exact hspan
        | some rest =>
          rw [helement] at happend hspan
          rw [spansFrom_of_some happend, ← List.cons_append, List.length_append, List.length_append,
            Nat.add_sub_add_right]
          exact List.mem_cons_of_mem _ hspan

theorem exists_content_of_open (htext : tag ∈ textTags) (h : LeavesOpen tag (commentOf body))
    (hclosed : first (closingTag tag) 0 page = some (n, rest)) :
    ∃ content ∈ hidden (commentOf body ++ page), content.start ≤ (commentOf body).length ∧
      content.stop = (commentOf body).length + n := by
  have htag := mark_not_mem_textTags tag htext
  obtain ⟨before, v, hbefore, hne, hopen, hnone, hspans⟩ :=
    exists_span_of_open htag (marked_commentOf body) 0 h
  have hv : Marked v := (marked_commentOf body).of_suffix ⟨before, hbefore.symm⟩
  obtain ⟨r, hr⟩ := Option.isSome_iff_exists.mp hopen
  -- The opening is in the comment, and the closing tag that it gets is the first one of the page.
  have hopening : textOpening tag (v ++ page) = some (r ++ page) := by
    rw [(stops_textOpening htag).append hv hne, hr]
    rfl
  have hunclosed : first (closingTag tag) 0 r = none := by
    rw [textElement, hr, Option.bind_some, Option.map_eq_none_iff] at hnone
    exact hnone
  have hfirst : first (closingTag tag) 0 (r ++ page) = some (r.length + n, rest) := by
    rw [first_append (stops_closingTag htag) rfl (hv.of_suffix (suffix_of_textOpening hr)), hunclosed,
      first_passed, hclosed]
    simp
  obtain ⟨span, hspan, hstart⟩ := hspans page (by simp [textElement, hopening, hfirst])
  rw [Nat.zero_add] at hstart
  have hlength : r.length ≤ (commentOf body).length := by
    have hle := (suffix_of_textOpening hr).length_le
    rw [hbefore, List.length_append]
    omega
  refine ⟨⟨(commentOf body).length - r.length, (commentOf body).length + n⟩, ?_, Nat.sub_le _ _, rfl⟩
  refine List.mem_append_right _ (List.mem_flatMap.mpr ⟨tag, htext, List.mem_filterMap.mpr ⟨span, hspan, ?_⟩⟩)
  rw [contentOf, hstart, hbefore, List.append_assoc, List.drop_left, hopening, Option.bind_some, hfirst,
    Option.map_some, ← hbefore]
  simp only [List.length_append, hbefore, Option.some.injEq, Span.mk.injEq] at *
  omega

/-- Behind a comment that leaves an element of text open nothing is found before the first closing tag. -/
theorem le_start_of_open (hbody : Text.holds ['-', '-', '>'] body = false) (htext : tag ∈ textTags)
    (h : LeavesOpen tag (commentOf body)) (hclosed : first (closingTag tag) 0 page = some (n, rest))
    {name : String} {s : Span} (hs : s ∈ openings name (commentOf body ++ page)) :
    (commentOf body).length + n ≤ s.start := by
  obtain ⟨content, hcontent, hstart, hstop⟩ := exists_content_of_open htext h hclosed
  have hvisible := (List.mem_filter.mp hs).2
  rw [Bool.not_eq_true', List.any_eq_false] at hvisible
  by_contra hlt
  by_cases hfront : s.start < (commentOf body).length
  · have hcovered : (hidden (commentOf body ++ page)).any (·.covers s.start) = true :=
      covers_front hbody hfront
    obtain ⟨span, hspan, hcovers⟩ := List.any_eq_true.mp hcovered
    exact hvisible span hspan hcovers
  · apply hvisible content hcontent
    rw [Span.covers, Bool.and_eq_true, decide_eq_true_eq, decide_eq_true_eq]
    omega

/-- A comment moves all lines down by its own, unless it leaves an element of text open that the page then
closes. Before that closing tag nothing is found any more, so a comment is harmless to all pages just if it
leaves no element of text open. -/
theorem comment_keeps_lines_iff (hbody : Text.holds ['-', '-', '>'] body = false) :
    (∀ page, (∀ tag ∈ textTags, LeavesOpen tag (commentOf body) → (closingTag tag).occurs page = false) →
      ∀ handle : Handle, '>' ∉ handle.tag.toList →
        find? handle (commentOf body ++ page) =
          (find? handle page).map (· + (commentOf body).count '\n')) ∧
    (∀ tag ∈ textTags, LeavesOpen tag (commentOf body) → ∀ page n rest,
      first (closingTag tag) 0 page = some (n, rest) →
        ∀ name, ∀ s ∈ openings name (commentOf body ++ page), (commentOf body).length + n ≤ s.start) ∧
    ((∀ page (handle : Handle), '>' ∉ handle.tag.toList →
      find? handle (commentOf body ++ page) =
        (find? handle page).map (· + (commentOf body).count '\n')) ↔
      ∀ tag ∈ textTags, ¬ LeavesOpen tag (commentOf body)) := by
  refine ⟨?_, ?_, ?_, ?_⟩
  · intro page hclosed handle htag
    exact find?_append hbody handle htag fun tag htext h => first_eq_none (hclosed tag htext h) 0
  · intro tag htext h page n rest hfirst name s hs
    exact le_start_of_open hbody htext h hfirst hs
  · intro hall tag htext h
    -- A paragraph in front of the closing tag.
    have hpages : ∀ tag ∈ textTags, find? ⟨0, "p", 0⟩ ("<p></" ++ tag ++ ">").toList = some 1 ∧
        first (closingTag tag) 0 ("<p></" ++ tag ++ ">").toList = some (3, []) ∧
        ∀ s ∈ (opening "p").spans ("<p></" ++ tag ++ ">").toList, s.start = 0 := by
      decide +kernel
    obtain ⟨hline, hfirst, hstarts⟩ := hpages tag htext
    have heq := hall ("<p></" ++ tag ++ ">").toList ⟨0, "p", 0⟩ (by decide)
    rw [hline, find?_eq, Option.map_some, Option.map_eq_some_iff] at heq
    obtain ⟨s, hs, -⟩ := heq
    have hopening := List.mem_of_getElem? hs
    have hle := le_start_of_open hbody htext h hfirst hopening
    have hspan := (List.mem_filter.mp hopening).1
    rw [spans_opening_append (by decide) (marked_commentOf body), List.mem_append] at hspan
    rcases hspan with hspan | hspan
    · have hlt := start_lt_of_mem_spans hspan
      omega
    · obtain ⟨t, ht, rfl⟩ := List.mem_map.mp hspan
      rw [Span.shift, hstarts t ht] at hle
      dsimp only at hle
      omega
  · intro hnone page handle htag
    exact find?_append hbody handle htag fun tag htext h => absurd h (hnone tag htext)

/-- A comment about styles and scripts in which every element of text that is opened is closed. -/
theorem comment_keeps_lines_of_closed :
    Text.holds ['-', '-', '>'] "\n<style>p{}</style> <p>\n".toList = false ∧
      ∀ page (handle : Handle), '>' ∉ handle.tag.toList →
        find? handle (commentOf "\n<style>p{}</style> <p>\n".toList ++ page) =
          (find? handle page).map (· + 2) := by
  have hbody : Text.holds ['-', '-', '>'] "\n<style>p{}</style> <p>\n".toList = false := by decide +kernel
  have hclosed : ∀ tag ∈ textTags, ¬ LeavesOpen tag (commentOf "\n<style>p{}</style> <p>\n".toList) := by
    decide +kernel
  exact ⟨hbody, (comment_keeps_lines_iff hbody).2.2.mpr hclosed⟩

/-- The script that the comment opens is closed by a later one, and the paragraph between gets no line. -/
theorem line_lost_behind_comment :
    ¬ ∀ (body page : List Char) (handle : Handle), Text.holds ['-', '-', '>'] body = false →
      Text.holds ['-', '-', '!', '>'] body = false → ¬ ['>'] <+: body → ¬ ['-', '>'] <+: body →
        find? handle (commentOf body ++ page) =
          (find? handle page).map (· + (commentOf body).count '\n') := by
  intro hall
  have heq := hall " <script> ".toList "<p>x</p><script></script>".toList ⟨0, "p", 0⟩ (by decide)
    (by decide) (by decide) (by decide)
  have hne : find? ⟨0, "p", 0⟩ (commentOf " <script> ".toList ++ "<p>x</p><script></script>".toList) ≠
      (find? ⟨0, "p", 0⟩ "<p>x</p><script></script>".toList).map
        (· + (commentOf " <script> ".toList).count '\n') := by decide +kernel
  exact hne heq

end Line

end PageGrader
