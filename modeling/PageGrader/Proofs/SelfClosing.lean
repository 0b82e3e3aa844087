import PageGrader.Proofs.Commented
import PageGrader.Proofs.EndTags
import PageGrader.Proofs.Taken

namespace PageGrader

open Text (Shape Span isBlank isNameChar fold)

namespace Text.Shape

variable {shape other : Shape} {p : List Char → Prop} {q : List Char → Bool} {place : Nat}
  {s u r rest : List Char}

/-- Where the shape stands, its occurrence is all that is found in what it takes. -/
theorem spansFrom_taken (hu : u ≠ []) (h : shape (u ++ rest) = some rest) :
    spansFrom shape place 0 (u ++ rest) =
      ⟨place, place + u.length⟩ :: spansFrom shape (place + u.length) 0 rest := by
  cases u with
  | nil => exact absurd rfl hu
  | cons c u =>
    have hlength : (c :: (u ++ rest)).length - rest.length = (c :: u).length := by
      rw [← List.cons_append, List.length_append, Nat.add_sub_cancel]
    rw [List.cons_append] at h ⊢
    rw [spansFrom_of_some h, hlength, List.length_cons, Nat.add_sub_cancel, spansFrom_of_busy rfl,
      Nat.add_right_comm, Nat.add_assoc]

/-- Nothing is found in a stretch where the shape stands nowhere. -/
theorem spansFrom_skipped (h : ∀ v, v <:+ u → v ≠ [] → shape (v ++ rest) = none) :
    spansFrom shape place 0 (u ++ rest) = spansFrom shape (place + u.length) 0 rest := by
  induction u generalizing place with
  | nil => rfl
  | cons c u ih =>
    have hhere := h (c :: u) (List.suffix_refl _) (List.cons_ne_nil c u)
    rw [List.cons_append] at hhere ⊢
    rw [spansFrom_of_none hhere, ih fun v hv => h v (hv.trans (List.suffix_cons c u)), List.length_cons,
      Nat.add_right_comm, Nat.add_assoc]

/-- Two searches side by side. The second shape takes of what the first one takes only what passes a test,
and it stands nowhere inside of what fails the test; so it finds what the first finds and passes. -/
theorem spansFrom_eq_filter (h : Takes shape p) (hother : Takes other fun u => p u ∧ q u = true)
    (hsome : ∀ u, p u → u ≠ [])
    (hinside : ∀ u, p u → q u = false → ∀ v, v <:+ u → v ≠ [] → ∀ r, other (v ++ r) = none)
    (before s : List Char) : spansFrom other before.length 0 s =
      (spansFrom shape before.length 0 s).filter fun span => q (span.text (before ++ s)) := by
  -- An opening is left behind as a whole, so the induction is on how much text is still to come.
  induction hn : s.length using Nat.strong_induction_on generalizing before s with
  | _ n ih =>
    cases s with
    | nil => rfl
    | cons c r =>
      cases hshape : shape (c :: r) with
      | none =>
        have hnone : other (c :: r) = none := by
          rw [Option.eq_none_iff_forall_not_mem]
          intro rest hrest
          obtain ⟨u, ⟨hu, -⟩, heq⟩ := (hother _ rest).mp hrest
          have hsome := (h _ rest).mpr ⟨u, hu, heq⟩
          rw [hshape] at hsome
          cases hsome
        have hlater := ih r.length (by rw [← hn]; exact Nat.lt_succ_self _) (before ++ [c]) r rfl
        rw [List.length_append, List.append_assoc] at hlater
        rw [spansFrom_of_none hnone, spansFrom_of_none hshape]
        exact hlater
      | some rest =>
        obtain ⟨u, hu, heq⟩ := (h _ rest).mp hshape
        have hne := hsome u hu
        have hshorter : rest.length < n := by
          rw [← hn, heq, List.length_append]
          exact Nat.lt_add_of_pos_left (List.length_pos_of_ne_nil hne)
        have hlater := ih rest.length hshorter (before ++ u) rest rfl
        have hhere : (⟨before.length, before.length + u.length⟩ : Span).text (before ++ (u ++ rest)) = u := by
          rw [Span.text, List.drop_left, Nat.add_sub_cancel_left, List.take_left]
        rw [List.length_append, List.append_assoc] at hlater
        rw [heq, spansFrom_taken hne (h.append hu rest), List.filter_cons, hhere, ← hlater]
        cases hq : q u with
        | true => rw [spansFrom_taken hne (hother.append ⟨hu, hq⟩ rest), if_pos rfl]
        | false =>
          rw [spansFrom_skipped fun v hv hv' => hinside u hu hq v hv hv' rest, if_neg Bool.false_ne_true]

end Text.Shape

namespace Markup.Balance

open Text.Shape

variable {tag : String} {last : Char} {page s u r name body : List Char}

def IsOpening (tag : String) (u : List Char) : Prop :=
  ∃ name body, name.map fold = tag.toList.map fold ∧ Body body ∧ u = '<' :: (name ++ (body ++ ['>']))

def endsInSlash (u : List Char) : Bool := ['/', '>'].isSuffixOf u

theorem exists_of_throughSlash (h : throughSlash last s = some r) :
    ∃ v, '>' ∉ v ∧ s = v ++ '>' :: r ∧ (last :: v).getLast? = some '/' := by
  have hmark : '>' ∈ s := by
    induction s generalizing last with
    | nil => cases h
    | cons c s ih =>
      rw [throughSlash] at h
      split at h
      next hc => exact List.mem_cons.mpr (.inl (eq_of_beq hc).symm)
      next => exact List.mem_cons_of_mem c (ih h)
  obtain ⟨v, rest, rfl, hv⟩ := List.eq_append_cons_of_mem hmark
  rw [throughSlash_append hv] at h
  split at h
  next hslash =>
    obtain rfl := Option.some.inj h
    exact ⟨v, hv, rfl, hslash⟩
  next => cases h

theorem body_cons {c : Char} {v : List Char} (hapart : (isBlank c || c == '/') = true) (hv : '>' ∉ v) :
    Body (c :: v) := by
  have hne : '>' ≠ c := by
    rintro rfl
    exact absurd hapart (by decide)
  exact ⟨by rintro _ ⟨⟩; exact hapart, List.not_mem_cons_of_ne_of_not_mem hne hv⟩

theorem takes_openingEnd : Takes openingEnd fun u => ∃ body, Body body ∧ u = body ++ ['>'] := by
  intro s r
  constructor
  · intro h
    cases s with
    | nil => cases h
    | cons c s =>
      rw [openingEnd] at h
      split at h
      next hc =>
        obtain rfl := eq_of_beq hc
        obtain rfl := Option.some.inj h
        exact ⟨['>'], ⟨[], body_gap (by simp), rfl⟩, rfl⟩
      next hc =>
        split at h
        next hapart =>
          obtain ⟨_, ⟨v, hv, rfl⟩, rfl⟩ := (takes_through s r).mp h
          exact ⟨_, ⟨c :: v, body_cons hapart hv, rfl⟩, rfl⟩
        next => cases h
  · rintro ⟨_, ⟨body, hbody, rfl⟩, rfl⟩
    rw [List.append_assoc]
    exact openingEnd_append hbody

theorem takes_selfClosingEnd : Takes selfClosingEnd fun u =>
    ∃ body, (Body body ∧ body.getLast? = some '/') ∧ u = body ++ ['>'] := by
  intro s r
  constructor
  · intro h
    cases s with
    | nil => cases h
    | cons c s =>
      rw [selfClosingEnd] at h
      split at h
      next hapart =>
        obtain ⟨v, hv, rfl, hslash⟩ := exists_of_throughSlash h
        exact ⟨_, ⟨c :: v, ⟨body_cons hapart hv, hslash⟩, rfl⟩, by simp⟩
      next => cases h
  · rintro ⟨_, ⟨body, ⟨hbody, hslash⟩, rfl⟩, rfl⟩
    rw [List.append_assoc]
    exact (selfClosingEnd_append hbody).trans (if_pos hslash)

theorem takes_opening (tag : String) : Takes (opening tag) (IsOpening tag) := by
  refine ((takes_marked tag.toList).andThen takes_openingEnd).of_iff fun u => ⟨?_, ?_⟩
  · rintro ⟨_, _, ⟨name, hname, rfl⟩, ⟨body, hbody, rfl⟩, rfl⟩
    exact ⟨name, body, hname, hbody, rfl⟩
  · rintro ⟨name, body, hname, hbody, rfl⟩
    exact ⟨_, _, ⟨name, hname, rfl⟩, ⟨body, hbody, rfl⟩, rfl⟩

theorem mark_not_mem_name (htag : ∀ c ∈ tag.toList, isNameChar c = true)
    (hname : name.map fold = tag.toList.map fold) {mark : Char} (hmark : isNameChar mark = false)
    (hfold : fold mark = mark) : mark ∉ name := by
  intro hmem
  have hfolded := List.mem_map_of_mem (f := fold) hmem
  rw [hname, List.mem_map] at hfolded
  obtain ⟨c, hc, heq⟩ := hfolded
  have hsame := Text.sameCase_iff.mpr heq
  rw [Text.sameCase_eq_false (htag c hc) hmark hfold] at hsame
  cases hsame

/-- An opening ends in `/>` just if what follows its name ends in a slash. -/
theorem endsInSlash_iff (hname : '/' ∉ name) :
    endsInSlash ('<' :: (name ++ (body ++ ['>']))) = true ↔ body.getLast? = some '/' := by
  have hends : '<' :: (name ++ (body ++ ['>'])) = ('<' :: (name ++ body)) ++ ['>'] := by
    simp only [List.cons_append, List.append_assoc]
  have hfront : ('<' :: name).getLast? ≠ some '/' := fun hlast =>
    (List.mem_cons.mp (List.mem_of_getLast? hlast)).elim (by decide) hname
  have hslash : ['/'] ++ ['>'] <:+ ('<' :: (name ++ body)) ++ ['>'] ↔ ['/'] <:+ '<' :: (name ++ body) :=
    (List.suffix_append_inj_of_length_eq rfl).trans (and_iff_left rfl)
  rw [endsInSlash, List.isSuffixOf_iff_suffix, hends]
  refine hslash.trans ?_
  rw [List.singleton_suffix_iff_getLast?_eq_some, ← List.cons_append, List.getLast?_append]
  cases body.getLast? with
  | none => simpa using hfront
  | some c => simp

theorem takes_selfClosing (htag : ∀ c ∈ tag.toList, isNameChar c = true) :
    Takes (selfClosing tag) fun u => IsOpening tag u ∧ endsInSlash u = true := by
  refine ((takes_marked tag.toList).andThen takes_selfClosingEnd).of_iff fun u => ⟨?_, ?_⟩
  · rintro ⟨_, _, ⟨name, hname, rfl⟩, ⟨body, ⟨hbody, hslash⟩, rfl⟩, rfl⟩
    have hfree : '/' ∉ name := mark_not_mem_name htag hname (by decide) rfl
    exact ⟨⟨name, body, hname, hbody, rfl⟩, (endsInSlash_iff hfree).mpr hslash⟩
  · rintro ⟨⟨name, body, hname, hbody, rfl⟩, hends⟩
    have hfree : '/' ∉ name := mark_not_mem_name htag hname (by decide) rfl
    exact ⟨_, _, ⟨name, hname, rfl⟩, ⟨body, ⟨hbody, (endsInSlash_iff hfree).mp hends⟩, rfl⟩, rfl⟩

theorem exists_front (htag : ∀ c ∈ tag.toList, isNameChar c = true) (h : IsOpening tag u) :
    ∃ v, '>' ∉ v ∧ u = v ++ ['>'] := by
  obtain ⟨name, body, hname, hbody, rfl⟩ := h
  have hfree : '>' ∉ name := mark_not_mem_name htag hname (by decide) rfl
  refine ⟨'<' :: (name ++ body), ?_, by simp only [List.cons_append, List.append_assoc]⟩
  simp [hfree, hbody.whole]

/-- An opening that begins inside another one ends with it. So nothing in an opening that does not end in
`/>` closes itself. -/
theorem selfClosing_eq_none (htag : ∀ c ∈ tag.toList, isNameChar c = true) (hu : IsOpening tag u)
    (hends : endsInSlash u = false) {v : List Char} (hv : v <:+ u) (hne : v ≠ []) (r : List Char) :
    selfClosing tag (v ++ r) = none := by
  rw [Option.eq_none_iff_forall_not_mem]
  intro rest hrest
  obtain ⟨w, ⟨hw, hslash⟩, heq⟩ := (takes_selfClosing htag _ rest).mp hrest
  obtain ⟨front, hfront, rfl⟩ := exists_front htag hu
  obtain ⟨inner, hinner, rfl⟩ := exists_front htag hw
  obtain ⟨v, rfl, hv'⟩ := (List.suffix_concat_iff.mp hv).resolve_left hne
  have hmark : '>' ∉ v := fun hmem => hfront (hv'.mem hmem)
  rw [List.append_assoc, List.append_assoc, List.singleton_append, List.singleton_append] at heq
  -- Both end at the first `>`.
  have hrests : some r = some rest := by
    rw [← through_append hmark, ← through_append hinner, heq]
  obtain rfl := Option.some.inj hrests
  obtain rfl := List.append_cancel_right heq
  have hsuffix := (List.isSuffixOf_iff_suffix.mp hslash).trans hv
  rw [endsInSlash, List.isSuffixOf_iff_suffix.mpr hsuffix] at hends
  cases hends

/-- The openings that close their tag are found just where openings end in `/>`. -/
theorem spans_selfClosing (htag : ∀ c ∈ tag.toList, isNameChar c = true) (page : List Char) :
    (selfClosing tag).spans page =
      ((opening tag).spans page).filter fun span => endsInSlash (span.text page) :=
  spansFrom_eq_filter (takes_opening tag) (takes_selfClosing htag)
    (by rintro _ ⟨name, body, -, -, rfl⟩; exact List.cons_ne_nil _ _)
    (fun _ hu hends _ hv hne r => selfClosing_eq_none htag hu hends hv hne r) [] page

structure Subtracts (tag : String) (page : List Char) : Prop where
  /-- What the search for self-closing openings finds. -/
  spans : (selfClosing tag).spans page =
    ((opening tag).spans page).filter fun span => endsInSlash (span.text page)
  /-- The subtraction never stops short. -/
  le : (selfClosing tag).count page ≤ (opening tag).count page
  opened : (counts tag page).1 =
    ((opening tag).spans page).countP fun span => !endsInSlash (span.text page)

theorem subtracts (htag : ∀ c ∈ tag.toList, isNameChar c = true) (page : List Char) :
    Subtracts tag page := by
  have hspans := spans_selfClosing htag page
  have hcount : (selfClosing tag).count page =
      ((opening tag).spans page).countP fun span => endsInSlash (span.text page) := by
    rw [count, hspans, List.countP_eq_length_filter]
  have htotal : (opening tag).count page = (selfClosing tag).count page +
      ((opening tag).spans page).countP fun span => !endsInSlash (span.text page) := by
    rw [hcount, count, List.length_eq_countP_add_countP fun span : Span => endsInSlash (span.text page)]
    simp
  refine ⟨hspans, htotal ▸ Nat.le_add_right _ _, ?_⟩
  rw [counts, htotal, Nat.add_sub_cancel_left]

end Markup.Balance

namespace Rule

open Markup.Balance

/-- For each tag that has to be closed, taking the self-closing openings off the count of all openings
leaves just those that do not end in `/>`, on every page. These are the openings that the rule compares
with the closing tags. -/
theorem subtraction_is_exact (page : List Char) :
    (∀ tag ∈ closedTags, Subtracts tag page) ∧
    mismatches page = (closedTags.map fun tag =>
      ⟨tag, ((opening tag).spans page).countP fun span => !endsInSlash (span.text page),
        (closing tag).count page⟩).filter fun m => m.opened != m.closed := by
  have hall : ∀ tag ∈ closedTags, Subtracts tag page := fun tag htag =>
    subtracts (Balanced.small_of_closedTags tag htag).1 page
  refine ⟨hall, ?_⟩
  rw [mismatches]
  congr 1
  refine List.map_congr_left fun tag htag => ?_
  rw [← (hall tag htag).opened]
  rfl

/-- An opening ends at its first `>`, even inside of quotes: the first of these links closes itself, and
what is left of it is no opening. -/
theorem subtraction_is_exact_in_quotes :
    (Markup.Balance.counts "a" "<a title=\"<a/>\"><a href=\"<a>\">x</a>".toList).1 = 1 := by
  rw [((subtraction_is_exact _).1 "a" (by decide)).opened]
  decide +kernel

end Rule
end PageGrader
