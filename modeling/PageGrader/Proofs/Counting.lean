import PageGrader.Markup.Balance
import PageGrader.Proofs.Written

namespace PageGrader

open Text (Shape Span isNameChar isBlank lower sameCase)

namespace Text.Shape

variable {shape : Shape} {place n : Nat} {u r : List Char}

/-- Looking through the stretch `u` finds it as a whole, or finds nothing in it. -/
def Meets (shape : Shape) (u : List Char) (found : Bool) : Prop :=
  ∀ place r, spansFrom shape place 0 (u ++ r) =
    (if found then [⟨place, place + u.length⟩] else []) ++ spansFrom shape (place + u.length) 0 r

theorem spansFrom_of_busy (hu : u.length = n) :
    spansFrom shape place n (u ++ r) = spansFrom shape (place + u.length) 0 r := by
  induction u generalizing place n with
  | nil =>
    obtain rfl : 0 = n := hu
    rfl
  | cons c u ih =>
    obtain rfl : u.length + 1 = n := hu
    rw [List.cons_append, spansFrom, ih rfl, List.length_cons, Nat.add_right_comm, Nat.add_assoc]

theorem meets_plain (h : shape.Angled) (hu : '<' ∉ u) : Meets shape u false := by
  intro place r
  induction u generalizing place with
  | nil => rfl
  | cons c u ih =>
    rw [List.mem_cons, not_or] at hu
    rw [List.cons_append, spansFrom, h.cons _ _ (Ne.symm hu.1)]
    dsimp only
    rw [ih hu.2, List.length_cons, Nat.add_right_comm, Nat.add_assoc]
    rfl

/-- A `<` and all up to the next one, if the shape takes up all of it or does not stand there. -/
theorem meets_tag {found : Bool} (h : shape.Angled) (hu : '<' ∉ u)
    (hshape : ∀ r, shape ('<' :: (u ++ r)) = if found then some r else none) :
    Meets shape ('<' :: u) found := by
  intro place r
  rw [List.cons_append, spansFrom, hshape]
  cases found with
  | true =>
    have hlength : ('<' :: (u ++ r)).length - r.length = u.length + 1 := by
      rw [List.length_cons, List.length_append]
      omega
    rw [if_pos rfl, if_pos rfl]
    dsimp only
    rw [hlength, Nat.add_sub_cancel, spansFrom_of_busy rfl, List.length_cons, Nat.add_right_comm,
      Nat.add_assoc]
    rfl
  | false =>
    rw [if_neg Bool.false_ne_true, if_neg Bool.false_ne_true]
    dsimp only
    rw [meets_plain h hu, List.length_cons, Nat.add_right_comm, Nat.add_assoc]
    rfl

section

variable {α : Type} {render : α → List Char} {hit : α → Bool} {pieces : List α}

/-- What is found in a text of pieces are the pieces that are found. -/
theorem texts_flatMap (h : ∀ p ∈ pieces, Meets shape (render p) (hit p)) (before : List Char) :
    (spansFrom shape before.length 0 (pieces.flatMap render)).map
      (·.text (before ++ pieces.flatMap render)) = (pieces.filter hit).map render := by
  -- Texts are cut out of the whole, so the induction carries what comes before the pieces.
  induction pieces generalizing before with
  | nil => rfl
  | cons p rest ih =>
    obtain ⟨hp, hrest⟩ := List.forall_mem_cons.mp h
    have hafter := ih hrest (before ++ render p)
    rw [List.append_assoc, List.length_append] at hafter
    have hhere : (⟨before.length, before.length + (render p).length⟩ : Span).text
        (before ++ (render p ++ rest.flatMap render)) = render p := by
      rw [Span.text, List.drop_left, Nat.add_sub_cancel_left, List.take_left]
    rw [List.flatMap_cons, hp, List.map_append, hafter, List.filter_cons]
    split
    · rw [List.map_singleton, hhere]
      rfl
    · rfl

theorem count_flatMap (h : ∀ p ∈ pieces, Meets shape (render p) (hit p)) :
    shape.count (pieces.flatMap render) = pieces.countP hit := by
  have htexts := congrArg List.length (texts_flatMap h [])
  rwa [List.length_map, List.length_map, ← List.countP_eq_length_filter] at htexts

end

theorem through_append (hu : '>' ∉ u) : through '>' (u ++ '>' :: r) = some r := by
  induction u with
  | nil => rfl
  | cons c u ih =>
    rw [List.mem_cons, not_or] at hu
    rw [List.cons_append, through, beq_false_of_ne (Ne.symm hu.1)]
    exact ih hu.2

theorem angled_of_caseless {w : List Char} {rest : List Char → Option (List Char)} :
    Angled fun s => (caseless ('<' :: w) s).bind rest := by
  refine ⟨rfl, ?_⟩
  intro c r hc
  have hcase : sameCase '<' c = false :=
    Bool.eq_false_iff.mpr fun h => hc (eq_of_sameCase_mark (.inl rfl) h)
  simp only [caseless, hcase]
  rfl

theorem angled_of_one {rest : List Char → Option (List Char)} :
    Angled fun s => (one (· == '<') s).bind rest := by
  refine ⟨rfl, ?_⟩
  intro c r hc
  simp only [one, beq_false_of_ne hc]
  rfl

end Text.Shape

namespace Markup.Balance

open Text.Shape

variable {name v body u gap r : List Char} {tag : String} {c : Char}

theorem angled_anyOpening : anyOpening.Angled := angled_of_one

theorem angled_anyClosing : anyClosing.Angled := angled_of_one

theorem anyOpening_eq_some (hc : c.isAlpha = true) (hu : '>' ∉ u) :
    anyOpening ('<' :: c :: (u ++ '>' :: r)) = some r := by
  have hthrough := through_append (r := r) hu
  simp [anyOpening, Shape.sequence, one, hc, hthrough]

theorem anyOpening_eq_none (hc : c.isAlpha = false) : anyOpening ('<' :: c :: r) = none := by
  simp [anyOpening, Shape.sequence, one, hc]

theorem anyClosing_eq_some (hc : c ≠ '>') (hu : '>' ∉ u) :
    anyClosing ('<' :: '/' :: c :: (u ++ '>' :: r)) = some r := by
  have hthrough := through_append (r := r) hu
  simp [anyClosing, Shape.sequence, one, hc, hthrough]

theorem anyClosing_eq_none (hc : c ≠ '/') : anyClosing ('<' :: c :: r) = none := by
  simp [anyClosing, Shape.sequence, one, hc]

theorem angled_opening (tag : String) : (opening tag).Angled := angled_of_caseless

theorem angled_selfClosing (tag : String) : (selfClosing tag).Angled := angled_of_caseless

theorem angled_closing (tag : String) : (closing tag).Angled := angled_of_caseless

theorem throughSlash_append (hu : '>' ∉ u) (last : Char) :
    throughSlash last (u ++ '>' :: r) = if (last :: u).getLast? = some '/' then some r else none := by
  induction u generalizing last with
  | nil => simp [throughSlash]
  | cons c u ih =>
    rw [List.mem_cons, not_or] at hu
    rw [List.cons_append, throughSlash, beq_false_of_ne (Ne.symm hu.1), List.getLast?_cons_cons]
    exact ih hu.2 c

/-- Whether the first character can stand after a name inside a tag. -/
def Apart (u : List Char) : Prop := ∀ c ∈ u.head?, (isBlank c || c == '/') = true

structure Body (body : List Char) : Prop where
  apart : Apart body
  whole : '>' ∉ body

theorem apart_append (hu : Apart u) (hv : Apart v) : Apart (u ++ v) := by
  cases u with
  | nil => exact hv
  | cons c u => exact hu

theorem apart_of_blank (hu : ∀ c ∈ u, isBlank c = true) : Apart u := by
  intro c hc
  rw [hu c (List.mem_of_head? hc)]
  rfl

theorem Body.endsName (h : Body body) :
    ∃ x s, body ++ '>' :: r = x :: s ∧ Shape.endsName x = true := by
  cases body with
  | nil => exact ⟨'>', r, rfl, by decide⟩
  | cons c rest =>
    refine ⟨c, _, rfl, ?_⟩
    rw [Shape.endsName, h.apart c rfl]
    rfl

/-- Looking for the name at the beginning of a tag: it is the name of the tag, or what is left does not
begin as what follows a name. -/
theorem bind_caseless {α : Type} {rest : List Char → Option α}
    (hrest : ∀ d s, isNameChar d = true → rest (d :: s) = none)
    (hname : ∀ c ∈ name, isNameChar c = true) (hv : ∀ c ∈ v, isNameChar c = true) (h : Body body) :
    (caseless name (v ++ (body ++ '>' :: r))).bind rest =
      if lower name = lower v then rest (body ++ '>' :: r) else none := by
  obtain ⟨x, s, htail, hx⟩ := h.endsName (r := r)
  rw [htail]
  split
  next hlower => rw [caseless_of_lower hname hv hlower, Option.bind_some]
  next hlower =>
    -- The name may still begin a longer one, but then what is left begins inside of that.
    rw [Option.bind_eq_none_iff]
    intro t ht
    obtain ⟨hsame, -⟩ | ⟨d, t', rfl, hd⟩ := caseless_cases hname hv hx ht
    · exact absurd hsame hlower
    · exact hrest d t' hd

theorem ends_of_isNameChar {d : Char} (hd : isNameChar d = true) :
    (isBlank d || d == '/') = false ∧ (d == '>') = false := by
  have hne : ∀ c, isNameChar c = false → (d == c) = false := by
    rintro c hc
    apply beq_false_of_ne
    rintro rfl
    rw [hd] at hc
    cases hc
  rw [Text.not_isBlank_of_isNameChar hd, hne '/' (by decide), hne '>' (by decide)]
  exact ⟨rfl, rfl⟩

def openingEnd : Shape
  | [] => none
  | c :: r =>
    if c == '>' then some r
    else if isBlank c || c == '/' then through '>' r
    else none

/-- What an opening that closes its tag as well has after its name. -/
def selfClosingEnd : Shape
  | [] => none
  | c :: r => if isBlank c || c == '/' then throughSlash c r else none

theorem openingEnd_append (h : Body body) : openingEnd (body ++ '>' :: r) = some r := by
  cases body with
  | nil => rfl
  | cons c body =>
    have hwhole := h.whole
    rw [List.mem_cons, not_or] at hwhole
    rw [List.cons_append, openingEnd, beq_false_of_ne (Ne.symm hwhole.1),
      if_neg Bool.false_ne_true, if_pos (h.apart c rfl), through_append hwhole.2]

theorem selfClosingEnd_append (h : Body body) :
    selfClosingEnd (body ++ '>' :: r) = if body.getLast? = some '/' then some r else none := by
  cases body with
  | nil => rfl
  | cons c body =>
    have hwhole := h.whole
    rw [List.mem_cons, not_or] at hwhole
    rw [List.cons_append, selfClosingEnd, if_pos (h.apart c rfl), throughSlash_append hwhole.2]

theorem opening_tag (htag : ∀ c ∈ tag.toList, isNameChar c = true)
    (hv : ∀ c ∈ v, isNameChar c = true) (h : Body body) :
    opening tag ('<' :: (v ++ (body ++ '>' :: r))) =
      if lower tag.toList = lower v then some r else none := by
  have hopen : opening tag ('<' :: (v ++ (body ++ '>' :: r))) =
      (caseless tag.toList (v ++ (body ++ '>' :: r))).bind openingEnd := rfl
  rw [hopen, bind_caseless _ htag hv h]
  · rw [openingEnd_append h]
  · intro d s hd
    obtain ⟨hapart, hend⟩ := ends_of_isNameChar hd
    rw [openingEnd, hend, if_neg Bool.false_ne_true, hapart, if_neg Bool.false_ne_true]

theorem selfClosing_tag (htag : ∀ c ∈ tag.toList, isNameChar c = true)
    (hv : ∀ c ∈ v, isNameChar c = true) (h : Body body) :
    selfClosing tag ('<' :: (v ++ (body ++ '>' :: r))) =
      if lower tag.toList = lower v then if body.getLast? = some '/' then some r else none
      else none := by
  have hopen : selfClosing tag ('<' :: (v ++ (body ++ '>' :: r))) =
      (caseless tag.toList (v ++ (body ++ '>' :: r))).bind selfClosingEnd := rfl
  rw [hopen, bind_caseless _ htag hv h]
  · rw [selfClosingEnd_append h]
  · intro d s hd
    rw [selfClosingEnd, (ends_of_isNameChar hd).1, if_neg Bool.false_ne_true]

theorem body_gap (hgap : ∀ c ∈ gap, isBlank c = true) : Body gap :=
  ⟨apart_of_blank hgap, fun hmem => absurd (hgap _ hmem) (by decide)⟩

theorem closing_endTag (htag : ∀ c ∈ tag.toList, isNameChar c = true)
    (hv : ∀ c ∈ v, isNameChar c = true) (hgap : ∀ c ∈ gap, isBlank c = true) :
    closing tag ('<' :: '/' :: (v ++ (gap ++ '>' :: r))) =
      if lower tag.toList = lower v then some r else none := by
  have hopen : closing tag ('<' :: '/' :: (v ++ (gap ++ '>' :: r))) =
      (caseless tag.toList (v ++ (gap ++ '>' :: r))).bind
        (Shape.sequence [Shape.blanks, one (· == '>')]) := rfl
  rw [hopen, bind_caseless _ htag hv (body_gap hgap)]
  · congr 1
    have hblanks : (gap ++ '>' :: r).dropWhile isBlank = '>' :: r := by
      rw [List.dropWhile_append_of_pos hgap]
      rfl
    simp [Shape.sequence, Shape.blanks, hblanks, one]
  · intro d s hd
    have hblank := Text.not_isBlank_of_isNameChar hd
    have hend := ne_of_beq_false (ends_of_isNameChar hd).2
    simp [Shape.sequence, Shape.blanks, hblank, one, hend]

/-- A tag of some name does not begin as an end tag does, nor an end tag as a tag of some name. -/
theorem caseless_eq_none {w : List Char} {d : Char} (hc : isNameChar c = true)
    (hd : isNameChar d = false) (hfold : Text.fold d = d) :
    caseless (c :: w) (d :: r) = none ∧ caseless (d :: w) (c :: r) = none := by
  have hcd := Text.sameCase_eq_false hc hd hfold
  rw [caseless, caseless, Text.sameCase_comm d c, hcd]
  exact ⟨rfl, rfl⟩

end Markup.Balance

end PageGrader
