import PageGrader.Proofs.Line
import PageGrader.Proofs.Scan

namespace PageGrader

open Text (Shape isNameChar isBlank lower sameCase)

namespace Text.Shape

variable {w v s r rest : List Char} {x : Char}

def endsName (c : Char) : Bool := isBlank c || c == '/' || c == '>'

theorem sameCase_endsName {c : Char} (hc : isNameChar c = true) (hx : endsName x = true) :
    sameCase c x = false ∧ isNameChar x = false := by
  simp only [endsName, Bool.or_eq_true, beq_iff_eq] at hx
  rcases hx with (hblank | rfl) | rfl
  · have hx : isNameChar x = false := by
      rw [Bool.eq_false_iff]
      intro hname
      rw [not_isBlank_of_isNameChar hname] at hblank
      cases hblank
    exact ⟨sameCase_eq_false hc hx (fold_of_isBlank hblank), hx⟩
  · exact ⟨sameCase_eq_false hc (by decide) rfl, by decide⟩
  · exact ⟨sameCase_eq_false hc (by decide) rfl, by decide⟩

theorem caseless_of_lower (hw : ∀ c ∈ w, isNameChar c = true) (hv : ∀ c ∈ v, isNameChar c = true)
    (h : lower w = lower v) : caseless w (v ++ r) = some r := by
  induction w generalizing v with
  | nil =>
    obtain rfl : v = [] := List.map_eq_nil_iff.mp h.symm
    rfl
  | cons c w ih =>
    cases v with
    | nil => cases h
    | cons d v =>
      obtain ⟨hc, hw⟩ := List.forall_mem_cons.mp hw
      obtain ⟨hd, hv⟩ := List.forall_mem_cons.mp hv
      obtain ⟨hcd, h⟩ := List.cons.inj h
      rw [List.cons_append, caseless, sameCase_of_isNameChar hc hd, hcd, beq_self_eq_true]
      exact ih hw hv h

/-- A name stands at another one if it is the same or only a part of it. -/
theorem caseless_cases (hw : ∀ c ∈ w, isNameChar c = true) (hv : ∀ c ∈ v, isNameChar c = true)
    (hx : endsName x = true) (h : caseless w (v ++ x :: r) = some rest) :
    (lower w = lower v ∧ rest = x :: r) ∨ ∃ d rest', rest = d :: rest' ∧ isNameChar d = true := by
  induction w generalizing v with
  | nil =>
    obtain rfl := Option.some.inj h
    cases v with
    | nil => exact .inl ⟨rfl, rfl⟩
    | cons d v => exact .inr ⟨d, _, rfl, hv d List.mem_cons_self⟩
  | cons c w ih =>
    obtain ⟨hc, hw⟩ := List.forall_mem_cons.mp hw
    cases v with
    | nil =>
      rw [List.nil_append, caseless, (sameCase_endsName hc hx).1] at h
      cases h
    | cons d v =>
      obtain ⟨hd, hv⟩ := List.forall_mem_cons.mp hv
      rw [List.cons_append, caseless, sameCase_of_isNameChar hc hd] at h
      split at h
      next hcd =>
        rcases ih hw hv h with ⟨hlower, hrest⟩ | hpart
        · exact .inl ⟨congrArg₂ List.cons (eq_of_beq hcd) hlower, hrest⟩
        · exact .inr hpart
      next => cases h

/-- What stands in front of a character that has no part in it stands there without it. -/
theorem isSome_caseless_of_append (hw : ∀ c ∈ w, sameCase c x = false)
    (h : (caseless w (s ++ x :: r)).isSome = true) : (caseless w s).isSome = true := by
  induction w generalizing s with
  | nil => rfl
  | cons c w ih =>
    obtain ⟨hc, hw⟩ := List.forall_mem_cons.mp hw
    cases s with
    | nil =>
      rw [List.nil_append, caseless, hc] at h
      cases h
    | cons d s =>
      rw [List.cons_append, caseless] at h
      rw [caseless]
      split at h
      next hcd =>
        rw [if_pos hcd]
        exact ih hw h
      next => cases h

end Text.Shape

namespace Line

open Text.Shape

variable {tag : String} {v r : List Char} {x : Char}

theorem isSome_opening (htag : ∀ c ∈ tag.toList, isNameChar c = true)
    (hv : ∀ c ∈ v, isNameChar c = true) (hx : endsName x = true) :
    (opening tag ('<' :: (v ++ x :: r))).isSome = (lower tag.toList == lower v) := by
  rw [Bool.eq_iff_iff, beq_iff_eq]
  simp only [opening, Shape.sequence]
  constructor
  · intro h
    obtain ⟨rest, hrest⟩ := Option.isSome_iff_exists.mp h
    simp only [Option.bind_eq_some_iff] at hrest
    obtain ⟨s, hs, t, ht, y, hy, -⟩ := hrest
    obtain rfl := Option.some.inj hs
    rcases caseless_cases htag hv hx ht with ⟨hlower, -⟩ | ⟨d, t', rfl, hd⟩
    · exact hlower
    · rw [one] at hy
      split at hy
      next hends => exact absurd hd (by rw [(sameCase_endsName hd hends).2]; decide)
      next => cases hy
  · intro h
    have hone : one (fun c => isBlank c || c == '/' || c == '>') (x :: r) = some r := if_pos hx
    have hname := caseless_of_lower (r := x :: r) htag hv h
    have hopen : one (· == '<') ('<' :: (v ++ x :: r)) = some (v ++ x :: r) := rfl
    rw [hopen, Option.bind_some, hname, Option.bind_some, hone]
    rfl

theorem closingTag_eq_none (htag : ∀ c ∈ tag.toList, isNameChar c = true)
    (hv : ∀ c ∈ v, isNameChar c = true) (hx : endsName x = true) (hne : lower tag.toList ≠ lower v) :
    closingTag tag ('<' :: '/' :: (v ++ x :: r)) = none := by
  rw [Option.eq_none_iff_forall_not_mem]
  intro rest hrest
  simp only [closingTag, Shape.sequence, Option.mem_def, Option.bind_eq_some_iff] at hrest
  obtain ⟨s, hs, t, ht, y, hy, -⟩ := hrest
  have hname : caseless tag.toList (v ++ x :: r) = some s := hs
  rcases caseless_cases htag hv hx hname with ⟨hlower, -⟩ | ⟨d, s', rfl, hd⟩
  · exact hne hlower
  · obtain rfl := Option.some.inj ht
    rw [List.dropWhile_cons_of_neg (by rw [Text.not_isBlank_of_isNameChar hd]; decide), one] at hy
    split at hy
    next hclose =>
      obtain rfl := eq_of_beq hclose
      exact absurd hd (by decide)
    next => cases hy

end Line

namespace Written

abbrev Gap := {s : List Char // ∀ c ∈ s, isBlank c = true}

structure Name where
  first : Char
  rest : List Char
  alpha : first.isAlpha = true
  nameChars : ∀ c ∈ rest, isNameChar c = true

structure Value where
  before : Gap
  after : Gap
  text : List Char
  plain : ∀ c ∈ text, c ≠ '<' ∧ c ≠ '>' ∧ c ≠ '"'

structure Attribute where
  gap : Gap
  apart : gap.val ≠ []
  name : List Char
  nameChars : ∀ c ∈ name, isNameChar c = true
  value : Option Value

namespace Name

def chars (n : Name) : List Char := n.first :: n.rest

def text (n : Name) : String := String.ofList n.chars

def same (n m : Name) : Bool := lower n.chars == lower m.chars

def HoldsText (n : Name) : Prop := String.ofList (lower n.chars) ∈ Line.textTags

end Name

structure Opening where
  name : Name
  holdsMarkup : ¬ name.HoldsText
  attributes : List Attribute
  gap : Gap
  slash : Bool

structure Closing (element : Name) where
  name : Name
  same : name.same element = true
  gap : Gap

/-- A comment. Its text has no end mark in it, nor anything like the end of an element of text. -/
structure Comment where
  text : List Char
  noEnd : Text.holds ['-', '-', '>'] text = false
  noClosing : ∀ tag ∈ Line.textTags, (Shape.caseless ('<' :: '/' :: tag.toList)).occurs text = false

end Written

/-- What an author writes, the first of it in front. An element without an end tag is one that holds
nothing. -/
inductive Written where
  | nil
  | text (s : List Char) (plain : '<' ∉ s) (rest : Written)
  | comment (c : Written.Comment) (rest : Written)
  | lone (tag : Written.Opening) (rest : Written)
  | element (tag : Written.Opening) (inside : Written) (closing : Written.Closing tag.name)
      (rest : Written)

namespace Written

def Value.render (v : Value) : List Char :=
  v.before.val ++ '=' :: (v.after.val ++ '"' :: (v.text ++ ['"']))

def Attribute.render (a : Attribute) : List Char :=
  a.gap.val ++ (a.name ++ (a.value.map Value.render).getD [])

def Opening.tail (o : Opening) : List Char :=
  o.attributes.flatMap Attribute.render ++ (o.gap.val ++ ((if o.slash then ['/'] else []) ++ ['>']))

def Opening.render (o : Opening) : List Char := '<' :: (o.name.chars ++ o.tail)

def Closing.render {n : Name} (c : Closing n) : List Char :=
  '<' :: ('/' :: (c.name.chars ++ (c.gap.val ++ ['>'])))

def Comment.render (c : Comment) : List Char :=
  '<' :: '!' :: '-' :: '-' :: (c.text ++ ['-', '-', '>'])

def render : Written → List Char
  | nil => []
  | text s _ rest => s ++ rest.render
  | comment c rest => c.render ++ rest.render
  | lone tag rest => tag.render ++ rest.render
  | element tag inside closing rest => tag.render ++ (inside.render ++ (closing.render ++ rest.render))

structure Head where
  name : Name
  before : List Char

/-- The elements of a source that comes after the text `before`, each before those inside it. -/
def heads (before : List Char) : Written → List Head
  | nil => []
  | text s _ rest => rest.heads (before ++ s)
  | comment c rest => rest.heads (before ++ c.render)
  | lone tag rest => ⟨tag.name, before⟩ :: rest.heads (before ++ tag.render)
  | element tag inside closing rest =>
    ⟨tag.name, before⟩ :: (inside.heads (before ++ tag.render) ++
      rest.heads (before ++ (tag.render ++ (inside.render ++ closing.render))))

theorem not_mem_of_nameChars {s : List Char} (h : ∀ c ∈ s, isNameChar c = true) : '<' ∉ s :=
  fun hmem => absurd (h _ hmem) (by decide)

theorem not_mem_gap (g : Gap) : '<' ∉ g.val :=
  fun hmem => absurd (g.property _ hmem) (by decide)

namespace Name

variable (n : Name)

theorem isNameChar_first : isNameChar n.first = true := by
  rw [isNameChar, Char.isAlphanum, n.alpha]
  rfl

theorem nameChars_chars : ∀ c ∈ n.chars, isNameChar c = true :=
  List.forall_mem_cons.mpr ⟨n.isNameChar_first, n.nameChars⟩

theorem nameChars_text : ∀ c ∈ n.text.toList, isNameChar c = true := by
  rw [text, String.toList_ofList]
  exact n.nameChars_chars

theorem lower_ne_of_not_holdsText {tag : String} (htag : tag ∈ Line.textTags) (h : ¬ n.HoldsText) :
    lower tag.toList ≠ lower n.chars := by
  have hlower : ∀ tag ∈ Line.textTags, lower tag.toList = tag.toList := by decide
  rw [hlower tag htag]
  intro heq
  apply h
  rw [HoldsText, ← heq, String.ofList_toList]
  exact htag

end Name

theorem Value.not_mem_render (v : Value) : '<' ∉ v.render := by
  have htext : '<' ∉ v.text := fun hmem => (v.plain _ hmem).1 rfl
  simp [render, not_mem_gap, htext]

theorem Attribute.not_mem_render (a : Attribute) : '<' ∉ a.render := by
  have hvalue : '<' ∉ (a.value.map Value.render).getD [] := by
    cases a.value with
    | none => exact List.not_mem_nil
    | some v => exact v.not_mem_render
  simp [render, not_mem_gap, not_mem_of_nameChars a.nameChars, hvalue]

theorem Opening.not_mem_tail (o : Opening) : '<' ∉ o.tail := by
  have hattributes : '<' ∉ o.attributes.flatMap Attribute.render := by
    rw [List.mem_flatMap]
    rintro ⟨a, -, hmem⟩
    exact a.not_mem_render hmem
  have hslash : '<' ∉ (if o.slash then ['/'] else []) := by
    split <;> decide
  simp [tail, not_mem_gap, hattributes, hslash]

theorem Opening.not_mem_body (o : Opening) : '<' ∉ o.name.chars ++ o.tail :=
  List.not_mem_append (not_mem_of_nameChars o.name.nameChars_chars) o.not_mem_tail

theorem Closing.not_mem_body {n : Name} (c : Closing n) :
    '<' ∉ '/' :: (c.name.chars ++ (c.gap.val ++ ['>'])) := by
  simp [not_mem_gap, not_mem_of_nameChars c.name.nameChars_chars]

theorem exists_endsName {g : List Char} {x : Char} {s : List Char} (hg : ∀ c ∈ g, isBlank c = true)
    (hx : Shape.endsName x = true) : ∃ y r, g ++ x :: s = y :: r ∧ Shape.endsName y = true := by
  cases g with
  | nil => exact ⟨x, s, rfl, hx⟩
  | cons c g =>
    refine ⟨c, _, rfl, ?_⟩
    rw [Shape.endsName, hg c List.mem_cons_self]
    rfl

/-- A name in a tag is followed by white space or by the end of the tag. -/
theorem Opening.tail_eq (o : Opening) : ∃ x r, o.tail = x :: r ∧ Shape.endsName x = true := by
  unfold tail
  cases o.attributes with
  | nil =>
    cases o.slash with
    | false => exact exists_endsName o.gap.property (by decide)
    | true => exact exists_endsName o.gap.property (by decide)
  | cons a rest =>
    match hgap : a.gap.val, a.apart with
    | c :: g, _ =>
      refine ⟨c, _, by rw [List.flatMap_cons, Attribute.render, hgap]; rfl, ?_⟩
      rw [Shape.endsName, a.gap.property c (hgap ▸ List.mem_cons_self)]
      rfl

section

variable {tag : String} {place : Nat} {r : List Char}

theorem comment_eq_none {c : Char} (hc : isNameChar c = true ∨ c = '/') :
    Line.comment ('<' :: c :: r) = none := by
  unfold Line.comment
  split
  next heq =>
    obtain ⟨rfl, -⟩ := List.cons.inj (List.cons.inj heq).2
    exact absurd hc (by decide)
  next => rfl

theorem visible_opening (o : Opening) (n : Name) :
    Line.visible (Line.opening n.text) place 0 (o.render ++ r) =
      (if o.name.same n then [place] else []) ++
        Line.visible (Line.opening n.text) (place + o.render.length) 0 r := by
  obtain ⟨x, s, htail, hx⟩ := o.tail_eq
  have hopening : (Line.opening n.text ('<' :: (o.name.chars ++ o.tail ++ r))).isSome =
      o.name.same n := by
    rw [htail, List.append_assoc, List.cons_append, Line.isSome_opening n.nameChars_text
      o.name.nameChars_chars hx, Name.text, String.toList_ofList, Bool.beq_comm]
    rfl
  have hcomment : Line.comment ('<' :: (o.name.chars ++ o.tail ++ r)) = none :=
    comment_eq_none (.inl o.name.isNameChar_first)
  rw [Opening.render, Line.visible_cons (Line.angled_opening _) o.not_mem_body hcomment, hopening]

theorem visible_closing {m : Name} (c : Closing m) (n : Name) :
    Line.visible (Line.opening n.text) place 0 (c.render ++ r) =
      Line.visible (Line.opening n.text) (place + c.render.length) 0 r := by
  have hfirst : sameCase n.first '/' = false :=
    (Shape.sameCase_endsName n.isNameChar_first (by decide)).1
  have hopening : Line.opening n.text ('<' :: ('/' :: (c.name.chars ++ (c.gap.val ++ ['>'])) ++ r)) =
      none := by
    simp [Line.opening, Shape.sequence, Shape.one, Name.text, Name.chars, Shape.caseless, hfirst]
  rw [Closing.render, Line.visible_cons (Line.angled_opening _) c.not_mem_body
    (comment_eq_none (.inr rfl)), hopening]
  rfl

theorem occurs_opening (o : Opening) (tag : String) :
    (Line.closingTag tag).occurs (o.render ++ r) = (Line.closingTag tag).occurs r := by
  have hfirst : sameCase '/' o.name.first = false := by
    rw [Text.sameCase_comm]
    exact (Shape.sameCase_endsName o.name.isNameChar_first (by decide)).1
  have hnone : Line.closingTag tag ('<' :: (o.name.chars ++ o.tail ++ r)) = none := by
    simp [Line.closingTag, Shape.sequence, Name.chars, Shape.caseless, hfirst]
  exact Shape.occurs_cons (Line.angled_closingTag tag) o.not_mem_body hnone

theorem occurs_closing {m : Name} (c : Closing m) (hm : ¬ m.HoldsText) (htag : tag ∈ Line.textTags) :
    (Line.closingTag tag).occurs (c.render ++ r) = (Line.closingTag tag).occurs r := by
  have hall : Line.textTags.all (fun tag => tag.toList.all isNameChar) = true := by decide
  have hchars := List.all_eq_true.mp (List.all_eq_true.mp hall tag htag)
  have hne : lower tag.toList ≠ lower c.name.chars := by
    rw [eq_of_beq c.same]
    exact m.lower_ne_of_not_holdsText htag hm
  obtain ⟨x, s, hgap, hx⟩ := exists_endsName (s := r) c.gap.property
    (by decide : Shape.endsName '>' = true)
  have hnone : Line.closingTag tag ('<' :: ('/' :: (c.name.chars ++ (c.gap.val ++ ['>'])) ++ r)) =
      none := by
    rw [List.cons_append, List.append_assoc, List.append_assoc, List.singleton_append, hgap]
    exact Line.closingTag_eq_none hchars c.name.nameChars_chars hx hne
  exact Shape.occurs_cons (Line.angled_closingTag tag) c.not_mem_body hnone

/-- Nothing in a comment closes an element of text, not even together with what follows. -/
theorem occurs_commented (htag : tag ∈ Line.textTags) {s : List Char}
    (hs : (Shape.caseless ('<' :: '/' :: tag.toList)).occurs s = false) :
    (Line.closingTag tag).occurs (s ++ '-' :: r) = (Line.closingTag tag).occurs ('-' :: r) := by
  have hall : Line.textTags.all (fun tag =>
      ('<' :: '/' :: tag.toList).all (!sameCase · '-')) = true := by decide
  have hdash : ∀ d ∈ '<' :: '/' :: tag.toList, sameCase d '-' = false := by
    intro d hd
    simpa using List.all_eq_true.mp (List.all_eq_true.mp hall tag htag) d hd
  induction s with
  | nil => rfl
  | cons c s ih =>
    rw [Shape.occurs, Bool.or_eq_false_iff] at hs
    have hnone : (Line.closingTag tag (c :: (s ++ '-' :: r))).isSome = false := by
      rw [Bool.eq_false_iff]
      intro hsome
      have hword : (Shape.caseless ('<' :: '/' :: tag.toList) (c :: s ++ '-' :: r)).isSome = true :=
        Option.isSome_of_isSome_bind hsome
      rw [Shape.isSome_caseless_of_append hdash hword] at hs
      cases hs.1
    rw [List.cons_append, Shape.occurs, hnone, Bool.false_or]
    exact ih hs.2

theorem occurs_comment (c : Comment) (htag : tag ∈ Line.textTags) :
    (Line.closingTag tag).occurs (c.render ++ r) = (Line.closingTag tag).occurs r := by
  have hangled := Line.angled_closingTag tag
  have hsplit : c.render ++ r = '<' :: ['!', '-', '-'] ++ (c.text ++ '-' :: (['-', '>'] ++ r)) := by
    simp [Comment.render]
  have hbang : sameCase '/' '!' = false := by decide
  have hnone : Line.closingTag tag ('<' :: (['!', '-', '-'] ++ (c.text ++ '-' :: (['-', '>'] ++ r)))) =
      none := by
    simp [Line.closingTag, Shape.sequence, Shape.caseless, hbang]
  calc
    (Line.closingTag tag).occurs (c.render ++ r)
      = (Line.closingTag tag).occurs (c.text ++ '-' :: (['-', '>'] ++ r)) := by
        rw [hsplit, Shape.occurs_cons hangled (by decide) hnone]
    _ = (Line.closingTag tag).occurs (['-', '-', '>'] ++ r) :=
        occurs_commented htag (c.noClosing tag htag)
    _ = (Line.closingTag tag).occurs r := Shape.occurs_append hangled (by decide)

end

theorem occurs_render (w : Written) {tag : String} (htag : tag ∈ Line.textTags) (r : List Char) :
    (Line.closingTag tag).occurs (w.render ++ r) = (Line.closingTag tag).occurs r := by
  induction w generalizing r with
  | nil => rfl
  | text s plain rest ih =>
    rw [render, List.append_assoc, Shape.occurs_append (Line.angled_closingTag tag) plain, ih]
  | comment c rest ih => rw [render, List.append_assoc, occurs_comment c htag, ih]
  | lone o rest ih => rw [render, List.append_assoc, occurs_opening, ih]
  | element o inside closing rest ihi ihr =>
    rw [render, List.append_assoc, List.append_assoc, List.append_assoc, occurs_opening, ihi,
      occurs_closing closing o.holdsMarkup htag, ihr]

/-- The openings that are seen in a source are those of its elements, in the same order. -/
theorem visible_render (w : Written) (n : Name) (before r : List Char) :
    Line.visible (Line.opening n.text) before.length 0 (w.render ++ r) =
      ((w.heads before).filter (·.name.same n)).map (·.before.length) ++
        Line.visible (Line.opening n.text) (before ++ w.render).length 0 r := by
  induction w generalizing before r with
  | nil => rw [render, List.append_nil]; rfl
  | text s plain rest ih =>
    rw [render, heads, List.append_assoc, Line.visible_append (Line.angled_opening _) plain,
      ← List.length_append, ih, List.append_assoc]
  | comment c rest ih =>
    have hcomment : Line.visible (Line.opening n.text) before.length 0 (c.render ++ (rest.render ++ r)) =
        Line.visible (Line.opening n.text) (before.length + c.render.length) 0 (rest.render ++ r) :=
      Line.visible_comment c.noEnd
    rw [render, heads, List.append_assoc, hcomment, ← List.length_append, ih, List.append_assoc]
  | lone o rest ih =>
    rw [render, heads, List.append_assoc, visible_opening, ← List.length_append, ih, List.append_assoc,
      List.filter_cons]
    split <;> rfl
  -- The tag, what is inside, the end tag and what follows, each from where the one before has ended.
  | element o inside closing rest ihi ihr =>
    simp only [render, heads, List.append_assoc]
    rw [visible_opening, ← List.length_append, ihi, visible_closing, ← List.length_append, ihr,
      List.filter_cons, List.filter_append]
    split
    · simp only [List.map_cons, List.map_append, List.append_assoc, List.cons_append, List.nil_append]
    · simp only [List.map_append, List.append_assoc, List.nil_append]

theorem exists_eq_of_mem_heads (w : Written) {before : List Char} {h : Head} (hh : h ∈ w.heads before) :
    ∃ r, before ++ w.render = h.before ++ '<' :: (h.name.chars ++ r) := by
  induction w generalizing before with
  | nil => cases hh
  | text s plain rest ih =>
    obtain ⟨r, hr⟩ := ih hh
    exact ⟨r, by rw [render, ← List.append_assoc, hr]⟩
  | comment c rest ih =>
    obtain ⟨r, hr⟩ := ih hh
    exact ⟨r, by rw [render, ← List.append_assoc, hr]⟩
  | lone o rest ih =>
    rcases List.mem_cons.mp hh with rfl | hh
    · exact ⟨o.tail ++ rest.render, by simp [render, Opening.render]⟩
    · obtain ⟨r, hr⟩ := ih hh
      exact ⟨r, by rw [render, ← List.append_assoc, hr]⟩
  | element o inside closing rest ihi ihr =>
    rcases List.mem_cons.mp hh with rfl | hh
    · exact ⟨o.tail ++ (inside.render ++ (closing.render ++ rest.render)),
        by simp [render, Opening.render]⟩
    · rcases List.mem_append.mp hh with hh | hh
      · obtain ⟨r, hr⟩ := ihi hh
        exact ⟨r ++ (closing.render ++ rest.render), by
          rw [render, ← List.append_assoc, ← List.append_assoc, hr]
          simp only [List.append_assoc, List.cons_append]⟩
      · obtain ⟨r, hr⟩ := ihr hh
        refine ⟨r, ?_⟩
        rw [← hr, render]
        simp only [List.append_assoc]

theorem openings_render (w : Written) (n : Name) :
    (Line.openings n.text w.render).map (·.start) =
      ((w.heads []).filter (·.name.same n)).map (·.before.length) := by
  have hclosed : ∀ tag ∈ Line.textTags, (Line.closingTag tag).occurs w.render = false := by
    intro tag htag
    have hoccurs := w.occurs_render htag []
    rw [List.append_nil] at hoccurs
    rw [hoccurs, Shape.occurs, (Line.angled_closingTag tag).nil]
    rfl
  have hvisible := w.visible_render n [] []
  rw [List.append_nil] at hvisible
  rw [Line.openings_eq n.nameChars_text hclosed]
  exact hvisible.trans (List.append_nil _)

/-- In a well-formed source the element with `k` others of its name before it gets the line its tag
begins on, and a handle beyond the last of them gets none. What each element has before it does come
before its tag. -/
theorem line_of_written (w : Written) (n : Name) (index k : Nat) :
    (Line.find? ⟨index, n.text, k⟩ w.render =
      ((w.heads []).filter (·.name.same n))[k]?.map fun h => h.before.count '\n' + 1) ∧
    ∀ h ∈ w.heads [], (h.before ++ '<' :: h.name.chars) <+: w.render := by
  have hbefore : ∀ h ∈ w.heads [], ∃ r, w.render = h.before ++ '<' :: (h.name.chars ++ r) :=
    fun h hh => w.exists_eq_of_mem_heads hh
  constructor
  · have hstart : (((Line.openings n.text w.render)[k]?).map (·.start)) =
        ((w.heads []).filter (·.name.same n))[k]?.map (·.before.length) := by
      rw [← List.getElem?_map, openings_render, List.getElem?_map]
    have hline : Line.find? ⟨index, n.text, k⟩ w.render =
        (((Line.openings n.text w.render)[k]?).map (·.start)).map fun start =>
          (w.render.take start).count '\n' + 1 := by
      rw [Line.find?_eq, Option.map_map]
      rfl
    rw [hline, hstart, Option.map_map]
    apply Option.map_congr
    intro h hh
    obtain ⟨r, hr⟩ := hbefore h (List.mem_filter.mp (List.mem_of_getElem? hh)).1
    rw [Function.comp_apply, hr, List.take_left]
  · intro h hh
    obtain ⟨r, hr⟩ := hbefore h hh
    exact ⟨r, by rw [hr, List.append_assoc, List.cons_append]⟩

example : Line.find? ⟨9, "p", 0⟩ "<!-- <p> -->\n<P\nid = \"a\">x</p >".toList = some 2 := by
  decide +kernel

end Written

end PageGrader
