import PageGrader.Proofs.Counting

namespace PageGrader

open Text (Shape isNameChar lower)
open Markup hiding Attribute

namespace Written.Name

def lowered (n : Name) : String := String.ofList (lower n.chars)

def isVoid (n : Name) : Bool := Balance.voidTags.contains n.lowered

end Written.Name

namespace Balanced

open Written (Name Attribute Gap Closing)

structure Tag where
  name : Name
  attributes : List Attribute
  gap : Gap

end Balanced

/-- Elements and text, the first of it in front. An element is a start tag alone, if it is void or its
tag ends with a slash, or it has an end tag. -/
inductive Balanced where
  | nil
  | text (s : List Char) (plain : '<' ∉ s) (rest : Balanced)
  | lone (tag : Balanced.Tag) (slash : Bool) (alone : slash = true ∨ tag.name.isVoid = true)
      (rest : Balanced)
  | element (tag : Balanced.Tag) (nonVoid : tag.name.isVoid = false) (inside : Balanced)
      (closing : Written.Closing tag.name) (rest : Balanced)

namespace Balanced

open Written (Name Attribute Gap Closing)

namespace Tag

variable (t : Tag) (slash : Bool)

def plain : List Char := t.attributes.flatMap Attribute.render ++ t.gap.val

def body : List Char := t.plain ++ if slash then ['/'] else []

def render : List Char := '<' :: (t.name.chars ++ (t.body slash ++ ['>']))

end Tag

inductive Piece where
  | text (s : List Char) (plain : '<' ∉ s)
  | opening (tag : Tag) (slash : Bool)
  | closing {element : Name} (c : Closing element)

def Piece.render : Piece → List Char
  | text s _ => s
  | opening tag slash => tag.render slash
  | closing c => c.render

def pieces : Balanced → List Piece
  | nil => []
  | text s plain rest => .text s plain :: rest.pieces
  | lone tag slash _ rest => .opening tag slash :: rest.pieces
  | element tag _ inside closing rest =>
    .opening tag false :: (inside.pieces ++ .closing closing :: rest.pieces)

def render (pieces : List Piece) : List Char := pieces.flatMap Piece.render

def ended : Balanced → List Name
  | nil => []
  | text _ _ rest | lone _ _ _ rest => rest.ended
  | element tag _ inside _ rest => tag.name :: (inside.ended ++ rest.ended)

/-- Some end tags are lost, with these names; all else is kept. -/
inductive Loses : List Piece → List Name → List Piece → Prop
  | nil : Loses [] [] []
  | keep (p : Piece) {pieces : List Piece} {lost : List Name} {kept : List Piece}
      (h : Loses pieces lost kept) : Loses (p :: pieces) lost (p :: kept)
  | lose {element : Name} (c : Closing element) {pieces : List Piece} {lost : List Name}
      {kept : List Piece} (h : Loses pieces lost kept) :
      Loses (.closing c :: pieces) (c.name :: lost) kept

namespace Tag

variable (t : Tag) (slash : Bool) {u v : List Char}

theorem not_mem_gap (g : Gap) : '>' ∉ g.val := fun hmem => absurd (g.property _ hmem) (by decide)

theorem not_mem_attribute (a : Attribute) : '>' ∉ a.render := by
  have hvalue : '>' ∉ (a.value.map Written.Value.render).getD [] := by
    cases a.value with
    | none => exact List.not_mem_nil
    | some v =>
      have htext : '>' ∉ v.text := fun hmem => (v.plain _ hmem).2.1 rfl
      simp [Written.Value.render, not_mem_gap, htext]
  have hname : '>' ∉ a.name := fun hmem => absurd (a.nameChars _ hmem) (by decide)
  simp [Attribute.render, not_mem_gap, hname, hvalue]

theorem not_mem_body : '<' ∉ t.body slash ∧ '>' ∉ t.body slash := by
  have hopen : '<' ∉ t.attributes.flatMap Attribute.render := by
    rw [List.mem_flatMap]
    rintro ⟨a, -, hmem⟩
    exact a.not_mem_render hmem
  have hclose : '>' ∉ t.attributes.flatMap Attribute.render := by
    rw [List.mem_flatMap]
    rintro ⟨a, -, hmem⟩
    exact not_mem_attribute a hmem
  cases slash <;> simp [body, plain, hopen, hclose, not_mem_gap, Written.not_mem_gap]

def EndsPlain (u : List Char) : Prop := u.getLast? ≠ some '/'

theorem endsPlain_append (hu : EndsPlain u) (hv : EndsPlain v) : EndsPlain (u ++ v) := by
  rw [EndsPlain, List.getLast?_append]
  cases hlast : v.getLast? with
  | none => exact hu
  | some c => rwa [EndsPlain, hlast] at hv

theorem endsPlain_concat {c : Char} (hc : c ≠ '/') : EndsPlain (u ++ [c]) := by
  rw [EndsPlain, List.getLast?_concat]
  exact fun h => hc (Option.some.inj h)

theorem endsPlain_of_not_mem (hu : '/' ∉ u) : EndsPlain u :=
  fun hlast => hu (List.mem_of_getLast? hlast)

theorem endsPlain_gap (g : Gap) : EndsPlain g.val :=
  endsPlain_of_not_mem fun hmem => absurd (g.property _ hmem) (by decide)

theorem endsPlain_nameChars (hu : ∀ c ∈ u, isNameChar c = true) : EndsPlain u :=
  endsPlain_of_not_mem fun hmem => absurd (hu _ hmem) (by decide)

theorem endsPlain_attribute (a : Attribute) : EndsPlain a.render := by
  have hvalue : EndsPlain ((a.value.map Written.Value.render).getD []) := by
    cases a.value with
    | none => exact endsPlain_of_not_mem List.not_mem_nil
    | some v =>
      have hrender : v.render = v.before.val ++ '=' :: (v.after.val ++ '"' :: v.text) ++ ['"'] := by
        simp [Written.Value.render]
      rw [Option.map_some, Option.getD_some, hrender]
      exact endsPlain_concat (by decide)
  exact endsPlain_append (endsPlain_gap _) (endsPlain_append (endsPlain_nameChars a.nameChars) hvalue)

theorem endsPlain_plain : EndsPlain t.plain := by
  have hattributes : ∀ attributes : List Attribute,
      EndsPlain (attributes.flatMap Attribute.render) := by
    intro attributes
    induction attributes with
    | nil => exact endsPlain_of_not_mem List.not_mem_nil
    | cons a rest ih => exact endsPlain_append (endsPlain_attribute a) ih
  exact endsPlain_append (hattributes t.attributes) (endsPlain_gap t.gap)

theorem getLast?_body : (t.body slash).getLast? = some '/' ↔ slash = true := by
  cases slash with
  | false =>
    have hplain : t.body false = t.plain := List.append_nil _
    rw [hplain]
    exact iff_of_false t.endsPlain_plain Bool.false_ne_true
  | true =>
    have hslash : t.body true = t.plain ++ ['/'] := rfl
    rw [hslash, List.getLast?_concat]
    exact iff_of_true rfl rfl

/-- A name in a tag is followed by white space or a slash, or by nothing. -/
theorem apart_plain : Balance.Apart t.plain := by
  have hgap := Balance.apart_of_blank t.gap.property
  have hattributes : ∀ attributes : List Attribute,
      Balance.Apart (attributes.flatMap Attribute.render ++ t.gap.val) := by
    intro attributes
    cases attributes with
    | nil => exact hgap
    | cons a rest =>
      obtain ⟨c, g, hcons⟩ := List.exists_cons_of_ne_nil a.apart
      have hblank := Balance.apart_of_blank a.gap.property
      rw [List.flatMap_cons, Attribute.render, hcons]
      rw [hcons] at hblank
      exact hblank
  exact hattributes t.attributes

theorem body_of_tag : Balance.Body (t.body slash) := by
  refine ⟨Balance.apart_append t.apart_plain ?_, (t.not_mem_body slash).2⟩
  cases slash with
  | false => exact nofun
  | true => exact fun c hc => Option.some.inj hc ▸ rfl

theorem nameOf_render : Balance.nameOf (t.render slash) = lower t.name.chars := by
  obtain ⟨x, s, htail, hx⟩ := (t.body_of_tag slash).endsName (r := [])
  have hend : ¬ Balance.isNameChar x = true :=
    Bool.eq_false_iff.mp (Shape.sameCase_endsName t.name.isNameChar_first hx).2
  have hchars : ∀ c ∈ t.name.chars, Balance.isNameChar c = true := t.name.nameChars_chars
  rw [Balance.nameOf, render, htail, List.drop_one, List.tail_cons,
    List.takeWhile_append_of_pos hchars, List.takeWhile_cons_of_neg hend, List.append_nil]

theorem isSuffixOf_render : ['/', '>'].isSuffixOf (t.render slash) = slash := by
  have hname : EndsPlain ('<' :: t.name.chars) :=
    endsPlain_append (endsPlain_of_not_mem (by decide : '/' ∉ ['<']))
      (endsPlain_nameChars t.name.nameChars_chars)
  have hbefore : ('<' :: t.name.chars ++ t.body slash).getLast? = some '/' ↔ slash = true := by
    cases slash with
    | false =>
      have hbody : EndsPlain (t.body false) :=
        fun hlast => Bool.false_ne_true ((t.getLast?_body false).mp hlast)
      exact iff_of_false (endsPlain_append hname hbody) Bool.false_ne_true
    | true =>
      rw [List.getLast?_append, (t.getLast?_body true).mpr rfl]
      exact iff_of_true rfl rfl
  have hrender : t.render slash = '<' :: t.name.chars ++ t.body slash ++ ['>'] := by simp [render]
  have hsuffix : ['/', '>'] <:+ t.render slash ↔ ['/'] <:+ '<' :: t.name.chars ++ t.body slash := by
    have hsplit : ['/', '>'] = ['/'] ++ ['>'] := rfl
    rw [hrender, hsplit, List.suffix_append_inj_of_length_eq rfl]
    exact and_iff_left rfl
  rw [Bool.eq_iff_iff, List.isSuffixOf_iff_suffix, hsuffix, ← hbefore, List.getLast?_eq_some_iff]
  exact exists_congr fun u => eq_comm

/-- The slash is seen before the end of the tag, and nothing that looks like it. -/
theorem needsClosing_render :
    Balance.needsClosing (t.render slash) = (!slash && !t.name.isVoid) := by
  have hvoid : (Balance.voidTags.any fun name => name.toList == lower t.name.chars) =
      t.name.isVoid := by
    rw [Name.isVoid, List.contains_eq_any_beq]
    congr 1
    funext name
    rw [Bool.eq_iff_iff, beq_iff_eq, beq_iff_eq, Name.lowered, ← String.toList_inj,
      String.toList_ofList, eq_comm]
  rw [Balance.needsClosing, isSuffixOf_render, nameOf_render, hvoid]

end Tag

namespace Piece

open Text.Shape

def opens (q : String → Bool) : Piece → Bool
  | opening tag slash => !slash && q tag.name.lowered
  | _ => false

def closes (q : String → Bool) : Piece → Bool
  | closing c => q c.name.lowered
  | _ => false

def begins (q : String → Bool) : Piece → Bool
  | opening tag _ => q tag.name.lowered
  | _ => false

def closesItself (q : String → Bool) : Piece → Bool
  | opening tag slash => slash && q tag.name.lowered
  | _ => false

variable {shape : Shape} {found : Bool}

theorem meets_opening (h : shape.Angled) (t : Tag) (slash : Bool)
    (hshape : ∀ r, shape ('<' :: (t.name.chars ++ (t.body slash ++ '>' :: r))) =
      if found then some r else none) : Meets shape (t.render slash) found := by
  apply meets_tag h
  · have hname := Written.not_mem_of_nameChars t.name.nameChars_chars
    simp [hname, (t.not_mem_body slash).1]
  · intro r
    rw [List.append_assoc, List.append_assoc]
    exact hshape r

theorem meets_closing {element : Name} (h : shape.Angled) (c : Closing element)
    (hshape : ∀ r, shape ('<' :: '/' :: (c.name.chars ++ (c.gap.val ++ '>' :: r))) =
      if found then some r else none) : Meets shape c.render found := by
  apply meets_tag h c.not_mem_body
  intro r
  rw [List.cons_append, List.append_assoc, List.append_assoc]
  exact hshape r

theorem meets_anyOpening (p : Piece) :
    Meets Balance.anyOpening p.render (p.begins fun _ => true) := by
  have hangled := Balance.angled_anyOpening
  cases p with
  | text s plain => exact meets_plain hangled plain
  | opening t slash =>
    apply meets_opening hangled
    intro r
    have hrest : '>' ∉ t.name.rest ++ t.body slash := by
      apply List.not_mem_append _ (t.not_mem_body slash).2
      exact fun hmem => absurd (t.name.nameChars _ hmem) (by decide)
    rw [Name.chars, List.cons_append, ← List.append_assoc]
    exact Balance.anyOpening_eq_some t.name.alpha hrest
  | closing c => exact meets_closing hangled c fun r => Balance.anyOpening_eq_none (by decide)

theorem meets_anyClosing (p : Piece) :
    Meets Balance.anyClosing p.render (p.closes fun _ => true) := by
  have hangled := Balance.angled_anyClosing
  have hne {n : Name} {c : Char} (hc : isNameChar c = false) : n.first ≠ c := by
    rintro rfl
    rw [n.isNameChar_first] at hc
    cases hc
  cases p with
  | text s plain => exact meets_plain hangled plain
  | opening t slash =>
    apply meets_opening hangled
    intro r
    exact Balance.anyClosing_eq_none (hne (by decide))
  | closing c =>
    apply meets_closing hangled
    intro r
    have hrest : '>' ∉ c.name.rest ++ c.gap.val := by
      apply List.not_mem_append _ (Tag.not_mem_gap c.gap)
      exact fun hmem => absurd (c.name.nameChars _ hmem) (by decide)
    rw [Name.chars, List.cons_append, ← List.append_assoc]
    exact Balance.anyClosing_eq_some (hne (by decide)) hrest

structure Small (tag : String) : Prop where
  nameChars : ∀ c ∈ tag.toList, isNameChar c = true
  small : lower tag.toList = tag.toList
  nonempty : tag.toList ≠ []

variable {tag : String}

theorem Small.lowered_iff (h : Small tag) (n : Name) :
    (n.lowered == tag) = true ↔ lower tag.toList = lower n.chars := by
  rw [beq_iff_eq, h.small, Name.lowered, ← String.toList_inj, String.toList_ofList, eq_comm]

theorem Small.eq_none_of_slash (h : Small tag) (r : List Char) :
    Shape.caseless ('<' :: tag.toList) ('<' :: '/' :: r) = none := by
  obtain ⟨c, w, hcons⟩ := List.exists_cons_of_ne_nil h.nonempty
  have hc := h.nameChars c (hcons ▸ List.mem_cons_self)
  rw [hcons]
  exact (Balance.caseless_eq_none hc (by decide) rfl).1

theorem meets_opening_of (h : Small tag) (p : Piece) :
    Meets (Balance.opening tag) p.render (p.begins (· == tag)) := by
  have hangled := Balance.angled_opening tag
  cases p with
  | text s plain => exact meets_plain hangled plain
  | opening t slash =>
    apply meets_opening hangled
    intro r
    rw [Balance.opening_tag h.nameChars t.name.nameChars_chars (t.body_of_tag slash)]
    exact if_congr (h.lowered_iff t.name).symm rfl rfl
  | closing c =>
    apply meets_closing hangled
    intro r
    rw [Balance.opening, h.eq_none_of_slash]
    rfl

theorem meets_selfClosing (h : Small tag) (p : Piece) :
    Meets (Balance.selfClosing tag) p.render (p.closesItself (· == tag)) := by
  have hangled := Balance.angled_selfClosing tag
  cases p with
  | text s plain => exact meets_plain hangled plain
  | opening t slash =>
    apply meets_opening hangled
    intro r
    rw [Balance.selfClosing_tag h.nameChars t.name.nameChars_chars (t.body_of_tag slash),
      if_congr (h.lowered_iff t.name).symm (if_congr (t.getLast?_body slash) rfl rfl) rfl,
      closesItself, Bool.and_comm, ← ite_and]
    exact if_congr Bool.and_eq_true_iff.symm rfl rfl
  | closing c =>
    apply meets_closing hangled
    intro r
    rw [Balance.selfClosing, h.eq_none_of_slash]
    rfl

theorem meets_closing_of (h : Small tag) (p : Piece) :
    Meets (Balance.closing tag) p.render (p.closes (· == tag)) := by
  have hangled := Balance.angled_closing tag
  cases p with
  | text s plain => exact meets_plain hangled plain
  | opening t slash =>
    apply meets_opening hangled
    intro r
    have hnone : Shape.caseless ('/' :: tag.toList) (t.name.chars ++ (t.body slash ++ '>' :: r)) =
        none := (Balance.caseless_eq_none t.name.isNameChar_first (by decide) rfl).2
    have hopen : Balance.closing tag ('<' :: (t.name.chars ++ (t.body slash ++ '>' :: r))) =
        (Shape.caseless ('/' :: tag.toList) (t.name.chars ++ (t.body slash ++ '>' :: r))).bind
          (Shape.sequence [Shape.blanks, Shape.one (· == '>')]) := rfl
    rw [hopen, hnone]
    rfl
  | closing c =>
    apply meets_closing hangled
    intro r
    rw [Balance.closing_endTag h.nameChars c.name.nameChars_chars c.gap.property]
    exact if_congr (h.lowered_iff c.name).symm rfl rfl

end Piece

open Piece Text.Shape

variable {pieces kept : List Piece} {lost : List Name} {q : String → Bool}

theorem tagBalance_render (pieces : List Piece) :
    Balance.tagBalance (render pieces) =
      (pieces.countP (opens (!Balance.voidTags.contains ·)), pieces.countP (closes fun _ => true)) := by
  have htexts : (Balance.anyOpening.spans (render pieces)).map (·.text (render pieces)) =
      (pieces.filter (begins fun _ => true)).map Piece.render :=
    texts_flatMap (fun p _ => meets_anyOpening p) []
  have hcalls (p : Piece) : (Balance.needsClosing p.render && begins (fun _ => true) p) =
      opens (!Balance.voidTags.contains ·) p := by
    cases p with
    | text s plain => exact Bool.and_false _
    | opening t slash => exact (Bool.and_true _).trans (t.needsClosing_render slash)
    | closing c => exact Bool.and_false _
  have hopenings : (((pieces.filter (begins fun _ => true)).map Piece.render).filter
      Balance.needsClosing).length = pieces.countP (opens (!Balance.voidTags.contains ·)) := by
    rw [List.filter_map, List.length_map, List.filter_filter, List.countP_eq_length_filter]
    exact congrArg List.length (List.filter_congr fun p _ => hcalls p)
  have hclosings : Balance.anyClosing.count (render pieces) =
      pieces.countP (closes fun _ => true) := count_flatMap fun p _ => meets_anyClosing p
  rw [Balance.tagBalance, htexts, hopenings, hclosings]

/-- Openings that are no tags with a slash call for an end tag. -/
theorem countP_begins (q : String → Bool) (pieces : List Piece) :
    pieces.countP (begins q) - pieces.countP (closesItself q) = pieces.countP (opens q) := by
  -- A difference of counts may be cut off at zero, so the induction is on the sum.
  have hsum : pieces.countP (begins q) = pieces.countP (opens q) + pieces.countP (closesItself q) := by
    induction pieces with
    | nil => rfl
    | cons p rest ih =>
      have hsplit : (if begins q p = true then 1 else 0) =
          (if opens q p = true then 1 else 0) + if closesItself q p = true then 1 else 0 := by
        cases p with
        | text s plain => rfl
        | opening t slash =>
          cases slash with
          | false => exact (Nat.add_zero _).symm
          | true => exact (Nat.zero_add _).symm
        | closing c => rfl
      rw [List.countP_cons, List.countP_cons, List.countP_cons, ih, hsplit]
      omega
  omega

theorem counts_render {tag : String} (h : Small tag) (pieces : List Piece) :
    Balance.counts tag (render pieces) =
      (pieces.countP (opens (· == tag)), pieces.countP (closes (· == tag))) := by
  have hopening : (Balance.opening tag).count (render pieces) =
      pieces.countP (begins (· == tag)) := count_flatMap fun p _ => meets_opening_of h p
  have hself : (Balance.selfClosing tag).count (render pieces) =
      pieces.countP (closesItself (· == tag)) := count_flatMap fun p _ => meets_selfClosing h p
  have hclosing : (Balance.closing tag).count (render pieces) =
      pieces.countP (closes (· == tag)) := count_flatMap fun p _ => meets_closing_of h p
  rw [Balance.counts, hopening, hself, hclosing, countP_begins]

/-- The elements whose start tags call for an end tag are those that have one. -/
theorem countP_opens (w : Balanced) (hq : ∀ name ∈ Balance.voidTags, q name = false) :
    w.pieces.countP (opens q) = w.ended.countP fun n => q n.lowered := by
  induction w with
  | nil => rfl
  | text s plain rest ih => exact ih
  | lone tag slash alone rest ih =>
    have hnone : opens q (.opening tag slash) = false := by
      rcases alone with rfl | hvoid
      · rfl
      · rw [opens, hq _ (List.contains_iff_mem.mp hvoid), Bool.and_false]
    rw [pieces, List.countP_cons, hnone, ih]
    rfl
  | element tag nonVoid inside closing rest ihi ihr =>
    rw [Balanced.pieces, ended, List.countP_cons, List.countP_append, List.countP_cons, List.countP_cons,
      List.countP_append, ihi, ihr]
    rfl

theorem countP_closes (w : Balanced) (q : String → Bool) :
    w.pieces.countP (closes q) = w.ended.countP fun n => q n.lowered := by
  induction w with
  | nil => rfl
  | text s plain rest ih => exact ih
  | lone tag slash alone rest ih => exact ih
  | element tag nonVoid inside closing rest ihi ihr =>
    have hname : closing.name.lowered = tag.name.lowered :=
      congrArg String.ofList (eq_of_beq closing.same)
    have hopen : closes q (.opening tag false) = false := rfl
    have hclose : closes q (.closing closing) = q tag.name.lowered := congrArg q hname
    rw [Balanced.pieces, ended, List.countP_cons, List.countP_append, List.countP_cons, List.countP_cons,
      List.countP_append, ihi, ihr, hopen, hclose]
    exact (Nat.add_assoc ..).symm

theorem not_isVoid_of_mem_ended {w : Balanced} {n : Name} (h : n ∈ w.ended) : n.isVoid = false := by
  induction w with
  | nil => cases h
  | text s plain rest ih => exact ih h
  | lone tag slash alone rest ih => exact ih h
  | element tag nonVoid inside closing rest ihi ihr =>
    rcases List.mem_cons.mp h with rfl | h
    · exact nonVoid
    · exact (List.mem_append.mp h).elim ihi ihr

namespace Loses

theorem countP_opens (h : Loses pieces lost kept) (q : String → Bool) :
    kept.countP (opens q) = pieces.countP (opens q) := by
  induction h with
  | nil => rfl
  | keep p h ih => rw [List.countP_cons, List.countP_cons, ih]
  | lose c h ih => rw [List.countP_cons, ih]; rfl

theorem countP_closes (h : Loses pieces lost kept) (q : String → Bool) :
    kept.countP (closes q) + lost.countP (fun n => q n.lowered) = pieces.countP (closes q) := by
  induction h with
  | nil => rfl
  | keep p h ih =>
    rw [List.countP_cons, List.countP_cons, ← ih]
    omega
  | lose c h ih =>
    rw [List.countP_cons, List.countP_cons, ← ih]
    exact (Nat.add_assoc ..).symm

theorem refl (pieces : List Piece) : Loses pieces [] pieces := by
  induction pieces with
  | nil => exact .nil
  | cons p rest ih => exact .keep p ih

end Loses

end Balanced

end PageGrader
