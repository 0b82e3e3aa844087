import PageGrader.Proofs.EndTags
import PageGrader.Proofs.Framed
import PageGrader.Proofs.Line
import PageGrader.Proofs.Scan
import PageGrader.Proofs.Tags

namespace PageGrader

open Text (Shape)
open Text.Shape (positions)

namespace Line

/-- An element has a line just if its tag is shown often enough. -/
theorem isSome_find?_iff {h : Handle} (htag : ∀ c ∈ h.tag.toList, Text.isNameChar c = true)
    (page : List Char) : (find? h page).isSome = true ↔ h.occurrence < (shown h.tag page).length := by
  rw [find?_eq, Option.isSome_map, ← starts_openings htag, List.length_map, isSome_getElem?]

end Line

namespace Document

variable {d : Document} {s : Site}

theorem Plain.tag_handle (h : d.Plain) (hs : s ∈ d.sites) : (d.handle s.element).tag = s.name := by
  by_cases hreach : d.Reaches s
  · exact h.distinct.tag_handle (h.mem_elements hs hreach)
  · rw [handle_of_not_reaches hreach]

end Document

namespace Rule.Skeleton

variable {d : Document} {page : List Char} {tag : String} {s : Site}

theorem opening_of_written (tag : String) (r : List Char) (h : (written tag r).isSome = true) :
    (Line.opening tag r).isSome = true := by
  cases r with
  | nil => cases h
  | cons c r =>
    have hmark : Text.sameCase '<' c = true := by
      by_contra hno
      simp [written, Shape.sequence, Shape.caseless, hno] at h
    obtain rfl := Text.eq_of_sameCase_mark (.inl rfl) hmark
    have hname : written tag ('<' :: r) =
        (Shape.caseless tag.toList r).bind
          (Shape.sequence [.one fun c => Text.isBlank c || c == '>']) := rfl
    have hopens : Line.opening tag ('<' :: r) = (Shape.caseless tag.toList r).bind
        (Shape.sequence [.one fun c => Text.isBlank c || c == '/' || c == '>']) := rfl
    rw [hname] at h
    rw [hopens]
    cases hrest : Shape.caseless tag.toList r with
    | none =>
      rw [hrest] at h
      cases h
    | some t =>
      rw [hrest] at h
      cases t with
      | nil => cases h
      -- An opening may also go on with a slash.
      | cons x t =>
        have hend : Text.isBlank x = true ∨ x = '>' := by
          simpa [Shape.sequence, Shape.one] using h
        simpa [Shape.sequence, Shape.one] using hend.imp_left Or.inl

theorem mem_shown {n : Nat} (hn : n ∈ positions (written tag) 0 page)
    (hvisible : (Line.hidden page).any (·.covers n) = false) : n ∈ Line.shown tag page := by
  have hsub := Text.Shape.positions_sublist (opening_of_written tag) 0 page
  exact List.mem_filter.mpr ⟨hsub.mem hn, by rw [hvisible]; rfl⟩

theorem angled_written (tag : String) : (written tag).Angled := by
  refine ⟨rfl, fun c r hc => ?_⟩
  have hcase : Text.sameCase '<' c = false :=
    Bool.eq_false_iff.mpr fun h => hc (Text.eq_of_sameCase_mark (.inl rfl) h)
  simp [written, Shape.sequence, Shape.caseless, hcase]

/-- The first element made of that name, with its tag written out somewhere. -/
structure Part (d : Document) (page : List Char) (tag : String) (s : Site) : Prop where
  first : (d.all tag).head? = some s
  site : s ∈ d.sites
  name : s.name = tag
  written : positions (written tag) 0 page ≠ []

theorem all_part (d : Document) (htag : tag ∈ ["html", "head", "body"]) :
    d.all tag = among [tag] d.sites := by
  have hread : ∀ tag ∈ ["html", "head", "body"],
      Selector.read? tag = some (Document.anyTag [tag]) ∧ ∀ name ∈ [tag], Text.lowered name = name := by
    decide +kernel
  exact d.all_anyTag (hread tag htag).1 (hread tag htag).2

theorem part_of_some (htag : tag ∈ ["html", "head", "body"]) (h : part? d page tag = some s) :
    Part d page tag s := by
  obtain ⟨hfirst, hwritten⟩ := Option.filter_eq_some_iff.mp h
  have hmem := List.mem_of_head? hfirst
  rw [all_part d htag, mem_among, List.mem_singleton] at hmem
  have hsome := (Text.Shape.occurs_iff_positions (angled_written tag) 0 page).mp hwritten
  exact ⟨hfirst, hmem.1, hmem.2, hsome⟩

theorem Part.least (h : Part d page tag s) (htag : tag ∈ ["html", "head", "body"]) (hplain : d.Plain) :
    ∀ t ∈ d.sites, t.name = tag → s.element.serial ≤ t.element.serial := by
  intro t ht hname
  have hsorted : (d.all tag).Pairwise (·.element.serial < ·.element.serial) := by
    rw [all_part d htag]
    exact hplain.sites_increasing.filter _
  have hmem : t ∈ d.all tag := by
    rw [all_part d htag, mem_among]
    exact ⟨ht, List.mem_singleton.mpr hname⟩
  obtain ⟨rest, hall⟩ := List.head?_eq_some_iff.mp h.first
  rw [hall] at hsorted hmem
  rcases List.mem_cons.mp hmem with rfl | hmem
  · exact Nat.le_refl _
  · exact Nat.le_of_lt ((List.pairwise_cons.mp hsorted).1 t hmem)

/-- No element of its name comes before it in the tree. -/
theorem Part.occurrence_eq_zero (h : Part d page tag s) (htag : tag ∈ ["html", "head", "body"])
    (hplain : d.Plain) (hframed : d.Framed) : (d.handle s.element).occurrence = 0 := by
  rcases List.mem_cons.mp htag with rfl | hinner
  · exact hframed.occurrence_root hplain h.site (h.least htag hplain)
  · exact hframed.occurrence_sole hplain h.site (h.name ▸ hinner)

/-- Without defects the page declares its type, its tags are in order, and no part is missing. -/
theorem defects_eq_nil_iff : defects d page = [] ↔ declaresType page = true ∧
    (∀ tag ∈ ["html", "head", "body"], (part? d page tag).isSome = true) ∧
    headAfterBody page = false ∧ isUnbalanced page = false := by
  have hmissing (tags : List String) :
      ((tags.map fun tag => (tag, part? d page tag)).filter (·.2.isNone)).map
        (fun found => Defect.lacks found.1) = [] ↔ ∀ tag ∈ tags, (part? d page tag).isSome = true := by
    simp [List.filter_eq_nil_iff, Option.isSome_iff_ne_none]
  rw [defects, List.append_eq_nil_iff, List.append_eq_nil_iff, List.append_eq_nil_iff, hmissing]
  simp only [ite_eq_left_iff, ite_eq_right_iff, List.cons_ne_nil, imp_false, Bool.not_eq_true, and_assoc]
  simp

theorem exists_parts (h : ∀ tag ∈ ["html", "head", "body"], (part? d page tag).isSome = true) :
    ∃ html head body, parts d page = [html, head, body] ∧ Part d page "html" html ∧
      Part d page "head" head ∧ Part d page "body" body := by
  have hpart (tag : String) (htag : tag ∈ ["html", "head", "body"]) :
      ∃ s, part? d page tag = some s ∧ Part d page tag s := by
    obtain ⟨s, hs⟩ := Option.isSome_iff_exists.mp (h tag htag)
    exact ⟨s, hs, part_of_some htag hs⟩
  obtain ⟨html, hhtml, hhtmlPart⟩ := hpart "html" (by decide)
  obtain ⟨head, hhead, hheadPart⟩ := hpart "head" (by decide)
  obtain ⟨body, hbody, hbodyPart⟩ := hpart "body" (by decide)
  exact ⟨html, head, body, by simp [parts, hhtml, hhead, hbody], hhtmlPart, hheadPart, hbodyPart⟩

structure Passing (d : Document) (page : List Char) (o : Outcome) : Prop where
  declared : declaresType page = true
  ordered : headAfterBody page = false
  /-- The evidence is one `html`, one `head` and one `body`, in this order. -/
  parts : ∃ html head body, o.evidence = d.handles [html, head, body] ∧
    Part d page "html" html ∧ Part d page "head" head ∧ Part d page "body" body
  tags : o.evidence.map (·.tag) = ["html", "head", "body"]
  /-- No element of the same tag comes before one of them in the tree. -/
  first : ∀ h ∈ o.evidence, h.occurrence = 0
  /-- An element named as evidence has a line just if its tag is shown at all. -/
  lines : ∀ h ∈ o.evidence, ((Line.find? h page).isSome = true ↔ Line.shown h.tag page ≠ [])
  /-- The tag is shown wherever it is written out, unless that is hidden. -/
  shown : ∀ h ∈ o.evidence, ∀ n ∈ positions (written h.tag) 0 page,
    (Line.hidden page).any (·.covers n) = false → n ∈ Line.shown h.tag page

/-- A page with a skeleton that passes has its three outer elements written out, and each is the first of
its tag. All three have lines just if each tag is shown at all. -/
theorem passing_skeleton (hread : Document.read page = .ok d) :
    ∃ o, skeleton.check d page = .ok o ∧ (o.passed = true → Passing d page o ∧
      ((∀ h ∈ o.evidence, (Line.find? h page).isSome = true) ↔
        ∀ tag ∈ ["html", "head", "body"], Line.shown tag page ≠ [])) := by
  have hplain := Document.plain_of_read hread
  have hframed := Document.framed_of_read hread
  obtain ⟨o, ho, hpassed, -, hevidence⟩ := check_skeleton d page
  refine ⟨o, ho, fun hpass => ?_⟩
  obtain ⟨hdeclared, hparts, hordered, -⟩ := defects_eq_nil_iff.mp (hpassed.mp hpass)
  obtain ⟨html, head, body, hthree, hhtmlPart, hheadPart, hbodyPart⟩ := exists_parts hparts
  have hnamed : o.evidence = d.handles [html, head, body] := by
    rw [hevidence hpass, hthree]
  have htags : o.evidence.map (·.tag) = ["html", "head", "body"] := by
    rw [hnamed, ← hhtmlPart.name, ← hheadPart.name, ← hbodyPart.name,
      ← hplain.tag_handle hhtmlPart.site, ← hplain.tag_handle hheadPart.site,
      ← hplain.tag_handle hbodyPart.site]
    rfl
  have hfirst : ∀ h ∈ o.evidence, h.occurrence = 0 := by
    have hpart : ∀ s ∈ [html, head, body], (d.handle s.element).occurrence = 0 := by
      simp [hhtmlPart.occurrence_eq_zero (by decide) hplain hframed,
        hheadPart.occurrence_eq_zero (by decide) hplain hframed,
        hbodyPart.occurrence_eq_zero (by decide) hplain hframed]
    intro h hh
    rw [hnamed] at hh
    obtain ⟨s, hs, rfl⟩ := d.mem_handles.mp hh
    exact hpart s hs
  have hchars : ∀ h ∈ o.evidence, ∀ c ∈ h.tag.toList, Text.isNameChar c = true := by
    have hall : ∀ tag ∈ ["html", "head", "body"], tag.toList.all Text.isNameChar = true := by decide
    intro h hh
    exact List.all_eq_true.mp (hall h.tag (htags ▸ List.mem_map_of_mem hh))
  have hlines : ∀ h ∈ o.evidence, ((Line.find? h page).isSome = true ↔ Line.shown h.tag page ≠ []) := by
    intro h hh
    rw [Line.isSome_find?_iff (hchars h hh), hfirst h hh, List.length_pos_iff]
  refine ⟨⟨hdeclared, hordered, ⟨html, head, body, hnamed, hhtmlPart, hheadPart, hbodyPart⟩, htags,
    hfirst, hlines, fun _ _ _ => mem_shown⟩, ?_⟩
  rw [← htags, List.forall_mem_map]
  exact forall₂_congr hlines

/-- A small page with everything in its place. -/
theorem passing_skeleton_of_small_page :
    let page := "<!DOCTYPE html>\n<html>\n<head></head>\n<body></body></html>".toList
    let d := Document.ofPage page
    Document.read page = .ok d ∧ ∃ o, skeleton.check d page = .ok o ∧ o.passed = true ∧
      o.evidence.map (·.tag) = ["html", "head", "body"] ∧
      ∀ h ∈ o.evidence, (Line.find? h page).isSome = true := by
  intro page d
  have hread : Document.read page = .ok d := rfl
  have hdefects : defects d page = [] := by decide +kernel
  have hshown : ∀ tag ∈ ["html", "head", "body"], Line.shown tag page ≠ [] := by decide +kernel
  obtain ⟨o, ho, hpassing⟩ := passing_skeleton hread
  obtain ⟨o', ho', hpassed, -⟩ := check_skeleton d page
  obtain rfl : o = o' := Except.ok.inj (ho.symm.trans ho')
  have hpass := hpassed.mpr hdefects
  obtain ⟨hwhole, hlines⟩ := hpassing hpass
  exact ⟨hread, o, ho, hpass, hwhole.tags, hlines.mpr hshown⟩

/-- The tags stand in a comment and nowhere else. The elements are made all the same, so the rule passes,
and none of them has a line. -/
theorem skeleton_passes_in_comment :
    let page := "<!DOCTYPE html><!--<html><head></head><body>-->".toList
    let d := Document.ofPage page
    Document.read page = .ok d ∧ ∃ o, skeleton.check d page = .ok o ∧ o.passed = true ∧
      o.evidence = [⟨0, "html", 0⟩, ⟨1, "head", 0⟩, ⟨2, "body", 0⟩] ∧
      ∀ h ∈ o.evidence, Line.find? h page = none := by
  intro page d
  have hdefects : defects d page = [] := by decide +kernel
  have hevidence : d.handles (parts d page) = [⟨0, "html", 0⟩, ⟨1, "head", 0⟩, ⟨2, "body", 0⟩] := by
    decide +kernel
  have hlines : ∀ h ∈ [⟨0, "html", 0⟩, ⟨1, "head", 0⟩, ⟨2, "body", 0⟩], Line.find? h page = none := by
    decide +kernel
  obtain ⟨o, ho, hpassed, -, hnamed⟩ := check_skeleton d page
  have hpass := hpassed.mpr hdefects
  have hall := (hnamed hpass).trans hevidence
  exact ⟨rfl, o, ho, hpass, hall, by rwa [hall]⟩

end Rule.Skeleton
end PageGrader
