import PageGrader.Line
import PageGrader.Proofs.Numbering

namespace PageGrader

namespace Line

def lineOf (page : List Char) (s : Text.Span) : Nat := (page.take s.start).count '\n' + 1

theorem find?_eq (h : Handle) (page : List Char) :
    find? h page = ((openings h.tag page)[h.occurrence]?).map (lineOf page) := rfl

end Line

namespace Document

variable {d : Document} {page : List Char} {e : Element} {tag : String} {k : Nat}

theorem Plain.handle_named (h : d.Plain) (he : (d.named tag)[k]? = some e) :
    (d.handle e).tag = tag ∧ (d.handle e).occurrence = k := by
  obtain ⟨hmem, hname⟩ := List.mem_filter.mp (List.mem_of_getElem? he)
  refine ⟨(h.distinct.tag_handle hmem).trans (eq_of_beq hname), ?_⟩
  have hlt : k < (d.named tag).length := (List.getElem?_eq_some_iff.mp he).1
  have hat := congrArg (·[k]?) (h.distinct.occurrences tag)
  simpa [List.getElem?_map, he, List.getElem?_range hlt] using hat

/-- The element with `k` others of its tag before it takes the opening with `k` others before it. -/
theorem Plain.line_named (h : d.Plain) (he : (d.named tag)[k]? = some e) :
    Line.find? (d.handle e) page = ((Line.openings tag page)[k]?).map (Line.lineOf page) := by
  obtain ⟨htag, hoccurrence⟩ := h.handle_named he
  rw [Line.find?_eq, htag, hoccurrence]

/-- When the elements of a tag and its openings differ in number, no line is given just if there are
none of the one or of the other. Whatever their numbers, each element takes the opening that is as far
down the list. -/
theorem withholds_lines_iff (hread : read page = .ok d) (tag : String) :
    (((d.named tag).length ≠ (Line.openings tag page).length →
        ∀ e ∈ d.elements, e.name = tag → Line.find? (d.handle e) page = none) ↔
      (d.named tag).length = (Line.openings tag page).length ∨ d.named tag = [] ∨
        Line.openings tag page = []) ∧
    ∀ (k : Nat) (e : Element), (d.named tag)[k]? = some e →
      Line.find? (d.handle e) page = ((Line.openings tag page)[k]?).map (Line.lineOf page) := by
  have hplain := plain_of_read hread
  have hnamed : ∀ e, e ∈ d.named tag ↔ e ∈ d.elements ∧ e.name = tag := by
    intro e
    rw [named, List.mem_filter, beq_iff_eq]
  refine ⟨⟨?_, ?_⟩, fun k e he => hplain.line_named he⟩
  · intro hsilent
    by_cases hcount : (d.named tag).length = (Line.openings tag page).length
    · exact .inl hcount
    · refine .inr ?_
      cases helements : d.named tag with
      | nil => exact .inl rfl
      -- The first element takes the first opening, so there is none.
      | cons e rest =>
        obtain ⟨hmem, hname⟩ := (hnamed e).mp (helements ▸ List.mem_cons_self)
        have hnone := hsilent hcount e hmem hname
        have hfirst : (d.named tag)[0]? = some e := by rw [helements]; rfl
        rw [hplain.line_named hfirst, Option.map_eq_none_iff, List.getElem?_eq_none_iff] at hnone
        exact .inr (List.eq_nil_of_length_eq_zero (Nat.le_zero.mp hnone))
  · rintro hcases hcount e hmem hname
    have he := (hnamed e).mpr ⟨hmem, hname⟩
    rcases hcases with hequal | hnothing | hnothing
    · exact absurd hequal hcount
    · rw [hnothing] at he
      exact absurd he List.not_mem_nil
    · obtain ⟨k, hk⟩ := List.mem_iff_getElem?.mp he
      rw [hplain.line_named hk, hnothing]
      rfl

/-- The body of a table that no tag asked for gets no line. -/
theorem withholds_line_of_implied_body :
    ∃ page d, read page = .ok d ∧ (d.named "tbody").length = 1 ∧
      ∀ e ∈ d.elements, e.name = "tbody" → Line.find? (d.handle e) page = none := by
  let page := "<table>\n<tr></table>".toList
  have hread : read page = .ok (ofPage page) := rfl
  have hcount : ((ofPage page).named "tbody").length = 1 := by decide +kernel
  have hnothing : Line.openings "tbody" page = [] := by decide +kernel
  refine ⟨page, _, hread, hcount, ?_⟩
  apply (withholds_lines_iff hread "tbody").1.mpr (.inr (.inr hnothing))
  rw [hcount, hnothing]
  decide

/-- The paragraph made for a stray end tag takes the line of the one that has an opening. -/
theorem line_of_paragraph_without_opening :
    ¬ ∀ (page : List Char) (d : Document) (tag : String), read page = .ok d →
      (d.named tag).length ≠ (Line.openings tag page).length →
      ∀ e ∈ d.elements, e.name = tag → Line.find? (d.handle e) page = none := by
  intro hall
  let page := "<body></p>\n<p>x</p>".toList
  have hnone := hall page (ofPage page) "p" rfl (by decide +kernel)
  have hsome : ¬ ∀ e ∈ (ofPage page).elements, e.name = "p" →
      Line.find? ((ofPage page).handle e) page = none := by decide +kernel
  exact hsome hnone

end Document

end PageGrader
