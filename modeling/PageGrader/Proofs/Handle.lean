import Mathlib.Data.List.Nodup
import PageGrader.Document

namespace PageGrader

namespace Handle

theorem index_lt_of_mem_number {seen names : List String} {h : Handle}
    (hmem : h ∈ number seen names) : h.index < seen.length + names.length := by
  induction names generalizing seen with
  | nil => exact absurd hmem List.not_mem_nil
  | cons name rest ih =>
    rw [List.length_cons]
    rcases List.mem_cons.mp hmem with rfl | hrest
    · change seen.length < _
      omega
    · have hlt := ih hrest
      rw [List.length_cons] at hlt
      omega

theorem table_serials (elements : List Element) :
    (table elements).map (·.1) = elements.map (·.serial) := by
  apply List.map_fst_zip
  have hlength := number_length [] (elements.map (·.name))
  rw [List.length_map] at hlength ⊢
  omega

theorem index_lt_of_mem_table {elements : List Element} {serial : Nat} {h : Handle}
    (hmem : (serial, h) ∈ table elements) : h.index < elements.length := by
  have hlt := index_lt_of_mem_number (List.of_mem_zip hmem).2
  rw [List.length_nil, List.length_map] at hlt
  omega

theorem find_mem_table {elements : List Element} {e : Element}
    (h : e.serial ∈ elements.map (·.serial)) :
    (e.serial, find (table elements) e) ∈ table elements := by
  rw [← table_serials, List.mem_map] at h
  obtain ⟨entry, hentry, hserial⟩ := h
  have hsome : ((table elements).lookup e.serial).isSome = true := by
    rw [List.lookup_isSome_iff]
    exact ⟨entry, hentry, by rw [hserial, beq_self_eq_true]⟩
  obtain ⟨handle, hlookup⟩ := Option.isSome_iff_exists.mp hsome
  obtain ⟨before, after, hsplit, -⟩ := List.lookup_eq_some_iff.mp hlookup
  rw [find, hlookup, Option.getD_some, hsplit]
  exact List.mem_append_right _ List.mem_cons_self

theorem find_of_not_mem {elements : List Element} {e : Element}
    (h : e.serial ∉ elements.map (·.serial)) :
    find (table elements) e = ⟨nowhere, e.name, 0⟩ := by
  have hnone : (table elements).lookup e.serial = none := by
    rw [List.lookup_eq_none_iff]
    intro entry hentry
    rw [bne_iff_ne]
    intro hserial
    rw [← table_serials] at h
    exact h (List.mem_map.mpr ⟨entry, hentry, hserial.symm⟩)
  rw [find, hnone, Option.getD_none]

theorem number_getElem? (seen names : List String) (i : Nat) :
    (number seen names)[i]? = names[i]?.map fun name =>
      ⟨seen.length + i, name, seen.count name + (names.take i).count name⟩ := by
  induction names generalizing seen i with
  | nil => rfl
  | cons name rest ih =>
    cases i with
    | zero => rfl
    | succ i =>
      rw [number, List.getElem?_cons_succ, List.getElem?_cons_succ, ih]
      congr 1
      funext other
      simp only [List.length_cons, List.take_succ_cons, List.count_cons, mk.injEq, true_and]
      omega

theorem getElem?_number {names : List String} {h : Handle} (hmem : h ∈ number [] names) :
    (number [] names)[h.index]? = some h := by
  obtain ⟨i, hi⟩ := List.getElem?_of_mem hmem
  have hindex : h.index = i := by
    rw [number_getElem?, Option.map_eq_some_iff] at hi
    obtain ⟨name, -, rfl⟩ := hi
    exact Nat.zero_add i
  rw [hindex, hi]

theorem occurrences_number (seen names : List String) (tag : String) :
    ((number seen names).filter (·.tag == tag)).map (·.occurrence) =
      List.range' (seen.count tag) (names.count tag) := by
  induction names generalizing seen with
  | nil => rfl
  | cons name rest ih =>
    rw [number]
    by_cases h : name = tag
    · subst h
      rw [List.filter_cons_of_pos (by simp), List.map_cons, ih, List.count_cons_self,
        List.count_cons_self, List.range'_succ]
    · rw [List.filter_cons_of_neg (by simpa using h), ih, List.count_cons_of_ne h,
        List.count_cons_of_ne h]

/-- With different serials, the handle of an element says how many elements come before it, and how many
of its own name. -/
theorem find_of_getElem? {elements : List Element} {e : Element} {i : Nat}
    (hserials : (elements.map (·.serial)).Nodup) (he : elements[i]? = some e) :
    find (table elements) e = ⟨i, e.name, ((elements.take i).map (·.name)).count e.name⟩ := by
  have hfound := find_mem_table (List.mem_map_of_mem (List.mem_of_getElem? he))
  have hat : (table elements)[i]? =
      some (e.serial, ⟨i, e.name, ((elements.take i).map (·.name)).count e.name⟩) := by
    rw [table, List.getElem?_zip_eq_some, List.getElem?_map, he, number_getElem?, List.getElem?_map, he]
    simp [List.map_take]
  rw [← table_serials] at hserials
  exact congrArg Prod.snd
    (List.inj_on_of_nodup_map hserials hfound (List.mem_of_getElem? hat) rfl)

end Handle

namespace Document

variable {d : Document} {s : Site}

/-- Whether the walk that numbers the elements comes to this one. -/
def Reaches (d : Document) (s : Site) : Prop := s.element.serial ∈ d.elements.map (·.serial)

instance : Decidable (d.Reaches s) := inferInstanceAs (Decidable (_ ∈ _))

structure Owns (d : Document) (h : Handle) : Prop where
  inRange : h.index < d.count
  listed : ∃ e ∈ d.elements, (e.serial, h) ∈ d.table

theorem owns_handle (h : d.Reaches s) : d.Owns (d.handle s.element) := by
  have hmem := Handle.find_mem_table h
  obtain ⟨e, he, hserial⟩ := List.mem_map.mp h
  refine ⟨Handle.index_lt_of_mem_table hmem, e, he, ?_⟩
  rw [hserial]
  exact hmem

theorem handle_of_not_reaches (h : ¬ d.Reaches s) :
    d.handle s.element = ⟨Handle.nowhere, s.name, 0⟩ :=
  Handle.find_of_not_mem h

/-- Unless a document has more elements than can be counted, it owns just the handles of the elements
that the walk comes to. -/
theorem owns_handle_iff (hcount : d.count ≤ Handle.nowhere) :
    d.Owns (d.handle s.element) ↔ d.Reaches s := by
  constructor
  · intro howns
    by_cases hreach : d.Reaches s
    · exact hreach
    · have hlt := howns.inRange
      rw [handle_of_not_reaches hreach] at hlt
      exact absurd hcount (Nat.not_le_of_lt hlt)
  · exact owns_handle

theorem eq_of_index {h h' : Handle} (howns : d.Owns h) (howns' : d.Owns h')
    (heq : h.index = h'.index) : h = h' := by
  have hlisted {h : Handle} (howns : d.Owns h) :
      (Handle.number [] (d.elements.map (·.name)))[h.index]? = some h := by
    obtain ⟨e, -, hmem⟩ := howns.listed
    exact Handle.getElem?_number (List.of_mem_zip hmem).2
  have hsome := hlisted howns
  rw [heq, hlisted howns'] at hsome
  exact (Option.some.inj hsome).symm

theorem handles_append (d : Document) (sites others : List Site) :
    d.handles (sites ++ others) = d.handles sites ++ d.handles others :=
  List.map_append

theorem mem_handles {sites : List Site} {h : Handle} :
    h ∈ d.handles sites ↔ ∃ s ∈ sites, d.handle s.element = h :=
  List.mem_map

end Document

end PageGrader
