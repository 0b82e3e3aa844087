import PageGrader.Proofs.Hierarchy
import PageGrader.Proofs.Settled

namespace PageGrader

namespace Document

variable {d : Document} {accepts : Site → Bool} {s : Site} {page : List Char} {css : String}

def inTree (d : Document) (accepts : Site → Bool) : List Site := (d.content.walk [] []).filter accepts

/-- What is accepted besides, where no walk from the root comes to. -/
def beside (d : Document) (accepts : Site → Bool) : List Site :=
  (d.selecting accepts).filter (¬ d.Reaches ·)

/-- What is accepted was made in document order, with at most one element besides, made last. -/
structure MadeInOrder (d : Document) (accepts : Site → Bool) : Prop where
  increasing : (d.inTree accepts ++ d.beside accepts).Pairwise (·.element.serial < ·.element.serial)
  single : (d.beside accepts).length ≤ 1

instance : Decidable (d.MadeInOrder accepts) :=
  decidable_of_iff
    ((d.inTree accepts ++ d.beside accepts).Pairwise (·.element.serial < ·.element.serial) ∧
      (d.beside accepts).length ≤ 1)
    ⟨fun h => ⟨h.1, h.2⟩, fun h => ⟨h.1, h.2⟩⟩

/-- Sites whose handles count up, so that the first of them comes first in the document. -/
structure InOrder (d : Document) (sites : List Site) : Prop where
  increasing : (d.handles sites).Pairwise (·.index < ·.index)
  least : ∀ first ∈ sites.head?, ∀ s ∈ sites,
    (d.handle first.element).index ≤ (d.handle s.element).index

theorem inOrder_of_increasing {sites : List Site}
    (h : (d.handles sites).Pairwise (·.index < ·.index)) : d.InOrder sites := by
  refine ⟨h, ?_⟩
  intro first hfirst s hs
  obtain ⟨rest, rfl⟩ := List.head?_eq_some_iff.mp hfirst
  rcases List.mem_cons.mp hs with rfl | hs
  · exact Nat.le_refl _
  · exact Nat.le_of_lt ((List.pairwise_cons.mp h).1 _ (mem_handles.mpr ⟨s, hs, rfl⟩))

theorem mem_selecting : s ∈ d.selecting accepts ↔ s ∈ d.places ∧ accepts s = true := by
  rw [selecting, List.mem_filter, mem_sites]

theorem Plain.selecting_increasing (h : d.Plain) (accepts : Site → Bool) :
    (d.selecting accepts).Pairwise (·.element.serial < ·.element.serial) :=
  h.sites_increasing.filter _

theorem Plain.mem_inTree (h : d.Plain) : s ∈ d.inTree accepts ↔ s ∈ d.selecting accepts ∧ d.Reaches s := by
  rw [inTree, List.mem_filter, mem_selecting]
  constructor
  · rintro ⟨hwalk, haccepts⟩
    have hplace := d.walk_sublist_places.mem hwalk
    exact ⟨⟨hplace, haccepts⟩, (h.reaches_iff hplace).mpr hwalk⟩
  · rintro ⟨⟨hplace, haccepts⟩, hreaches⟩
    exact ⟨(h.reaches_iff hplace).mp hreaches, haccepts⟩

theorem mem_beside : s ∈ d.beside accepts ↔ s ∈ d.selecting accepts ∧ ¬ d.Reaches s := by
  rw [beside, List.mem_filter, decide_eq_true_iff]

theorem Plain.inTree_beside_perm (h : d.Plain) (accepts : Site → Bool) :
    (d.inTree accepts ++ d.beside accepts).Perm (d.selecting accepts) := by
  have hselecting : (d.selecting accepts).Nodup := by
    refine (h.selecting_increasing accepts).imp ?_
    rintro s _ hlt rfl
    exact Nat.lt_irrefl _ hlt
  have hwalk : (d.inTree accepts).Nodup :=
    (List.Nodup.of_map _ (h.nodup_places.sublist (d.walk_sublist_places.map _))).filter _
  have hreached : (d.inTree accepts).Perm ((d.selecting accepts).filter (d.Reaches ·)) := by
    rw [List.perm_ext_iff_of_nodup hwalk (hselecting.filter _)]
    intro s
    rw [h.mem_inTree, List.mem_filter, decide_eq_true_iff]
  refine (hreached.append_right _).trans ?_
  rw [beside]
  simpa only [decide_not] using List.filter_append_perm (d.Reaches ·) (d.selecting accepts)

theorem Plain.handles_walk_increasing (h : d.Plain) :
    (d.handles (d.content.walk [] [])).Pairwise (·.index < ·.index) := by
  have hindex : ∀ i (hi : i < (d.handles (d.content.walk [] [])).length),
      (d.handles (d.content.walk [] []))[i].index = i := by
    intro i hi
    have hwalk : i < (d.content.walk [] []).length := by
      simpa only [handles, List.length_map] using hi
    have hat : d.elements[i]? = some ((d.content.walk [] [])[i]).element := by
      rw [elements_eq, List.getElem?_map, List.getElem?_eq_getElem hwalk]
      rfl
    simp only [handles, List.getElem_map, table, Handle.find_of_getElem? h.nodup_elements hat]
  rw [List.pairwise_iff_getElem]
  intro i j hi hj hlt
  rw [hindex, hindex]
  exact hlt

theorem Plain.handles_inTree_increasing (h : d.Plain) (accepts : Site → Bool) :
    (d.handles (d.inTree accepts)).Pairwise (·.index < ·.index) :=
  h.handles_walk_increasing.sublist (List.filter_sublist.map _)

/-- A single element besides comes last, for its index is beyond all others. -/
theorem Plain.handles_increasing (h : d.Plain) (hcount : d.count ≤ Handle.nowhere)
    (hsingle : (d.beside accepts).length ≤ 1) :
    (d.handles (d.inTree accepts ++ d.beside accepts)).Pairwise (·.index < ·.index) := by
  rw [handles_append, List.pairwise_append]
  refine ⟨h.handles_inTree_increasing accepts, ?_, ?_⟩
  · rw [handles, List.pairwise_map]
    match hrest : d.beside accepts, hsingle with
    | [], _ => exact List.Pairwise.nil
    | [s], _ => exact List.pairwise_singleton _ _
  · intro x hx y hy
    obtain ⟨s, hs, rfl⟩ := mem_handles.mp hx
    obtain ⟨t, ht, rfl⟩ := mem_handles.mp hy
    rw [handle_of_not_reaches (mem_beside.mp ht).2]
    exact Nat.lt_of_lt_of_le (owns_handle (h.mem_inTree.mp hs).2).inRange hcount

theorem length_beside_le_one (h : (d.handles (d.selecting accepts)).Pairwise (·.index < ·.index)) :
    (d.beside accepts).length ≤ 1 := by
  have hbeside : (d.handles (d.beside accepts)).Pairwise (·.index < ·.index) :=
    h.sublist (List.filter_sublist.map _)
  match hrest : d.beside accepts with
  | [] => exact Nat.zero_le 1
  | [s] => exact Nat.le_refl 1
  | s :: t :: rest =>
    rw [hrest] at hbeside
    have hlt := (List.pairwise_cons.mp hbeside).1 (d.handle t.element) List.mem_cons_self
    have hs : s ∈ d.beside accepts := hrest ▸ List.mem_cons_self
    have ht : t ∈ d.beside accepts := hrest ▸ List.mem_cons_of_mem s List.mem_cons_self
    change (d.handle s.element).index < _ at hlt
    rw [handle_of_not_reaches (mem_beside.mp hs).2, handle_of_not_reaches (mem_beside.mp ht).2] at hlt
    exact absurd hlt (Nat.lt_irrefl _)

/-- Handles count up just if what was selected is what the document holds, in its order, and then at
most one element besides. -/
theorem Plain.inOrder_iff (h : d.Plain) (hcount : d.count ≤ Handle.nowhere) :
    d.InOrder (d.selecting accepts) ↔ d.MadeInOrder accepts := by
  have hperm := h.inTree_beside_perm accepts
  have hselecting := h.selecting_increasing accepts
  constructor
  -- Either way both lists count up and hold the same sites, by index here and by serial below.
  · intro horder
    have hsingle := length_beside_le_one horder.increasing
    have hmine := h.handles_increasing hcount hsingle
    rw [handles, List.pairwise_map] at hmine
    have hall := horder.increasing
    rw [handles, List.pairwise_map] at hall
    have heq := eq_of_perm_of_increasing _ hperm hmine hall
    exact ⟨heq ▸ hselecting, hsingle⟩
  · intro hmade
    have heq := eq_of_perm_of_increasing _ hperm hmade.increasing hselecting
    rw [← heq]
    exact inOrder_of_increasing (h.handles_increasing hcount hmade.single)

/-- What is selected is what the document holds, in document order, just if nothing comes besides. -/
theorem Plain.selecting_eq_inTree_iff (h : d.Plain) :
    d.selecting accepts = d.inTree accepts ↔ d.MadeInOrder accepts ∧ d.beside accepts = [] := by
  constructor
  · intro heq
    have hnone : d.beside accepts = [] := by
      rw [List.eq_nil_iff_forall_not_mem]
      intro s hs
      obtain ⟨hsel, hreach⟩ := mem_beside.mp hs
      exact hreach (h.mem_inTree.mp (heq ▸ hsel)).2
    refine ⟨⟨?_, ?_⟩, hnone⟩
    · rw [hnone, List.append_nil, ← heq]
      exact h.selecting_increasing accepts
    · rw [hnone]
      exact Nat.zero_le 1
  · rintro ⟨hmade, hnone⟩
    have hperm := h.inTree_beside_perm accepts
    have hincreasing := hmade.increasing
    rw [hnone, List.append_nil] at hperm hincreasing
    exact (eq_of_perm_of_increasing _ hperm hincreasing (h.selecting_increasing accepts)).symm

end Document

namespace Rule.Hierarchy

def isHeading (s : Site) : Bool := headingTags.contains s.name

/-- The first problems that are reported are those of the headings, in the order they were selected. -/
theorem flags_begin (d : Document) :
    ∃ rest, flags d = .ok (sequenceFlags none false (d.selecting isHeading) ++ rest) := by
  rw [flags_among]
  simp only [List.append_assoc]
  exact ⟨_, rfl⟩

end Rule.Hierarchy

namespace Document

open Rule.Hierarchy (headings isHeading flags sequenceFlags)

/-- How a selection is ordered: each element that is accepted comes once, by the order elements were made
in, and this is document order, with the earliest element first, just if they were made in that order. -/
structure Ordered (d : Document) (accepts : Site → Bool) : Prop where
  mem_iff : ∀ s, s ∈ d.selecting accepts ↔ s ∈ d.places ∧ accepts s = true
  increasing : (d.selecting accepts).Pairwise (·.element.serial < ·.element.serial)
  inOrder_iff : d.InOrder (d.selecting accepts) ↔ d.MadeInOrder accepts
  eq_inTree_iff : d.selecting accepts = d.inTree accepts ↔
    d.MadeInOrder accepts ∧ d.beside accepts = []

theorem Plain.ordered {d : Document} (h : d.Plain) (hcount : d.count ≤ Handle.nowhere)
    (accepts : Site → Bool) : d.Ordered accepts :=
  ⟨fun _ => mem_selecting, h.selecting_increasing accepts, h.inOrder_iff hcount,
    h.selecting_eq_inTree_iff⟩

/-- Whatever a selector asks for, its elements are found in the order they were made in, which is
document order just if they were made in that order. So it is with the headings, which are judged in the
order they are found. -/
theorem selects_in_document_order_iff {page : List Char} {d : Document} {reader : Selector.Reader}
    {css : String} {accepts : Site → Bool} (hread : read page = .ok d)
    (hcss : reader css = some accepts) (hcount : d.count ≤ Handle.nowhere) :
    d.ask reader css = .ok (d.selecting accepts) ∧
      d.askFirst reader css = .ok (d.selecting accepts).head? ∧ d.Ordered accepts ∧
      d.query headings = .ok (d.selecting isHeading) ∧
      (∃ rest, flags d = .ok (sequenceFlags none false (d.selecting isHeading) ++ rest)) ∧
      d.Ordered isHeading := by
  have hplain := plain_of_read hread
  have hask : d.ask reader css = .ok (d.selecting accepts) := by rw [ask, hcss]
  refine ⟨hask, ?_, hplain.ordered hcount accepts, ?_, Rule.Hierarchy.flags_begin d,
    hplain.ordered hcount isHeading⟩
  · rw [askFirst, hask]
    rfl
  · rw [d.query_of_inUse (by decide), Rule.Hierarchy.all_headings]
    rfl

/-- Headings that stay where they were written, of which the first children are asked for. -/
theorem selects_first_children_in_document_order :
    ∃ page d accepts,
      let reader : Selector.Reader := fun css => if css = ":first-child" then some accepts else none
      read page = .ok d ∧ reader ":first-child" = some accepts ∧ d.count ≤ Handle.nowhere ∧
        (d.ask reader ":first-child").toOption.map (·.map (·.name)) =
          some ["html", "head", "h1", "tbody", "tr", "td", "h2"] ∧
        d.InOrder (d.selecting accepts) ∧ d.selecting accepts = d.inTree accepts := by
  let page := "<h1>a</h1><table><td><h2>b</h2></table>".toList
  let d := ofPage page
  let accepts := fun s : Site => s.earlierSiblings.isEmpty
  let reader : Selector.Reader := fun css => if css = ":first-child" then some accepts else none
  have hread : read page = .ok d := rfl
  have hcss : reader ":first-child" = some accepts := rfl
  have hcount : d.count ≤ Handle.nowhere := by decide +kernel
  have hmade : d.MadeInOrder accepts := by decide +kernel
  have hnone : (d.beside accepts).length = 0 := by decide +kernel
  obtain ⟨-, -, hordered, -⟩ := selects_in_document_order_iff hread hcss hcount
  exact ⟨page, d, accepts, hread, hcss, hcount, by decide +kernel, hordered.inOrder_iff.mpr hmade,
    hordered.eq_inTree_iff.mpr ⟨hmade, List.eq_nil_of_length_eq_zero hnone⟩⟩

/-- A paragraph that cannot stand in a table is put in front of it, but it was made after it. -/
theorem selects_table_before_paragraph :
    ¬ ∀ (page : List Char) (d : Document) (reader : Selector.Reader) (css : String)
      (accepts : Site → Bool), read page = .ok d → reader css = some accepts →
      d.InOrder (d.selecting accepts) := by
  intro hall
  let d := ofPage "<table><p>x".toList
  let sel := anyTag ["table", "p"]
  have horder := hall "<table><p>x".toList d Selector.plain "table, p" sel.accepts rfl rfl
  have hnot : ¬ (d.handles (d.selecting sel.accepts)).Pairwise (·.index < ·.index) := by
    decide +kernel
  exact hnot horder.increasing

end Document

end PageGrader
