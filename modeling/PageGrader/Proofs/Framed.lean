import PageGrader.Proofs.Construction
import PageGrader.Proofs.Numbering

namespace PageGrader

namespace Forest

def Every (p : Element → Prop) : Forest → Prop
  | nil => True
  | text _ rest | comment _ rest | unreached rest => rest.Every p
  | fragment inside rest => inside.Every p ∧ rest.Every p
  | element e inside rest => p e ∧ inside.Every p ∧ rest.Every p

theorem Every.site {p : Element → Prop} {f : Forest} (h : f.Every p) {above : List Holder}
    {earlier : List (Element × Forest)} : ∀ s ∈ f.sites above earlier, p s.element := by
  induction f generalizing above earlier with
  | nil => nofun
  | text _ _ ih | comment _ _ ih | unreached _ ih => exact ih h
  | fragment _ _ ihi ihr =>
    intro s hs
    rcases List.mem_append.mp hs with hs | hs
    · exact ihi h.1 s hs
    · exact ihr h.2 s hs
  | element _ _ _ ihi ihr =>
    intro s hs
    rcases List.mem_cons.mp hs with rfl | hs
    · exact h.1
    · rcases List.mem_append.mp hs with hs | hs
      · exact ihi h.2.1 s hs
      · exact ihr h.2.2 s hs

end Forest

namespace Tree.Nodes

variable {ns : Nodes} {r : Nat}

/-- An element keeps the tag of the node it was read off. -/
def Reads (ns : Nodes) (e : Element) : Prop := ns.tag? e.serial = some (e.space, e.name)

/-- What a node adds in front of the forest of what follows it. -/
def front (id : Nat) (kind : Kind) (lift : Nat) (inside after : Forest) : Forest :=
  match kind with
  | .document | .doctype => after
  | .fragment => .fragment inside after
  | .comment s => .comment s after
  | .text s => .text s after
  | .element space name attributes => .element ⟨id, space, name, attributes, lift⟩ inside after

theorem forestOf_cons {node : Node} {id : Nat} (hnode : ns[id]? = some node) (n : Nat)
    (path rest : List Nat) :
    ∃ lift after, (after = (ns.forestOf n path rest).1 ∨ after = .unreached (ns.forestOf n path rest).1) ∧
      (ns.forestOf (n + 1) path (id :: rest)).1 =
        front id node.kind lift (ns.forestOf n (id :: path) node.children).1 after := by
  rw [forestOf, hnode]
  refine ⟨liftOf node.parent path, _, ?_, rfl⟩
  split
  · dsimp only
    split
    · exact .inl rfl
    · exact .inr rfl
  · exact .inl rfl

theorem every_forestOf (ns : Nodes) (n : Nat) (path ids : List Nat) :
    (ns.forestOf n path ids).1.Every ns.Reads := by
  induction n generalizing path ids with
  | zero => trivial
  | succ n ih =>
    cases ids with
    | nil => trivial
    | cons id rest =>
      cases hnode : ns[id]? with
      | none =>
        rw [forestOf, hnode]
        exact ih path rest
      | some node =>
        obtain ⟨lift, after, hafter, hforest⟩ := forestOf_cons hnode n path rest
        have hrest : after.Every ns.Reads := by
          rcases hafter with rfl | rfl <;> exact ih path rest
        rw [hforest]
        cases hkind : node.kind with
        | document | doctype | comment _ | text _ => exact hrest
        | fragment => exact ⟨ih _ _, hrest⟩
        | element => exact ⟨by rw [Reads, tag?, hnode, Option.bind_some, hkind]; rfl, ih _ _, hrest⟩

/-- With nothing but leaves before it, the root is the first element that a walk comes to. -/
theorem root_forestOf {tag : Space × String} (hroot : ns.tag? r = some tag) {before : List Nat}
    (hbefore : ∀ c ∈ before, ns.Leaf c) (n : Nat) (path after : List Nat) :
    ∀ e ∈ (ns.forestOf n path (before ++ r :: after)).1.elements.head?, e.serial = r := by
  -- Each leaf before the root takes one step of the walk and adds no element.
  induction before generalizing n with
  | nil =>
    cases n with
    | zero =>
      intro e he
      cases he
    | succ n =>
      cases hnode : ns[r]? with
      | none =>
        rw [tag?, hnode] at hroot
        cases hroot
      | some node =>
        obtain ⟨lift, rest, -, hforest⟩ := forestOf_cons hnode n path after
        rw [tag?, hnode, Option.bind_some] at hroot
        rw [List.nil_append, hforest]
        cases hkind : node.kind with
        | element space name attributes =>
          rintro e ⟨⟩
          rfl
        | document | doctype | fragment | comment _ | text _ =>
          rw [hkind] at hroot
          cases hroot
  | cons c before ih =>
    obtain ⟨hleaf, hrest⟩ := List.forall_mem_cons.mp hbefore
    cases n with
    | zero =>
      intro e he
      cases he
    | succ n =>
      cases hnode : ns[c]? with
      | none =>
        rw [Leaf, leaf?, hnode] at hleaf
        cases hleaf
      | some node =>
        obtain ⟨lift, rest, hafter, hforest⟩ := forestOf_cons hnode n path (before ++ r :: after)
        have hfirst : ∀ e ∈ rest.elements.head?, e.serial = r := by
          rcases hafter with rfl | rfl
          · exact ih hrest n
          · intro e he
            cases he
        rw [Leaf, leaf?, hnode, Option.bind_some] at hleaf
        rw [List.cons_append, hforest]
        cases hkind : node.kind with
        | doctype | comment _ | text _ => exact hfirst
        | document | fragment | element _ _ _ =>
          rw [hkind] at hleaf
          cases hleaf

end Tree.Nodes

namespace Document

variable {d : Document} {page : List Char} {s : Site}

/-- The first element of the tree is the root, which was made before all others, and there is one head and
one body at most. -/
structure Framed (d : Document) : Prop where
  root : ∀ e ∈ d.elements.head?, e.name = "html" ∧ ∀ s ∈ d.sites, e.serial ≤ s.element.serial
  sole : ∀ name ∈ ["head", "body"], ∀ s ∈ d.sites, ∀ t ∈ d.sites, s.name = name → t.name = name →
    s.element.serial = t.element.serial

theorem exists_site {e : Element} (h : e ∈ d.elements) : ∃ s ∈ d.sites, s.element = e := by
  rw [elements_eq, List.mem_map] at h
  obtain ⟨s, hs, rfl⟩ := h
  exact ⟨s, mem_sites.mpr (d.walk_sublist_places.mem hs), rfl⟩

theorem framed_ofPage (page : List Char) : (ofPage page).Framed := by
  have hnodes := Tree.framed_nodesOf page
  have hsite : ∀ s ∈ (ofPage page).sites,
      (Tree.nodesOf page).tag? s.element.serial = some (s.element.space, s.name) := by
    intro s hs
    rcases List.mem_append.mp (mem_sites.mp hs) with hs | hs
    · exact (Tree.Nodes.every_forestOf ..).site s hs
    · exact (Tree.Nodes.every_forestOf ..).site s (List.mem_filter.mp hs).1
  refine ⟨fun e he => ?_, fun name hname s hs t ht hsname htname => ?_⟩
  · obtain ⟨s, hs, rfl⟩ := exists_site (List.mem_of_mem_head? he)
    have hstag := hsite s hs
    rcases hnodes.outer with hbare | ⟨r, hleads⟩
    · rw [hbare.untagged] at hstag
      cases hstag
    · obtain ⟨before, after, hchildren, hbefore⟩ := hleads.front
      have hfirst : s.element.serial = r := by
        refine Tree.Nodes.root_forestOf hleads.root hbefore ((Tree.nodesOf page).size + 1) [] after
          s.element ?_
        rw [← hchildren]
        exact he
      rw [hfirst, hleads.root] at hstag
      rw [hfirst]
      exact ⟨(Prod.mk.inj (Option.some.inj hstag)).2.symm, fun t ht => hleads.first _ _ (hsite t ht)⟩
  · have hstag := hsite s hs
    have httag := hsite t ht
    rw [hsname] at hstag
    rw [htname] at httag
    simp only [List.mem_cons, List.not_mem_nil, or_false] at hname
    rcases hname with rfl | rfl
    · exact hnodes.head _ _ _ _ hstag httag
    · exact hnodes.body _ _ _ _ hstag httag

theorem Plain.mem_named (h : d.Plain) (hs : s ∈ d.sites) (hreach : d.Reaches s) :
    s.element ∈ d.named s.name :=
  List.mem_filter.mpr ⟨h.mem_elements hs hreach, beq_self_eq_true _⟩

/-- The first root that was made is the first of its name in the tree, if a walk comes to it at all. -/
theorem Framed.occurrence_root (h : d.Framed) (hplain : d.Plain) (hs : s ∈ d.sites)
    (hfirst : ∀ t ∈ d.sites, t.name = "html" → s.element.serial ≤ t.element.serial) :
    (d.handle s.element).occurrence = 0 := by
  by_cases hreach : d.Reaches s
  · have hmem := hplain.mem_elements hs hreach
    obtain ⟨e, he⟩ := Option.isSome_iff_exists.mp (List.isSome_head?.mpr (List.ne_nil_of_mem hmem))
    obtain ⟨hname, hleast⟩ := h.root e he
    obtain ⟨t, ht, rfl⟩ := exists_site (List.mem_of_mem_head? he)
    obtain rfl := hplain.eq_of_serial (mem_sites.mp hs) (mem_sites.mp ht)
      (Nat.le_antisymm (hfirst t ht hname) (hleast s hs))
    rw [hplain.distinct.handle_eq (List.head?_eq_getElem? ▸ he)]
    rfl
  · rw [handle_of_not_reaches hreach]

/-- The only element of its name is the first one in the tree. -/
theorem Framed.occurrence_sole (h : d.Framed) (hplain : d.Plain) (hs : s ∈ d.sites)
    (hname : s.name ∈ ["head", "body"]) : (d.handle s.element).occurrence = 0 := by
  by_cases hreach : d.Reaches s
  · have hlength : 0 < (d.named s.name).length := List.length_pos_of_mem (hplain.mem_named hs hreach)
    have hzero := List.mem_range.mpr hlength
    rw [← hplain.distinct.occurrences, List.mem_map] at hzero
    obtain ⟨e, he, hocc⟩ := hzero
    obtain ⟨hmem, hsame⟩ := List.mem_filter.mp he
    obtain ⟨t, ht, rfl⟩ := exists_site hmem
    obtain rfl := hplain.eq_of_serial (mem_sites.mp hs) (mem_sites.mp ht)
      (h.sole _ hname s hs t ht rfl (beq_iff_eq.mp hsame))
    exact hocc
  · rw [handle_of_not_reaches hreach]

theorem framed_of_read (h : read page = .ok d) : d.Framed := by
  unfold read at h
  split_ifs at h
  obtain rfl := Except.ok.inj h
  exact framed_ofPage page

end Document

end PageGrader
