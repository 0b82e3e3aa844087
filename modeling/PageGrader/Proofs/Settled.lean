import PageGrader.Proofs.Handle
import PageGrader.Proofs.Modes
import PageGrader.Proofs.Sorting

namespace PageGrader

namespace Forest

def serials : Forest → List Nat
  | nil => []
  | text _ rest | comment _ rest | unreached rest => serials rest
  | fragment inside rest => serials inside ++ serials rest
  | element e inside rest => e.serial :: (serials inside ++ serials rest)

theorem sites_map_serial (f : Forest) (above : List Holder) (earlier : List (Element × Forest)) :
    (f.sites above earlier).map (·.element.serial) = f.serials := by
  induction f generalizing above earlier with
  | nil => rfl
  | text _ _ ih | comment _ _ ih | unreached _ ih => exact ih above earlier
  | fragment _ _ ihi ihr => simp [sites, serials, ihi, ihr]
  | element _ _ _ ihi ihr => simp [sites, serials, ihi, ihr]

theorem walk_sublist_sites (f : Forest) (above : List Holder) (earlier : List (Element × Forest)) :
    (f.walk above earlier).Sublist (f.sites above earlier) := by
  induction f generalizing above earlier with
  | nil => exact List.Sublist.refl _
  | unreached _ _ => exact List.nil_sublist _
  | text _ _ ih | comment _ _ ih => exact ih above earlier
  | fragment _ _ ihi ihr => exact (ihi _ _).append (ihr _ _)
  | element _ _ _ ihi ihr => exact ((ihi _ _).append (ihr _ _)).cons_cons _

end Forest

namespace Tree.Nodes

variable {ns : Nodes} {ids path : List Nat} {v id m k : Nat}

def climb (ns : Nodes) : Nat → Nat → Option Nat
  | 0, v => some v
  | k + 1, v => (ns.holder? v).bind (climb ns k)

theorem climb_add (ns : Nodes) (k m v : Nat) :
    ns.climb (k + m) v = (ns.climb k v).bind (ns.climb m) := by
  induction k generalizing v with
  | zero => rw [Nat.zero_add]; rfl
  | succ k ih =>
    rw [Nat.succ_add, climb, climb, Option.bind_assoc]
    exact congrArg _ (funext ih)

def Hangs (ns : Nodes) (r m v : Nat) : Prop := ns.climb m v = some r ∧ ns.holder? r = none

theorem Hangs.unique {r r' m' : Nat} (h : ns.Hangs r m v) (h' : ns.Hangs r' m' v) :
    r = r' ∧ m = m' := by
  induction m generalizing v m' with
  | zero =>
    obtain rfl := Option.some.inj h.1
    cases m' with
    | zero => exact ⟨Option.some.inj h'.1, rfl⟩
    | succ m' =>
      have hclimb := h'.1
      rw [climb, h.2] at hclimb
      cases hclimb
  | succ m ih =>
    obtain ⟨p, hp, hr⟩ := Option.bind_eq_some_iff.mp h.1
    cases m' with
    | zero =>
      obtain rfl := Option.some.inj h'.1
      rw [h'.2] at hp
      cases hp
    | succ m' =>
      obtain ⟨p', hp', hr'⟩ := Option.bind_eq_some_iff.mp h'.1
      obtain rfl := Option.some.inj (hp.symm.trans hp')
      obtain ⟨rfl, rfl⟩ := ih ⟨hr, h.2⟩ ⟨hr', h'.2⟩
      exact ⟨rfl, rfl⟩

theorem Hangs.climb {r : Nat} (h : ns.Hangs r m id) (hv : ns.climb k v = some id) :
    ns.Hangs r (k + m) v := by
  refine ⟨?_, h.2⟩
  rw [climb_add, hv]
  exact h.1

/-- Two nodes at the same depth have nothing below them in common. -/
theorem Hangs.disjoint {r r' id' k' : Nat} (h : ns.Hangs r m id) (h' : ns.Hangs r' m id')
    (hv : ns.climb k v = some id) (hv' : ns.climb k' v = some id') : id = id' := by
  obtain ⟨-, hdepth⟩ := (h.climb hv).unique (h'.climb hv')
  obtain rfl : k = k' := by omega
  exact Option.some.inj (hv.symm.trans hv')

theorem Tied.hangs_child {r c : Nat} (htied : ns.Tied) (h : ns.Hangs r m id)
    (hc : c ∈ ns.children id) : ns.Hangs r (m + 1) c := by
  refine ⟨?_, h.2⟩
  rw [Nodes.climb, htied.held id c hc]
  exact h.1

/-- A node adds itself, what its children hold and what follows it, or less. -/
theorem serials_forestOf_cons (ns : Nodes) (n : Nat) (path : List Nat) (id : Nat) (rest : List Nat) :
    ((ns.forestOf (n + 1) path (id :: rest)).1.serials).Sublist
      (id :: ((ns.forestOf n (id :: path) (ns.children id)).1.serials ++
        (ns.forestOf n path rest).1.serials)) := by
  have hafter : ∀ after : Forest × Nat, ∀ left lift : Nat,
      ((if 0 < left then (if rest.isEmpty then after.1 else .unreached after.1, left - 1)
        else (after.1, if rest.isEmpty then lift else after.2) : Forest × Nat).1).serials =
        after.1.serials := by
    intro after left lift
    split_ifs <;> rfl
  rw [forestOf]
  split
  next hnone => exact (List.sublist_append_right _ _).cons _
  next node hsome =>
    have hchildren : ns.children id = node.children := by
      rw [children, hsome]
      rfl
    rw [hchildren]
    dsimp only
    split
    · rw [hafter]
      exact (List.sublist_append_right _ _).cons _
    · rw [hafter]
      exact (List.sublist_append_right _ _).cons _
    · rw [Forest.serials, hafter]
      exact (List.Sublist.refl _).cons _
    · rw [Forest.serials, hafter]
      exact (List.sublist_append_right _ _).cons _
    · rw [Forest.serials, hafter]
      exact (List.sublist_append_right _ _).cons _
    · rw [Forest.serials, hafter]

theorem climb_of_mem_forestOf (htied : ns.Tied) (n : Nat)
    (hv : v ∈ (ns.forestOf n path ids).1.serials) : ∃ k, ∃ id ∈ ids, ns.climb k v = some id := by
  induction n generalizing path ids with
  | zero => cases hv
  | succ n ih =>
    cases ids with
    | nil => cases hv
    | cons id rest =>
      have hmem := (serials_forestOf_cons ns n path id rest).mem hv
      rw [List.mem_cons, List.mem_append] at hmem
      rcases hmem with rfl | hinside | hafter
      · exact ⟨0, v, List.mem_cons_self, rfl⟩
      · obtain ⟨k, c, hc, hclimb⟩ := ih hinside
        refine ⟨k + 1, id, List.mem_cons_self, ?_⟩
        rw [climb_add, hclimb, Option.bind_some, climb, htied.held id c hc]
        rfl
      · obtain ⟨k, i, hi, hclimb⟩ := ih hafter
        exact ⟨k, i, List.mem_cons_of_mem _ hi, hclimb⟩

theorem nodup_forestOf (htied : ns.Tied) (n : Nat) (hids : ids.Nodup)
    (hdepth : ∀ id ∈ ids, ∃ r, ns.Hangs r m id) : (ns.forestOf n path ids).1.serials.Nodup := by
  induction n generalizing path ids m with
  | zero => exact List.nodup_nil
  | succ n ih =>
    cases ids with
    | nil => exact List.nodup_nil
    | cons id rest =>
      obtain ⟨hid, hrest⟩ := List.nodup_cons.mp hids
      obtain ⟨⟨r, hr⟩, hdepths⟩ := List.forall_mem_cons.mp hdepth
      have hbelow : ∀ c ∈ ns.children id, ∃ r, ns.Hangs r (m + 1) c :=
        fun c hc => ⟨r, htied.hangs_child hr hc⟩
      have hinside {v : Nat}
          (hv : v ∈ (ns.forestOf n (id :: path) (ns.children id)).1.serials) :
          ∃ k, ns.climb (k + 1) v = some id := by
        obtain ⟨k, c, hc, hclimb⟩ := climb_of_mem_forestOf htied n hv
        refine ⟨k, ?_⟩
        rw [climb_add, hclimb, Option.bind_some, climb, htied.held id c hc]
        rfl
      -- What follows a node is below another node at its depth.
      have hafter {v j : Nat} (hv : v ∈ (ns.forestOf n path rest).1.serials)
          (hclimb : ns.climb j v = some id) : False := by
        obtain ⟨k, i, hi, hup⟩ := climb_of_mem_forestOf htied n hv
        obtain ⟨r', hr'⟩ := hdepths i hi
        exact hid (hr.disjoint hr' hclimb hup ▸ hi)
      refine List.Nodup.sublist (serials_forestOf_cons ns n path id rest) ?_
      refine List.nodup_cons.mpr ⟨?_, (ih (htied.once id) hbelow).append (ih hrest hdepths) ?_⟩
      · rw [List.mem_append, not_or]
        constructor
        · intro hv
          obtain ⟨k, hclimb⟩ := hinside hv
          have hdeep := (hr.climb hclimb).unique hr
          omega
        · exact fun hv => hafter hv (j := 0) rfl
      · intro v hv hv'
        obtain ⟨k, hclimb⟩ := hinside hv
        exact hafter hv' hclimb

/-- What hangs below the document is made only of what is not cut off from it. -/
theorem nodup_attached_strays (htied : ns.Tied) :
    (ns.attached.serials ++ ns.strays.serials).Nodup := by
  have hroot : ns.Hangs 0 0 0 := ⟨rfl, htied.root⟩
  have hloose : ∀ id ∈ (List.range ns.size).filter fun id =>
      id != 0 && (ns[id]?).any (·.holder.isNone), id ≠ 0 ∧ ns.Hangs id 0 id := by
    intro id hid
    obtain ⟨-, hid⟩ := List.mem_filter.mp hid
    rw [Bool.and_eq_true, bne_iff_ne] at hid
    refine ⟨hid.1, rfl, ?_⟩
    obtain ⟨node, hnode, hnone⟩ := (Option.any_eq_true _ _).mp hid.2
    rw [holder?, hnode]
    exact Option.isNone_iff_eq_none.mp hnone
  have hattached : ns.attached.serials.Nodup :=
    nodup_forestOf htied _ (htied.once 0) fun c hc => ⟨0, htied.hangs_child hroot hc⟩
  have hstrays : ns.strays.serials.Nodup :=
    nodup_forestOf htied _ (List.nodup_range.filter _) fun id hid => ⟨id, (hloose id hid).2⟩
  -- What hangs below the document has the document above it, and a stray has another loose node.
  refine hattached.append hstrays ?_
  intro v hv hv'
  obtain ⟨k, c, hc, hclimb⟩ := climb_of_mem_forestOf htied _ hv
  obtain ⟨k', id, hid, hclimb'⟩ := climb_of_mem_forestOf htied _ hv'
  obtain ⟨hne, hhangs⟩ := hloose id hid
  obtain ⟨hzero, -⟩ := ((htied.hangs_child hroot hc).climb hclimb).unique (hhangs.climb hclimb')
  exact hne hzero.symm

end Tree.Nodes

namespace Document

variable {d : Document} {page : List Char}

def Plain (d : Document) : Prop := (d.content.serials ++ d.strays.serials).Nodup

theorem plain_ofPage (page : List Char) : (ofPage page).Plain :=
  Tree.Nodes.nodup_attached_strays (Tree.linked_nodesOf page).toTied

theorem plain_of_read (h : read page = .ok d) : d.Plain := by
  unfold read at h
  split_ifs at h
  obtain rfl := Except.ok.inj h
  exact plain_ofPage page

/-- All sites that stand in something, those that hang below the document first. -/
def places (d : Document) : List Site :=
  d.attached ++ (d.strays.sites [] []).filter (!·.above.isEmpty)

theorem Plain.nodup_places (h : d.Plain) : (d.places.map (·.element.serial)).Nodup := by
  refine List.Nodup.sublist ?_ h
  rw [places, List.map_append, attached, Forest.sites_map_serial]
  apply List.Sublist.append_left
  rw [← Forest.sites_map_serial d.strays [] []]
  exact List.filter_sublist.map _

theorem mem_sites {s : Site} : s ∈ d.sites ↔ s ∈ d.places := mem_sortOn

theorem Plain.sites_increasing (h : d.Plain) :
    d.sites.Pairwise (·.element.serial < ·.element.serial) :=
  sortOn_increasing _ h.nodup_places

theorem walk_sublist_places (d : Document) : (d.content.walk [] []).Sublist d.places :=
  (d.content.walk_sublist_sites [] []).trans (List.sublist_append_left _ _)

theorem elements_eq (d : Document) : d.elements = (d.content.walk [] []).map (·.element) :=
  (d.content.walk_map_element [] []).symm

theorem Plain.nodup_elements (h : d.Plain) : (d.elements.map (·.serial)).Nodup := by
  rw [elements_eq, List.map_map]
  exact h.nodup_places.sublist (d.walk_sublist_places.map _)

theorem Plain.eq_of_serial (h : d.Plain) {s t : Site} (hs : s ∈ d.places) (ht : t ∈ d.places)
    (heq : s.element.serial = t.element.serial) : s = t :=
  List.inj_on_of_nodup_map h.nodup_places hs ht heq

/-- The walk comes to a site just if the site is one of the walk. -/
theorem Plain.reaches_iff (h : d.Plain) {s : Site} (hs : s ∈ d.places) :
    d.Reaches s ↔ s ∈ d.content.walk [] [] := by
  rw [Reaches, elements_eq, List.map_map, List.mem_map]
  constructor
  · rintro ⟨t, ht, heq⟩
    obtain rfl := h.eq_of_serial hs (d.walk_sublist_places.mem ht) heq.symm
    exact ht
  · exact fun hs => ⟨s, hs, rfl⟩

theorem Plain.mem_elements (h : d.Plain) {s : Site} (hs : s ∈ d.sites) (hreach : d.Reaches s) :
    s.element ∈ d.elements := by
  rw [elements_eq]
  exact List.mem_map_of_mem ((h.reaches_iff (mem_sites.mp hs)).mp hreach)

end Document

end PageGrader
