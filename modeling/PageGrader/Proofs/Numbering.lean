import Mathlib.Data.List.Lex
import PageGrader.Proofs.Settled

namespace PageGrader

namespace Forest

variable {f g : Forest} {n k : Nat} {path : List Nat} {e : Element}

/-- What follows the first node. Nothing can be reached behind a break. -/
def rest : Forest → Forest
  | text _ rest | comment _ rest | fragment _ rest | element _ _ rest => rest
  | nil | unreached _ => nil

def drop : Nat → Forest → Forest
  | 0, f => f
  | n + 1, f => drop n f.rest

/-- The element at an address, which says for every level how many nodes come before. -/
def at? : List Nat → Forest → Option Element
  | [], _ => none
  | n :: path, f =>
    match f.drop n with
    | element e inside _ => if path.isEmpty then some e else at? path inside
    | fragment inside _ => at? path inside
    | _ => none

/-- The addresses of the elements a walk comes to, in a forest that follows `n` other nodes. -/
def addresses (n : Nat) : Forest → List (List Nat)
  | nil | unreached _ => []
  | text _ rest | comment _ rest => rest.addresses (n + 1)
  | fragment inside rest => (inside.addresses 0).map (n :: ·) ++ rest.addresses (n + 1)
  | element _ inside rest => [n] :: ((inside.addresses 0).map (n :: ·) ++ rest.addresses (n + 1))

theorem drop_succ (n : Nat) (f : Forest) : f.drop (n + 1) = (f.drop n).rest := by
  induction n generalizing f with
  | zero => rfl
  | succ n ih => exact ih f.rest

theorem drop_of_drop (h : g.drop n = f) : g.drop (n + 1) = f.rest := by
  rw [drop_succ, h]

/-- Among the addresses of a forest that follows `n` nodes, the first number counts those nodes too. -/
theorem exists_cons_of_mem_addresses {a : List Nat} (h : a ∈ f.addresses n) :
    ∃ m path, a = m :: path ∧ n ≤ m := by
  induction f generalizing n with
  | nil | unreached _ _ => cases h
  | text _ _ ih | comment _ _ ih =>
    obtain ⟨m, path, rfl, hle⟩ := ih h
    exact ⟨m, path, rfl, Nat.le_of_succ_le hle⟩
  | fragment _ _ _ ih =>
    simp only [addresses, List.mem_append, List.mem_map] at h
    obtain ⟨path, -, rfl⟩ | h := h
    · exact ⟨n, path, rfl, Nat.le_refl n⟩
    · obtain ⟨m, path, rfl, hle⟩ := ih h
      exact ⟨m, path, rfl, Nat.le_of_succ_le hle⟩
  | element _ _ _ _ ih =>
    simp only [addresses, List.mem_cons, List.mem_append, List.mem_map] at h
    obtain rfl | ⟨path, -, rfl⟩ | h := h
    · exact ⟨n, [], rfl, Nat.le_refl n⟩
    · exact ⟨n, path, rfl, Nat.le_refl n⟩
    · obtain ⟨m, path, rfl, hle⟩ := ih h
      exact ⟨m, path, rfl, Nat.le_of_succ_le hle⟩

/-- What stands inside the node at `n` comes before what follows it. -/
theorem increasing_inside_append {inside rest : Forest}
    (hinside : (inside.addresses 0).Pairwise (· < ·))
    (hrest : (rest.addresses (n + 1)).Pairwise (· < ·)) :
    ((inside.addresses 0).map (n :: ·) ++ rest.addresses (n + 1)).Pairwise (· < ·) := by
  rw [List.pairwise_append, List.pairwise_map]
  refine ⟨hinside.imp fun hlt => List.cons_lt_cons_iff.mpr (.inr ⟨rfl, hlt⟩), hrest, ?_⟩
  intro a ha b hb
  obtain ⟨path, -, rfl⟩ := List.mem_map.mp ha
  obtain ⟨m, path', rfl, hle⟩ := exists_cons_of_mem_addresses hb
  exact List.cons_lt_cons_iff.mpr (.inl hle)

theorem addresses_increasing (f : Forest) (n : Nat) : (f.addresses n).Pairwise (· < ·) := by
  induction f generalizing n with
  | nil | unreached _ _ => exact List.Pairwise.nil
  | text _ _ ih | comment _ _ ih => exact ih (n + 1)
  | fragment _ _ ihi ihr => exact increasing_inside_append (ihi 0) (ihr (n + 1))
  | element _ _ _ ihi ihr =>
    refine List.pairwise_cons.mpr ⟨?_, increasing_inside_append (ihi 0) (ihr (n + 1))⟩
    intro a ha
    obtain ⟨path, hpath, rfl⟩ | ha := List.mem_append.mp ha |>.imp_left List.mem_map.mp
    · obtain ⟨m, path, rfl, -⟩ := exists_cons_of_mem_addresses hpath
      exact List.cons_lt_cons_iff.mpr (.inr ⟨rfl, List.nil_lt_cons m path⟩)
    · obtain ⟨m, path, rfl, hle⟩ := exists_cons_of_mem_addresses ha
      exact List.cons_lt_cons_iff.mpr (.inl hle)

variable {inside after : Forest}

theorem at?_element (h : f.drop n = .element e inside after) :
    at? (n :: path) f = if path.isEmpty then some e else at? path inside := by
  rw [at?, h]

theorem at?_fragment (h : f.drop n = .fragment inside after) : at? (n :: path) f = at? path inside := by
  rw [at?, h]

/-- Each address leads to the element that comes in its place in a walk. -/
theorem map_at?_addresses (h : g.drop n = f) :
    (f.addresses n).map (at? · g) = f.elements.map some := by
  induction f generalizing n g with
  | nil | unreached _ _ => rfl
  | text _ _ ih | comment _ _ ih => exact ih (drop_of_drop h)
  | fragment inside rest ihi ihr =>
    have hinside : ((inside.addresses 0).map (n :: ·)).map (at? · g) = inside.elements.map some := by
      rw [List.map_map, ← ihi (g := inside) (n := 0) rfl]
      exact List.map_congr_left fun path _ => at?_fragment h
    rw [addresses, List.map_append, hinside, ihr (drop_of_drop h), ← List.map_append]
    rfl
  | element e inside rest ihi ihr =>
    have hinside : ((inside.addresses 0).map (n :: ·)).map (at? · g) = inside.elements.map some := by
      rw [List.map_map, ← ihi (g := inside) (n := 0) rfl]
      apply List.map_congr_left
      intro path hpath
      obtain ⟨m, path, rfl, -⟩ := exists_cons_of_mem_addresses hpath
      exact at?_element h
    have hhere : at? [n] g = some e := at?_element h
    rw [addresses, List.map_cons, List.map_append, hhere, hinside, ihr (drop_of_drop h),
      ← List.map_append]
    rfl

theorem at?_succ : at? ((k + 1) :: path) f = at? (k :: path) f.rest := by
  rw [at?, at?, drop]

theorem at?_nil (path : List Nat) : at? path nil = none := by
  have hdrop : ∀ n, nil.drop n = nil := fun n => by
    induction n with
    | zero => rfl
    | succ n ih => exact ih
  cases path with
  | nil => rfl
  | cons n path => rw [at?, hdrop]

theorem mem_addresses_of_mem_rest {a : List Nat} (h : a ∈ f.rest.addresses (n + 1)) :
    a ∈ f.addresses n := by
  cases f with
  | nil | unreached _ => cases h
  | text _ _ | comment _ _ => exact h
  | fragment _ _ => exact List.mem_append_right _ h
  | element _ _ _ => exact List.mem_cons_of_mem _ (List.mem_append_right _ h)

/-- One level of the search for an address: past the first node, and into it. -/
theorem mem_addresses_of_succ
    (ih : ∀ {n k path}, at? (k :: path) f.rest = some e → (n + k) :: path ∈ f.rest.addresses n)
    (h : at? ((k + 1) :: path) f = some e) : (n + (k + 1)) :: path ∈ f.addresses n := by
  have hrest := ih (n := n + 1) (at?_succ.symm.trans h)
  rw [Nat.add_right_comm] at hrest
  exact mem_addresses_of_mem_rest hrest

theorem mem_map_of_inside
    (ih : ∀ {n k path}, at? (k :: path) inside = some e → (n + k) :: path ∈ inside.addresses n)
    (h : at? path inside = some e) : n :: path ∈ (inside.addresses 0).map (n :: ·) := by
  cases path with
  | nil => cases h
  | cons m path =>
    have hinside := ih (n := 0) h
    rw [Nat.zero_add] at hinside
    exact List.mem_map_of_mem hinside

theorem mem_addresses_of_at? (h : at? (k :: path) f = some e) : (n + k) :: path ∈ f.addresses n := by
  induction f generalizing n k path with
  | nil =>
    rw [at?_nil] at h
    cases h
  | unreached rest _ =>
    cases k with
    | zero => cases h
    | succ k =>
      rw [at?_succ, Forest.rest, at?_nil] at h
      cases h
  | text _ _ ih | comment _ _ ih =>
    cases k with
    | zero => cases h
    | succ k => exact mem_addresses_of_succ ih h
  | fragment inside rest ihi ihr =>
    cases k with
    | zero =>
      rw [at?_fragment rfl] at h
      exact List.mem_append_left _ (mem_map_of_inside ihi h)
    | succ k => exact mem_addresses_of_succ ihr h
  | element e inside rest ihi ihr =>
    cases k with
    | zero =>
      rw [at?_element rfl] at h
      split at h
      next hhere =>
        rw [List.isEmpty_iff.mp hhere]
        exact List.mem_cons_self
      next => exact List.mem_cons_of_mem _ (List.mem_append_left _ (mem_map_of_inside ihi h))
    | succ k => exact mem_addresses_of_succ ihr h

theorem mem_addresses_iff : path ∈ f.addresses 0 ↔ (at? path f).isSome = true := by
  constructor
  · intro h
    have hmap := map_at?_addresses (f := f) (g := f) (n := 0) rfl
    have hmem : at? path f ∈ f.elements.map some := hmap ▸ List.mem_map_of_mem h
    obtain ⟨e, -, he⟩ := List.mem_map.mp hmem
    rw [← he]
    rfl
  · intro h
    obtain ⟨e, he⟩ := Option.isSome_iff_exists.mp h
    cases path with
    | nil => cases he
    | cons k path =>
      have hmem := mem_addresses_of_at? (n := 0) he
      rwa [Nat.zero_add] at hmem

/-- An address and the element there have the same place in a walk. -/
theorem exists_place (h : f.at? path = some e) :
    ∃ i : Nat, (f.addresses 0)[i]? = some path ∧ f.elements[i]? = some e := by
  have hmem := mem_addresses_iff.mpr (Option.isSome_of_eq_some h)
  obtain ⟨i, hi⟩ := List.mem_iff_getElem?.mp hmem
  have hat := congrArg (·[i]?) (map_at?_addresses (f := f) (g := f) (n := 0) rfl)
  simp only [List.getElem?_map, hi, Option.map_some, h] at hat
  obtain ⟨x, hx, hxe⟩ := Option.map_eq_some_iff.mp hat.symm
  exact ⟨i, hi, by rw [hx, Option.some.inj hxe]⟩

theorem mem_elements_iff : e ∈ f.elements ↔ ∃ path, f.at? path = some e := by
  constructor
  · intro h
    have hmem : some e ∈ f.elements.map some := List.mem_map_of_mem h
    rw [← map_at?_addresses (f := f) (g := f) (n := 0) rfl] at hmem
    obtain ⟨path, -, hpath⟩ := List.mem_map.mp hmem
    exact ⟨path, hpath⟩
  · rintro ⟨path, hpath⟩
    obtain ⟨i, -, hi⟩ := exists_place hpath
    exact List.mem_of_getElem? hi

def Whole : Forest → Prop
  | nil => True
  | text _ rest | comment _ rest => rest.Whole
  | fragment inside rest | element _ inside rest => inside.Whole ∧ rest.Whole
  | unreached _ => False

instance decidableWhole : (f : Forest) → Decidable f.Whole
  | nil => .isTrue trivial
  | unreached _ => .isFalse nofun
  | text _ rest | comment _ rest => decidableWhole rest
  | fragment inside rest | element _ inside rest =>
    haveI := decidableWhole inside
    haveI := decidableWhole rest
    inferInstanceAs (Decidable (inside.Whole ∧ rest.Whole))

theorem Whole.walk_eq_sites (h : f.Whole) (above : List Holder) (earlier : List (Element × Forest)) :
    f.walk above earlier = f.sites above earlier := by
  induction f generalizing above earlier with
  | nil => rfl
  | unreached _ _ => cases h
  | text _ _ ih | comment _ _ ih => exact ih h above earlier
  | fragment _ _ ihi ihr => rw [walk, sites, ihi h.1, ihr h.2]
  | element _ _ _ ihi ihr => rw [walk, sites, ihi h.1, ihr h.2]

end Forest

namespace Document

variable {d : Document} {e e' : Element} {i j : Nat}

def Distinct (d : Document) : Prop := (d.elements.map (·.serial)).Nodup

theorem Plain.distinct (h : d.Plain) : d.Distinct := h.nodup_elements

def named (d : Document) (tag : String) : List Element := d.elements.filter (·.name == tag)

theorem Distinct.handle_eq (h : d.Distinct) (he : d.elements[i]? = some e) :
    d.handle e = ⟨i, e.name, ((d.elements.take i).map (·.name)).count e.name⟩ :=
  Handle.find_of_getElem? h he

theorem Distinct.map_handle (h : d.Distinct) :
    d.elements.map d.handle = Handle.number [] (d.elements.map (·.name)) := by
  apply List.ext_getElem?
  intro i
  rw [List.getElem?_map, Handle.number_getElem?, List.getElem?_map]
  cases he : d.elements[i]? with
  | none => rfl
  | some e =>
    rw [Option.map_some, h.handle_eq he]
    simp [List.map_take]

theorem Distinct.table_eq (h : d.Distinct) :
    d.table = d.elements.map fun e => (e.serial, d.handle e) := by
  rw [table, Handle.table, ← h.map_handle, List.zip_map']

theorem Distinct.tag_handle (h : d.Distinct) (he : e ∈ d.elements) : (d.handle e).tag = e.name := by
  obtain ⟨i, hi⟩ := List.mem_iff_getElem?.mp he
  rw [h.handle_eq hi]

theorem Distinct.index_eq (h : d.Distinct) (he : d.elements[i]? = some e) : (d.handle e).index = i := by
  rw [h.handle_eq he]

theorem Distinct.indices (h : d.Distinct) :
    d.elements.map (fun e => (d.handle e).index) = List.range d.count := by
  apply List.ext_getElem?
  intro i
  rw [List.getElem?_map]
  cases he : d.elements[i]? with
  | none =>
    rw [Option.map_none, eq_comm, List.getElem?_eq_none_iff, List.length_range]
    exact List.getElem?_eq_none_iff.mp he
  | some e =>
    have hlt : i < d.count := (List.getElem?_eq_some_iff.mp he).1
    rw [Option.map_some, h.index_eq he, List.getElem?_range hlt]

theorem Distinct.eq_of_index (h : d.Distinct) (he : e ∈ d.elements) (he' : e' ∈ d.elements)
    (hindex : (d.handle e).index = (d.handle e').index) : e = e' := by
  obtain ⟨i, hi⟩ := List.mem_iff_getElem?.mp he
  obtain ⟨j, hj⟩ := List.mem_iff_getElem?.mp he'
  rw [h.index_eq hi, h.index_eq hj] at hindex
  rw [hindex, hj] at hi
  exact (Option.some.inj hi).symm

theorem Plain.eq_of_index (h : d.Plain) {s t : Site} (hs : s ∈ d.sites) (ht : t ∈ d.sites)
    (hsreach : d.Reaches s) (htreach : d.Reaches t)
    (hindex : (d.handle s.element).index = (d.handle t.element).index) : s = t := by
  have helement : s.element = t.element :=
    h.distinct.eq_of_index (h.mem_elements hs hsreach) (h.mem_elements ht htreach) hindex
  apply h.eq_of_serial (mem_sites.mp hs) (mem_sites.mp ht)
  rw [helement]

theorem Distinct.occurrences (h : d.Distinct) (tag : String) :
    (d.named tag).map (fun e => (d.handle e).occurrence) = List.range (d.named tag).length := by
  have hfilter : (d.named tag).map d.handle =
      (Handle.number [] (d.elements.map (·.name))).filter (·.tag == tag) := by
    rw [← h.map_handle, List.filter_map, named]
    congr 1
    apply List.filter_congr
    intro e he
    rw [Function.comp_apply, h.tag_handle he]
  have hmap : (d.named tag).map (fun e => (d.handle e).occurrence) =
      ((d.named tag).map d.handle).map (·.occurrence) := by
    rw [List.map_map]
    rfl
  have hcounted : (d.named tag).map (fun e => (d.handle e).occurrence) =
      List.range' 0 ((d.elements.map (·.name)).count tag) := by
    rw [hmap, hfilter, Handle.occurrences_number]
    rfl
  have hlength := congrArg List.length hcounted
  rw [List.length_map, List.length_range'] at hlength
  rw [hcounted, ← hlength, List.range_eq_range']

/-- An element before another one of its tag has the smaller occurrence. -/
theorem Distinct.occurrence_lt (h : d.Distinct) (hi : d.elements[i]? = some e)
    (hj : d.elements[j]? = some e') (hname : e.name = e'.name) (hlt : i < j) :
    (d.handle e).occurrence < (d.handle e').occurrence := by
  rw [h.handle_eq hi, h.handle_eq hj]
  change ((d.elements.take i).map (·.name)).count e.name <
    ((d.elements.take j).map (·.name)).count e'.name
  have hstart : d.elements.take i ++ [e] <+: d.elements.take j := by
    have htake : d.elements.take i ++ [e] = d.elements.take (i + 1) := by
      rw [List.take_add_one, hi]
      rfl
    rw [htake]
    exact List.take_prefix_take_left (by omega)
  -- The earlier element is itself among those that are counted for the later one.
  have hle := (hstart.map (·.name)).sublist.count_le e'.name
  rw [List.map_append, List.count_append, ← hname] at hle
  simp only [List.map_cons, List.map_nil, List.count_singleton_self] at hle
  rw [← hname]
  omega

theorem Distinct.occurrence_lt_iff (h : d.Distinct) (he : e ∈ d.elements) (he' : e' ∈ d.elements)
    (hname : e.name = e'.name) :
    (d.handle e).occurrence < (d.handle e').occurrence ↔ (d.handle e).index < (d.handle e').index := by
  obtain ⟨i, hi⟩ := List.mem_iff_getElem?.mp he
  obtain ⟨j, hj⟩ := List.mem_iff_getElem?.mp he'
  rw [h.index_eq hi, h.index_eq hj]
  constructor
  · intro hlt
    rcases Nat.lt_trichotomy i j with hij | rfl | hji
    · exact hij
    · obtain rfl := Option.some.inj (hi.symm.trans hj)
      exact absurd hlt (Nat.lt_irrefl _)
    · exact absurd hlt (Nat.lt_asymm (h.occurrence_lt hj hi hname.symm hji))
  · exact h.occurrence_lt hi hj hname

theorem Distinct.eq_of_occurrence (h : d.Distinct) (he : e ∈ d.elements) (he' : e' ∈ d.elements)
    (htag : (d.handle e).tag = (d.handle e').tag)
    (hoccurrence : (d.handle e).occurrence = (d.handle e').occurrence) : e = e' := by
  have hname : e.name = e'.name := by rw [← h.tag_handle he, ← h.tag_handle he', htag]
  have hlt := h.occurrence_lt_iff he he' hname
  have hgt := h.occurrence_lt_iff he' he hname.symm
  apply h.eq_of_index he he'
  omega

theorem Distinct.index_lt_iff_of_mem_take (h : d.Distinct) :
    (∀ x ∈ d.elements.take i, (d.handle x).index < i) ∧
      ∀ x ∈ d.elements.drop i, ¬ (d.handle x).index < i := by
  constructor
  · intro x hx
    obtain ⟨j, hj⟩ := List.mem_iff_getElem?.mp hx
    rw [List.getElem?_take] at hj
    split at hj
    next hlt => rwa [h.index_eq hj]
    next => cases hj
  · intro x hx
    obtain ⟨j, hj⟩ := List.mem_iff_getElem?.mp hx
    rw [List.getElem?_drop] at hj
    rw [h.index_eq hj]
    omega

/-- An occurrence counts the elements of the tag with a smaller index. -/
theorem Distinct.occurrence_eq (h : d.Distinct) (he : e ∈ d.elements) :
    (d.handle e).occurrence = d.elements.countP fun x =>
      x.name = e.name ∧ (d.handle x).index < (d.handle e).index := by
  obtain ⟨i, hi⟩ := List.mem_iff_getElem?.mp he
  obtain ⟨hbefore, hafter⟩ := h.index_lt_iff_of_mem_take (i := i)
  have htake : (d.elements.take i).countP (fun x => x.name = e.name ∧ (d.handle x).index < i) =
      ((d.elements.take i).map (·.name)).count e.name := by
    rw [List.count, List.countP_map]
    apply List.countP_congr
    intro x hx
    simp [hbefore x hx]
  have hdrop : (d.elements.drop i).countP (fun x => x.name = e.name ∧ (d.handle x).index < i) = 0 := by
    rw [List.countP_eq_zero]
    intro x hx
    simp [hafter x hx]
  rw [h.index_eq hi]
  conv_rhs => rw [← List.take_append_drop i d.elements]
  rw [List.countP_append, htake, hdrop, h.handle_eq hi]
  rfl

theorem Distinct.index_lt_iff (h : d.Distinct) {path path' : List Nat}
    (he : d.content.at? path = some e) (he' : d.content.at? path' = some e') :
    (d.handle e).index < (d.handle e').index ↔ path < path' := by
  obtain ⟨i, hpath, hi⟩ := Forest.exists_place he
  obtain ⟨j, hpath', hj⟩ := Forest.exists_place he'
  have hlt : ∀ {i j : Nat} {path path' : List Nat}, (d.content.addresses 0)[i]? = some path →
      (d.content.addresses 0)[j]? = some path' → i < j → path < path' := by
    intro i j path path' hi hj hlt
    obtain ⟨hilt, rfl⟩ := List.getElem?_eq_some_iff.mp hi
    obtain ⟨hjlt, rfl⟩ := List.getElem?_eq_some_iff.mp hj
    exact List.pairwise_iff_getElem.mp (d.content.addresses_increasing 0) i j hilt hjlt hlt
  rw [h.index_eq hi, h.index_eq hj]
  refine ⟨hlt hpath hpath', ?_⟩
  intro hless
  rcases Nat.lt_trichotomy i j with hij | rfl | hji
  · exact hij
  · obtain rfl := Option.some.inj (hpath.symm.trans hpath')
    exact absurd hless (lt_irrefl _)
  · exact absurd hless (lt_asymm (hlt hpath' hpath hji))

structure Numbered (d : Document) : Prop where
  /-- The table has an entry for just the elements that have an address in the tree. -/
  reached : ∀ e, e ∈ d.elements ↔ ∃ path, d.content.at? path = some e
  listed : d.table = d.elements.map fun e => (e.serial, d.handle e)
  /-- The indices are all numbers below the count of elements, in order of the addresses. -/
  indices : d.elements.map (fun e => (d.handle e).index) = List.range d.count
  preorder : ∀ path path' e e', d.content.at? path = some e → d.content.at? path' = some e' →
    ((d.handle e).index < (d.handle e').index ↔ path < path')
  tags : ∀ e ∈ d.elements, (d.handle e).tag = e.name
  /-- An occurrence counts the elements of the tag that have a smaller index. -/
  counted : ∀ e ∈ d.elements, (d.handle e).occurrence = d.elements.countP fun x =>
    x.name = e.name ∧ (d.handle x).index < (d.handle e).index
  occurrences : ∀ tag, (d.named tag).map (fun e => (d.handle e).occurrence) =
    List.range (d.named tag).length
  alike : ∀ e ∈ d.elements, ∀ e' ∈ d.elements, e.name = e'.name →
    ((d.handle e).occurrence < (d.handle e').occurrence ↔
      (d.handle e).index < (d.handle e').index)
  /-- The index tells elements apart, and so does the tag with the occurrence. -/
  unique : ∀ e ∈ d.elements, ∀ e' ∈ d.elements, (d.handle e).index = (d.handle e').index ∨
    (d.handle e).tag = (d.handle e').tag ∧ (d.handle e).occurrence = (d.handle e').occurrence → e = e'
  /-- Handles of some sites are those of their elements, in the same order. -/
  asked : ∀ sites, d.handles sites = sites.map fun s => d.handle s.element

theorem Distinct.numbered (h : d.Distinct) : d.Numbered where
  reached _ := Forest.mem_elements_iff
  listed := h.table_eq
  indices := h.indices
  preorder _ _ _ _ := h.index_lt_iff
  tags _ := h.tag_handle
  counted _ := h.occurrence_eq
  occurrences := h.occurrences
  alike _ he _ he' := h.occurrence_lt_iff he he'
  unique _ he _ he' hsame := hsame.elim (h.eq_of_index he he') fun hpair =>
    h.eq_of_occurrence he he' hpair.1 hpair.2
  asked _ := rfl

theorem reaches_of_whole (h : d.content.Whole) {s : Site} (hs : s ∈ d.attached) : d.Reaches s := by
  rw [attached, ← h.walk_eq_sites] at hs
  rw [Reaches, elements_eq, List.map_map]
  exact List.mem_map_of_mem hs

/-- In any tree whose elements can be told apart, the elements that can be reached are numbered in
document order, and those of each tag besides; in a tree without breaks these are all there are. The tree
of a page is such a tree. -/
theorem numbers_in_document_order (d : Document) :
    (d.Distinct → d.Numbered ∧ (d.content.Whole → ∀ s ∈ d.attached, d.Reaches s)) ∧
      ∀ page, read page = .ok d → d.Distinct :=
  ⟨fun h => ⟨h.numbered, fun hwhole _ hs => reaches_of_whole hwhole hs⟩,
    fun _ hread => (plain_of_read hread).distinct⟩

/-- A tree with text, a comment and a template between elements of one tag. -/
theorem numbers_across_template :
    let d : Document := ⟨.element ⟨3, .html, "div", [], 0⟩ (.text "x" (.element ⟨1, .html, "p", [], 0⟩
      (.element ⟨8, .html, "i", [], 0⟩ .nil .nil) (.comment "y" (.element ⟨5, .html, "template", [], 0⟩
        (.fragment (.element ⟨0, .html, "p", [], 0⟩ .nil .nil) .nil) .nil))))
      (.element ⟨2, .html, "p", [], 0⟩ .nil .nil), .nil⟩
    d.Distinct ∧ d.content.Whole ∧ d.Numbered ∧ (∀ s ∈ d.attached, d.Reaches s) ∧
      d.elements.map d.handle = [⟨0, "div", 0⟩, ⟨1, "p", 0⟩, ⟨2, "i", 0⟩, ⟨3, "template", 0⟩,
        ⟨4, "p", 1⟩, ⟨5, "p", 2⟩] := by
  intro d
  have hdistinct : d.Distinct := by
    unfold Distinct
    decide
  have hwhole : d.content.Whole := by simp [d, Forest.Whole]
  obtain ⟨hnumbered, hreached⟩ := (numbers_in_document_order d).1 hdistinct
  exact ⟨hdistinct, hwhole, hnumbered, hreached hwhole, by decide⟩

end Document

end PageGrader
