import Mathlib.Data.List.Nodup
import PageGrader.Tree.Nodes

namespace PageGrader.Tree.Nodes

variable {ns : Nodes} {id next holder giver taker : Nat}

def holder? (ns : Nodes) (id : Nat) : Option Nat := (ns[id]?).bind (·.holder)

def parent? (ns : Nodes) (id : Nat) : Option Nat := (ns[id]?).bind (·.parent)

def Inner (ns : Nodes) (id : Nat) : Prop := 0 < id ∧ id < ns.size

/-- Nobody stands in two lists, or twice in one, and the document stands in none. -/
structure Tied (ns : Nodes) : Prop where
  nonempty : 0 < ns.size
  once : ∀ p, (ns.children p).Nodup
  held : ∀ p c, c ∈ ns.children p → ns.holder? c = some p
  root : ns.holder? 0 = none

theorem tied_empty : Tied empty := by
  have hchildren (p : Nat) : children empty p = [] := by
    cases p with
    | zero => rfl
    | succ p => rfl
  refine ⟨by decide, ?_, ?_, rfl⟩
  · intro p
    rw [hchildren]
    exact List.nodup_nil
  · intro p c hc
    rw [hchildren] at hc
    exact absurd hc List.not_mem_nil

theorem Inner.mono {ms : Nodes} (h : ns.Inner id) (hsize : ns.size ≤ ms.size) : ms.Inner id :=
  ⟨h.1, Nat.lt_of_lt_of_le h.2 hsize⟩

theorem Tied.not_mem_children (h : ns.Tied) (hloose : ns.holder? id = none) (p : Nat) :
    id ∉ ns.children p := by
  intro hmem
  rw [h.held p id hmem] at hloose
  cases hloose

theorem getElem?_update (ns : Nodes) (i j : Nat) (f : Node → Node) :
    (ns.update i f)[j]? = if i = j then ns[j]?.map f else ns[j]? := Array.getElem?_modify

theorem size_update (ns : Nodes) (i : Nat) (f : Node → Node) : (ns.update i f).size = ns.size :=
  Array.size_modify

/-- What an update changes of one thing that is looked at in a node. -/
theorem bind_update {α : Type} (ns : Nodes) (i j : Nat) (f : Node → Node) (look : Node → Option α) :
    ((ns.update i f)[j]?).bind look = if i = j then (ns[j]?).bind fun n => look (f n)
      else (ns[j]?).bind look := by
  rw [getElem?_update]
  split
  · exact Option.bind_map
  · rfl

theorem bind_update_same {α : Type} (i j : Nat) {f : Node → Node} {look : Node → Option α}
    (h : ∀ n, look (f n) = look n) : ((ns.update i f)[j]?).bind look = (ns[j]?).bind look := by
  rw [bind_update]
  simp only [h, ite_self]

theorem lt_size_of_bind {α : Type} {a : α} {look : Node → Option α} (h : (ns[id]?).bind look = some a) :
    id < ns.size := by
  by_contra hge
  rw [Array.getElem?_eq_none (Nat.le_of_not_lt hge)] at h
  cases h

theorem holder?_update (ns : Nodes) (i j : Nat) (f : Node → Node) :
    (ns.update i f).holder? j = if i = j then (ns[j]?).bind fun n => (f n).holder
      else ns.holder? j := bind_update ns i j f (·.holder)

theorem children_update (ns : Nodes) (i j : Nat) (f : Node → Node) :
    (ns.update i f).children j = if i = j then (ns[j]?.map fun n => (f n).children).getD []
      else ns.children j := by
  rw [children, getElem?_update]
  split
  · rw [Option.map_map]
    rfl
  · rfl

theorem holder?_update_same (i j : Nat) {f : Node → Node} (h : ∀ n, (f n).holder = n.holder) :
    (ns.update i f).holder? j = ns.holder? j := bind_update_same i j h

theorem children_update_same (i j : Nat) {f : Node → Node} (h : ∀ n, (f n).children = n.children) :
    (ns.update i f).children j = ns.children j := by
  rw [children_update]
  split
  · simp only [h]
    rfl
  · rfl

/-- The same nodes in the same lists, whatever else is known of them. -/
structure SameLinks (ns ms : Nodes) : Prop where
  size : ms.size = ns.size
  holder : ∀ i, ms.holder? i = ns.holder? i
  children : ∀ i, ms.children i = ns.children i

theorem sameLinks_update (i : Nat) {f : Node → Node} (hholder : ∀ n, (f n).holder = n.holder)
    (hchildren : ∀ n, (f n).children = n.children) : SameLinks ns (ns.update i f) :=
  ⟨size_update ns i f, fun j => holder?_update_same i j hholder,
    fun j => children_update_same i j hchildren⟩

theorem Tied.congr {ms : Nodes} (h : ns.Tied) (hsame : SameLinks ns ms) : ms.Tied := by
  refine ⟨?_, ?_, ?_, ?_⟩
  · rw [hsame.size]
    exact h.nonempty
  · intro p
    rw [hsame.children]
    exact h.once p
  · intro p c hc
    rw [hsame.children] at hc
    rw [hsame.holder]
    exact h.held p c hc
  · rw [hsame.holder]
    exact h.root

theorem size_make (ns : Nodes) (kind : Kind) : (ns.make kind).2.size = ns.size + 1 :=
  Array.size_push _

theorem bind_make {α : Type} (ns : Nodes) (kind : Kind) (j : Nat) (look : Node → Option α) :
    ((ns.make kind).2[j]?).bind look =
      if j = ns.size then look ⟨kind, none, none, []⟩ else (ns[j]?).bind look := by
  rw [make, Array.getElem?_push]
  split <;> rfl

theorem bind_make_none {α : Type} {kind : Kind} {look : Node → Option α}
    (h : look ⟨kind, none, none, []⟩ = none) (ns : Nodes) (j : Nat) :
    ((ns.make kind).2[j]?).bind look = (ns[j]?).bind look := by
  rw [bind_make]
  split
  next hj => rw [h, Array.getElem?_eq_none (Nat.le_of_eq hj.symm), Option.bind_none]
  next => rfl

theorem holder?_make (ns : Nodes) (kind : Kind) (j : Nat) :
    (ns.make kind).2.holder? j = ns.holder? j := bind_make_none rfl ns j

theorem children_make (ns : Nodes) (kind : Kind) (j : Nat) :
    (ns.make kind).2.children j = ns.children j := by
  rw [children, make, Array.getElem?_push]
  split
  next h =>
    rw [children, Array.getElem?_eq_none (Nat.le_of_eq h.symm)]
    rfl
  next => rfl

theorem Tied.make (h : ns.Tied) (kind : Kind) : (ns.make kind).2.Tied := by
  refine ⟨?_, ?_, ?_, ?_⟩
  · rw [size_make]
    exact Nat.succ_pos _
  · intro p
    rw [children_make]
    exact h.once p
  · intro p c hc
    rw [children_make] at hc
    rw [holder?_make]
    exact h.held p c hc
  · rw [holder?_make]
    exact h.root

theorem Tied.inner_make (h : ns.Tied) (kind : Kind) : (ns.make kind).2.Inner (ns.make kind).1 := by
  refine ⟨h.nonempty, ?_⟩
  rw [size_make]
  exact Nat.lt_succ_self _

theorem holder?_fst_make (ns : Nodes) (kind : Kind) :
    (ns.make kind).2.holder? (ns.make kind).1 = none := by
  rw [holder?_make, holder?, make, Array.getElem?_eq_none (Nat.le_refl _)]
  rfl

theorem holder?_put (hid : id < ns.size) (edit : List Nat → List Nat) (holder : Nat)
    (parent : Option Nat) (j : Nat) :
    ((ns.update holder fun n => { n with children := edit n.children }).update id fun n =>
      { n with holder := some holder, parent }).holder? j =
        if id = j then some holder else ns.holder? j := by
  rw [holder?_update]
  split
  next hj =>
    subst hj
    rw [getElem?_update, Array.getElem?_eq_getElem hid]
    split <;> rfl
  next =>
    apply holder?_update_same
    intro n
    rfl

/-- A loose node goes into a list at whatever place `edit` chooses. -/
theorem Tied.put (h : ns.Tied) (hinner : ns.Inner id) (hloose : ns.holder? id = none)
    {edit : List Nat → List Nat} (hedit : ∀ l, (edit l).Perm (id :: l)) (holder : Nat)
    (parent : Option Nat) :
    ((ns.update holder fun n => { n with children := edit n.children }).update id fun n =>
      { n with holder := some holder, parent }).Tied := by
  let listed := ns.update holder fun n => { n with children := edit n.children }
  let put := listed.update id fun n => { n with holder := some holder, parent }
  have hholder := holder?_put hinner.2 edit holder parent
  have hlist (j : Nat) : put.children j = ns.children j ∨
      j = holder ∧ (put.children j).Perm (id :: ns.children j) := by
    rw [children_update_same, children_update]
    · split
      next hj =>
        subst hj
        by_cases hlt : holder < ns.size
        · refine .inr ⟨rfl, ?_⟩
          rw [children, Array.getElem?_eq_getElem hlt]
          exact hedit _
        · refine .inl ?_
          rw [children, Array.getElem?_eq_none (Nat.le_of_not_lt hlt)]
          rfl
      next => exact .inl rfl
    · intro n
      rfl
  refine ⟨?_, ?_, ?_, ?_⟩
  · rw [size_update, size_update]
    exact h.nonempty
  · intro p
    rcases hlist p with hsame | ⟨-, hperm⟩
    · rw [hsame]
      exact h.once p
    · rw [hperm.nodup_iff, List.nodup_cons]
      exact ⟨h.not_mem_children hloose p, h.once p⟩
  · intro p c hc
    rw [hholder]
    split
    next hid =>
      subst hid
      rcases hlist p with hsame | ⟨rfl, -⟩
      · rw [hsame] at hc
        exact absurd hc (h.not_mem_children hloose p)
      · rfl
    next hid =>
      apply h.held p c
      rcases hlist p with hsame | ⟨-, hperm⟩
      · rw [← hsame]
        exact hc
      · exact ((List.mem_cons.mp (hperm.mem_iff.mp hc)).resolve_left fun hcid => hid hcid.symm)
  · rw [hholder, if_neg (Nat.ne_of_gt hinner.1)]
    exact h.root

theorem size_append (ns : Nodes) (holder id : Nat) : (ns.append holder id).size = ns.size := by
  rw [append, size_update, size_update]

theorem Tied.append (h : ns.Tied) (holder : Nat) (hinner : ns.Inner id)
    (hloose : ns.holder? id = none) : (ns.append holder id).Tied :=
  h.put hinner hloose (fun _ => List.perm_append_singleton id _) holder (some holder)

theorem holder?_append (hid : id < ns.size) (holder j : Nat) :
    (ns.append holder id).holder? j = if id = j then some holder else ns.holder? j :=
  holder?_put hid (· ++ [id]) holder (some holder) j

theorem placedBefore_perm (next id : Nat) (l : List Nat) : (placedBefore next id l).Perm (id :: l) := by
  induction l with
  | nil => exact List.Perm.refl _
  | cons c rest ih =>
    unfold placedBefore
    split
    · exact List.Perm.refl _
    · exact (ih.cons c).trans (List.Perm.swap id c rest)

/-- Putting a node before another one puts it into that one's list, if there is one, and under what that
one looks up to. -/
theorem insertBefore_cases (ns : Nodes) (next id : Nat) :
    ns.insertBefore next id = ns ∨ ∃ holder, ns.holder? next = some holder ∧ ns.insertBefore next id =
      (ns.update holder fun n => { n with children := placedBefore next id n.children }).update id
        fun n => { n with holder := some holder, parent := ns.parent? next } := by
  unfold insertBefore
  split
  next kind holder parent children hnext =>
    refine .inr ⟨holder, ?_, ?_⟩
    · rw [holder?, hnext]
      rfl
    · rw [parent?, hnext]
      rfl
  next => exact .inl rfl

theorem detach_cases (ns : Nodes) (id : Nat) :
    ns.holder? id = none ∧ ns.detach id = ns ∨ ∃ holder, ns.holder? id = some holder ∧
      ns.detach id =
        (ns.update holder fun n => { n with children := n.children.filter (· != id) }).update id
          fun n => { n with holder := none, parent := none } := by
  unfold detach
  split
  next hnone => exact .inl ⟨hnone, rfl⟩
  next holder hsome => exact .inr ⟨holder, hsome, rfl⟩

theorem size_detach (ns : Nodes) (id : Nat) : (ns.detach id).size = ns.size := by
  rcases detach_cases ns id with ⟨-, h⟩ | ⟨holder, -, h⟩
  · rw [h]
  · rw [h, size_update, size_update]

theorem holder?_detach (ns : Nodes) (id j : Nat) :
    (ns.detach id).holder? j = if id = j then none else ns.holder? j := by
  rcases detach_cases ns id with ⟨hnone, h⟩ | ⟨holder, -, h⟩
  · rw [h]
    split
    next hj =>
      rw [← hj]
      exact hnone
    next => rfl
  · rw [h, holder?_update]
    split
    · cases (ns.update holder _)[j]? <;> rfl
    · apply holder?_update_same
      intro n
      rfl

theorem holder?_detach_self (ns : Nodes) (id : Nat) : (ns.detach id).holder? id = none := by
  rw [holder?_detach, if_pos rfl]

theorem children_detach (ns : Nodes) (id p : Nat) : (ns.detach id).children p =
    if ns.holder? id = some p then (ns.children p).filter (· != id) else ns.children p := by
  rcases detach_cases ns id with ⟨hnone, h⟩ | ⟨holder, hsome, h⟩
  · rw [h, hnone, if_neg nofun]
  · rw [h, hsome, children_update_same, children_update]
    · simp only [Option.some.injEq]
      split
      · rw [children]
        cases ns[p]? <;> rfl
      · rfl
    · intro n
      rfl

theorem Tied.detach (h : ns.Tied) (id : Nat) : (ns.detach id).Tied := by
  have hsub (p : Nat) : ((ns.detach id).children p).Sublist (ns.children p) := by
    rw [children_detach]
    split
    · exact List.filter_sublist
    · exact List.Sublist.refl _
  refine ⟨?_, ?_, ?_, ?_⟩
  · rw [size_detach]
    exact h.nonempty
  · intro p
    exact (hsub p).nodup (h.once p)
  · intro p c hc
    have hheld := h.held p c ((hsub p).subset hc)
    rw [holder?_detach]
    split
    -- The node itself is in no list any more.
    next hid =>
      rw [children_detach, hid, if_pos hheld] at hc
      simp at hc
    next => exact hheld
  · rw [holder?_detach]
    split
    · rfl
    · exact h.root

theorem holder?_foldl_update (moved : List Nat) (taker j : Nat) (parent : Nat → Node → Option Nat)
    (ns : Nodes) (hthere : ∀ c ∈ moved, c < ns.size) :
    (moved.foldl (fun ns id => ns.update id fun n =>
      { n with holder := some taker, parent := parent id n }) ns).holder? j =
        if j ∈ moved then some taker else ns.holder? j := by
  induction moved generalizing ns with
  | nil => rw [List.foldl_nil, if_neg List.not_mem_nil]
  | cons c rest ih =>
    rw [List.foldl_cons, ih]
    · by_cases hrest : j ∈ rest
      · rw [if_pos hrest, if_pos (List.mem_cons_of_mem c hrest)]
      · rw [if_neg hrest, holder?_update]
        split
        next hj =>
          subst hj
          rw [if_pos List.mem_cons_self,
            Array.getElem?_eq_getElem (hthere c List.mem_cons_self)]
          rfl
        next hj =>
          rw [if_neg]
          intro hmem
          exact (List.mem_cons.mp hmem).elim (fun heq => hj heq.symm) hrest
    · intro c' hc'
      rw [size_update]
      exact hthere c' (List.mem_cons_of_mem c hc')

theorem children_foldl_update (moved : List Nat) (taker j : Nat) (parent : Nat → Node → Option Nat)
    (ns : Nodes) :
    (moved.foldl (fun ns id => ns.update id fun n =>
      { n with holder := some taker, parent := parent id n }) ns).children j = ns.children j := by
  induction moved generalizing ns with
  | nil => rfl
  | cons c rest ih =>
    rw [List.foldl_cons, ih]
    apply children_update_same
    intro n
    rfl

theorem size_foldl_update (moved : List Nat) (taker : Nat) (parent : Nat → Node → Option Nat)
    (ns : Nodes) :
    (moved.foldl (fun ns id => ns.update id fun n =>
      { n with holder := some taker, parent := parent id n }) ns).size = ns.size := by
  induction moved generalizing ns with
  | nil => rfl
  | cons c rest ih => rw [List.foldl_cons, ih, size_update]

theorem size_handOver (ns : Nodes) (giver taker : Nat) : (ns.handOver giver taker).size = ns.size := by
  unfold handOver
  rw [size_foldl_update, size_update, size_update]

theorem Tied.holder?_handOver (h : ns.Tied) (giver taker j : Nat) :
    (ns.handOver giver taker).holder? j =
      if j ∈ ns.children giver then some taker else ns.holder? j := by
  unfold handOver
  rw [holder?_foldl_update]
  · split
    · rfl
    · rw [holder?_update_same, holder?_update_same]
      · intro n
        rfl
      · intro n
        rfl
  · intro c hc
    rw [size_update, size_update]
    exact lt_size_of_bind (h.held giver c hc)

theorem children_handOver (hne : giver ≠ taker) (p : Nat) :
    (ns.handOver giver taker).children p = if p = giver then [] else
      if p = taker ∧ p < ns.size then ns.children p ++ ns.children giver else ns.children p := by
  unfold handOver
  rw [children_foldl_update, children_update]
  by_cases hgiver : p = giver
  · subst hgiver
    rw [if_neg hne.symm, if_pos rfl, children_update, if_pos rfl]
    cases ns[p]? <;> rfl
  · rw [if_neg hgiver]
    by_cases htaker : p = taker
    · subst htaker
      rw [if_pos rfl, getElem?_update, if_neg hne]
      by_cases hlt : p < ns.size
      · rw [if_pos ⟨rfl, hlt⟩, Array.getElem?_eq_getElem hlt]
        conv_rhs => rw [children, Array.getElem?_eq_getElem hlt]
        rfl
      · rw [if_neg fun hand => hlt hand.2, Array.getElem?_eq_none (Nat.le_of_not_lt hlt)]
        conv_rhs => rw [children, Array.getElem?_eq_none (Nat.le_of_not_lt hlt)]
        rfl
    · rw [if_neg (Ne.symm htaker), if_neg fun hand => htaker hand.1, children_update,
        if_neg (Ne.symm hgiver)]

theorem Tied.handOver (h : ns.Tied) (hne : giver ≠ taker) : (ns.handOver giver taker).Tied := by
  refine ⟨?_, ?_, ?_, ?_⟩
  · rw [size_handOver]
    exact h.nonempty
  · intro p
    rw [children_handOver hne]
    split
    · exact List.nodup_nil
    · split
      next hp =>
        refine List.Nodup.append (h.once p) (h.once giver) ?_
        -- A node in both lists would have two holders.
        intro c hc hc'
        have hsame := (h.held p c hc).symm.trans (h.held giver c hc')
        exact hne ((Option.some.inj hsame).symm.trans hp.1)
      next => exact h.once p
  · intro p c hc
    rw [children_handOver hne] at hc
    rw [h.holder?_handOver]
    split at hc
    next => exact absurd hc List.not_mem_nil
    next hgiver =>
      have hother (hc : c ∈ ns.children p) : c ∉ ns.children giver := by
        intro hc'
        exact hgiver (Option.some.inj ((h.held p c hc).symm.trans (h.held giver c hc')))
      split at hc
      next hp =>
        rcases List.mem_append.mp hc with hc | hc
        · rw [if_neg (hother hc)]
          exact h.held p c hc
        · rw [if_pos hc, hp.1]
      next =>
        rw [if_neg (hother hc)]
        exact h.held p c hc
  · rw [h.holder?_handOver, if_neg (h.not_mem_children h.root giver)]
    exact h.root

theorem sameLinks_addText? {ms : Nodes} {node : Option Nat} {s : String}
    (h : ns.addText? node s = some ms) : SameLinks ns ms := by
  unfold addText? at h
  split at h
  · obtain rfl := Option.some.inj h
    apply sameLinks_update
    · intro n
      rfl
    · intro n
      rfl
  · cases h

theorem sameLinks_addAttributes (ns : Nodes) (id : Nat) (more : List Markup.Attribute) :
    SameLinks ns (ns.addAttributes id more) := by
  apply sameLinks_update
  · intro n
    dsimp only
    split <;> rfl
  · intro n
    dsimp only
    split <;> rfl

end PageGrader.Tree.Nodes
