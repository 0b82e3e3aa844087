import PageGrader.Proofs.Lookups

namespace PageGrader.Tree

/-- Nodes in which nothing can stand. -/
def Kind.isLeaf : Kind → Bool
  | .doctype | .comment _ | .text _ => true
  | _ => false

namespace Nodes

def leaf? (ns : Nodes) (id : Nat) : Option Bool := (ns[id]?).bind (some ·.kind.isLeaf)

def Leaf (ns : Nodes) (id : Nat) : Prop := ns.leaf? id = some true

/-- All elements but the root, the head and the body. -/
def Common (tag : Space × String) : Prop := tag ≠ (.html, "html") ∧ tag.2 ≠ "head" ∧ tag.2 ≠ "body"

/-- No element was made yet. -/
structure Bare (ns : Nodes) : Prop where
  untagged : ∀ id, ns.tag? id = none
  front : ∀ c ∈ ns.children 0, ns.Leaf c

def Lacks (ns : Nodes) (name : String) : Prop := ∀ id space, ns.tag? id ≠ some (space, name)

/-- At most one element of that name was made. -/
def Sole (ns : Nodes) (name : String) : Prop :=
  ∀ i j space space', ns.tag? i = some (space, name) → ns.tag? j = some (space', name) → i = j

/-- The root is the first element that was made, and nothing that stands before it in the document has
anything in it. -/
structure Leads (ns : Nodes) (r : Nat) : Prop where
  root : ns.tag? r = some (.html, "html")
  first : ∀ id tag, ns.tag? id = some tag → r ≤ id
  front : ∃ before after, ns.children 0 = before ++ r :: after ∧ ∀ c ∈ before, ns.Leaf c

structure Follows (ns ms : Nodes) : Prop extends After ns ms where
  leads : ∀ r, ns.Leads r → ms.Leads r

/-- One set of nodes came from the other without another root, head or body. -/
structure Grows (ns ms : Nodes) : Prop extends Follows ns ms where
  made : ∀ id, ns.size ≤ id → ∀ tag, ms.tag? id = some tag → Common tag

/-- One element was made, of that tag. -/
structure Adds (ns ms : Nodes) (tag : Space × String) : Prop extends Follows ns ms where
  made : ∀ id, ns.size ≤ id → ∀ t, ms.tag? id = some t → id = ns.size ∧ t = tag

variable {ns ms : Nodes} {id next holder giver taker r : Nat} {kind : Kind} {tag : Space × String}
  {name : String}

theorem leaf?_eq (ns : Nodes) (id : Nat) : ns.leaf? id = (ns.kind? id).map Kind.isLeaf := by
  rw [kind?, Option.map_bind]
  rfl

theorem leaf?_congr (h : ms.kind? id = ns.kind? id) : ms.leaf? id = ns.leaf? id := by
  rw [leaf?_eq, leaf?_eq, h]

theorem Leaf.tag?_eq_none (h : ns.Leaf id) : ns.tag? id = none := by
  rw [Leaf, leaf?_eq] at h
  obtain ⟨kind, hkind, hleaf⟩ := Option.map_eq_some_iff.mp h
  rw [tag?_eq, hkind]
  cases kind with
  | doctype | comment _ | text _ => rfl
  | document | fragment | element _ _ _ => cases hleaf

theorem Leaf.lt_size (h : ns.Leaf id) : id < ns.size := lt_size_of_bind h

theorem Leads.lt_size (h : ns.Leads r) : r < ns.size := lt_size_of_bind h.root

theorem Follows.trans {ks : Nodes} (h : Follows ns ms) (h' : Follows ms ks) : Follows ns ks where
  toAfter := h.toAfter.trans h'.toAfter
  leads r hr := h'.leads r (h.leads r hr)

theorem Grows.refl (h : ns.Linked) : Grows ns ns where
  toAfter := .refl h
  leads _ hr := hr
  made _ hid _ htag := absurd (lt_size_of_bind htag) (Nat.not_lt_of_le hid)

theorem Grows.trans {ks : Nodes} (h : Grows ns ms) (h' : Grows ms ks) : Grows ns ks where
  toFollows := h.toFollows.trans h'.toFollows
  made id hid tag htag := by
    by_cases hlt : id < ms.size
    · rw [h'.tags id hlt] at htag
      exact h.made id hid tag htag
    · exact h'.made id (Nat.le_of_not_lt hlt) tag htag

theorem Adds.grows (h : Adds ns ms tag) (hcommon : Common tag) : Grows ns ms where
  toFollows := h.toFollows
  made id hid t ht := (h.made id hid t ht).2 ▸ hcommon

theorem Adds.follow {ks : Nodes} (h : Adds ns ms tag) (h' : Follows ms ks)
    (hnone : ∀ id, ms.size ≤ id → ks.tag? id = none) : Adds ns ks tag where
  toFollows := h.toFollows.trans h'
  made id hid t ht := by
    by_cases hlt : id < ms.size
    · rw [h'.tags id hlt] at ht
      exact h.made id hid t ht
    · rw [hnone id (Nat.le_of_not_lt hlt)] at ht
      cases ht

theorem tag?_eq_none_of_size (h : ns.size ≤ id) : ns.tag? id = none :=
  Option.eq_none_iff_forall_ne_some.mpr fun _ ht => Nat.not_lt_of_le h (lt_size_of_bind ht)

theorem Lacks.sole (h : ns.Lacks name) : ns.Sole name :=
  fun i _ space _ hi _ => absurd hi (h i space)

section

variable (h : After ns ms) (hmade : ∀ id, ns.size ≤ id → ∀ t, ms.tag? id = some t → t.2 ≠ name)
include h hmade

theorem tag?_of_after {space : Space} (hid : ms.tag? id = some (space, name)) :
    ns.tag? id = some (space, name) := by
  have hlt : id < ns.size := by
    by_contra hge
    exact hmade id (Nat.le_of_not_lt hge) _ hid rfl
  exact (h.tags id hlt).symm.trans hid

theorem Lacks.after (hns : ns.Lacks name) : ms.Lacks name := fun id space hid =>
  hns id space (tag?_of_after h hmade hid)

theorem Sole.after (hns : ns.Sole name) : ms.Sole name := fun i j space space' hi hj =>
  hns i j space space' (tag?_of_after h hmade hi) (tag?_of_after h hmade hj)

end

theorem Grows.made_ne (h : Grows ns ms) (hname : name ∈ ["head", "body"]) (id : Nat) (hid : ns.size ≤ id)
    (t : Space × String) (ht : ms.tag? id = some t) : t.2 ≠ name := by
  obtain ⟨-, hhead, hbody⟩ := h.made id hid t ht
  simp only [List.mem_cons, List.not_mem_nil, or_false] at hname
  rcases hname with rfl | rfl
  · exact hhead
  · exact hbody

theorem Adds.made_ne (h : Adds ns ms tag) (hname : tag.2 ≠ name) (id : Nat) (hid : ns.size ≤ id)
    (t : Space × String) (ht : ms.tag? id = some t) : t.2 ≠ name := (h.made id hid t ht).2 ▸ hname

/-- The first element of its name is the only one. -/
theorem Adds.sole {space : Space} (h : Adds ns ms (space, name)) (hns : ns.Lacks name) : ms.Sole name := by
  have hnew {i : Nat} {space' : Space} (hi : ms.tag? i = some (space', name)) : i = ns.size := by
    by_cases hlt : i < ns.size
    · exact absurd ((h.tags i hlt).symm.trans hi) (hns i space')
    · exact (h.made i (Nat.le_of_not_lt hlt) _ hi).1
  exact fun i j _ _ hi hj => (hnew hi).trans (hnew hj).symm

/-- The root leads on when no leaf changes, and the document goes on as it began. -/
theorem Follows.of_after (h : After ns ms) (hleaf : ∀ id < ns.size, ms.leaf? id = ns.leaf? id)
    (hfront : ∀ r before after, ns.tag? r = some (.html, "html") → (∀ c ∈ before, ns.Leaf c) →
      ns.children 0 = before ++ r :: after → ∃ after', ms.children 0 = before ++ r :: after') :
    Follows ns ms where
  toAfter := h
  leads r hr := by
    obtain ⟨before, after, hchildren, hbefore⟩ := hr.front
    obtain ⟨after', hchildren'⟩ := hfront r before after hr.root hbefore hchildren
    refine ⟨(h.tags r hr.lt_size).trans hr.root, fun id tag htag => ?_, before, after', hchildren',
      fun c hc => (hleaf c (hbefore c hc).lt_size).trans (hbefore c hc)⟩
    by_cases hlt : id < ns.size
    · rw [h.tags id hlt] at htag
      exact hr.first id tag htag
    · exact Nat.le_trans (Nat.le_of_lt hr.lt_size) (Nat.le_of_not_lt hlt)

/-- A change of links alone that keeps the front of the document. -/
theorem Grows.of_links (h : After ns ms) (hsize : ms.size = ns.size)
    (hleaf : ∀ id < ns.size, ms.leaf? id = ns.leaf? id)
    (hfront : ∀ r before after, ns.tag? r = some (.html, "html") → (∀ c ∈ before, ns.Leaf c) →
      ns.children 0 = before ++ r :: after → ∃ after', ms.children 0 = before ++ r :: after') :
    Grows ns ms where
  toFollows := .of_after h hleaf hfront
  made _ hid _ htag := absurd (lt_size_of_bind htag) (Nat.not_lt_of_le (hsize ▸ hid))

theorem Linked.follows_make (h : ns.Linked) (kind : Kind) : Follows ns (ns.make kind).2 :=
  .of_after (h.make kind) (fun _ hid => leaf?_congr (kind?_make kind hid))
    fun _ _ after _ _ hchildren => ⟨after, (children_make ..).trans hchildren⟩

theorem tag?_make_new (hid : ns.size ≤ id)
    (htag : (ns.make kind).2.tag? id = some tag) : id = ns.size ∧ kind.tag? = some tag := by
  obtain rfl : id = ns.size := by
    have hlt := lt_size_of_bind htag
    rw [size_make] at hlt
    omega
  exact ⟨rfl, (tag?_fst_make ns kind).symm.trans htag⟩

theorem Linked.adds_make (h : ns.Linked) (hkind : kind.tag? = some tag) : Adds ns (ns.make kind).2 tag where
  toFollows := h.follows_make kind
  made id hid t ht := by
    obtain ⟨hnew, ht⟩ := tag?_make_new hid ht
    exact ⟨hnew, Option.some.inj (ht.symm.trans hkind)⟩

theorem Linked.grows_make (h : ns.Linked) (hkind : ∀ tag, kind.tag? = some tag → Common tag) :
    Grows ns (ns.make kind).2 where
  toFollows := h.follows_make kind
  made _ hid tag htag := hkind tag (tag?_make_new hid htag).2

theorem children_put (hnonempty : 0 < ns.size) (edit : List Nat → List Nat) (holder : Nat)
    (parent : Option Nat) :
    ((ns.update holder fun n => { n with children := edit n.children }).update id fun n =>
      { n with holder := some holder, parent }).children 0 =
        if holder = 0 then edit (ns.children 0) else ns.children 0 := by
  rw [children_update_same, children_update]
  · split
    next => rw [children, Array.getElem?_eq_getElem hnonempty]; rfl
    next => rfl
  · intro n
    rfl

theorem Tied.grows_put (htied : ns.Tied) (edit : List Nat → List Nat) {parent : Option Nat}
    (h : After ns ((ns.update holder fun n => { n with children := edit n.children }).update id fun n =>
      { n with holder := some holder, parent }))
    (hedit : ∀ r before after, ns.tag? r = some (.html, "html") → (∀ c ∈ before, ns.Leaf c) →
      ∃ after', edit (before ++ r :: after) = before ++ r :: after') :
    Grows ns ((ns.update holder fun n => { n with children := edit n.children }).update id fun n =>
      { n with holder := some holder, parent }) := by
  refine .of_links h (by rw [size_update, size_update]) (fun i _ => leaf?_congr (kind?_put edit holder i)) ?_
  intro r before after hr hbefore hchildren
  rw [children_put htied.nonempty, hchildren]
  split
  · exact hedit r before after hr hbefore
  · exact ⟨after, rfl⟩

theorem kind?_append (ns : Nodes) (holder id j : Nat) : (ns.append holder id).kind? j = ns.kind? j :=
  kind?_put (· ++ [id]) holder j

theorem Linked.grows_append (h : ns.Linked) (holder : Nat) (hinner : ns.Inner id)
    (hloose : ns.holder? id = none) : Grows ns (ns.append holder id) :=
  h.toTied.grows_put (· ++ [id]) (h.append holder hinner hloose) fun r before after _ _ =>
    ⟨after ++ [id], List.append_assoc before (r :: after) [id]⟩

theorem placedBefore_append {before : List Nat} (hbefore : next ∉ before) (after : List Nat) :
    placedBefore next id (before ++ after) = before ++ placedBefore next id after := by
  induction before with
  | nil => rfl
  | cons c before ih =>
    obtain ⟨hc, hrest⟩ := not_or.mp (List.mem_cons.not.mp hbefore)
    rw [List.cons_append, placedBefore, if_neg (by simpa using Ne.symm hc), ih hrest]
    rfl

theorem Linked.grows_insertBefore (h : ns.Linked)
    (hnext : ns.tag? next = some (.html, name)) (hname : name ≠ "html") (hinner : ns.Inner id)
    (hloose : ns.holder? id = none) : Grows ns (ns.insertBefore next id) := by
  have hafter := h.insertBefore next hinner hloose
  rcases insertBefore_cases ns next id with hsame | ⟨holder, hholder, hput⟩
  · rw [hsame]
    exact .refl h
  · rw [hput] at hafter ⊢
    refine h.toTied.grows_put (placedBefore next id) hafter fun r before after hr hbefore => ?_
    have hbefore' : next ∉ before := fun hmem => by
      rw [(hbefore next hmem).tag?_eq_none] at hnext
      cases hnext
    have hne : ¬(r == next) = true := fun heq => by
      obtain rfl := beq_iff_eq.mp heq
      exact hname (Prod.mk.inj (Option.some.inj (hnext.symm.trans hr))).2
    rw [placedBefore_append hbefore', placedBefore, if_neg hne]
    exact ⟨_, rfl⟩

theorem Linked.grows_detach (h : ns.Linked) (htag : ns.tag? id = some tag)
    (hne : tag ≠ (.html, "html")) (hloose : ns.Formats id → ns.holder? id = none) :
    Grows ns (ns.detach id) := by
  refine .of_links (h.detach hloose) (size_detach ns id) (fun i _ => leaf?_congr (kind?_detach ns id i)) ?_
  intro r before after hr hbefore hchildren
  rw [children_detach, hchildren]
  split
  · refine ⟨after.filter (· != id), ?_⟩
    have hkeep : ∀ c ∈ before, (c != id) = true := fun c hc => by
      refine bne_iff_ne.mpr fun heq => ?_
      have hnone := (hbefore c hc).tag?_eq_none
      rw [heq, htag] at hnone
      cases hnone
    have hroot : (r != id) = true := by
      refine bne_iff_ne.mpr fun heq => ?_
      rw [heq, htag] at hr
      exact hne (Option.some.inj hr)
    simp only [List.filter_append, List.filter_eq_self.mpr hkeep, List.filter_cons, hroot, if_true]
  · exact ⟨after, rfl⟩

theorem Linked.grows_refill (h : ns.Linked) (hgiver : 0 < giver) (hne : giver ≠ taker)
    (hinner : ns.Inner taker) (hloose : ns.holder? taker = none) (hformats : ns.Formats taker) :
    Grows ns ((ns.handOver giver taker).append giver taker) := by
  refine .of_links (h.refill hne hinner hloose hformats) ((size_append ..).trans (size_handOver ..))
    (fun i _ => leaf?_congr ((kind?_append ..).trans (kind?_handOver ns giver taker i)))
    fun r before after _ _ hchildren => ⟨after, ?_⟩
  have hnonempty : 0 < (ns.handOver giver taker).size := by
    rw [size_handOver]
    exact h.nonempty
  rw [Nodes.append, children_put hnonempty (· ++ [taker]), if_neg (Nat.ne_of_gt hgiver),
    children_handOver hne, if_neg (Nat.ne_of_lt hgiver), if_neg fun hand => Nat.ne_of_lt hinner.1 hand.1]
  exact hchildren

theorem Linked.grows_addText? (h : ns.Linked) {node : Option Nat} {s : String}
    (hms : ns.addText? node s = some ms) : Grows ns ms := by
  have hsame := sameLinks_addText? hms
  refine .of_links (h.addText? hms) hsame.size (fun i _ => bind_addText? (fun n t u hn => ?_) hms i)
    fun r before after _ _ hchildren => ⟨after, (hsame.children 0).trans hchildren⟩
  rw [hn]
  rfl

theorem Linked.grows_append_make (h : ns.Linked) (hkind : ∀ tag, kind.tag? = some tag → Common tag)
    (holder : Nat) : Grows ns ((ns.make kind).2.append holder (ns.make kind).1) :=
  (h.grows_make hkind).trans <|
    (h.make kind).linked.grows_append holder (h.toTied.inner_make kind) (holder?_fst_make ns kind)

theorem Linked.grows_appendText (h : ns.Linked) (holder : Nat) (s : String) :
    Grows ns (ns.appendText holder s) := by
  unfold Nodes.appendText
  split
  next hsome => exact h.grows_addText? hsome
  next => exact h.grows_append_make (by rintro _ ⟨⟩) holder

theorem Linked.grows_insertTextBefore (h : ns.Linked)
    (hnext : ns.tag? next = some (.html, name)) (hname : name ≠ "html") (s : String) :
    Grows ns (ns.insertTextBefore next s) := by
  unfold Nodes.insertTextBefore
  dsimp only
  split
  next hsome => exact h.grows_addText? hsome
  next =>
    have hmake : Grows ns (ns.make (.text s)).2 := h.grows_make (by rintro _ ⟨⟩)
    have hnext' := (hmake.tags next (lt_size_of_bind hnext)).trans hnext
    exact hmake.trans <| hmake.linked.grows_insertBefore hnext' hname (h.toTied.inner_make _)
      (holder?_fst_make ns _)

theorem Linked.grows_addAttributes (h : ns.Linked) (id : Nat) (more : List Markup.Attribute) :
    Grows ns (ns.addAttributes id more) := by
  have hsame := sameLinks_addAttributes ns id more
  refine .of_links (h.addAttributes id more) hsame.size (fun i _ => ?_)
    fun r before after _ _ hchildren => ⟨after, (hsame.children 0).trans hchildren⟩
  apply bind_update_same
  intro n
  dsimp only
  split
  next hkind => rw [hkind]; rfl
  next => rfl

theorem size_insertBefore (ns : Nodes) (next id : Nat) : (ns.insertBefore next id).size = ns.size := by
  rcases insertBefore_cases ns next id with h | ⟨holder, -, h⟩
  · rw [h]
  · rw [h, size_update, size_update]

theorem children_append_zero (hnonempty : 0 < ns.size) (id : Nat) :
    (ns.append 0 id).children 0 = ns.children 0 ++ [id] := by
  rw [Nodes.append, children_put hnonempty (· ++ [id]), if_pos rfl]

theorem tag?_append_make (ns : Nodes) (kind : Kind) (holder j : Nat) :
    ((ns.make kind).2.append holder (ns.make kind).1).tag? j =
      if j = ns.size then kind.tag? else ns.tag? j := by
  rw [tag?_append, tag?, bind_make]
  rfl

theorem leaf?_append_make (ns : Nodes) (kind : Kind) (holder j : Nat) :
    ((ns.make kind).2.append holder (ns.make kind).1).leaf? j =
      if j = ns.size then some kind.isLeaf else ns.leaf? j := by
  rw [leaf?_congr (kind?_append ..), leaf?, bind_make]
  rfl

theorem children_append_make (ns : Nodes) (kind : Kind) :
    ((ns.make kind).2.append 0 (ns.make kind).1).children 0 = ns.children 0 ++ [ns.size] := by
  rw [children_append_zero (by rw [size_make]; exact Nat.succ_pos _), children_make]
  rfl

theorem Leaf.append_make (h : ns.Leaf id) (kind : Kind) (holder : Nat) :
    ((ns.make kind).2.append holder (ns.make kind).1).Leaf id := by
  rw [Leaf, leaf?_append_make, if_neg (Nat.ne_of_lt h.lt_size)]
  exact h

theorem bare_empty : Bare empty where
  untagged id := by
    cases id with
    | zero => rfl
    | succ id => rfl
  front c hc := nomatch hc

theorem Bare.append_make (h : ns.Bare) (hleaf : kind.isLeaf = true) :
    ((ns.make kind).2.append 0 (ns.make kind).1).Bare where
  untagged id := by
    rw [tag?_append_make]
    split
    · cases kind <;> first | rfl | cases hleaf
    · exact h.untagged id
  front c hc := by
    rw [children_append_make, List.mem_append, List.mem_singleton] at hc
    rcases hc with hc | rfl
    · exact (h.front c hc).append_make kind 0
    · rw [Leaf, leaf?_append_make, if_pos rfl, hleaf]

/-- The first element of a page is its root. -/
theorem Bare.leads (h : ns.Bare) (hkind : kind.tag? = some (.html, "html")) :
    ((ns.make kind).2.append 0 (ns.make kind).1).Leads ns.size where
  root := by rw [tag?_append_make, if_pos rfl, hkind]
  first id t ht := by
    rw [tag?_append_make] at ht
    split at ht
    next hid => exact Nat.le_of_eq hid.symm
    next =>
      rw [h.untagged] at ht
      cases ht
  front := ⟨ns.children 0, [], children_append_make ns kind,
    fun c hc => (h.front c hc).append_make kind 0⟩

theorem Bare.lacks (h : ns.Bare) (hkind : kind.tag? = some tag) (hname : tag.2 ≠ name) (holder : Nat) :
    ((ns.make kind).2.append holder (ns.make kind).1).Lacks name := by
  intro id space hid
  rw [tag?_append_make] at hid
  split at hid
  · obtain rfl := Option.some.inj (hkind.symm.trans hid)
    exact hname rfl
  · rw [h.untagged] at hid
    cases hid

end Nodes

end PageGrader.Tree
