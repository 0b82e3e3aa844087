import PageGrader.Proofs.Nodes
import PageGrader.Tree.Mode.Body

namespace PageGrader.Tree

def Kind.tag? : Kind → Option (Space × String)
  | .element space name _ => some (space, name)
  | _ => none

namespace Nodes

open Builder (formattingNames)

def tag? (ns : Nodes) (id : Nat) : Option (Space × String) := (ns[id]?).bind (·.kind.tag?)

def kind? (ns : Nodes) (id : Nat) : Option Kind := (ns[id]?).bind (some ·.kind)

def Formats (ns : Nodes) (id : Nat) : Prop := ∃ name ∈ formattingNames, ns.tag? id = some (.html, name)

/-- Going out past formatting elements one comes from one node to the other. -/
inductive Past (ns : Nodes) : Nat → Nat → Prop where
  | here (v : Nat) : Past ns v v
  | out {v w p : Nat} (hformats : ns.Formats v) (hholder : ns.holder? v = some w) (h : Past ns w p) :
    Past ns v p

/-- What a node looks up to is its holder, or further out past formatting elements. -/
def Near (ns : Nodes) : Prop :=
  ∀ id p, ns.parent? id = some p → ∃ v, ns.holder? id = some v ∧ ns.Past v p

variable {ns ms : Nodes} {id next holder giver taker v w p : Nat}

theorem Past.trans (h : ns.Past v w) (h' : ns.Past w p) : ns.Past v p := by
  induction h with
  | here _ => exact h'
  | out hformats hholder _ ih => exact .out hformats hholder (ih h')

theorem Past.imp (h : ns.Past v p)
    (hstep : ∀ v w, ns.Formats v → ns.holder? v = some w → ms.Past v w) : ms.Past v p := by
  induction h with
  | here v => exact .here v
  | out hformats hholder _ ih => exact (hstep _ _ hformats hholder).trans ih

theorem near_empty : Near empty := by
  intro id p hp
  have hnone : parent? empty id = none := by
    match id with
    | 0 => rfl
    | id + 1 => rfl
  rw [hnone] at hp
  cases hp

structure Linked (ns : Nodes) : Prop extends Tied ns where
  near : ns.Near

structure After (ns ms : Nodes) : Prop where
  linked : ms.Linked
  size : ns.size ≤ ms.size
  tags : ∀ id < ns.size, ms.tag? id = ns.tag? id

theorem After.trans {ks : Nodes} (h : After ns ms) (h' : After ms ks) : After ns ks where
  linked := h'.linked
  size := Nat.le_trans h.size h'.size
  tags id hid := (h'.tags id (Nat.lt_of_lt_of_le hid h.size)).trans (h.tags id hid)

theorem Formats.congr (h : ns.Formats v) (htags : ∀ id < ns.size, ms.tag? id = ns.tag? id) :
    ms.Formats v := by
  obtain ⟨name, hname, htag⟩ := h
  exact ⟨name, hname, (htags v (lt_size_of_bind htag)).trans htag⟩

theorem Formats.of_after (h : ms.Formats v) (hafter : After ns ms) (hv : v < ns.size) : ns.Formats v := by
  obtain ⟨name, hname, htag⟩ := h
  exact ⟨name, hname, (hafter.tags v hv).symm.trans htag⟩

theorem Past.congr (h : ns.Past v p) (htags : ∀ id < ns.size, ms.tag? id = ns.tag? id)
    (hholder : ∀ v w, ns.Formats v → ns.holder? v = some w → ms.holder? v = some w) : ms.Past v p :=
  h.imp fun v w hv hw => .out (hv.congr htags) (hholder v w hv hw) (.here w)

theorem tag?_eq (ns : Nodes) (id : Nat) : ns.tag? id = (ns.kind? id).bind Kind.tag? := by
  rw [kind?, Option.bind_assoc]
  rfl

theorem tag?_congr (h : ms.kind? id = ns.kind? id) : ms.tag? id = ns.tag? id := by
  rw [tag?_eq, tag?_eq, h]

theorem kind?_make (kind : Kind) (hid : id < ns.size) : (ns.make kind).2.kind? id = ns.kind? id := by
  rw [kind?, bind_make, if_neg (Nat.ne_of_lt hid)]
  rfl

theorem tag?_make (kind : Kind) (hid : id < ns.size) : (ns.make kind).2.tag? id = ns.tag? id :=
  tag?_congr (kind?_make kind hid)

theorem tag?_fst_make (ns : Nodes) (kind : Kind) : (ns.make kind).2.tag? (ns.make kind).1 = kind.tag? := by
  rw [tag?, bind_make]
  exact if_pos rfl

theorem parent?_make (ns : Nodes) (kind : Kind) (j : Nat) : (ns.make kind).2.parent? j = ns.parent? j :=
  bind_make_none rfl ns j

theorem Linked.make (h : ns.Linked) (kind : Kind) : After ns (ns.make kind).2 := by
  have htags (id : Nat) (hid : id < ns.size) := tag?_make kind hid
  refine ⟨⟨h.toTied.make kind, ?_⟩, ?_, htags⟩
  · intro id p hp
    rw [parent?_make] at hp
    obtain ⟨v, hv, hpast⟩ := h.near id p hp
    refine ⟨v, (holder?_make ..).trans hv, hpast.congr htags fun v w _ hw => ?_⟩
    exact (holder?_make ..).trans hw
  · rw [size_make]
    exact Nat.le_succ _

section

variable {edit : List Nat → List Nat} {parent : Option Nat}

theorem kind?_put (edit : List Nat → List Nat) (holder j : Nat) :
    ((ns.update holder fun n => { n with children := edit n.children }).update id fun n =>
      { n with holder := some holder, parent }).kind? j = ns.kind? j := by
  rw [kind?, bind_update_same, bind_update_same]
  · rfl
  · intro n
    rfl
  · intro n
    rfl

theorem tag?_put (edit : List Nat → List Nat) (holder j : Nat) :
    ((ns.update holder fun n => { n with children := edit n.children }).update id fun n =>
      { n with holder := some holder, parent }).tag? j = ns.tag? j :=
  tag?_congr (kind?_put edit holder j)

theorem parent?_put (hid : id < ns.size) (edit : List Nat → List Nat) (holder j : Nat) :
    ((ns.update holder fun n => { n with children := edit n.children }).update id fun n =>
      { n with holder := some holder, parent }).parent? j = if id = j then parent else ns.parent? j := by
  rw [parent?, bind_update]
  split
  next hj =>
    subst hj
    rw [getElem?_update, Array.getElem?_eq_getElem hid]
    split <;> rfl
  next =>
    apply bind_update_same
    intro n
    rfl

/-- A loose node goes into a list and looks up to the holder of the list, or past it like others there. -/
theorem Linked.put (h : ns.Linked) (hinner : ns.Inner id) (hloose : ns.holder? id = none)
    (hedit : ∀ l, (edit l).Perm (id :: l)) (holder : Nat)
    (hparent : ∀ p, parent = some p → ns.Past holder p) :
    After ns ((ns.update holder fun n => { n with children := edit n.children }).update id fun n =>
      { n with holder := some holder, parent }) := by
  refine ⟨⟨h.toTied.put hinner hloose hedit holder parent, ?_⟩, ?_, fun id _ => tag?_put edit holder id⟩
  · have hpast {v p : Nat} (h : ns.Past v p) := h.congr (fun id _ => tag?_put edit holder id)
      fun v w _ hw => by
        rw [holder?_put hinner.2 edit holder parent, if_neg]
        · exact hw
        · rintro rfl
          rw [hloose] at hw
          cases hw
    intro j p hp
    rw [parent?_put hinner.2] at hp
    rw [holder?_put hinner.2 edit holder parent]
    split
    next hj =>
      rw [if_pos hj] at hp
      exact ⟨holder, rfl, hpast (hparent p hp)⟩
    next hj =>
      rw [if_neg hj] at hp
      obtain ⟨v, hv, hway⟩ := h.near j p hp
      exact ⟨v, hv, hpast hway⟩
  · exact Nat.le_of_eq (by rw [size_update, size_update])

end

theorem tag?_append (ns : Nodes) (holder id j : Nat) : (ns.append holder id).tag? j = ns.tag? j :=
  tag?_put (· ++ [id]) holder j

theorem parent?_append (hid : id < ns.size) (holder j : Nat) :
    (ns.append holder id).parent? j = if id = j then some holder else ns.parent? j :=
  parent?_put hid (· ++ [id]) holder j

theorem Linked.append (h : ns.Linked) (holder : Nat) (hinner : ns.Inner id)
    (hloose : ns.holder? id = none) : After ns (ns.append holder id) := by
  refine h.put hinner hloose (fun _ => List.perm_append_singleton id _) holder fun p hp => ?_
  obtain rfl := Option.some.inj hp
  exact .here _

theorem After.refl (h : ns.Linked) : After ns ns := ⟨h, Nat.le_refl _, fun _ _ => rfl⟩

theorem Linked.insertBefore (h : ns.Linked) (next : Nat) (hinner : ns.Inner id)
    (hloose : ns.holder? id = none) : After ns (ns.insertBefore next id) := by
  rcases insertBefore_cases ns next id with hsame | ⟨holder, hholder, hput⟩
  · rw [hsame]
    exact .refl h
  · rw [hput]
    refine h.put hinner hloose (placedBefore_perm next id) holder fun p hp => ?_
    obtain ⟨v, hv, hpast⟩ := h.near next p hp
    obtain rfl := Option.some.inj (hholder.symm.trans hv)
    exact hpast

theorem kind?_detach (ns : Nodes) (id j : Nat) : (ns.detach id).kind? j = ns.kind? j := by
  rcases detach_cases ns id with ⟨-, h⟩ | ⟨holder, -, h⟩
  · rw [h]
  · rw [h, kind?, bind_update_same, bind_update_same]
    · rfl
    · intro n
      rfl
    · intro n
      rfl

theorem tag?_detach (ns : Nodes) (id j : Nat) : (ns.detach id).tag? j = ns.tag? j :=
  tag?_congr (kind?_detach ns id j)

theorem parent?_detach (h : ns.Near) (id j : Nat) :
    (ns.detach id).parent? j = if id = j then none else ns.parent? j := by
  rcases detach_cases ns id with ⟨hnone, heq⟩ | ⟨holder, -, heq⟩
  · rw [heq]
    split
    next hj =>
      subst hj
      -- What stands nowhere looks up to nothing.
      cases hp : ns.parent? id with
      | none => rfl
      | some p =>
        obtain ⟨v, hv, -⟩ := h id p hp
        rw [hnone] at hv
        cases hv
    next => rfl
  · rw [heq, parent?, bind_update]
    split
    · cases (ns.update holder _)[j]? <;> rfl
    · apply bind_update_same
      intro n
      rfl

/-- Anything but a formatting element that stands somewhere may be taken out of its place. -/
theorem Linked.detach (h : ns.Linked) (hloose : ns.Formats id → ns.holder? id = none) :
    After ns (ns.detach id) := by
  refine ⟨⟨h.toTied.detach id, ?_⟩, Nat.le_of_eq (size_detach ..).symm, fun j _ => tag?_detach ns id j⟩
  intro j p hp
  rw [parent?_detach h.near] at hp
  rw [holder?_detach]
  split
  next hj =>
    rw [if_pos hj] at hp
    cases hp
  next hj =>
    rw [if_neg hj] at hp
    obtain ⟨v, hv, hpast⟩ := h.near j p hp
    refine ⟨v, hv, hpast.congr (fun j _ => tag?_detach ns id j) fun v w hformats hw => ?_⟩
    rw [holder?_detach, if_neg]
    · exact hw
    · rintro rfl
      rw [hloose hformats] at hw
      cases hw

theorem kind?_foldl_update (moved : List Nat) (taker j : Nat) (parent : Nat → Node → Option Nat)
    (ns : Nodes) :
    (moved.foldl (fun ns id => ns.update id fun n =>
      { n with holder := some taker, parent := parent id n }) ns).kind? j = ns.kind? j := by
  induction moved generalizing ns with
  | nil => rfl
  | cons c rest ih =>
    rw [List.foldl_cons, ih]
    apply bind_update_same
    intro n
    rfl

theorem kind?_handOver (ns : Nodes) (giver taker j : Nat) :
    (ns.handOver giver taker).kind? j = ns.kind? j := by
  unfold handOver
  rw [kind?_foldl_update, kind?, bind_update_same, bind_update_same]
  · rfl
  · intro n
    rfl
  · intro n
    rfl

theorem tag?_handOver (ns : Nodes) (giver taker j : Nat) :
    (ns.handOver giver taker).tag? j = ns.tag? j :=
  tag?_congr (kind?_handOver ns giver taker j)

/-- Nodes that are told to stand in another list look up to its holder, or to the same as before. -/
theorem parent?_foldl_update (moved outer : List Nat) (taker j : Nat) (ns : Nodes)
    (h : (moved.foldl (fun ns id => ns.update id fun n => { n with
      holder := some taker, parent := if outer.contains id then some taker else n.parent })
        ns).parent? j = some p) : j ∈ moved ∧ p = taker ∨ ns.parent? j = some p := by
  induction moved generalizing ns with
  | nil => exact .inr h
  | cons c rest ih =>
    rw [List.foldl_cons] at h
    rcases ih _ h with ⟨hj, hp⟩ | h
    · exact .inl ⟨List.mem_cons_of_mem c hj, hp⟩
    · rw [parent?, bind_update] at h
      split at h
      next hj =>
        subst hj
        obtain ⟨n, hn, hp⟩ := Option.bind_eq_some_iff.mp h
        split at hp
        · exact .inl ⟨List.mem_cons_self, (Option.some.inj hp).symm⟩
        · exact .inr (Option.bind_eq_some_iff.mpr ⟨n, hn, hp⟩)
      next => exact .inr h

theorem parent?_handOver (h : (ns.handOver giver taker).parent? id = some p) :
    id ∈ ns.children giver ∧ p = taker ∨ ns.parent? id = some p := by
  unfold handOver at h
  refine (parent?_foldl_update _ _ _ _ _ h).imp_right fun hp => ?_
  rw [← hp]
  symm
  refine (bind_update_same _ _ ?_).trans (bind_update_same _ _ ?_)
  · intro n
    rfl
  · intro n
    rfl

/-- A formatting element takes over all a node holds, and is then the only one that stands in it. Who
looked up to that node from inside still finds it, one step further out. -/
theorem Linked.refill (h : ns.Linked) (hne : giver ≠ taker) (hinner : ns.Inner taker)
    (hloose : ns.holder? taker = none) (hformats : ns.Formats taker) :
    After ns ((ns.handOver giver taker).append giver taker) := by
  have hsize := size_handOver ns giver taker
  have hinner' : (ns.handOver giver taker).Inner taker := hinner.mono (Nat.le_of_eq hsize.symm)
  have htied : ((ns.handOver giver taker).append giver taker).Tied := by
    apply (h.toTied.handOver hne).append giver hinner'
    rw [h.toTied.holder?_handOver, if_neg (h.toTied.not_mem_children hloose giver)]
    exact hloose
  have htags (j : Nat) : ((ns.handOver giver taker).append giver taker).tag? j = ns.tag? j :=
    (tag?_append ..).trans (tag?_handOver ..)
  have hholder (j : Nat) : ((ns.handOver giver taker).append giver taker).holder? j =
      if taker = j then some giver else if j ∈ ns.children giver then some taker else ns.holder? j := by
    rw [holder?_append hinner'.2, h.toTied.holder?_handOver]
  have hparent (j : Nat) : ((ns.handOver giver taker).append giver taker).parent? j =
      if taker = j then some giver else (ns.handOver giver taker).parent? j :=
    parent?_append hinner'.2 giver j
  have hsize' := (size_append (ns.handOver giver taker) giver taker).trans hsize
  generalize (ns.handOver giver taker).append giver taker = ms at *
  have hout : ms.Past taker giver :=
    .out (hformats.congr fun j _ => htags j) (by rw [hholder, if_pos rfl]) (.here giver)
  have hstep (v w : Nat) (hv : ns.Formats v) (hw : ns.holder? v = some w) : ms.Past v w := by
    have hv' : ms.Formats v := hv.congr fun j _ => htags j
    have htaker : taker ≠ v := by
      rintro rfl
      rw [hloose] at hw
      cases hw
    by_cases hmem : v ∈ ns.children giver
    · obtain rfl := Option.some.inj (hw.symm.trans (h.held giver v hmem))
      exact .out hv' (by rw [hholder, if_neg htaker, if_pos hmem]) hout
    · exact .out hv' (by rw [hholder, if_neg htaker, if_neg hmem, hw]) (.here w)
  refine ⟨⟨htied, ?_⟩, Nat.le_of_eq hsize'.symm, fun j _ => htags j⟩
  intro j p hp
  rw [hparent] at hp
  rw [hholder]
  by_cases hj : taker = j
  · rw [if_pos hj] at hp ⊢
    obtain rfl := Option.some.inj hp
    exact ⟨giver, rfl, .here giver⟩
  · rw [if_neg hj] at hp ⊢
    rcases parent?_handOver hp with ⟨hmem, rfl⟩ | hp
    · exact ⟨p, if_pos hmem, .here p⟩
    · obtain ⟨v, hv, hway⟩ := h.near j p hp
      by_cases hmem : j ∈ ns.children giver
      · obtain rfl := Option.some.inj (hv.symm.trans (h.held giver j hmem))
        exact ⟨taker, if_pos hmem, hout.trans (hway.imp hstep)⟩
      · exact ⟨v, (if_neg hmem).trans hv, hway.imp hstep⟩

/-- Where all stay in their places, look up to the same, and have the same names. -/
theorem Linked.congr (h : ns.Linked) (hsame : SameLinks ns ms) (hparent : ∀ i, ms.parent? i = ns.parent? i)
    (htags : ∀ i, ms.tag? i = ns.tag? i) : After ns ms := by
  refine ⟨⟨h.toTied.congr hsame, ?_⟩, Nat.le_of_eq hsame.size.symm, fun i _ => htags i⟩
  intro i p hp
  rw [hparent] at hp
  obtain ⟨v, hv, hpast⟩ := h.near i p hp
  refine ⟨v, (hsame.holder i).trans hv, hpast.congr (fun i _ => htags i) fun v w _ hw => ?_⟩
  exact (hsame.holder v).trans hw

/-- Only what one looks at in a text may change when text is added to it. -/
theorem bind_addText? {α : Type} {look : Node → Option α} {node : Option Nat} {s : String}
    (hlook : ∀ n t u, n.kind = .text t → look { n with kind := .text u } = look n)
    (h : ns.addText? node s = some ms) (i : Nat) : (ms[i]?).bind look = (ns[i]?).bind look := by
  unfold Nodes.addText? at h
  split at h
  next id t holder parent children hid =>
    obtain rfl := Option.some.inj h
    have htext : ns[id]? = some ⟨.text t, holder, parent, children⟩ := hid
    rw [bind_update]
    split
    next hi =>
      subst hi
      rw [htext]
      exact hlook ⟨.text t, holder, parent, children⟩ t (t ++ s) rfl
    next => rfl
  next => cases h

theorem Linked.addText? (h : ns.Linked) {node : Option Nat} {s : String}
    (hms : ns.addText? node s = some ms) : After ns ms := by
  refine h.congr (sameLinks_addText? hms) (bind_addText? ?_ hms) (bind_addText? ?_ hms)
  · intro n t u _
    rfl
  · intro n t u hn
    rw [hn]
    rfl

theorem Linked.append_make (h : ns.Linked) (kind : Kind) (holder : Nat) :
    After ns ((ns.make kind).2.append holder (ns.make kind).1) :=
  (h.make kind).trans <|
    (h.make kind).linked.append holder (h.toTied.inner_make kind) (holder?_fst_make ns kind)

theorem Linked.appendText (h : ns.Linked) (holder : Nat) (s : String) :
    After ns (ns.appendText holder s) := by
  unfold Nodes.appendText
  split
  next hsome => exact h.addText? hsome
  next => exact h.append_make (.text s) holder

theorem Linked.insertTextBefore (h : ns.Linked) (next : Nat) (s : String) :
    After ns (ns.insertTextBefore next s) := by
  unfold Nodes.insertTextBefore
  dsimp only
  split
  next hsome => exact h.addText? hsome
  next =>
    have hmake := h.make (.text s)
    exact hmake.trans <|
      hmake.linked.insertBefore next (h.toTied.inner_make _) (holder?_fst_make ns _)

theorem Linked.addAttributes (h : ns.Linked) (id : Nat) (more : List Markup.Attribute) :
    After ns (ns.addAttributes id more) := by
  refine h.congr (sameLinks_addAttributes ns id more) (fun i => ?_) fun i => ?_
  · apply bind_update_same
    intro n
    dsimp only
    split <;> rfl
  · apply bind_update_same
    intro n
    dsimp only
    split
    next hkind => rw [hkind]; rfl
    next => rfl

end Nodes

end PageGrader.Tree
