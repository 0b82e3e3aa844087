import PageGrader.Proofs.Building
import PageGrader.Proofs.Outline

namespace PageGrader.Tree

open Markup (Tag Attribute)
open Nodes (After Adds Grows Common)
open Builder (formattingNames)

/-- The modes in which the content of a template is read. -/
def contentModes : List Mode :=
  [.inTemplate, .inTable, .inColumnGroup, .inTableBody, .inRow, .inBody]

structure Recorded (nodes : Nodes) (formatting : List Listed) (form : Option Nat)
    (templates : List Mode) : Prop where
  listed : ∀ id tag, Listed.element id tag ∈ formatting →
    tag.name ∈ formattingNames ∧ nodes.tag? id = some (.html, tag.name)
  form : ∀ id ∈ form, nodes.tag? id = some (.html, "form")
  templates : ∀ mode ∈ templates, mode ∈ contentModes

theorem Recorded.grow {nodes ms : Nodes} {formatting : List Listed} {form : Option Nat}
    {templates : List Mode} (h : Recorded nodes formatting form templates) (hafter : After nodes ms) :
    Recorded ms formatting form templates := by
  have htag {id : Nat} {tag : Space × String} (hid : nodes.tag? id = some tag) : ms.tag? id = some tag :=
    (hafter.tags id (Nodes.lt_size_of_bind hid)).trans hid
  exact ⟨fun id tag hmem => (h.listed id tag hmem).imp_right htag, fun id hid => htag (h.form id hid),
    h.templates⟩

/-- A tag for any element but the root, the head and the body. -/
class Usual (space : Space) (tag : Tag) : Prop where
  common : Common (space, tag.name)

/-- A tag for an element that can stand anywhere in a body. -/
class Plain (space : Space) (tag : Tag) : Prop extends Usual space tag where
  plain : ∀ id, (Opened.mk id space tag.name).isPart = false

theorem usual_of_name {tag : Tag} (h : tag.name ∉ ["html", "head", "body"]) : Usual .html tag where
  common := by
    refine ⟨fun heq => h ?_, fun heq => h ?_, fun heq => h ?_⟩
    · rw [(Prod.mk.inj heq).2]
      decide
    · rw [show tag.name = "head" from heq]
      decide
    · rw [show tag.name = "body" from heq]
      decide

theorem plain_of_name {tag : Tag} (h : tag.name ∉ partNames) : Plain .html tag where
  toUsual := by
    have hsub : ∀ n ∈ ["html", "head", "body"], n ∈ partNames := by decide
    exact usual_of_name fun hmem => h (hsub _ hmem)
  plain id := by simp [Opened.isPart, Opened.among, h]

theorem plain_of_space {space : Space} {tag : Tag} (hspace : space ≠ .html)
    (hname : tag.name ∉ ["head", "body"]) : Plain space tag where
  common := by
    refine ⟨fun heq => hspace (Prod.mk.inj heq).1, fun heq => hname ?_, fun heq => hname ?_⟩
    · rw [show tag.name = "head" from heq]
      decide
    · rw [show tag.name = "body" from heq]
      decide
  plain id := by simp [Opened.isPart, Opened.among, hspace]

theorem plain_of_contains {tag : Tag} {names : List String} (h : names.contains tag.name = true)
    (hnames : ∀ n ∈ names, n ∉ partNames) : Plain .html tag :=
  plain_of_name (hnames _ (List.contains_iff_mem.mp h))

theorem plain_of_beq {tag : Tag} {name : String} (h : (tag.name == name) = true) (hname : name ∉ partNames) :
    Plain .html tag :=
  plain_of_name (by rwa [beq_iff_eq.mp h])

theorem plain_of_formatting {tag : Tag} (h : tag.name ∈ formattingNames) : Plain .html tag :=
  have hnone : ∀ name ∈ formattingNames, name ∉ partNames := by decide
  plain_of_name (hnone _ h)

instance plain_attributes {space : Space} {tag : Tag} [h : Plain space tag]
    {attributes : List Attribute} {selfClosing : Bool} :
    Plain space ⟨tag.name, attributes, selfClosing⟩ where
  common := h.common
  plain := h.plain

namespace Builder

variable {a b c : Builder}

/-- A builder that came from another one without a new root, head or body. -/
class Grown (a b : Builder) : Prop where
  sound : b.Sound
  recorded : Recorded b.nodes b.formatting b.form b.templates
  grows : Grows a.nodes b.nodes
  head : b.head = a.head

theorem Grown.refl (h : Grown a b) : Grown b b :=
  ⟨h.sound, h.recorded, .refl h.sound.standing.linked, rfl⟩

theorem Grown.trans (h : Grown a b) (h' : Grown b c) : Grown a c :=
  ⟨h'.sound, h'.recorded, h.grows.trans h'.grows, h'.head.trans h.head⟩

theorem Grown.regrow (h : Grown a b) (hsound : c.Sound) (hgrows : Grows b.nodes c.nodes)
    (heq : c = { b with nodes := c.nodes }) : Grown a c where
  sound := hsound
  recorded := by
    rw [heq]
    exact h.recorded.grow hgrows.toAfter
  grows := h.grows.trans hgrows
  head := by
    rw [heq]
    exact h.head

theorem Grown.shrink (h : Grown a b) {stack : List Opened} (hsub : ∀ e ∈ stack, e ∈ b.stack) :
    Grown a { b with stack } :=
  ⟨⟨h.sound.standing.shrink hsub⟩, h.recorded, h.grows, h.head⟩

theorem Grown.unlist (h : Grown a b) {formatting : List Listed}
    (hsub : ∀ id tag, .element id tag ∈ formatting → .element id tag ∈ b.formatting) :
    Grown a { b with formatting } :=
  ⟨⟨h.sound.standing⟩, ⟨fun id tag hmem => h.recorded.listed id tag (hsub id tag hmem), h.recorded.form,
    h.recorded.templates⟩, h.grows, h.head⟩

theorem Grown.list (h : Grown a b) {formatting : List Listed} {id : Nat} {tag : Tag}
    (hname : tag.name ∈ formattingNames) (htag : b.nodes.tag? id = some (.html, tag.name))
    (hsub : ∀ entry ∈ formatting, entry = .element id tag ∨ entry ∈ b.formatting) :
    Grown a { b with formatting } where
  sound := ⟨h.sound.standing⟩
  recorded := by
    refine ⟨fun i t hmem => ?_, h.recorded.form, h.recorded.templates⟩
    rcases hsub _ hmem with heq | hmem
    · obtain ⟨rfl, rfl⟩ := Listed.element.inj heq
      exact ⟨hname, htag⟩
    · exact h.recorded.listed i t hmem
  grows := h.grows
  head := h.head

theorem Grown.retemplate (h : Grown a b) {templates : List Mode}
    (hsub : ∀ mode ∈ templates, mode ∈ contentModes) : Grown a { b with templates } :=
  ⟨⟨h.sound.standing⟩, ⟨h.recorded.listed, h.recorded.form, hsub⟩, h.grows, h.head⟩

instance grown_mk [h : Grown a b] {mode resume framesetOk skipsNewline fosters tableInParagraph
    tableText} : Grown a ⟨b.nodes, b.stack, b.formatting, mode, resume, b.templates, b.head, b.form,
      framesetOk, skipsNewline, fosters, tableInParagraph, tableText⟩ :=
  ⟨⟨h.sound.standing⟩, h.recorded, h.grows, h.head⟩

instance grown_ite {c : Prop} [Decidable c] {b' : Builder} [Grown a b] [Grown a b'] :
    Grown a (if c then b else b') := by
  split
  · assumption
  · assumption

theorem putAt_eq (b : Builder) (slot : Slot) (id : Nat) :
    b.putAt slot id = { b with nodes := (b.putAt slot id).nodes } := by
  cases slot <;> rfl

theorem snd_make (b : Builder) (space : Space) (name : String) (attributes : List Attribute) :
    (b.make space name attributes).2 = { b with nodes := (b.make space name attributes).2.nodes } := by
  unfold make
  dsimp only
  split <;> rfl

theorem snd_insertClosed (b : Builder) (space : Space) (tag : Tag) : (b.insertClosed space tag).2 =
    { b with nodes := (b.insertClosed space tag).2.nodes } := by
  unfold insertClosed
  dsimp only
  rw [putAt_eq, snd_make]

theorem fst_insertClosed (b : Builder) (space : Space) (tag : Tag) :
    (b.insertClosed space tag).1 = ⟨b.nodes.size, space, tag.name⟩ :=
  fst_make b space tag.name tag.attributes

theorem snd_insertIn (b : Builder) (space : Space) (tag : Tag) : (b.insertIn space tag).2 =
    { b with
      nodes := (b.insertIn space tag).2.nodes
      stack := ⟨b.nodes.size, space, tag.name⟩ :: b.stack } := by
  unfold insertIn
  dsimp only
  rw [snd_insertClosed, fst_insertClosed]

theorem stack_insert (b : Builder) (tag : Tag) :
    (b.insert tag).stack = ⟨b.nodes.size, .html, tag.name⟩ :: b.stack := by
  rw [insert, snd_insertIn]

theorem addText_eq (b : Builder) (s : String) :
    b.addText s = { b with nodes := (b.addText s).nodes } := by
  unfold addText
  split <;> rfl

theorem addComment_eq (b : Builder) (s : String) :
    b.addComment s = { b with nodes := (b.addComment s).nodes } := by
  unfold addComment
  dsimp only
  rw [putAt_eq]

theorem mergeRoot_eq (b : Builder) (tag : Tag) :
    b.mergeRoot tag = { b with nodes := (b.mergeRoot tag).nodes } := by
  unfold mergeRoot
  split
  · split <;> rfl
  · rfl

theorem fosterSlot_eq_foster {stack : List Opened} {table around : Nat}
    (h : b.fosterSlot stack = .foster table around) :
    ∃ e ∈ stack, e.id = table ∧ e.named "table" = true := by
  induction stack with
  | nil => cases h
  | cons e outer ih =>
    unfold fosterSlot at h
    split_ifs at h with htemplate htable
    · obtain ⟨rfl, -⟩ := Slot.foster.inj h
      exact ⟨e, List.mem_cons_self, rfl, htable⟩
    · obtain ⟨f, hf, hfound⟩ := ih h
      exact ⟨f, List.mem_cons_of_mem e hf, hfound⟩

theorem slotIn_eq_foster {target : Opened} {table around : Nat}
    (h : b.slotIn target = .foster table around) :
    ∃ e ∈ b.stack, e.id = table ∧ e.named "table" = true := by
  unfold slotIn at h
  split_ifs at h
  exact fosterSlot_eq_foster h

theorem slot_eq_foster {table around : Nat} (h : b.slot = .foster table around) :
    ∃ e ∈ b.stack, e.id = table ∧ e.named "table" = true := by
  unfold slot at h
  split at h
  · exact slotIn_eq_foster h
  · cases h

theorem tag?_of_named (h : b.Sound) {name : String} {id : Nat}
    (hopen : ∃ e ∈ b.stack, e.id = id ∧ e.named name = true) : b.nodes.tag? id = some (.html, name) := by
  obtain ⟨e, he, rfl, hname⟩ := hopen
  obtain ⟨hspace, hname⟩ := Opened.named_eq_true.mp hname
  rw [(h.standing.stack e he).tag, hspace, hname]

/-- A loose element is put into its place, in front of a table if in front of anything. -/
theorem grows_putAt (h : b.Sound) {slot : Slot} {id : Nat}
    (hslot : ∀ table around, slot = .foster table around →
      ∃ e ∈ b.stack, e.id = table ∧ e.named "table" = true)
    (hinner : b.nodes.Inner id) (hloose : b.nodes.holder? id = none) :
    Grows b.nodes (b.putAt slot id).nodes := by
  have hlinked := h.standing.linked
  unfold putAt
  split
  next => exact hlinked.grows_append _ hinner hloose
  next table around =>
    dsimp only
    split
    · exact hlinked.grows_insertBefore (tag?_of_named h (hslot table around rfl)) (by decide) hinner hloose
    · exact hlinked.grows_append _ hinner hloose

theorem size_putAt (b : Builder) (slot : Slot) (id : Nat) : (b.putAt slot id).nodes.size = b.nodes.size := by
  unfold putAt
  split
  · exact Nodes.size_append ..
  · dsimp only
    split
    · exact Nodes.size_insertBefore ..
    · exact Nodes.size_append ..

theorem adds_make (h : b.Sound) (space : Space) (name : String) (attributes : List Attribute) :
    Adds b.nodes (b.make space name attributes).2.nodes (space, name) := by
  have hlinked := h.standing.linked
  have hmake : Adds b.nodes (b.nodes.make (.element space name attributes)).2 (space, name) :=
    hlinked.adds_make rfl
  unfold make
  dsimp only
  split
  · refine hmake.follow (hmake.linked.grows_append_make (by rintro _ ⟨⟩) _).toFollows fun id hid => ?_
    rw [Nodes.tag?_append_make]
    split
    · rfl
    · exact Nodes.tag?_eq_none_of_size hid
  · exact hmake

theorem adds_insertClosed (h : b.Sound) (space : Space) (tag : Tag) :
    Adds b.nodes (b.insertClosed space tag).2.nodes (space, tag.name) := by
  have hfresh := fresh_make (b := b) space tag.name tag.attributes
  have hput := grows_putAt hfresh.sound (fun _ _ => slot_eq_foster) hfresh.opened.inner hfresh.loose
  exact (adds_make h space tag.name tag.attributes).follow hput.toFollows fun id hid =>
    Nodes.tag?_eq_none_of_size (Nat.le_trans (Nat.le_of_eq (size_putAt ..)) hid)

theorem grows_make (h : b.Sound) {space : Space} {name : String} (hcommon : Common (space, name))
    (attributes : List Attribute) : Grows b.nodes (b.make space name attributes).2.nodes :=
  (adds_make h space name attributes).grows hcommon

theorem grows_insertClosed (h : b.Sound) (space : Space) (tag : Tag) [ht : Usual space tag] :
    Grows b.nodes (b.insertClosed space tag).2.nodes :=
  (adds_insertClosed h space tag).grows ht.common

section

variable [h : Grown a b]

instance grown_pop : Grown a b.pop := h.shrink fun _ => List.mem_of_mem_drop

instance grown_popThrough (wanted : Opened → Bool) : Grown a (b.popThrough wanted) :=
  h.shrink fun _ => mem_of_mem_outside

instance grown_popNamed (name : String) : Grown a (b.popNamed name) := grown_popThrough _

instance grown_popUntil (wanted : Opened → Bool) : Grown a (b.popUntil wanted) :=
  h.shrink fun _ => (List.dropWhile_sublist _).mem

instance grown_closeImplied (may : Opened → Bool) : Grown a (b.closeImplied may) :=
  h.shrink fun _ => (List.dropWhile_sublist _).mem

instance grown_closeNamed (name : String) : Grown a (b.closeNamed name) := by
  unfold closeNamed
  infer_instance

instance grown_dropOpen (id : Nat) : Grown a (b.dropOpen id) :=
  h.shrink fun _ => List.mem_of_mem_eraseP

instance grown_unlist (id : Nat) : Grown a (b.unlist id) :=
  Grown.unlist h fun _ _ => List.mem_of_mem_eraseP

instance grown_addMarker : Grown a b.addMarker := by
  refine Grown.unlist h fun id tag hmem => ?_
  rcases List.mem_cons.mp hmem with hmark | hmem
  · cases hmark
  · exact hmem

instance grown_clearToMarker : Grown a b.clearToMarker :=
  Grown.unlist h fun _ _ hmem => (List.dropWhile_sublist _).mem (List.mem_of_mem_drop hmem)

instance grown_addText (s : String) : Grown a (b.addText s) := by
  have hsound := h.sound
  have hlinked := hsound.standing.linked
  refine h.regrow inferInstance ?_ (addText_eq b s)
  unfold addText
  split
  next => exact hlinked.grows_appendText ..
  next table around hslot =>
    dsimp only
    split
    · exact hlinked.grows_insertTextBefore (tag?_of_named hsound (slot_eq_foster hslot)) (by decide) s
    · exact hlinked.grows_appendText ..

instance grown_insertClosed (space : Space) (tag : Tag) [Usual space tag] :
    Grown a (b.insertClosed space tag).2 :=
  have hsound := h.sound
  h.regrow inferInstance (grows_insertClosed hsound space tag) (snd_insertClosed b space tag)

instance grown_insertIn (space : Space) (tag : Tag) [Usual space tag] :
    Grown a (b.insertIn space tag).2 :=
  have := h.sound
  have hclosed : Grown a (b.insertClosed space tag).2 := inferInstance
  ⟨inferInstance, hclosed.recorded, hclosed.grows, hclosed.head⟩

instance grown_insert (tag : Tag) [Usual .html tag] : Grown a (b.insert tag) := grown_insertIn .html tag

instance grown_insertVoid (tag : Tag) [Usual .html tag] : Grown a (b.insertVoid tag) :=
  grown_insertClosed .html tag

instance grown_insertImplied (name : String) [Usual .html { name }] : Grown a (b.insertImplied name) :=
  grown_insert { name }

instance grown_addComment (s : String) : Grown a (b.addComment s) := by
  have hsound := h.sound
  have hlinked := hsound.standing.linked
  have hmake : Grows b.nodes (b.nodes.make (.comment s)).2 := hlinked.grows_make (by rintro _ ⟨⟩)
  have hmade : Sound { b with nodes := (b.nodes.make (.comment s)).2 } :=
    ⟨hsound.standing.grow hmake.toAfter⟩
  refine h.regrow inferInstance (hmake.trans ?_) (addComment_eq b s)
  exact grows_putAt hmade (fun _ _ => slot_eq_foster) (hlinked.toTied.inner_make _)
    (Nodes.holder?_fst_make ..)

instance grown_addCommentTo (holder : Nat) (s : String) : Grown a (b.addCommentTo holder s) :=
  have hsound := h.sound
  h.regrow inferInstance (hsound.standing.linked.grows_append_make (by rintro _ ⟨⟩) holder) rfl

instance grown_addAttributes (id : Nat) (more : List Attribute) (framesetOk : Bool) :
    Grown a { b with nodes := b.nodes.addAttributes id more, framesetOk } :=
  have hgrows := h.sound.standing.linked.grows_addAttributes id more
  ⟨⟨h.sound.standing.grow hgrows.toAfter⟩, h.recorded.grow hgrows.toAfter, h.grows.trans hgrows, h.head⟩

instance grown_mergeRoot (tag : Tag) : Grown a (b.mergeRoot tag) := by
  unfold mergeRoot
  split
  next root _ =>
    have := grown_addAttributes (a := a) (b := b) root.id tag.attributes b.framesetOk
    infer_instance
  next => exact h

instance grown_resetMode : Grown a b.resetMode := grown_mk

end

end Builder

end PageGrader.Tree
