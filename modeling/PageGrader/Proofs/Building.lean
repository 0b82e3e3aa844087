import PageGrader.Proofs.Growth

namespace PageGrader.Tree

open Markup (Tag Content Attribute)

open Nodes (After Grows)

structure Opened.In (e : Opened) (nodes : Nodes) : Prop where
  inner : nodes.Inner e.id
  tag : nodes.tag? e.id = some (e.space, e.name)

theorem Opened.In.after {e : Opened} {nodes ms : Nodes} (h : e.In nodes) (hafter : After nodes ms) :
    e.In ms :=
  ⟨h.inner.mono hafter.size, (hafter.tags e.id h.inner.2).trans h.tag⟩

/-- The nodes hang together, and the elements that are open, or that the head was, are among them. -/
structure Standing (nodes : Nodes) (stack : List Opened) (head : Option Opened) : Prop where
  linked : nodes.Linked
  stack : ∀ e ∈ stack, e.In nodes
  head : ∀ e ∈ head, e.In nodes

namespace Standing

variable {nodes ms : Nodes} {stack rest : List Opened} {head : Option Opened}

theorem grow (h : Standing nodes stack head) (hafter : After nodes ms) : Standing ms stack head :=
  ⟨hafter.linked, fun e he => (h.stack e he).after hafter, fun e he => (h.head e he).after hafter⟩

theorem shrink (h : Standing nodes stack head) (hsub : ∀ e ∈ rest, e ∈ stack) :
    Standing nodes rest head :=
  ⟨h.linked, fun e he => h.stack e (hsub e he), h.head⟩

theorem push (h : Standing nodes stack head) {e : Opened} (he : e.In nodes) :
    Standing nodes (e :: stack) head :=
  ⟨h.linked, List.forall_mem_cons.mpr ⟨he, h.stack⟩, h.head⟩

end Standing

namespace Builder

class Sound (b : Builder) : Prop where
  standing : Standing b.nodes b.stack b.head

class SoundWith {α : Type} (r : Builder × α) : Prop where
  sound : r.1.Sound

variable {α : Type} {b b' : Builder}

/-- Everything but the nodes, the open elements and the head may change. -/
instance sound_mk [h : b.Sound] {formatting mode resume templates form framesetOk skipsNewline fosters
    tableInParagraph tableText} :
    Sound ⟨b.nodes, b.stack, formatting, mode, resume, templates, b.head, form, framesetOk,
      skipsNewline, fosters, tableInParagraph, tableText⟩ := ⟨h.standing⟩

instance sound_ite {c : Prop} [Decidable c] [b.Sound] [b'.Sound] : Sound (if c then b else b') := by
  split
  · assumption
  · assumption

instance soundWith_mk [h : b.Sound] (a : α) : SoundWith (b, a) := ⟨h⟩

instance soundWith_ite {c : Prop} [Decidable c] {r r' : Builder × α} [SoundWith r] [SoundWith r'] :
    SoundWith (if c then r else r') := by
  split
  · assumption
  · assumption

instance sound_fst {r : Builder × α} [h : SoundWith r] : r.1.Sound := h.sound

instance sound_empty : Sound {} := ⟨⟨Nodes.tied_empty, Nodes.near_empty⟩, nofun, nofun⟩

theorem mem_of_mem_outside {wanted : Opened → Bool} {e : Opened} {stack : List Opened}
    (h : e ∈ outside wanted stack) : e ∈ stack := by
  induction stack with
  | nil => exact h
  | cons f outer ih =>
    unfold outside at h
    split at h
    · exact List.mem_cons_of_mem f h
    · exact List.mem_cons_of_mem f (ih h)

section

variable [h : b.Sound]

instance sound_pop : b.pop.Sound := ⟨h.standing.shrink fun _ => List.mem_of_mem_drop⟩

instance sound_popThrough (wanted : Opened → Bool) : (b.popThrough wanted).Sound :=
  ⟨h.standing.shrink fun _ => mem_of_mem_outside⟩

instance sound_popNamed (name : String) : (b.popNamed name).Sound := sound_popThrough _

instance sound_popUntil (wanted : Opened → Bool) : (b.popUntil wanted).Sound :=
  ⟨h.standing.shrink fun _ => (List.dropWhile_sublist _).mem⟩

instance sound_closeImplied (may : Opened → Bool) : (b.closeImplied may).Sound :=
  ⟨h.standing.shrink fun _ => (List.dropWhile_sublist _).mem⟩

instance sound_closeImpliedExcept (name : String) : (b.closeImpliedExcept name).Sound :=
  sound_closeImplied _

instance sound_closeNamed (name : String) : (b.closeNamed name).Sound := by
  unfold closeNamed
  infer_instance

instance sound_closeParagraph : b.closeParagraph.Sound := by
  unfold closeParagraph
  infer_instance

instance sound_closeParagraphInScope : b.closeParagraphInScope.Sound := by
  unfold closeParagraphInScope
  infer_instance

instance sound_dropOpen (id : Nat) : (b.dropOpen id).Sound :=
  ⟨h.standing.shrink fun _ => List.mem_of_mem_eraseP⟩

omit h in
theorem after_putAt (h : b.Sound) (slot : Slot) {id : Nat} (hinner : b.nodes.Inner id)
    (hloose : b.nodes.holder? id = none) : After b.nodes (b.putAt slot id).nodes := by
  have hlinked := h.standing.linked
  unfold putAt
  split
  · exact hlinked.append _ hinner hloose
  · dsimp only
    split
    · exact hlinked.insertBefore _ hinner hloose
    · exact hlinked.append _ hinner hloose

omit h in
theorem sound_putAt (h : b.Sound) (slot : Slot) {id : Nat} (hinner : b.nodes.Inner id)
    (hloose : b.nodes.holder? id = none) : (b.putAt slot id).Sound := by
  have hgrown := h.standing.grow (after_putAt h slot hinner hloose)
  cases slot with
  | last _ | foster _ _ => exact ⟨hgrown⟩

instance sound_addText (s : String) : (b.addText s).Sound := by
  have hlinked := h.standing.linked
  constructor
  unfold addText
  split
  · exact h.standing.grow (hlinked.appendText ..)
  · dsimp only
    split
    · exact h.standing.grow (hlinked.insertTextBefore ..)
    · exact h.standing.grow (hlinked.appendText ..)

/-- An element that was just made: loose, and the only change to what was there. -/
structure Fresh (b : Builder) (e : Opened) (b' : Builder) : Prop where
  sound : b'.Sound
  opened : e.In b'.nodes
  loose : b'.nodes.holder? e.id = none
  after : After b.nodes b'.nodes
  places : ∀ id < b.nodes.size, b'.nodes.holder? id = b.nodes.holder? id
  new : b.nodes.size ≤ e.id

omit h in
theorem fst_make (b : Builder) (space : Space) (name : String) (attributes : List Attribute) :
    (b.make space name attributes).1 = ⟨b.nodes.size, space, name⟩ := by
  unfold make
  dsimp only
  split <;> rfl

theorem fresh_make (space : Space) (name : String) (attributes : List Attribute) :
    Fresh b (b.make space name attributes).1 (b.make space name attributes).2 := by
  let kind := Kind.element space name attributes
  have hmake := h.standing.linked.make kind
  have hinner := h.standing.linked.toTied.inner_make kind
  have htag := Nodes.tag?_fst_make b.nodes kind
  have hloose := Nodes.holder?_fst_make b.nodes kind
  unfold make
  dsimp only
  split
  -- A template stays loose while the holder of its content is put into it.
  · have hinside := hmake.linked.toTied.inner_make .fragment
    have hafter := hmake.linked.append_make .fragment (b.nodes.make kind).1
    have hstays : (((b.nodes.make kind).2.make .fragment).2.append (b.nodes.make kind).1
        ((b.nodes.make kind).2.make .fragment).1).holder? (b.nodes.make kind).1 = none := by
      rw [Nodes.holder?_append hinside.2, if_neg, Nodes.holder?_make, hloose]
      exact Nat.ne_of_gt hinner.2
    have hopened : Opened.In ⟨(b.nodes.make kind).1, space, name⟩ (b.nodes.make kind).2 := ⟨hinner, htag⟩
    refine ⟨⟨h.standing.grow (hmake.trans hafter)⟩, hopened.after hafter, hstays, hmake.trans hafter,
      fun id hid => ?_, Nat.le_refl _⟩
    rw [Nodes.holder?_append hinside.2, if_neg, Nodes.holder?_make, Nodes.holder?_make]
    exact Nat.ne_of_gt (Nat.lt_of_lt_of_le hid hmake.size)
  · exact ⟨⟨h.standing.grow hmake⟩, ⟨hinner, htag⟩, hloose, hmake,
      fun id _ => Nodes.holder?_make b.nodes kind id, Nat.le_refl _⟩

theorem opened_insertClosed (space : Space) (tag : Tag) :
    (b.insertClosed space tag).1.In (b.insertClosed space tag).2.nodes := by
  have hfresh := fresh_make (b := b) space tag.name tag.attributes
  exact hfresh.opened.after (after_putAt hfresh.sound _ hfresh.opened.inner hfresh.loose)

instance sound_insertClosed (space : Space) (tag : Tag) :
    (b.insertClosed space tag).2.Sound := by
  have hfresh := fresh_make (b := b) space tag.name tag.attributes
  exact sound_putAt hfresh.sound _ hfresh.opened.inner hfresh.loose

instance sound_insertIn (space : Space) (tag : Tag) : (b.insertIn space tag).2.Sound :=
  have hclosed : (b.insertClosed space tag).2.Sound := inferInstance
  ⟨hclosed.standing.push (opened_insertClosed space tag)⟩

instance sound_insert (tag : Tag) : (b.insert tag).Sound := sound_insertIn .html tag

instance sound_insertVoid (tag : Tag) : (b.insertVoid tag).Sound := sound_insertClosed .html tag

instance sound_insertImplied (name : String) : (b.insertImplied name).Sound := sound_insert _

instance sound_addComment (s : String) : (b.addComment s).Sound := by
  have hsound : Sound { b with nodes := (b.nodes.make (.comment s)).2 } :=
    ⟨h.standing.grow (h.standing.linked.make _)⟩
  exact sound_putAt hsound _ (h.standing.linked.toTied.inner_make _) (Nodes.holder?_fst_make ..)

instance sound_addCommentTo (holder : Nat) (s : String) : (b.addCommentTo holder s).Sound :=
  ⟨h.standing.grow (h.standing.linked.append_make (.comment s) holder)⟩

instance sound_makeRoot (attributes : List Attribute) : (b.makeRoot attributes).Sound := by
  have hfresh := fresh_make (b := b) .html "html" attributes
  have hafter := hfresh.sound.standing.linked.append 0 hfresh.opened.inner hfresh.loose
  exact ⟨(hfresh.sound.standing.grow hafter).push (hfresh.opened.after hafter)⟩

instance soundWith_openRaw (tag : Tag) (content : Content) : SoundWith (b.openRaw tag content) := by
  unfold openRaw
  infer_instance

instance sound_unlist (id : Nat) : (b.unlist id).Sound := ⟨h.standing⟩

instance sound_addMarker : b.addMarker.Sound := ⟨h.standing⟩

instance sound_clearToMarker : b.clearToMarker.Sound := ⟨h.standing⟩

instance sound_resetMode : b.resetMode.Sound := ⟨h.standing⟩

instance soundWith_goto (mode : Mode) : SoundWith (b.goto mode) := ⟨⟨h.standing⟩⟩

instance soundWith_againIn (mode : Mode) : SoundWith (b.againIn mode) := ⟨⟨h.standing⟩⟩

omit h in
theorem sound_foldl {β : Type} (step : Builder → β → Builder)
    (hstep : ∀ (b : Builder) (a : β), b.Sound → (step b a).Sound) (l : List β) (h : b.Sound) :
    (l.foldl step b).Sound := by
  induction l generalizing b with
  | nil => exact h
  | cons a rest ih => exact ih (hstep b a h)

instance sound_reconstruct : b.reconstruct.Sound := by
  unfold reconstruct
  apply sound_foldl _ _ _ h
  intro b entry hb
  cases entry with
  | marker => exact hb
  | element id tag => exact ⟨(sound_insertIn .html tag).standing⟩

instance sound_forgetFourth (tag : Tag) : (b.forgetFourth tag).Sound := by
  unfold forgetFourth
  dsimp only
  split <;> infer_instance

instance sound_insertFormatting (tag : Tag) : (b.insertFormatting tag).Sound :=
  ⟨(sound_insertIn (b := b.forgetFourth tag) .html tag).standing⟩

instance sound_closeGeneric (name : String) : (b.closeGeneric name).Sound := by
  unfold closeGeneric
  infer_instance

end

/-- The parts of an overlap are all that was open, and its block is special. -/
theorem find_eq {outer stack : List Opened} {o : Overlap} (ho : Overlap.find outer stack = some o) :
    o.inner ++ o.block :: o.between = stack ∧ o.outer = outer ∧ o.block.isSpecial = true := by
  induction stack generalizing o with
  | nil => cases ho
  | cons e rest ih =>
    rw [Overlap.find] at ho
    split at ho
    next o' hrest =>
      obtain rfl := Option.some.inj ho
      obtain ⟨hstack, hsame⟩ := ih hrest
      exact ⟨congrArg (e :: ·) hstack, hsame⟩
    next =>
      split at ho
      next hspecial =>
        obtain rfl := Option.some.inj ho
        exact ⟨rfl, rfl, hspecial⟩
      next => cases ho

theorem not_formats_of_special {e : Opened} {nodes : Nodes} (h : e.In nodes)
    (hspecial : e.isSpecial = true) : ¬ nodes.Formats e.id := by
  have hnone : ∀ name ∈ formattingNames, (Opened.mk 0 .html name).isSpecial = false := by decide
  rintro ⟨name, hname, htag⟩
  obtain ⟨hspace, hsame⟩ := Prod.mk.inj (Option.some.inj (h.tag.symm.trans htag))
  have hnot := hnone name hname
  rw [← hspace, ← hsame] at hnot
  exact Bool.false_ne_true (hnot.symm.trans hspecial)

/-- What the walk over the elements between carries along hangs together. A formatting element it carries
stands nowhere yet. -/
structure Carries (b : Builder) (c : Carried) : Prop where
  sound : c.builder.Sound
  after : After b.nodes c.builder.nodes
  last : c.builder.nodes.Inner c.last
  loose : c.builder.nodes.Formats c.last → c.builder.nodes.holder? c.last = none
  copies : ∀ e ∈ c.copies, e.In c.builder.nodes

theorem mem_replaceListed {id : Nat} {entry e : Listed} {entries : List Listed}
    (h : e ∈ replaceListed id entry entries) : e = entry ∨ e ∈ entries := by
  obtain ⟨f, hf, rfl⟩ := List.mem_map.mp h
  split
  · exact .inl rfl
  · exact .inr hf

theorem mem_listAfter {id : Nat} {entry e : Listed} {entries : List Listed}
    (h : e ∈ listAfter id entry entries) : e = entry ∨ e ∈ entries := by
  induction entries with
  | nil => exact .inr h
  | cons f rest ih =>
    unfold listAfter at h
    split at h
    · exact List.mem_cons.mp h
    · rcases List.mem_cons.mp h with rfl | h
      · exact .inr List.mem_cons_self
      · exact (ih h).imp_right (List.mem_cons_of_mem f)

/-- One step of the walk only forgets an entry, or it makes a copy of a formatting element and moves what it
carries there. -/
theorem step_cases (block : Nat) (c : Carried) (e : Opened) :
    (∃ formatting, (∀ entry ∈ formatting, entry ∈ c.builder.formatting) ∧
      (c.step block e).builder = { c.builder with formatting } ∧
      (c.step block e).last = c.last ∧ (c.step block e).copies = c.copies) ∨
    ∃ (id : Nat) (tag : Tag) (copy : Opened) (b : Builder) (formatting : List Listed),
      Listed.element id tag ∈ c.builder.formatting ∧
      (∀ entry ∈ formatting, entry = .element copy.id tag ∨ entry ∈ b.formatting) ∧
      c.builder.make .html tag.name tag.attributes = (copy, b) ∧
      (c.step block e).builder =
        { b with formatting, nodes := (b.nodes.detach c.last).append copy.id c.last } ∧
      (c.step block e).last = copy.id ∧ (c.step block e).copies = c.copies ++ [copy] := by
  unfold Carried.step
  dsimp only
  split
  · exact .inl ⟨_, fun _ => List.mem_of_mem_eraseP, rfl, rfl, rfl⟩
  · split
    next id tag hfind =>
      exact .inr ⟨id, tag, _, _, _, List.mem_of_find?_eq_some hfind, fun _ => mem_replaceListed, rfl, rfl,
        rfl, rfl⟩
    next => exact .inl ⟨_, fun _ => id, rfl, rfl, rfl⟩

theorem Carries.loose_after {c : Carried} (h : Carries b c) {copy : Opened}
    (hfresh : Fresh c.builder copy b') (hformats : b'.nodes.Formats c.last) :
    b'.nodes.holder? c.last = none := by
  rw [hfresh.places c.last h.last.2]
  exact h.loose (hformats.of_after hfresh.after h.last.2)

theorem Carries.step {c : Carried} (h : Carries b c) (block : Nat) (e : Opened) :
    Carries b (c.step block e) := by
  have hsound := h.sound
  obtain ⟨formatting, -, hbuilder, hlast, hcopies⟩ |
    ⟨-, tag, copy, b', formatting, -, -, hmake, hbuilder, hlast, hcopies⟩ := step_cases block c e
  · refine ⟨?_, ?_, ?_, ?_, ?_⟩
    · rw [hbuilder]
      infer_instance
    · rw [hbuilder]
      exact h.after
    · rw [hbuilder, hlast]
      exact h.last
    · rw [hbuilder, hlast]
      exact h.loose
    · rw [hbuilder, hcopies]
      exact h.copies
  · have hfresh := fresh_make (b := c.builder) .html tag.name tag.attributes
    rw [hmake] at hfresh
    have hdetach : After b'.nodes (b'.nodes.detach c.last) :=
      hfresh.sound.standing.linked.detach (h.loose_after hfresh)
    have hinner := (h.last.mono hfresh.after.size).mono hdetach.size
    have hafter := hdetach.trans <|
      hdetach.linked.append copy.id hinner (Nodes.holder?_detach_self ..)
    have hopened := hfresh.opened.after hafter
    have hloose : ((b'.nodes.detach c.last).append copy.id c.last).holder? copy.id = none := by
      have hne : c.last ≠ copy.id := Nat.ne_of_lt (Nat.lt_of_lt_of_le h.last.2 hfresh.new)
      rw [Nodes.holder?_append hinner.2, if_neg hne, Nodes.holder?_detach, if_neg hne]
      exact hfresh.loose
    refine ⟨?_, ?_, ?_, ?_, ?_⟩
    · rw [hbuilder]
      exact ⟨hfresh.sound.standing.grow hafter⟩
    · rw [hbuilder]
      exact h.after.trans (hfresh.after.trans hafter)
    · rw [hbuilder, hlast]
      exact hopened.inner
    · rw [hbuilder, hlast]
      exact fun _ => hloose
    · rw [hbuilder, hcopies]
      intro f hf
      rcases List.mem_append.mp hf with hf | hf
      · exact ((h.copies f hf).after hfresh.after).after hafter
      · rw [List.mem_singleton.mp hf]
        exact hopened

theorem Carries.foldl {c : Carried} (h : Carries b c) (block : Nat) (between : List Opened) :
    Carries b (between.foldl (Carried.step block) c) := by
  induction between generalizing c with
  | nil => exact h
  | cons e rest ih => exact ih (h.step block e)

/-- What the walk carried is put down where the element outside says. -/
def settled (c : Carried) (target : Option Opened) : Builder :=
  let b := { c.builder with nodes := c.builder.nodes.detach c.last }
  match target with
  | some target => b.putAt (b.slotIn target) c.last
  | none => b

theorem sound_settled {c : Carried} (h : Carries b c) (target : Option Opened) :
    (settled c target).Sound ∧ After c.builder.nodes (settled c target).nodes := by
  have hdetach := h.sound.standing.linked.detach h.loose
  have hsound : Sound { c.builder with nodes := c.builder.nodes.detach c.last } :=
    ⟨h.sound.standing.grow hdetach⟩
  cases target with
  | none => exact ⟨hsound, hdetach⟩
  | some target =>
    have hinner := h.last.mono hdetach.size
    have hloose := Nodes.holder?_detach_self c.builder.nodes c.last
    exact ⟨sound_putAt hsound _ hinner hloose, hdetach.trans (after_putAt hsound _ hinner hloose)⟩

/-- The content of a block goes into a new copy, and the copy into the block. -/
def refilled (b : Builder) (block copy : Nat) : Nodes :=
  (b.nodes.handOver block copy).append block copy

theorem grows_refilled {copy : Opened} (hfresh : Fresh b copy b') {block : Nat}
    (hblock : b.nodes.Inner block) (hspace : copy.space = .html) (hname : copy.name ∈ formattingNames) :
    Grows b'.nodes (b'.refilled block copy.id) := by
  apply hfresh.sound.standing.linked.grows_refill hblock.1 _ hfresh.opened.inner hfresh.loose
  · refine ⟨copy.name, hname, ?_⟩
    rw [hfresh.opened.tag, hspace]
  · exact Nat.ne_of_lt (Nat.lt_of_lt_of_le hblock.2 hfresh.new)

theorem adopt_eq (b : Builder) (id : Nat) (tag : Tag) (o : Overlap) :
    ∃ c b' copy formatting,
      o.between.foldl (Carried.step o.block.id) ⟨b, o.block.id, none, [], 0⟩ = c ∧
      (settled c o.outer.head?).make .html tag.name tag.attributes = (copy, b') ∧
      (∀ entry ∈ formatting, entry = .element copy.id tag ∨ entry ∈ b'.formatting) ∧
      b.adopt id tag o =
        { b' with
          nodes := b'.refilled o.block.id copy.id
          formatting
          stack := o.inner ++ copy :: o.block :: c.copies ++ o.outer } := by
  refine ⟨_, _, _, _, rfl, rfl, fun entry hentry => ?_, rfl⟩
  split at hentry
  · exact mem_replaceListed hentry
  · exact mem_listAfter (List.mem_of_mem_eraseP hentry)

theorem sound_adopt (h : b.Sound) (id : Nat) (tag : Tag) {o : Overlap}
    (hname : tag.name ∈ formattingNames) (hspecial : o.block.isSpecial = true)
    (hopen : ∀ e ∈ o.inner ++ o.block :: o.outer, e ∈ b.stack) : (b.adopt id tag o).Sound := by
  have hblock : o.block.In b.nodes :=
    h.standing.stack _ (hopen _ (List.mem_append_right _ List.mem_cons_self))
  have hstart : Carries b ⟨b, o.block.id, none, [], 0⟩ :=
    ⟨h, .refl h.standing.linked, hblock.inner,
      fun hformats => absurd hformats (not_formats_of_special hblock hspecial), nofun⟩
  have hcarries := hstart.foldl o.block.id o.between
  obtain ⟨c, b', copy, formatting, hc, hmake, -, hadopt⟩ := adopt_eq b id tag o
  rw [hc] at hcarries
  obtain ⟨hsettled, hput⟩ := sound_settled hcarries o.outer.head?
  have hfresh := fresh_make (b := settled c o.outer.head?) .html tag.name tag.attributes
  have hcopy := fst_make (settled c o.outer.head?) .html tag.name tag.attributes
  rw [hmake] at hfresh hcopy
  have hblock' := ((hblock.inner.mono hcarries.after.size).mono hput.size)
  have hrefill := (grows_refilled hfresh hblock' (by rw [hcopy]) (by rw [hcopy]; exact hname)).toAfter
  have hgrown : After c.builder.nodes (b'.refilled o.block.id copy.id) :=
    hput.trans (hfresh.after.trans hrefill)
  have hold {e : Opened} (he : e ∈ o.inner ++ o.block :: o.outer) :=
    (h.standing.stack e (hopen e he)).after (hcarries.after.trans hgrown)
  rw [hadopt]
  refine ⟨hrefill.linked, ?_, ?_⟩
  · intro e he
    simp only [List.mem_append, List.mem_cons] at he
    rcases he with (he | rfl | rfl | he) | he
    · exact hold (List.mem_append_left _ he)
    · exact hfresh.opened.after hrefill
    · exact hold (List.mem_append_right _ List.mem_cons_self)
    · exact (hcarries.copies e he).after hgrown
    · exact hold (List.mem_append_right _ (List.mem_cons_of_mem _ he))
  · intro e he
    exact (hfresh.sound.standing.head e he).after hrefill

theorem name_of_latestListed {name : String} {id : Nat} {tag : Tag}
    (h : b.latestListed name = some (id, tag)) : tag.name = name := by
  obtain ⟨entry, -, hentry⟩ := List.exists_of_findSome?_eq_some h
  cases entry with
  | marker => cases hentry
  | element other t =>
    dsimp only at hentry
    split at hentry
    next hname =>
      obtain ⟨-, rfl⟩ := Prod.mk.inj (Option.some.inj hentry)
      exact beq_iff_eq.mp hname
    next => cases hentry

theorem sound_adoptRounds [h : b.Sound] {name : String} (hname : name ∈ formattingNames) (n : Nat) :
    (b.adoptRounds name n).Sound := by
  induction n generalizing b with
  | zero => exact h
  | succ n ih =>
    rw [adoptRounds]
    split
    next => infer_instance
    next id tag htag =>
      split
      · infer_instance
      · split
        · exact h
        · dsimp only
          split
          next => exact ⟨h.standing.shrink fun _ => mem_of_mem_outside⟩
          next o ho =>
            obtain ⟨hinside, houtside, hspecial⟩ := find_eq ho
            have hadopted : (b.adopt id tag o).Sound := by
              apply sound_adopt h _ _ (by rwa [name_of_latestListed htag]) hspecial
              intro e he
              have hsplit : e ∈ o.inner ++ o.block :: o.between ∨ e ∈ o.outer := by
                simp only [List.mem_append, List.mem_cons] at he ⊢
                tauto
              rcases hsplit with he | he
              · rw [hinside] at he
                exact (List.takeWhile_sublist _).mem he
              · rw [houtside] at he
                exact mem_of_mem_outside he
            exact ih

theorem sound_closeFormatting [b.Sound] {name : String} (hname : name ∈ formattingNames) :
    (b.closeFormatting name).Sound := by
  have := sound_adoptRounds (b := b) hname 8
  unfold closeFormatting
  infer_instance

instance sound_closeOuterLink [b.Sound] : b.closeOuterLink.Sound := by
  have := sound_closeFormatting (b := b) (show "a" ∈ formattingNames by decide)
  unfold closeOuterLink
  dsimp only
  split <;> infer_instance

end Builder

end PageGrader.Tree
