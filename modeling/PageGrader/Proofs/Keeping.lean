import PageGrader.Proofs.Grown

namespace PageGrader.Tree

open Markup (Tag Attribute)
open Nodes (After Grows)
open Opened (among_disjoint among_mono among_eq_true named_eq_true)

namespace Opened

variable {e : Opened}

def stayingNames : List String :=
  ["dd", "dt", "li", "option", "optgroup", "p", "rb", "rp", "rt", "rtc"]

theorem not_isPart_of_named {name : String} (h : e.named name = true) (hname : name ∉ partNames) :
    e.isPart = false := not_among_of_named h hname

theorem not_isPart_of_mayStayOpen (h : e.mayStayOpen = true) : e.isPart = false :=
  among_disjoint h (by decide)

theorem not_mayStayOpen_of_named {name : String} (h : e.named name = true) (hname : name ∉ stayingNames) :
    e.mayStayOpen = false := not_among_of_named h hname

theorem not_isPart_of_not_isSpecial (h : e.isSpecial = false) : e.isPart = false := by
  rw [Bool.eq_false_iff]
  intro hpart
  exact Bool.false_ne_true (h.symm.trans (among_mono hpart (by decide)))

end Opened

open Opened (not_isPart_of_named not_isPart_of_mayStayOpen not_mayStayOpen_of_named)

theorem bounding_endsScope : Bounding (·.endsScope) := fun e he => by
  have hends := among_mono he (show ∀ n ∈ _, n ∈ ["applet", "caption", "html", "table", "td", "th", "marquee",
    "object", "template"] by decide)
  simp only [Opened.endsScope, hends, Bool.true_or]

theorem bounding_endsListScope : Bounding (·.endsListScope) := fun e he => by
  simp only [Opened.endsListScope, bounding_endsScope e he, Bool.true_or]

theorem bounding_endsButtonScope : Bounding (·.endsButtonScope) := fun e he => by
  simp only [Opened.endsButtonScope, bounding_endsScope e he, Bool.true_or]

theorem bounding_isSpecial : Bounding (·.isSpecial) := fun _ he => among_mono he (by decide)

namespace Builder

variable {a b c : Builder}

/-- All kinds of elements can be opened. -/
class Steady (a : Builder) : Prop where
  nested : Nested a.stack
  holds : Holds a.stack

/-- A builder that came from another one with the same parts of the page open. -/
class Keeps (a b : Builder) : Prop extends Grown a b where
  mode : b.mode = a.mode
  resume : b.resume = a.resume
  alike : Steady a → Alike a.stack b.stack

theorem Keeps.restack (h : Keeps a b) [Grown a c] (hmode : c.mode = b.mode) (hresume : c.resume = b.resume)
    (halike : Alike a.stack b.stack → Alike a.stack c.stack) : Keeps a c :=
  ⟨hmode.trans h.mode, hresume.trans h.resume, fun hsteady => halike (h.alike hsteady)⟩

theorem Keeps.same (h : Keeps a b) (hc : Grown a c) (heq : c = { b with nodes := c.nodes }) : Keeps a c := by
  refine h.restack ?_ ?_ fun halike => ?_
  all_goals
    rw [heq]
  exact halike

theorem Grown.keeps (h : Grown a b) : Keeps b b :=
  have := h.refl
  ⟨rfl, rfl, fun hsteady => .refl hsteady.nested hsteady.holds⟩

theorem Keeps.steady (h : Keeps a b) [hsteady : Steady a] : Steady b :=
  ⟨(h.alike hsteady).nested, (h.alike hsteady).holds⟩

theorem Keeps.trans (h : Keeps a b) (h' : Keeps b c) : Keeps a c where
  toGrown := h.toGrown.trans h'.toGrown
  mode := h'.mode.trans h.mode
  resume := h'.resume.trans h.resume
  alike hsteady :=
    have hb := h.alike hsteady
    have hc := h'.alike h.steady
    ⟨hc.parts.trans hb.parts, hc.nested, hc.holds⟩

instance keeps_mk [h : Keeps a b] {framesetOk skipsNewline fosters tableInParagraph tableText} :
    Keeps a ⟨b.nodes, b.stack, b.formatting, b.mode, b.resume, b.templates, b.head, b.form, framesetOk,
      skipsNewline, fosters, tableInParagraph, tableText⟩ :=
  h.restack rfl rfl id

instance keeps_ite {c : Prop} [Decidable c] {b' : Builder} [Keeps a b] [Keeps a b'] :
    Keeps a (if c then b else b') := by
  split
  · assumption
  · assumption

section

variable [h : Keeps a b]

instance keeps_addText (s : String) : Keeps a (b.addText s) := h.same inferInstance (addText_eq b s)

instance keeps_addComment (s : String) : Keeps a (b.addComment s) := h.same inferInstance (addComment_eq b s)

instance keeps_addCommentTo (holder : Nat) (s : String) : Keeps a (b.addCommentTo holder s) :=
  h.same inferInstance rfl

instance keeps_mergeRoot (tag : Tag) : Keeps a (b.mergeRoot tag) := h.same inferInstance (mergeRoot_eq b tag)

instance keeps_addAttributes (id : Nat) (more : List Attribute) (framesetOk : Bool) :
    Keeps a { b with nodes := b.nodes.addAttributes id more, framesetOk } :=
  have := grown_addAttributes (a := a) (b := b) id more framesetOk
  h.restack rfl rfl fun halike => halike

instance keeps_insertClosed (space : Space) (tag : Tag) [Usual space tag] :
    Keeps a (b.insertClosed space tag).2 := h.same inferInstance (snd_insertClosed b space tag)

instance keeps_insertVoid (tag : Tag) [Usual .html tag] : Keeps a (b.insertVoid tag) :=
  keeps_insertClosed .html tag

instance keeps_insertIn (space : Space) (tag : Tag) [ht : Plain space tag] :
    Keeps a (b.insertIn space tag).2 := by
  refine h.restack ?_ ?_ fun halike => ?_
  all_goals
    rw [snd_insertIn]
  exact halike.push (ht.plain _)

instance keeps_insert (tag : Tag) [Plain .html tag] : Keeps a (b.insert tag) := keeps_insertIn .html tag

instance keeps_insertImplied (name : String) [Plain .html { name }] : Keeps a (b.insertImplied name) :=
  keeps_insert { name }

instance keeps_unlist (id : Nat) : Keeps a (b.unlist id) := h.restack rfl rfl fun halike => halike

instance keeps_addMarker : Keeps a b.addMarker := h.restack rfl rfl fun halike => halike

instance keeps_clearToMarker : Keeps a b.clearToMarker := h.restack rfl rfl fun halike => halike

omit h in
theorem Keeps.pop (h : Keeps a b) (htop : ∀ e ∈ b.stack.head?, e.isPart = false) : Keeps a b.pop := by
  refine h.restack rfl rfl fun halike => ?_
  unfold Builder.pop
  dsimp only
  generalize b.stack = stack at *
  cases stack with
  | nil => exact halike
  | cons e s => exact (show Alike a.stack ([e] ++ s) from halike).drop (by simpa using htop)

omit h in
theorem Keeps.popCurrent (h : Keeps a b) {wanted : Opened → Bool} (hcurrent : b.currentIs wanted = true)
    (hwanted : ∀ e, wanted e = true → e.isPart = false) : Keeps a b.pop := by
  refine h.pop fun e he => ?_
  obtain ⟨f, hf, hfits⟩ := (Option.any_eq_true _ _).mp hcurrent
  obtain rfl := Option.some.inj (hf.symm.trans he)
  exact hwanted f hfits

omit h in
theorem Keeps.closeImplied (h : Keeps a b) {may : Opened → Bool}
    (hmay : ∀ e, may e = true → e.isPart = false) :
    Keeps a (b.closeImplied may) := h.restack rfl rfl fun halike => halike.dropWhile hmay

instance keeps_closeStaying : Keeps a (b.closeImplied (·.mayStayOpen)) :=
  h.closeImplied fun _ => not_isPart_of_mayStayOpen

instance keeps_closeImpliedExcept (name : String) : Keeps a (b.closeImpliedExcept name) :=
  h.closeImplied fun _ he => not_isPart_of_mayStayOpen (Bool.and_eq_true _ _ ▸ he).1

omit h in
theorem Keeps.popThrough (h : Keeps a b) {wanted : Opened → Bool}
    (hwanted : Alike a.stack b.stack → AtHand wanted b.stack) : Keeps a (b.popThrough wanted) :=
  h.restack rfl rfl fun halike => halike.outside (hwanted halike)

omit h in
/-- An element at hand is closed, with what may stay open inside of it. -/
theorem Keeps.closeAtHand (h : Keeps a b) {may wanted : Opened → Bool}
    (hmay : ∀ e, may e = true → e.isPart = false) (hout : ∀ e, wanted e = true → may e = false)
    (hwanted : Alike a.stack b.stack → AtHand wanted b.stack) :
    Keeps a ((b.closeImplied may).popThrough wanted) := by
  refine h.restack rfl rfl fun halike => ?_
  exact (halike.dropWhile hmay).outside ((hwanted halike).dropWhile hout)

omit h in
theorem Keeps.closeExcept (h : Keeps a b) {name : String}
    (hwanted : Alike a.stack b.stack → AtHand (·.named name) b.stack) :
    Keeps a ((b.closeImpliedExcept name).popNamed name) :=
  h.closeAtHand (fun _ he => not_isPart_of_mayStayOpen (Bool.and_eq_true _ _ ▸ he).1)
    (fun _ he => by simp [he]) hwanted

omit h in
theorem atHand_of_has {ends : Opened → Bool} {name : String} (hends : Bounding ends)
    (hname : name ∉ partNames) (hhas : b.has ends name = true) (halike : Alike a.stack b.stack) :
    AtHand (·.named name) b.stack :=
  .of_inScope halike.nested hends (fun _ _ he => not_isPart_of_named he hname) hhas

omit h in
theorem Keeps.closeNamed (h : Keeps a b) {name : String} (hname : name ∉ partNames ++ Opened.stayingNames)
    (hhas : b.has (·.endsScope) name = true) : Keeps a (b.closeNamed name) := by
  obtain ⟨hpart, hstay⟩ := not_or.mp (List.mem_append.not.mp hname)
  exact h.closeAtHand (fun _ => not_isPart_of_mayStayOpen)
    (fun _ he => not_mayStayOpen_of_named he hstay) (atHand_of_has bounding_endsScope hpart hhas)

instance keeps_closeParagraphInScope : Keeps a b.closeParagraphInScope := by
  unfold closeParagraphInScope
  split
  next hhas => exact h.closeExcept (atHand_of_has bounding_endsButtonScope (by decide) hhas)
  next => exact h

omit h in
theorem Keeps.closeGeneric (h : Keeps a b) {name : String} (hname : name ∉ partNames) :
    Keeps a (b.closeGeneric name) := by
  unfold Builder.closeGeneric
  split
  next hscope => exact h.closeExcept (atHand_of_has bounding_isSpecial hname hscope)
  next => exact h

omit h in
theorem Keeps.list (h : Keeps a b) {formatting : List Listed} {id : Nat} {tag : Tag}
    (hname : tag.name ∈ formattingNames) (htag : b.nodes.tag? id = some (.html, tag.name))
    (hsub : ∀ entry ∈ formatting, entry = .element id tag ∨ entry ∈ b.formatting) :
    Keeps a { b with formatting } :=
  have := h.toGrown.list hname htag hsub
  h.restack rfl rfl fun halike => halike

omit h in
/-- A formatting element is opened, and listed in one way or the other. -/
theorem Keeps.insertListed (h : Keeps a b) {formatting : List Listed} {tag : Tag}
    (hname : tag.name ∈ formattingNames)
    (hsub : ∀ entry ∈ formatting,
      entry = .element (b.insertIn .html tag).1.id tag ∨ entry ∈ (b.insertIn .html tag).2.formatting) :
    Keeps a { (b.insertIn .html tag).2 with formatting } := by
  have := plain_of_formatting hname
  have := h.sound
  have hin := opened_insertClosed (b := b) .html tag
  refine (keeps_insertIn (b := b) .html tag).list hname (hin.tag.trans ?_) hsub
  rw [fst_insertClosed]

omit h in
theorem Keeps.foldl {β : Type} {step : Builder → β → Builder} (h : Keeps a b) (l : List β)
    (hstep : ∀ b, ∀ x ∈ l, Keeps a b → Keeps a (step b x)) : Keeps a (l.foldl step b) := by
  induction l generalizing b with
  | nil => exact h
  | cons x rest ih =>
    obtain ⟨hx, hrest⟩ := List.forall_mem_cons.mp (fun x hx b => hstep b x hx)
    exact ih (hx b h) fun b x hmem => hrest x hmem b

instance keeps_reconstruct : Keeps a b.reconstruct := by
  have hclosed : ∀ entry ∈ (b.formatting.takeWhile (!b.isMarkerOrOpen ·)).reverse, entry ∈ b.formatting :=
    fun entry hentry => (List.takeWhile_sublist _).mem (List.mem_reverse.mp hentry)
  refine h.foldl _ fun b' entry hentry h' => ?_
  cases entry with
  | marker => exact h'
  | element id tag =>
    have hname := (h.recorded.listed id tag (hclosed _ hentry)).1
    exact h'.insertListed hname fun _ => mem_replaceListed

instance keeps_forgetFourth (tag : Tag) : Keeps a (b.forgetFourth tag) := by
  unfold forgetFourth
  dsimp only
  split <;> infer_instance

omit h in
theorem Keeps.insertFormatting (h : Keeps a b) {tag : Tag} (hname : tag.name ∈ formattingNames) :
    Keeps a (b.insertFormatting tag) :=
  (keeps_forgetFourth (b := b) tag).insertListed hname fun _ => List.mem_cons.mp

end

theorem plain_of_tag (h : b.Sound) {id : Nat} {name : String} (htag : b.nodes.tag? id = some (.html, name))
    (hname : name ∉ partNames) : ∀ e ∈ b.stack, (e.id == id) = true → e.isPart = false := by
  intro e he hid
  rw [← beq_iff_eq.mp hid, (h.standing.stack e he).tag] at htag
  obtain ⟨hspace, hsame⟩ := Prod.mk.inj (Option.some.inj htag)
  exact not_isPart_of_named (named_eq_true.mpr ⟨hspace, hsame⟩) hname

theorem mem_of_latestListed {name : String} {id : Nat} {tag : Tag}
    (h : b.latestListed name = some (id, tag)) : .element id tag ∈ b.formatting := by
  obtain ⟨entry, hmem, hentry⟩ := List.exists_of_findSome?_eq_some h
  cases entry with
  | marker => cases hentry
  | element other t =>
    dsimp only at hentry
    split at hentry
    next =>
      obtain ⟨rfl, rfl⟩ := Prod.mk.inj (Option.some.inj hentry)
      exact (List.takeWhile_sublist _).mem hmem
    next => cases hentry

/-- What the walk out to a formatting element carries along is no root, and its copies are plain. -/
structure Bears (b : Builder) (c : Carried) : Prop extends Carries b c where
  grown : Grown b c.builder
  mode : c.builder.mode = b.mode
  resume : c.builder.resume = b.resume
  tagged : ∃ tag, c.builder.nodes.tag? c.last = some tag ∧ tag ≠ (.html, "html")
  plain : ∀ e ∈ c.copies, e.isPart = false

/-- A copy of a formatting element is plain, and all that is new when it was just made. -/
structure Copied (b : Builder) (tag : Tag) (copy : Opened) (b' : Builder) : Prop where
  fresh : Fresh b copy b'
  grows : Grows b.nodes b'.nodes
  same : b' = { b with nodes := b'.nodes }
  name : copy.space = .html ∧ copy.name = tag.name
  plain : copy.isPart = false

theorem copied_of_make (h : b.Sound) {tag : Tag} {copy : Opened} {b' : Builder}
    (hname : tag.name ∈ formattingNames) (hmake : b.make .html tag.name tag.attributes = (copy, b')) :
    Copied b tag copy b' := by
  have hplain := plain_of_formatting hname
  have hfresh := fresh_make (b := b) .html tag.name tag.attributes
  have hgrows := grows_make h hplain.common tag.attributes
  have hcopy := fst_make b .html tag.name tag.attributes
  have hsame := snd_make b .html tag.name tag.attributes
  rw [hmake] at hfresh hgrows hcopy hsame
  obtain rfl : copy = _ := hcopy
  exact ⟨hfresh, hgrows, hsame, ⟨rfl, rfl⟩, hplain.plain _⟩

theorem Copied.tag?_eq {tag : Tag} {copy : Opened} {b' : Builder} {ms : Nodes} (h : Copied b tag copy b')
    (hafter : After b'.nodes ms) : ms.tag? copy.id = some (.html, tag.name) := by
  rw [(h.fresh.opened.after hafter).tag, h.name.1, h.name.2]

theorem Bears.step {c : Carried} (h : Bears b c) (block : Nat) (e : Opened) :
    Bears b (c.step block e) := by
  have hcarries := h.toCarries.step block e
  have hsound := h.sound
  obtain ⟨formatting, hsub, hbuilder, hlast, hcopies⟩ |
    ⟨id, tag, copy, b', formatting, hlisted, hsub, hmake, hbuilder, hlast, hcopies⟩ := step_cases block c e
  -- Either entries leave the list and nothing is made, or a copy is made and what is carried goes into it.
  · refine ⟨hcarries, ?_, ?_, ?_, ?_, ?_⟩
    · rw [hbuilder]
      exact h.grown.unlist fun _ _ => hsub _
    · rw [hbuilder]
      exact h.mode
    · rw [hbuilder]
      exact h.resume
    · rw [hbuilder, hlast]
      exact h.tagged
    · rw [hcopies]
      exact h.plain
  · have hname := (h.grown.recorded.listed id tag hlisted).1
    have hcopied := copied_of_make hsound hname hmake
    have hfresh := hcopied.fresh
    obtain ⟨old, hold, hne⟩ := h.tagged
    have hdetach := hfresh.sound.standing.linked.grows_detach ((hcopied.grows.tags _ h.last.2).trans hold) hne
      (h.loose_after hfresh)
    have hinner := (h.last.mono hfresh.after.size).mono hdetach.size
    have hmoves := hdetach.trans <|
      hdetach.linked.grows_append copy.id hinner (Nodes.holder?_detach_self ..)
    have hmoved : Grown b { b' with nodes := (b'.nodes.detach c.last).append copy.id c.last } :=
      (h.grown.regrow hfresh.sound hcopied.grows hcopied.same).regrow
        ⟨hfresh.sound.standing.grow hmoves.toAfter⟩ hmoves rfl
    have htag := hcopied.tag?_eq hmoves.toAfter
    refine ⟨hcarries, ?_, ?_, ?_, ?_, ?_⟩
    · rw [hbuilder]
      exact hmoved.list hname htag hsub
    · rw [hbuilder, hcopied.same]
      exact h.mode
    · rw [hbuilder, hcopied.same]
      exact h.resume
    · rw [hbuilder, hlast]
      exact ⟨(.html, tag.name), htag, (plain_of_formatting hname).common.1⟩
    · rw [hcopies]
      intro f hf
      rcases List.mem_append.mp hf with hf | hf
      · exact h.plain f hf
      · rw [List.mem_singleton.mp hf]
        exact hcopied.plain

theorem Bears.foldl {c : Carried} (h : Bears b c) (block : Nat) (between : List Opened) :
    Bears b (between.foldl (Carried.step block) c) := by
  induction between generalizing c with
  | nil => exact h
  | cons e rest ih => exact ih (h.step block e)

theorem settled_eq (c : Carried) (target : Option Opened) :
    settled c target = { c.builder with nodes := (settled c target).nodes } := by
  unfold settled
  dsimp only
  split
  · rw [putAt_eq]
  · rfl

theorem Bears.grown_settled {c : Carried} (h : Bears b c) (target : Option Opened) :
    Grown b (settled c target) := by
  obtain ⟨hsound, -⟩ := sound_settled h.toCarries target
  refine h.grown.regrow hsound ?_ (settled_eq c target)
  obtain ⟨tag, htag, hne⟩ := h.tagged
  have hdetach := h.sound.standing.linked.grows_detach htag hne h.loose
  cases target with
  | none => exact hdetach
  | some target =>
    have hdetached : Sound { c.builder with nodes := c.builder.nodes.detach c.last } :=
      ⟨h.sound.standing.grow hdetach.toAfter⟩
    exact hdetach.trans <| grows_putAt hdetached (fun _ _ => slotIn_eq_foster) (h.last.mono hdetach.size)
      (Nodes.holder?_detach_self ..)

theorem Keeps.adopt (h : Keeps a b) (id : Nat) {tag : Tag} {o : Overlap} (hname : tag.name ∈ formattingNames)
    (hspecial : o.block.isSpecial = true) (hinside : ∀ e ∈ o.inner ++ [o.block], e.isPart = false)
    (hopen : ∀ e ∈ o.inner ++ o.block :: o.outer, e ∈ b.stack)
    (halike : Alike a.stack b.stack → Alike a.stack o.outer) : Keeps a (b.adopt id tag o) := by
  have hsound := h.sound
  have hblock : o.block.In b.nodes :=
    hsound.standing.stack _ (hopen _ (List.mem_append_right _ List.mem_cons_self))
  have hblockPlain := hinside _ (List.mem_append_right _ List.mem_cons_self)
  have hroot : (o.block.space, o.block.name) ≠ (.html, "html") := fun heq => by
    obtain ⟨hspace, hsame⟩ := Prod.mk.inj heq
    simp [Opened.isPart, Opened.among, hspace, hsame, partNames] at hblockPlain
  have hstart : Bears b ⟨b, o.block.id, none, [], 0⟩ :=
    ⟨⟨hsound, .refl hsound.standing.linked, hblock.inner,
      fun hformats => absurd hformats (not_formats_of_special hblock hspecial), List.forall_mem_nil _⟩,
      h.toGrown.refl, rfl, rfl, ⟨_, hblock.tag, hroot⟩, List.forall_mem_nil _⟩
  have hbears := hstart.foldl o.block.id o.between
  have hadopted := sound_adopt hsound id tag hname hspecial hopen
  obtain ⟨c, b', copy, formatting, hc, hmake, hsub, hadopt⟩ := adopt_eq b id tag o
  rw [hc] at hbears
  have hsettled := hbears.grown_settled o.outer.head?
  have hcopied := copied_of_make hsettled.sound hname hmake
  have hfresh := hcopied.fresh
  have hrefill := grows_refilled hfresh (hblock.inner.mono hsettled.grows.size) hcopied.name.1
    (by rw [hcopied.name.2]; exact hname)
  have hrefilled : Grown b { b' with nodes := b'.refilled o.block.id copy.id } :=
    (hsettled.regrow hfresh.sound hcopied.grows hcopied.same).regrow
      ⟨hfresh.sound.standing.grow hrefill.toAfter⟩ hrefill rfl
  have hlisted := hrefilled.list hname (hcopied.tag?_eq hrefill.toAfter) hsub
  have hcopies : ∀ e ∈ o.inner ++ copy :: o.block :: c.copies, e.isPart = false := by
    intro e he
    simp only [List.mem_append, List.mem_cons] at he
    rcases he with he | rfl | rfl | he
    · exact hinside e (List.mem_append_left _ he)
    · exact hcopied.plain
    · exact hblockPlain
    · exact hbears.plain e he
  have hgrown : Grown a (b.adopt id tag o) := by
    rw [hadopt] at hadopted ⊢
    exact h.toGrown.trans ⟨hadopted, hlisted.recorded, hlisted.grows, hlisted.head⟩
  refine h.restack ?_ ?_ fun hb => ?_
  · rw [hadopt, hcopied.same, settled_eq]
    exact hbears.mode
  · rw [hadopt, hcopied.same, settled_eq]
    exact hbears.resume
  · rw [hadopt]
    dsimp only
    rw [show o.inner ++ copy :: o.block :: c.copies ++ o.outer =
      (o.inner ++ copy :: o.block :: c.copies) ++ o.outer from rfl]
    exact (halike hb).pushes hcopies

theorem Keeps.dropOpen (h : Keeps a b) {id : Nat}
    (hplain : ∀ e ∈ b.stack, (e.id == id) = true → e.isPart = false) : Keeps a (b.dropOpen id) :=
  h.restack rfl rfl fun halike => halike.eraseP hplain

theorem not_part_of_formatting {name : String} (h : name ∈ formattingNames) : name ∉ partNames := by
  have hnone : ∀ name ∈ formattingNames, name ∉ partNames := by decide
  exact hnone name h

section

variable [hsteady : Steady a]

theorem Keeps.adoptRounds (h : Keeps a b) {name : String} (hname : name ∈ formattingNames) (n : Nat) :
    Keeps a (b.adoptRounds name n) := by
  induction n generalizing b with
  | zero => exact h
  | succ n ih =>
    rw [Builder.adoptRounds]
    split
    next => exact h.closeGeneric (not_part_of_formatting hname)
    next id tag hlatest =>
      obtain ⟨hlisted, htag⟩ := h.recorded.listed id tag (mem_of_latestListed hlatest)
      have hplain := plain_of_tag h.sound htag (not_part_of_formatting hlisted)
      split
      · infer_instance
      · split
        next => exact h
        next hscope =>
          -- No part stands inside of the formatting element, so what is outside of it has the same parts
          -- open, and whatever the round puts there instead is plain.
          have halike := h.alike hsteady
          have hhand : AtHand (·.id == id) b.stack :=
            .of_inScope halike.nested bounding_endsScope hplain (by simpa using hscope)
          obtain ⟨e, hstack, -, -, hbefore⟩ := hhand.split
          dsimp only
          split
          next =>
            have := h.popThrough fun _ => hhand
            exact keeps_unlist (b := b.popThrough (·.id == id)) id
          next o ho =>
            obtain ⟨hinside, houtside, hspecial⟩ := find_eq ho
            have hmem (f : Opened) (hf : f ∈ o.inner ++ [o.block]) :
                f ∈ b.stack.takeWhile (·.id != id) := by
              rw [← hinside, List.append_cons]
              exact List.mem_append_left _ hf
            refine ih (h.adopt id (by rwa [name_of_latestListed hlatest]) hspecial
              (fun f hf => hbefore f (hmem f hf)) (fun f hf => ?_) fun hb => ?_)
            · rw [List.append_cons, List.mem_append] at hf
              rcases hf with hf | hf
              · exact (List.takeWhile_sublist _).mem (hmem f hf)
              · rw [houtside] at hf
                exact mem_of_mem_outside hf
            · rw [houtside]
              exact hb.outside hhand

theorem Keeps.closeFormatting (h : Keeps a b) {name : String} (hname : name ∈ formattingNames) :
    Keeps a (b.closeFormatting name) := by
  unfold Builder.closeFormatting
  split
  next hcurrent =>
    exact h.popCurrent hcurrent fun _ hnamed =>
      not_isPart_of_named (Bool.and_eq_true _ _ ▸ hnamed).1 (not_part_of_formatting hname)
  next => exact h.adoptRounds hname 8

instance keeps_closeOuterLink [h : Keeps a b] : Keeps a b.closeOuterLink := by
  unfold closeOuterLink
  dsimp only
  split
  next id hfound =>
    obtain ⟨entry, hmem, hentry⟩ := List.exists_of_findSome?_eq_some hfound
    cases entry with
    | marker => cases hentry
    | element other tag =>
      dsimp only at hentry
      split at hentry
      next hname =>
        obtain rfl := Option.some.inj hentry
        have htag := (h.recorded.listed other tag ((List.takeWhile_sublist _).mem hmem)).2
        rw [beq_iff_eq.mp hname] at htag
        have := h.steady
        have hclosed := h.toGrown.keeps.closeFormatting (show "a" ∈ formattingNames by decide)
        have htag' := (hclosed.grows.tags other (Nodes.lt_size_of_bind htag)).trans htag
        exact h.trans ((keeps_unlist other).dropOpen (plain_of_tag hclosed.sound htag' (by decide)))
      next => cases hentry
  next => exact h

theorem keeps_startNoBreak [h : Keeps a b] {tag : Tag} (hname : tag.name ∈ formattingNames) :
    Keeps a (b.startNoBreak tag) := by
  have hclosed := (keeps_reconstruct (h := h)).closeFormatting (show "nobr" ∈ formattingNames by decide)
  have : Keeps a (if b.reconstruct.has (·.endsScope) "nobr" then
    (b.reconstruct.closeFormatting "nobr").reconstruct else b.reconstruct) := inferInstance
  exact this.insertFormatting hname

end

section

variable [h : Keeps a b]

instance keeps_textInBody (s : List Char) : Keeps a (b.textInBody s) := by
  unfold textInBody blockFrames
  infer_instance

omit h in
/-- The item that is found has nothing around its inside but plain elements. -/
theorem Keeps.closeItem (h : Keeps a b) {names : List String} (hnames : ∀ n ∈ names, n ∉ partNames) :
    Keeps a (b.closeItem names) := by
  unfold Builder.closeItem
  dsimp only
  split
  next e hfound =>
    split
    next hname =>
      refine h.closeExcept fun _ => ?_
      obtain ⟨-, before, after, hstack, hbefore⟩ := List.find?_eq_some_iff_append.mp hfound
      obtain ⟨hspace, hmem⟩ := among_eq_true.mp hname
      have hnamed : e.named e.name = true := named_eq_true.mpr ⟨hspace, rfl⟩
      rw [hstack]
      refine .append (fun f hf => ?_) (.here hnamed (not_isPart_of_named hnamed (hnames _ hmem)))
      have hnot := hbefore f hf
      simp only [Bool.not_or, Bool.not_and, Bool.not_not, Bool.and_eq_true, Bool.or_eq_true,
        Bool.not_eq_true'] at hnot
      exact hnot.2.elim Opened.not_isPart_of_not_isSpecial fun hblock => among_disjoint hblock (by decide)
    next => exact h
  next => exact h

omit h in
theorem Keeps.noteForm (h : Keeps a b) {form : Option Nat}
    (hform : ∀ id ∈ form, b.nodes.tag? id = some (.html, "form")) : Keeps a { b with form } :=
  have : Grown a { b with form } :=
    ⟨⟨h.sound.standing⟩, ⟨h.recorded.listed, hform, h.recorded.templates⟩, h.grows, h.head⟩
  h.restack rfl rfl fun halike => halike

theorem keeps_startForm {tag : Tag} (hname : tag.name = "form") : Keeps a (b.startForm tag) := by
  have hplain : Plain .html tag := plain_of_name (by rw [hname]; decide)
  have hinsert : Keeps a (b.closeParagraphInScope.insert tag) := inferInstance
  unfold startForm
  split
  · exact h
  · dsimp only
    split
    · exact hinsert
    · refine hinsert.noteForm fun id hid => ?_
      rw [stack_insert] at hid
      obtain rfl := Option.some.inj hid
      have hin := hinsert.sound.standing.stack _ (by rw [stack_insert]; exact List.mem_cons_self)
      exact hin.tag.trans (by rw [hname])

theorem keeps_finishForm : Keeps a b.finishForm := by
  unfold finishForm
  split
  · split
    next hhas => exact h.closeNamed (by decide) hhas
    next => exact h
  · split
    next => exact h
    next id hform =>
      have hnone : Keeps a { b with form := none } := h.noteForm nofun
      dsimp only
      split
      · have hclosed := keeps_closeStaying (h := hnone)
        exact hclosed.dropOpen (plain_of_tag hclosed.sound (h.recorded.form id hform) (by decide))
      · exact hnone

theorem keeps_startButton {tag : Tag} (hname : tag.name = "button") : Keeps a (b.startButton tag) := by
  have hplain : Plain .html tag := plain_of_name (by rw [hname]; decide)
  unfold startButton blockFrames
  dsimp only
  split
  next hhas =>
    have := h.closeNamed (by decide) hhas
    infer_instance
  next => infer_instance

instance keeps_startBody (tag : Tag) : Keeps a (b.startBody tag) := by
  unfold startBody
  split
  · infer_instance
  · exact h

instance keeps_startForeign (space : Space) (tag : Tag) [Plain space tag] :
    Keeps a (b.startForeign space tag) := by
  unfold startForeign
  infer_instance

theorem keeps_finishParagraph :
    Keeps a (if b.has (·.endsButtonScope) "p" then b else b.insertImplied "p").closeParagraph := by
  have hplain : Plain .html { name := "p" } := plain_of_name (by decide)
  split
  next hhas => exact h.closeExcept (atHand_of_has bounding_endsButtonScope (by decide) hhas)
  next =>
    have hinsert : Keeps a (b.insertImplied "p") := inferInstance
    refine hinsert.closeExcept fun _ => ?_
    rw [insertImplied, stack_insert]
    exact .here rfl rfl

end

end Builder

end PageGrader.Tree
