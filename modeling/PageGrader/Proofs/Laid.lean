import PageGrader.Proofs.Layout
import PageGrader.Proofs.Modes

namespace PageGrader.Tree

open Markup (Tag Token Content Attribute)
open Nodes (After Adds)
open Opened (among_of_named among_singleton not_among_of_named)

namespace Builder

variable {a b : Builder}

instance grown_goto [h : Grown a b] (mode : Mode) : Grown a (b.goto mode).1 := grown_mk

instance grown_againIn [h : Grown a b] (mode : Mode) : Grown a (b.againIn mode).1 := grown_mk

theorem Laid.bare (h : b.Laid) (hmode : b.mode ∈ [.initial, .beforeHtml]) :
    b.stack = [] ∧ b.nodes.Bare ∧ b.head = none := by
  have hfits : Fits b.mode b.stack := h.fits (by intro heq; simp [heq] at hmode)
    (by intro heq; simp [heq] at hmode)
  refine ⟨?_, ?_⟩
  · simp only [List.mem_cons, List.not_mem_nil, or_false] at hmode
    rcases hmode with hmode | hmode
    all_goals
      rw [hmode] at hfits
      exact hfits
  · cases h.progress_of_fits hfits with
    | bare _ hbare hhead => exact ⟨hbare, hhead⟩
    | rooted hbefore =>
      rw [hbefore] at hmode
      simp at hmode
    | headed hlate => exact absurd hmode (Mode.begun_of_not_isEarly hlate)

theorem laid_bare (h : Grown b b) (hmode : b.mode ∈ [.initial, .beforeHtml]) (hstack : b.stack = [])
    (hbare : b.nodes.Bare) (hhead : b.head = none) : b.Laid := by
  refine .of_fits h ?_ (.bare hmode hbare hhead)
  rw [hstack]
  simp only [List.mem_cons, List.not_mem_nil, or_false] at hmode
  rcases hmode with hmode | hmode
  all_goals
    rw [hmode]
    rfl

theorem laid_empty : Laid {} := by
  refine laid_bare ⟨inferInstance, ⟨nofun, nofun, nofun⟩, .refl ?_, rfl⟩ (by decide) rfl Nodes.bare_empty rfl
  exact ⟨Nodes.tied_empty, Nodes.near_empty⟩

/-- Before the root there is room for comments. -/
theorem Laid.commentBefore (h : b.Laid) (hmode : b.mode ∈ [.initial, .beforeHtml]) (s : String) :
    (b.addCommentTo 0 s).Laid := by
  obtain ⟨hstack, hbare, hhead⟩ := h.bare hmode
  have := h.grown
  have hb : Grown b (b.addCommentTo 0 s) := inferInstance
  exact laid_bare hb.refl hmode hstack (hbare.append_make rfl) hhead

theorem Laid.beforeHtml (h : b.Laid) (hmode : b.mode ∈ [.initial, .beforeHtml]) (tableInParagraph : Bool) :
    Laid { b with mode := .beforeHtml, tableInParagraph } := by
  obtain ⟨hstack, hbare, hhead⟩ := h.bare hmode
  have := h.grown
  have hb : Grown b { b with mode := .beforeHtml, tableInParagraph } := inferInstance
  exact laid_bare hb.refl (show Mode.beforeHtml ∈ [.initial, .beforeHtml] by decide) hstack hbare hhead

theorem laid_readInitial (h : b.Laid) (hmode : b.mode = .initial) (token : Token) :
    (b.readInitial token).1.Laid := by
  have hearly : b.mode ∈ [.initial, .beforeHtml] := by rw [hmode]; decide
  unfold readInitial
  split
  · split
    · exact h
    · exact h.beforeHtml hearly true
  · exact h.commentBefore hearly _
  · exact h.beforeHtml hearly true

/-- The root is made, and nothing else yet. -/
theorem Laid.makeRoot (h : b.Laid) (hmode : b.mode ∈ [.initial, .beforeHtml]) (attributes : List Attribute) :
    Laid { b.makeRoot attributes with mode := .beforeHead } := by
  obtain ⟨hstack, hbare, hhead⟩ := h.bare hmode
  have hsound := h.grown.sound
  let kind := Kind.element .html "html" attributes
  have hroot : b.makeRoot attributes = { b with
      nodes := (b.nodes.make kind).2.append 0 (b.nodes.make kind).1
      stack := [⟨b.nodes.size, .html, "html"⟩] } := by
    rw [← hstack]
    rfl
  have hmade := hsound.standing.linked.append_make kind 0
  have hgrown : Grown { b.makeRoot attributes with mode := .beforeHead }
      { b.makeRoot attributes with mode := .beforeHead } := by
    have hmadeSound : (b.makeRoot attributes).Sound := inferInstance
    refine ⟨⟨hmadeSound.standing⟩, ?_, .refl hmadeSound.standing.linked, rfl⟩
    rw [hroot]
    exact h.grown.recorded.grow hmade
  refine .of_fits hgrown ?_ (.rooted rfl ?_ ?_ ?_)
  · rw [hroot]
    exact ⟨_, rfl, rfl⟩
  · rw [hroot]
    exact ⟨_, hbare.leads rfl⟩
  · rw [hroot]
    exact hhead
  · have htag : kind.tag? = some (.html, "html") := rfl
    rw [hroot]
    exact ⟨hbare.lacks htag (by decide) 0, hbare.lacks htag (by decide) 0⟩

theorem laid_readBeforeHtml (h : b.Laid) (hmode : b.mode = .beforeHtml) (token : Token) :
    (b.readBeforeHtml token).1.Laid := by
  have hearly : b.mode ∈ [.initial, .beforeHtml] := by rw [hmode]; decide
  have hbegin (attributes : List Attribute) := h.makeRoot hearly attributes
  unfold readBeforeHtml
  dsimp only
  split
  · exact h.commentBefore hearly _
  · split
    · exact h
    · exact hbegin []
  · split
    · exact hbegin _
    · exact hbegin []
  · split
    · exact hbegin []
    · exact h
  · exact hbegin []

theorem Laid.rooted (h : b.Laid) (hmode : b.mode = .beforeHead) :
    (∃ r, b.stack = [r] ∧ r.named "html" = true) ∧ (∃ r, b.nodes.Leads r) ∧ b.nodes.Lacks "head" ∧
      b.nodes.Lacks "body" := by
  have hfits : Fits b.mode b.stack := h.fits (by rw [hmode]; decide) (by rw [hmode]; decide)
  have hprogress := h.progress_of_fits hfits
  rw [hmode] at hfits hprogress
  cases hprogress with
  | bare hbare => simp at hbare
  | rooted _ hleads _ hlacks => exact ⟨hfits, hleads, hlacks⟩
  | headed hlate => cases hlate

/-- The head is made. -/
theorem Laid.makeHead (h : b.Laid) (hmode : b.mode = .beforeHead) (tag : Tag) (hname : tag.name = "head") :
    Laid { b.insert tag with head := (b.insert tag).stack.head?, mode := .inHead } := by
  obtain ⟨⟨r, hstack, hr⟩, ⟨root, hleads⟩, hhead, hbody⟩ := h.rooted hmode
  have hsound := h.grown.sound
  have hinserted : (b.insert tag).Sound := inferInstance
  have hadds : Adds b.nodes (b.insert tag).nodes (.html, "head") := hname ▸ adds_insertClosed hsound .html tag
  have hin : (b.insert tag).stack = [⟨b.nodes.size, .html, "head"⟩, r] := by
    rw [stack_insert, hstack, hname]
  have hgrown : Grown { b.insert tag with head := (b.insert tag).stack.head?, mode := .inHead }
      { b.insert tag with head := (b.insert tag).stack.head?, mode := .inHead } := by
    have hwith := sound_withHead (b := b.insert tag) .inHead
    refine ⟨hwith, ?_, .refl hwith.standing.linked, rfl⟩
    have hrecorded := h.grown.recorded.grow hadds.toAfter
    rw [insert, snd_insertIn] at *
    exact hrecorded
  refine .of_fits hgrown ?_ (.headed rfl ⟨root, hadds.leads root hleads⟩ ?_ ⟨hadds.sole hhead, ?_⟩
    (.inr (.inr ?_)))
  · dsimp only
    rw [hin]
    exact ⟨_, r, rfl, rfl, hr⟩
  · dsimp only
    rw [hin]
    rfl
  · exact (hbody.after hadds.toAfter (hadds.made_ne (by decide))).sole
  · exact hbody.after hadds.toAfter (hadds.made_ne (by decide))

theorem laid_readBeforeHead (h : b.Laid) (hmode : b.mode = .beforeHead) (token : Token) :
    (b.readBeforeHead token).1.Laid := by
  obtain ⟨⟨r, hstack, -⟩, -⟩ := h.rooted hmode
  have hbegun := h.begun (by rw [hstack]; exact List.cons_ne_nil _ _)
  have hbegin := h.makeHead hmode { name := "head" } rfl
  unfold readBeforeHead
  dsimp only
  split
  · split
    · exact h
    · exact hbegin
  · exact h.addComment hbegun _
  next tag =>
    split
    · exact h.mergeRoot hbegun _
    · split
      next hname => exact h.makeHead hmode tag (beq_iff_eq.mp hname)
      next => exact hbegin
  · split
    · exact hbegin
    · exact h
  · exact hbegin

theorem laid_readInHead (h : b.Laid) (hmode : b.mode = .inHead) (token : Token) :
    (b.readInHead token).1.Laid := by
  have hnested : b.mode.isNested = true := by rw [hmode]; rfl
  have hfits := h.fits_of_nested hnested
  have hbegun := h.begun (h.nested hnested).ne_nil
  have := h.grown
  have hleave : (b.pop.againIn .afterHead).1.Laid := by
    rw [hmode] at hfits
    obtain ⟨e, r, hstack, he, hr⟩ := hfits
    have hpop : b.pop.stack = [r] := by rw [pop, hstack]; rfl
    refine h.arrive hnested inferInstance ⟨r, hpop, hr⟩ rfl fun hbody => ?_
    rw [hstack] at hbody
    have hs : Nested [e, r] := .outer (among_of_named he (by decide)) hr
    rw [show (b.pop.againIn .afterHead).1.stack = [r] from hpop]
    exact hbody.of_cons (not_among_of_named he (by decide))
  unfold readInHead
  dsimp only
  split
  · split
    · exact h.addText hbegun _
    · exact hleave
  · exact h.addComment hbegun _
  · split
    · exact h.mergeRoot hbegun _
    · split
      next hname =>
        have := plain_of_beq hname (by decide)
        exact h.openRaw hfits hbegun _ .rawtext
      next =>
        split
        · exact h
        · exact h.startInHead_getD hnested _ hleave
  · split
    · exact hleave
    · split
      · exact h.endTemplate hnested
      · split
        · exact hleave
        · exact h
  · exact hleave

/-- After the head there is the root alone, so no body was made. -/
theorem Laid.headed (h : b.Laid) (hmode : b.mode = .afterHead) :
    (∃ r, b.stack = [r] ∧ r.named "html" = true) ∧ (∃ r, b.nodes.Leads r) ∧ b.head.isSome = true ∧
      b.nodes.Sole "head" ∧ b.nodes.Lacks "body" := by
  have hnested : b.mode.isNested = true := by rw [hmode]; rfl
  have hfits := h.fits_of_nested hnested
  obtain ⟨hleads, hhead, hsole, hbody⟩ := (h.progress_of_fits hfits).late
    (Mode.not_isEarly_of_isNested hnested)
  rw [hmode] at hfits hbody
  obtain ⟨r, hstack, hr⟩ := hfits
  refine ⟨⟨r, hstack, hr⟩, hleads, hhead, hsole.1, (hbody.resolve_left (by decide)).resolve_left ?_⟩
  rintro ⟨e, he, hname⟩
  rw [hstack] at he
  obtain rfl := List.mem_singleton.mp he
  have hnot : e.among ["body"] = false := not_among_of_named hr (by decide)
  exact Bool.false_ne_true (hnot.symm.trans (among_singleton hname))

/-- The body is made. -/
theorem Laid.makeBody (h : b.Laid) (hmode : b.mode = .afterHead) (tag : Tag) (hname : tag.name = "body")
    (framesetOk : Bool) : Laid { b.insert tag with mode := .inBody, framesetOk } := by
  obtain ⟨⟨r, hstack, hr⟩, ⟨root, hleads⟩, hhead, hsole, hbody⟩ := h.headed hmode
  have hsound := h.grown.sound
  have hinserted : (b.insert tag).Sound := inferInstance
  have hadds : Adds b.nodes (b.insert tag).nodes (.html, "body") := hname ▸ adds_insertClosed hsound .html tag
  have hin : (b.insert tag).stack = [⟨b.nodes.size, .html, "body"⟩, r] := by
    rw [stack_insert, hstack, hname]
  have hgrown : Grown { b.insert tag with mode := .inBody, framesetOk }
      { b.insert tag with mode := .inBody, framesetOk } := by
    refine ⟨⟨hinserted.standing⟩, ?_, .refl hinserted.standing.linked, rfl⟩
    have hrecorded := h.grown.recorded.grow hadds.toAfter
    rw [insert, snd_insertIn] at *
    exact hrecorded
  have hnested : Nested [⟨b.nodes.size, .html, "body"⟩, r] := .outer rfl hr
  refine .of_fits hgrown ?_ (.headed rfl ⟨root, hadds.leads root hleads⟩ ?_ ⟨?_, hadds.sole hbody⟩
    (.inr (.inl ?_)))
  · change Within partNames (b.insert tag).stack
    rw [hin]
    exact .of_holds hnested ⟨_, List.mem_cons_self, rfl⟩
  · rw [insert, snd_insertIn]
    exact hhead
  · exact hsole.after hadds.toAfter (hadds.made_ne (by decide))
  · change HasBody (b.insert tag).stack
    rw [hin]
    exact ⟨_, List.mem_cons_self, rfl⟩

/-- The head is open again, though it was closed. -/
structure Reopened (b c : Builder) (head root : Opened) : Prop where
  laid : b.Laid
  mode : b.mode = .afterHead
  kept : b.head = some head
  stack : b.stack = [root]
  bottom : root.named "html" = true
  eq : c = { b with stack := head :: b.stack }

namespace Reopened

variable {c : Builder} {head root : Opened} {tag : Tag}

theorem isNested (h : Reopened b c head root) : b.mode.isNested = true := by
  rw [h.mode]
  rfl

theorem grown (h : Reopened b c head root) : Grown b c := by
  have hgrown := h.laid.grown
  have hsound := hgrown.sound
  rw [h.eq]
  exact ⟨sound_reopenHead h.kept, hgrown.recorded, .refl hsound.standing.linked, rfl⟩

theorem outer (h : Reopened b c head root) : c.mode = .afterHead ∧ c.stack = [head, root] := by
  rw [h.eq]
  dsimp only
  rw [h.stack]
  exact ⟨h.mode, rfl⟩

/-- The head is taken out from below what was opened in it. -/
theorem eraseP_head (h : Reopened b c head root) (name : String) :
    ((⟨c.nodes.size, .html, name⟩ : Opened) :: c.stack).eraseP (·.id == head.id) =
      [⟨c.nodes.size, .html, name⟩, root] := by
  have hid : c.nodes.size ≠ head.id := by
    rw [h.eq]
    exact Nat.ne_of_gt (h.laid.grown.sound.standing.head head h.kept).inner.2
  rw [h.outer.2, List.eraseP_cons_of_neg (by simpa using hid), List.eraseP_cons_of_pos (by simp)]

theorem laid_insertVoid (h : Reopened b c head root) (tag : Tag) [Plain .html tag] :
    ((c.insertVoid tag).dropOpen head.id).Laid := by
  have := h.grown
  obtain ⟨hmode, hstack⟩ := h.outer
  have heq : (c.insertVoid tag).dropOpen head.id =
      { c with nodes := (c.insertVoid tag).nodes, stack := [root] } := by
    rw [dropOpen, Builder.insertVoid, snd_insertClosed, hstack, List.eraseP_cons_of_pos (by simp)]
  have hb : Grown b ((c.insertVoid tag).dropOpen head.id) := inferInstance
  rw [heq] at hb ⊢
  refine h.laid.arrive h.isNested hb ?_ ?_ fun hbody => ?_
  · dsimp only
    rw [hmode]
    exact ⟨root, rfl, h.bottom⟩
  · dsimp only
    rw [hmode]
    rfl
  · rwa [h.stack] at hbody

theorem laid_openRaw (h : Reopened b c head root) (tag : Tag) [ht : Plain .html tag] (content : Content) :
    ((c.openRaw tag content).1.dropOpen head.id).Laid := by
  have := h.grown
  have hbegun := h.laid.begun (h.laid.nested h.isNested).ne_nil
  have hb : Grown b ((c.openRaw tag content).1.dropOpen head.id) := inferInstance
  refine ⟨hb.refl, ?_, ?_⟩
  · rw [openRaw_eq, dropOpen]
    dsimp only
    rw [h.eraseP_head, h.outer.1]
    exact ⟨_, _, rfl, ht.plain _, rfl, root, rfl, h.bottom⟩
  · have hprogress := h.laid.progress.grow hbegun hb.grows
      (.inr fun hbody => hbody.cons ⟨c.nodes.size, .html, tag.name⟩)
    rw [place_of_fits (h.laid.fits_of_nested h.isNested), h.mode, h.stack, ← hb.head] at hprogress
    rw [openRaw_eq, dropOpen] at hprogress ⊢
    dsimp only at hprogress ⊢
    rw [h.eraseP_head, h.outer.1]
    exact hprogress

theorem laid_openTemplate (h : Reopened b c head root) (hname : tag.name = "template") :
    Laid (dropOpen { (c.insert tag).addMarker with
      framesetOk := false
      mode := .inTemplate
      templates := .inTemplate :: (c.insert tag).addMarker.templates } head.id) := by
  have := h.grown
  have : Usual .html tag := usual_of_name (by rw [hname]; decide)
  have hb : Grown b (c.insert tag).addMarker := inferInstance
  have ht := hb.retemplate (List.forall_mem_cons.mpr ⟨show Mode.inTemplate ∈ contentModes by decide,
    hb.recorded.templates⟩)
  have hleft : ((c.insert tag).dropOpen head.id).stack = [⟨c.nodes.size, .html, "template"⟩, root] := by
    rw [dropOpen, stack_insert, hname, h.eraseP_head]
  refine h.laid.arrive h.isNested (grown_dropOpen (h := grown_mk (h := ht)) head.id) ?_ rfl fun hbody => ?_
  · change Within ["template"] ((c.insert tag).dropOpen head.id).stack
    rw [hleft]
    exact within_cons (.root h.bottom) (.template rfl) rfl (by decide) (by decide)
  · change HasBody ((c.insert tag).dropOpen head.id).stack
    rw [hleft]
    rw [h.stack] at hbody
    exact hbody.cons _

end Reopened

/-- What belongs in the head goes there even after it was closed. -/
theorem Laid.reopenHead (h : b.Laid) (hmode : b.mode = .afterHead) {head : Opened}
    (hhead : b.head = some head) {tag : Tag} {r : Builder × Next}
    (hr : { b with stack := head :: b.stack }.startInHead tag = some r) : (r.1.dropOpen head.id).Laid := by
  obtain ⟨⟨root, hstack, hroot⟩, -⟩ := h.headed hmode
  have hopened : Reopened b { b with stack := head :: b.stack } head root :=
    ⟨h, hmode, hhead, hstack, hroot, rfl⟩
  unfold Builder.startInHead at hr
  split_ifs at hr with hvoid htitle hraw hscript htemplate
  · obtain rfl := Option.some.inj hr
    have := plain_of_contains hvoid (by decide)
    exact hopened.laid_insertVoid tag
  · obtain rfl := Option.some.inj hr
    have := plain_of_beq htitle (by decide)
    exact hopened.laid_openRaw tag .rcdata
  · obtain rfl := Option.some.inj hr
    have := plain_of_contains hraw (by decide)
    exact hopened.laid_openRaw tag .rawtext
  · obtain rfl := Option.some.inj hr
    have := plain_of_beq hscript (by decide)
    exact hopened.laid_openRaw tag .script
  · obtain rfl := Option.some.inj hr
    exact hopened.laid_openTemplate (beq_iff_eq.mp htemplate)

theorem laid_readAfterHead (h : b.Laid) (hmode : b.mode = .afterHead) (token : Token) :
    (b.readAfterHead token).1.Laid := by
  have hnested : b.mode.isNested = true := by rw [hmode]; rfl
  have hbegun := h.begun (h.nested hnested).ne_nil
  have := h.grown
  have hbegin : ((b.insertImplied "body").againIn .inBody).1.Laid := by
    have hbody := h.makeBody hmode { name := "body" } rfl (b.insert { name := "body" }).framesetOk
    exact hbody
  unfold readAfterHead
  dsimp only
  split
  · split
    · exact h.addText hbegun _
    · exact hbegin
  · exact h.addComment hbegun _
  next tag =>
    split
    · exact h.mergeRoot hbegun _
    · split
      next hname => exact h.makeBody hmode tag (beq_iff_eq.mp hname) false
      next =>
        split
        next hname =>
          have : Usual .html tag := usual_of_name (by rw [beq_iff_eq.mp hname]; decide)
          exact h.arriveFrames (h.late hnested) inferInstance rfl
        next =>
          split
          · exact h
          · split
            next head hhead _ =>
              split
              next b' next hstart => exact h.reopenHead hmode hhead hstart
              next => exact hbegin
            next => exact hbegin
  · split
    · exact h.endTemplate hnested
    · split
      · exact hbegin
      · exact h
  · exact hbegin

theorem laid_readRawText (h : b.Laid) (hmode : b.mode = .rawText) (token : Token) :
    (b.readRawText token).1.Laid := by
  have hfitting := h.fitting
  unfold Fitting at hfitting
  rw [hmode] at hfitting
  obtain ⟨e, s, hstack, he, -, hfits⟩ := hfitting
  have hbegun := h.begun (by rw [hstack]; exact List.cons_ne_nil _ _)
  have := h.grown
  have hplace : b.place = b.resume := by
    unfold place
    rw [hmode]
  have hleave : Laid { b.pop with mode := b.resume } := by
    have hb : Grown b { b.pop with mode := b.resume } := inferInstance
    have hpop : b.pop.stack = s := by
      rw [pop, hstack]
      rfl
    refine .of_fits hb.refl ?_ ?_
    · change Fits b.resume b.pop.stack
      rwa [hpop]
    · change Progress b.resume b.nodes b.head b.pop.stack
      rw [hpop, ← hplace]
      refine h.progress.grow hbegun (.refl h.grown.sound.standing.linked) (.inr fun hbody => ?_)
      rw [hstack] at hbody
      exact hbody.congr (by rw [List.filter_cons_of_neg (by simp [he])])
  unfold readRawText
  split
  · exact h.addText hbegun _
  · exact hleave
  · exact hleave
  · exact h

end Builder

end PageGrader.Tree
