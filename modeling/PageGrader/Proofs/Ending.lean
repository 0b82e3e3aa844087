import PageGrader.Proofs.Table

namespace PageGrader.Tree

open Markup (Tag Token)
open Opened (named_eq_true not_among_of_named not_isPart_of_named)

namespace Builder

variable {a b : Builder}

def selectModes : List Mode := [.inSelect, .inSelectInTable]

theorem isNested_of_selectMode {mode : Mode} (h : mode ∈ selectModes) : mode.isNested = true := by
  have hall : ∀ mode ∈ selectModes, mode.isNested = true := by decide
  exact hall mode h

/-- Inside of a list of options the list itself stays open. -/
theorem Laid.choose (h : a.Laid) (hmode : a.mode ∈ selectModes) [hk : Keeps a b]
    (hopen : ∀ e ∈ a.stack, e.named "select" = true → e ∈ b.stack) : b.Laid := by
  have hnested := isNested_of_selectMode hmode
  have hfits := h.fits_of_nested hnested
  have hwithin : Within partNames a.stack := by
    simp only [selectModes, List.mem_cons, List.not_mem_nil, or_false] at hmode
    rcases hmode with hmode | hmode
    all_goals rw [hmode] at hfits
    · exact hfits
    · exact hfits.1
  have halike := hk.alike ⟨hwithin.nested, hwithin.holds⟩
  refine h.arrive hnested hk.toGrown ?_ ?_ fun hbody => hbody.alike halike
  · rw [hk.mode]
    simp only [selectModes, List.mem_cons, List.not_mem_nil, or_false] at hmode
    rcases hmode with hmode | hmode
    all_goals rw [hmode] at hfits ⊢
    · exact hwithin.alike halike
    · obtain ⟨-, e, he, hname⟩ := hfits
      exact ⟨hwithin.alike halike, e, hopen e he hname, hname⟩
  · rw [hk.mode]
    exact Mode.not_isEarly_of_isNested hnested

theorem keeps_popIfCurrent [h : Keeps a b] {name : String} (hname : name ∉ partNames) :
    Keeps a (b.popIfCurrent name) :=
  h.popIf fun _ he => not_isPart_of_named he hname

theorem mem_popIfCurrent {e : Opened} {name : String} (he : e ∈ b.stack) (hname : e.named name = false) :
    e ∈ (b.popIfCurrent name).stack := by
  unfold popIfCurrent
  split
  next hcurrent =>
    obtain ⟨f, hf, hnamed⟩ := (Option.any_eq_true _ _).mp hcurrent
    obtain ⟨s, hs⟩ := List.head?_eq_some_iff.mp hf
    rw [hs] at he
    have hne : e ≠ f := by
      rintro rfl
      exact Bool.false_ne_true (hname.symm.trans hnamed)
    rw [pop, hs]
    exact (List.mem_cons.mp he).resolve_left hne
  next => exact he

theorem not_named_of_named {e : Opened} {name other : String} (h : e.named name = true) (hne : name ≠ other) :
    e.named other = false := by
  rw [named_eq_true] at h
  simp [Opened.named, h.2, hne]

theorem Laid.endSelect (h : b.Laid) (hmode : b.mode ∈ selectModes) : b.endSelect.Laid := by
  have := h.grown
  refine .either (fun hscope => ?_) fun _ => h
  exact h.close (isNested_of_selectMode hmode) inferInstance rfl (exists_of_inScope hscope)
    fun _ he => not_among_of_named he (by decide)

theorem laid_readInSelect (h : b.Laid) (hmode : b.mode ∈ selectModes) (token : Token) :
    (b.readInSelect token).1.Laid := by
  have hnested := isNested_of_selectMode hmode
  have hbegun := h.begun (h.nested hnested).ne_nil
  have hkeeps := h.grown.keeps
  have hoption := keeps_popIfCurrent (h := hkeeps) (show "option" ∉ partNames by decide)
  have hgroup := keeps_popIfCurrent (h := hoption) (show "optgroup" ∉ partNames by decide)
  have hkept {e : Opened} (he : e ∈ b.stack) (hname : e.named "select" = true) :
      e ∈ (b.popIfCurrent "option").stack := mem_popIfCurrent he (not_named_of_named hname (by decide))
  unfold readInSelect
  split
  · exact h.addText hbegun _
  · exact h.addComment hbegun _
  next tag =>
    refine .ite (fun _ => h.mergeRoot hbegun tag) fun _ => ?_
    refine .ite (fun hname => ?_) fun _ => ?_
    · have := plain_of_beq hname (by decide)
      refine h.choose hmode fun e he hselect => ?_
      rw [stack_insert]
      exact List.mem_cons_of_mem _ (hkept he hselect)
    refine .ite (fun hname => ?_) fun _ => ?_
    · have := plain_of_beq hname (by decide)
      refine h.choose hmode fun e he hselect => ?_
      rw [stack_insert]
      exact List.mem_cons_of_mem _
        (mem_popIfCurrent (hkept he hselect) (not_named_of_named hselect (by decide)))
    refine .ite (fun _ => h.endSelect hmode) fun _ => ?_
    refine .ite (fun _ => .ite (fun _ => h.endSelect hmode) fun _ => h) fun _ => ?_
    exact .ite (fun _ => h.startInHead_getD hnested tag h) fun _ => h
  next name =>
    refine .ite (fun _ => ?_) fun _ => ?_
    · have hgroup' := keeps_popIfCurrent (h := hkeeps) (show "optgroup" ∉ partNames by decide)
      dsimp only
      split
      next hinner =>
        have hpop : b.pop = b.popIfCurrent "option" := (if_pos (Bool.and_eq_true _ _ ▸ hinner).1).symm
        rw [hpop]
        exact h.choose hmode fun e he hselect =>
          mem_popIfCurrent (hkept he hselect) (not_named_of_named hselect (by decide))
      next =>
        exact h.choose hmode fun e he hselect =>
          mem_popIfCurrent he (not_named_of_named hselect (by decide))
    refine .ite (fun _ => h.choose hmode fun e he hselect => hkept he hselect) fun _ => ?_
    refine .ite (fun _ => h.endSelect hmode) fun _ => ?_
    exact .ite (fun _ => h.endTemplate hnested) fun _ => h
  · exact laid_eofInBody h hnested
  · exact h

theorem laid_readInSelectInTable (h : b.Laid) (hmode : b.mode = .inSelectInTable) (token : Token) :
    (b.readInSelectInTable token).1.Laid := by
  have hselect : b.mode ∈ selectModes := by rw [hmode]; decide
  have hnested := isNested_of_selectMode hselect
  have := h.grown
  have hfits : Fits .inSelectInTable b.stack := h.fits_of_mode hmode rfl
  have hleave : (b.popNamed "select").resetMode.Laid :=
    h.close hnested inferInstance rfl hfits.2 fun _ he => not_among_of_named he (by decide)
  unfold readInSelectInTable
  split
  · exact .ite (fun _ => hleave) fun _ => laid_readInSelect h hselect _
  · exact .ite (fun _ => .ite (fun _ => hleave) fun _ => h) fun _ => laid_readInSelect h hselect _
  · exact laid_readInSelect h hselect _

theorem laid_templateAs (h : b.Laid) (hmode : b.mode = .inTemplate) {mode : Mode}
    (hcontent : mode ∈ contentModes) : (b.templateAs mode).1.Laid := by
  have hnested : b.mode.isNested = true := by rw [hmode]; rfl
  have hwithin : Within ["template"] b.stack := h.fits_of_mode hmode rfl
  obtain ⟨hfits, hearly⟩ := fits_contentMode hcontent hwithin
  have hcontents : ∀ m ∈ mode :: b.templates.drop 1, m ∈ contentModes := List.forall_mem_cons.mpr
    ⟨hcontent, fun m hmem => h.grown.recorded.templates m (List.mem_of_mem_drop hmem)⟩
  exact h.arrive hnested (grown_mk (h := h.grown.retemplate hcontents)) hfits hearly id

theorem laid_readInTemplate (h : b.Laid) (hmode : b.mode = .inTemplate) (token : Token) :
    (b.readInTemplate token).1.Laid := by
  have hsteady : b.mode.isSteady = true := by rw [hmode]; rfl
  have hnested := Mode.isNested_of_isSteady hsteady
  unfold readInTemplate
  split
  · exact laid_readInBody h hsteady (ends_text _ _)
  · exact laid_readInBody h hsteady (ends_comment _ _)
  next tag =>
    refine .ite (fun _ => h.startInHead_getD hnested tag h) fun _ => ?_
    refine .ite (fun _ => laid_templateAs h hmode (by decide)) fun _ => ?_
    refine .ite (fun _ => laid_templateAs h hmode (by decide)) fun _ => ?_
    refine .ite (fun _ => laid_templateAs h hmode (by decide)) fun _ => ?_
    refine .ite (fun _ => laid_templateAs h hmode (by decide)) fun _ => ?_
    exact laid_templateAs h hmode (by decide)
  · exact .either (fun _ => h.endTemplate hnested) fun _ => h
  · exact h.endOfTemplates hnested
  · exact h

/-- Between the modes of the body of a page nothing has to be closed. -/
theorem Laid.moveOn (h : b.Laid) (hsteady : b.mode.isSteady = true) {mode : Mode}
    (hmode : mode ∈ [.inBody, .afterBody, .afterAfterBody]) : Laid { b with mode } := by
  have := h.grown
  have hopen := h.steady hsteady
  have hwithin : Within partNames b.stack := .of_holds hopen.nested hopen.holds
  simp only [List.mem_cons, List.not_mem_nil, or_false] at hmode
  rcases hmode with rfl | rfl | rfl
  all_goals exact h.arrive (Mode.isNested_of_isSteady hsteady) inferInstance hwithin rfl id

theorem laid_readAfterBody (h : b.Laid) (hmode : b.mode = .afterBody) (token : Token) :
    (b.readAfterBody token).1.Laid := by
  have hsteady : b.mode.isSteady = true := by rw [hmode]; rfl
  have hbegun := h.begun (h.nested (Mode.isNested_of_isSteady hsteady)).ne_nil
  have hback : (b.againIn .inBody).1.Laid := h.moveOn hsteady (by decide)
  unfold readAfterBody
  split
  · exact .ite (fun _ => laid_readInBody h hsteady (ends_text _ _)) fun _ => hback
  · exact h.addCommentTo hbegun _ _
  · exact .ite (fun _ => h.mergeRoot hbegun _) fun _ => hback
  · exact .ite (fun _ => h.moveOn hsteady (by decide)) fun _ => hback
  · exact h
  · exact hback

theorem laid_readAfterAfterBody (h : b.Laid) (hmode : b.mode = .afterAfterBody) (token : Token) :
    (b.readAfterAfterBody token).1.Laid := by
  have hsteady : b.mode.isSteady = true := by rw [hmode]; rfl
  have hbegun := h.begun (h.nested (Mode.isNested_of_isSteady hsteady)).ne_nil
  have hback : (b.againIn .inBody).1.Laid := h.moveOn hsteady (by decide)
  unfold readAfterAfterBody
  split
  · exact .ite (fun _ => laid_readInBody h hsteady (ends_text _ _)) fun _ => hback
  · exact h.addCommentTo hbegun _ _
  · exact .ite (fun _ => h.mergeRoot hbegun _) fun _ => hback
  · exact h
  · exact hback

theorem lasts_of_isFrames {mode : Mode} (h : mode.isFrames = true) : mode.lasts = true := by
  rw [Mode.lasts, h, Bool.or_true, Bool.true_or]

theorem Laid.openRawFrames (h : b.Laid) (hframes : b.mode.isFrames = true) {tag : Tag}
    (hname : (tag.name == "noframes") = true) : (b.openRaw tag .rawtext).1.Laid := by
  have := plain_of_beq hname (by decide)
  have hearly := (h.lasting (lasts_of_isFrames hframes)).1
  exact h.openRaw (.of_isFrames hframes _) (Mode.begun_of_not_isEarly hearly) tag .rawtext

theorem laid_readInFrameset (h : b.Laid) (hmode : b.mode = .inFrameset) (token : Token) :
    (b.readInFrameset token).1.Laid := by
  have hframes : b.mode.isFrames = true := by rw [hmode]; rfl
  have hlasts := lasts_of_isFrames hframes
  have hearly := (h.lasting hlasts).1
  have hkeeps := h.grown.keeps
  unfold readInFrameset spaceOnly
  split
  · exact h.keep hlasts
  · exact h.keep hlasts
  next tag =>
    refine .ite (fun _ => h.keep hlasts) fun _ => ?_
    refine .ite (fun hname => ?_) fun _ => ?_
    · have : Usual .html tag := usual_of_name (by rw [beq_iff_eq.mp hname]; decide)
      refine h.arriveFrames hearly inferInstance ?_
      rw [insert, snd_insertIn]
      exact hframes
    refine .ite (fun hname => ?_) fun _ => ?_
    · have := plain_of_beq hname (by decide)
      exact h.keep hlasts
    exact .ite (fun hname => h.openRawFrames hframes hname) fun _ => h
  next name =>
    refine .ite (fun _ => ?_) fun _ => h
    exact .ite (fun _ => h.arriveFrames hearly inferInstance hframes) fun _ =>
      h.arriveFrames hearly inferInstance rfl
  · exact h

theorem laid_readAfterFrameset (h : b.Laid) (hmode : b.mode = .afterFrameset) (token : Token) :
    (b.readAfterFrameset token).1.Laid := by
  have hframes : b.mode.isFrames = true := by rw [hmode]; rfl
  have hlasts := lasts_of_isFrames hframes
  have hkeeps := h.grown.keeps
  unfold readAfterFrameset spaceOnly
  split
  · exact h.keep hlasts
  · exact h.keep hlasts
  · refine .ite (fun _ => h.keep hlasts) fun _ => ?_
    exact .ite (fun hname => h.openRawFrames hframes hname) fun _ => h
  · exact .ite (fun _ => h.arriveFrames (h.lasting hlasts).1 inferInstance rfl) fun _ => h
  · exact h

theorem laid_readAfterAfterFrameset (h : b.Laid) (hmode : b.mode = .afterAfterFrameset) (token : Token) :
    (b.readAfterAfterFrameset token).1.Laid := by
  have hframes : b.mode.isFrames = true := by rw [hmode]; rfl
  have hlasts := lasts_of_isFrames hframes
  have hkeeps := h.grown.keeps
  unfold readAfterAfterFrameset
  split
  · exact .ite (fun _ => laid_textInBody h hlasts _) fun _ => h
  · exact h.keep hlasts
  · refine .ite (fun _ => h.keep hlasts) fun _ => ?_
    exact .ite (fun hname => h.openRawFrames hframes hname) fun _ => h
  · exact h

end Builder

end PageGrader.Tree
