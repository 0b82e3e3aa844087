import PageGrader.Proofs.Laid

namespace PageGrader.Tree

open Markup (Tag Token)
open Nodes (Grows)
open Opened (among_disjoint among_mono named_eq_true among_of_named not_among_of_named
  not_isPart_of_named)

theorem Sits.holds {e : Opened} {s : List Opened} (h : Sits s e) (hs : Nested s)
    (hname : e.named "template" = false) : Holds s := by
  have hinner {names : List String} (htops : Tops names s) (hnames : ∀ n ∈ names, n ∉ ["html", "head"]) :
      Holds s := by
    obtain ⟨f, hf, hnamed⟩ := htops
    exact hs.holds fun g hg => Option.some.inj (hf.symm.trans hg) ▸ among_disjoint hnamed hnames
  cases h with
  | plain _ hs | table _ hs => exact hs
  | template h => exact absurd (hname.symm.trans h) Bool.false_ne_true
  | group _ hs | row _ hs | cell _ hs => exact hinner hs (by decide)

/-- A scope that special elements end reaches nothing beyond the innermost part. -/
theorem exists_of_inScope_isSpecial {wanted : Opened → Bool} {s : List Opened}
    (h : inScope (·.isSpecial) wanted s = true) :
    ∃ before e, s = before ++ e :: outside wanted s ∧ wanted e = true ∧ ∀ f ∈ before, f.isPart = false := by
  induction s with
  | nil => cases h
  | cons e s ih =>
    by_cases he : wanted e = true
    · exact ⟨[], e, by simp [outside, he], he, nofun⟩
    · rw [Bool.not_eq_true] at he
      rw [inScope, he, Bool.false_or, Bool.and_eq_true, Bool.not_eq_true'] at h
      obtain ⟨before, f, hs, hf, hbefore⟩ := ih h.2
      refine ⟨e :: before, f, ?_, hf, List.forall_mem_cons.mpr
        ⟨Opened.not_isPart_of_not_isSpecial h.1, hbefore⟩⟩
      rw [outside, if_neg (by simp [he]), List.cons_append, ← hs]

/-- Inside of the body no head is the innermost part, nor is a frame set. -/
theorem Nested.not_outer {before s : List Opened} {e : Opened} (h : Nested (before ++ e :: s))
    (hholds : Holds (before ++ e :: s)) (hbefore : ∀ f ∈ before, f.isPart = false)
    (he : e.among ["head", "frameset"] = true) : False := by
  have hnone : before.filter (·.isPart) = [] :=
    List.filter_eq_nil_iff.mpr fun f hf => by simp [hbefore f hf]
  have hheld : Holds (e :: s) := hholds.congr (by rw [List.filter_append, hnone, List.nil_append])
  have hclash {names : List String} (hname : e.among names = true)
      (hnot : ∀ n ∈ names, n ∉ ["head", "frameset"]) : False :=
    Bool.false_ne_true ((among_disjoint hname hnot).symm.trans he)
  have hlone {name : String} (hname : e.named name = true) (hnot : name ∉ ["head", "frameset"]) : False :=
    Bool.false_ne_true ((not_among_of_named hname hnot).symm.trans he)
  have hinner := h.suffix (List.cons_ne_nil e s)
  cases hinner with
  | root hroot => exact hlone hroot (by decide)
  | @outer _ r hout hr =>
    obtain ⟨f, hf, hname⟩ := hheld.of_cons (among_disjoint he (by decide))
    obtain rfl := List.mem_singleton.mp hf
    exact Bool.false_ne_true ((not_among_of_named hr (by decide)).symm.trans hname)
  | inner hsits hs =>
    cases hsits with
    | plain hplain hs => exact Bool.false_ne_true (hplain.symm.trans (among_mono he (by decide)))
    | template hname | table hname hs | row hname hs => exact hlone hname (by decide)
    | group hname hs | cell hname hs => exact hclash hname (by decide)

namespace Builder

variable {a b : Builder}

theorem Laid.ite {β : Type} {c : Prop} [Decidable c] {x y : Builder × β} (hx : c → x.1.Laid)
    (hy : ¬c → y.1.Laid) : (if c then x else y).1.Laid := by
  split
  next hc => exact hx hc
  next hc => exact hy hc

theorem Laid.either {c : Prop} [Decidable c] {x y : Builder} (hx : c → x.Laid) (hy : ¬c → y.Laid) :
    (if c then x else y).Laid := by
  split
  next hc => exact hx hc
  next hc => exact hy hc

theorem Keeps.popIf (h : Keeps a b) {wanted : Opened → Bool}
    (hwanted : ∀ e, wanted e = true → e.isPart = false) :
    Keeps a (if b.currentIs wanted then b.pop else b) := by
  split
  next hcurrent => exact h.popCurrent hcurrent hwanted
  next => exact h

theorem lasts_of_isSteady {mode : Mode} (h : mode.isSteady = true) : mode.lasts = true := by
  rw [Mode.lasts, h]
  rfl

/-- The body is taken out again for a frame set, with all that is open in it. -/
theorem Laid.startFrameset (h : b.Laid) (hmode : b.mode.isSteady = true) {tag : Tag}
    (hname : tag.name = "frameset") : (b.startFrameset tag).Laid := by
  have hgrown := h.grown
  have hsound := hgrown.sound
  unfold Builder.startFrameset
  split
  next body _ hbody =>
    obtain ⟨hopen, hspecial⟩ := body_eq_some hbody
    have hin := hsound.standing.stack body hopen
    have htag : (body.space, body.name) ≠ (.html, "html") := by
      obtain ⟨-, hnamed⟩ := Option.filter_eq_some_iff.mp hbody
      rw [(named_eq_true.mp hnamed).1, (named_eq_true.mp hnamed).2]
      decide
    have hgrows : Grows b.nodes (b.nodes.detach body.id) := hsound.standing.linked.grows_detach hin.tag htag
      fun hformats => absurd hformats (not_formats_of_special hin hspecial)
    have hout : Grown b { b with nodes := b.nodes.detach body.id, stack := b.root.toList } :=
      ⟨sound_withoutBody hbody, hgrown.recorded.grow hgrows.toAfter, hgrows, rfl⟩
    have : Usual .html tag := usual_of_name (by rw [hname]; decide)
    exact h.arriveFrames (h.late (Mode.isNested_of_isSteady hmode)) inferInstance rfl
  next => exact h

theorem Laid.startSelect (h : b.Laid) (hmode : b.mode.isSteady = true) {tag : Tag}
    (hname : tag.name = "select") : (b.startSelect tag).Laid := by
  have hgrown := h.grown
  have hkeeps := hgrown.keeps
  have hsteady := h.steady hmode
  have : Plain .html tag := plain_of_name (by rw [hname]; decide)
  have hinsert : Keeps b (b.reconstruct.insert tag) := inferInstance
  have halike := hinsert.alike hsteady
  have hwithin : Within partNames (b.reconstruct.insert tag).stack := .of_holds halike.nested halike.holds
  have hopen : ∃ e ∈ (b.reconstruct.insert tag).stack, e.named "select" = true :=
    ⟨_, by rw [stack_insert]; exact List.mem_cons_self, by rw [named_eq_true]; exact ⟨rfl, hname⟩⟩
  have hstart : Grown b (b.startSelect tag) := by
    unfold Builder.startSelect blockFrames
    infer_instance
  have hmodes : (b.startSelect tag).mode = .inSelectInTable ∨ (b.startSelect tag).mode = .inSelect := by
    unfold Builder.startSelect
    dsimp only
    split
    · exact .inl rfl
    · exact .inr rfl
  have hstack : (b.startSelect tag).stack = (b.reconstruct.insert tag).stack := rfl
  refine h.arrive (Mode.isNested_of_isSteady hmode) hstart ?_ ?_ fun hbody => ?_
  · rw [hstack]
    rcases hmodes with hmodes | hmodes
    all_goals rw [hmodes]
    · exact ⟨hwithin, hopen⟩
    · exact hwithin
  · rcases hmodes with hmodes | hmodes
    all_goals
      rw [hmodes]
      rfl
  · rw [hstack]
    exact hbody.alike halike

theorem Laid.startTable (h : a.Laid) (hmode : a.mode.isSteady = true) [hb : Keeps a b] {tag : Tag}
    (hname : tag.name = "table") : (((b.insert tag).blockFrames.goto .inTable).1).Laid := by
  have : Usual .html tag := usual_of_name (by rw [hname]; decide)
  have halike := hb.alike (h.steady hmode)
  have hinsert : Grown a (b.insert tag) := inferInstance
  have hstack := stack_insert b tag
  rw [hname] at hstack
  unfold blockFrames
  refine h.arrive (Mode.isNested_of_isSteady hmode) inferInstance ?_ rfl fun hbody => ?_
  · change Within ["table", "template"] (b.insert tag).stack
    rw [hstack]
    exact within_cons halike.nested (.table rfl halike.holds) rfl (by decide) (by decide)
  · change HasBody (b.insert tag).stack
    rw [hstack]
    exact (hbody.alike halike).cons _

/-- The tags of parts mean nothing in a body, but for a few. -/
theorem laid_startPart (h : b.Laid) (hmode : b.mode.isSteady = true) {tag : Tag}
    (hname : tag.name ∈ partNames) : (b.startInBody tag).1.Laid := by
  have hnested := Mode.isNested_of_isSteady hmode
  have hbegun := h.begun (h.nested hnested).ne_nil
  have hkeeps := h.grown.keeps
  have hnothing (hmem : tag.name ∈ misplacedNames) : b.startInBody tag = (b, .done) := by
    simp only [misplacedNames, List.mem_cons, List.not_mem_nil, or_false] at hmem
    rcases hmem with hmem | hmem | hmem | hmem | hmem | hmem | hmem | hmem | hmem | hmem | hmem
    all_goals simp [startInBody, hmem, headNames, blockNames, headingNames, formattingNames, misplacedNames]
  simp only [partNames, List.mem_cons, List.not_mem_nil, or_false] at hname
  rcases hname with hname | hname | hname | hname | hname | hname | hname
  · have hstart : b.startInBody tag = (b.mergeRoot tag, .done) := by simp [startInBody, hname]
    rw [hstart]
    exact h.mergeRoot hbegun tag
  · rw [hnothing (by rw [hname]; decide)]
    exact h
  · have hstart : b.startInBody tag = (b.startBody tag, .done) := by simp [startInBody, hname, headNames]
    rw [hstart]
    exact h.keep (lasts_of_isSteady hmode)
  · have hstart : b.startInBody tag = (b.startFrameset tag, .done) := by
      simp [startInBody, hname, headNames]
    rw [hstart]
    exact h.startFrameset hmode hname
  · have hstart : b.startInBody tag = (b.startInHead tag).getD (b, .done) := by
      simp [startInBody, hname, headNames]
    rw [hstart]
    exact h.startInHead_getD hnested tag h
  · have hstart : b.startInBody tag =
        ((if b.tableInParagraph then b
          else b.closeParagraphInScope).insert tag).blockFrames.goto .inTable := by
      simp [startInBody, hname, headNames, blockNames, headingNames, formattingNames]
    rw [hstart]
    exact h.startTable hmode hname
  · rw [hnothing (by revert hname; simp [misplacedNames]; tauto)]
    exact h

theorem laid_startPlain (h : b.Laid) (hmode : b.mode.isSteady = true) (tag : Tag) [Plain .html tag] :
    (b.startInBody tag).1.Laid := by
  have hnested := Mode.isNested_of_isSteady hmode
  have hlasts := lasts_of_isSteady hmode
  have hkeeps := h.grown.keeps
  have hsteady := h.steady hmode
  have hraw {c : Builder} (hc : Keeps b c) (content : Markup.Content) : (c.openRaw tag content).1.Laid := by
    have hlaid : c.Laid := h.keep hlasts
    have hcnested : c.mode.isNested = true := by rw [hc.mode, hnested]
    exact hlaid.openRaw (hlaid.fits_of_nested hcnested) (hlaid.begun (hlaid.nested hcnested).ne_nil)
      tag content
  unfold startInBody blockFrames
  dsimp only
  -- One step for each group of tags, in their order. Nearly all of them leave the same parts open.
  refine .ite (fun _ => h.keep hlasts) fun _ => ?_
  refine .ite (fun _ => hraw hkeeps .rawtext) fun _ => ?_
  refine .ite (fun _ => h.startInHead_getD hnested tag h) fun _ => ?_
  refine .ite (fun _ => h.keep hlasts) fun _ => ?_
  refine .ite (fun hname => h.startFrameset hmode (beq_iff_eq.mp hname)) fun _ => ?_
  refine .ite (fun _ => h.keep hlasts) fun _ => ?_
  refine .ite (fun _ => ?_) fun _ => ?_
  · have hclosed : Keeps b b.closeParagraphInScope := inferInstance
    have := hclosed.popIf fun e he =>
      among_disjoint he (show ∀ n ∈ headingNames, n ∉ partNames by decide)
    exact h.keep hlasts
  refine .ite (fun _ => h.keep hlasts) fun _ => ?_
  refine .ite (fun hname => ?_) fun _ => ?_
  · have := keeps_startForm (h := hkeeps) (beq_iff_eq.mp hname)
    exact h.keep hlasts
  refine .ite (fun _ => ?_) fun _ => ?_
  · have hblocked : Keeps b { b with framesetOk := false } := inferInstance
    have := hblocked.closeItem (show ∀ n ∈ if tag.name == "li" then ["li"] else ["dd", "dt"], n ∉ partNames by
      split <;> decide)
    exact h.keep hlasts
  refine .ite (fun _ => h.keep hlasts) fun _ => ?_
  refine .ite (fun hname => ?_) fun _ => ?_
  · have := keeps_startButton (h := hkeeps) (beq_iff_eq.mp hname)
    exact h.keep hlasts
  refine .ite (fun hname => ?_) fun _ => ?_
  · have := (keeps_reconstruct (h := keeps_closeOuterLink (h := hkeeps))).insertFormatting
      (show tag.name ∈ formattingNames by rw [beq_iff_eq.mp hname]; decide)
    exact h.keep hlasts
  refine .ite (fun hname => ?_) fun _ => ?_
  · have := keeps_startNoBreak (h := hkeeps)
      (show tag.name ∈ formattingNames by rw [beq_iff_eq.mp hname]; decide)
    exact h.keep hlasts
  refine .ite (fun hname => ?_) fun _ => ?_
  · have := (keeps_reconstruct (h := hkeeps)).insertFormatting (List.contains_iff_mem.mp hname)
    exact h.keep hlasts
  refine .ite (fun _ => h.keep hlasts) fun _ => ?_
  refine .ite (fun hname => h.startTable hmode (beq_iff_eq.mp hname)) fun _ => ?_
  refine .ite (fun _ => h.keep hlasts) fun _ => ?_
  refine .ite (fun _ => ?_) fun _ => ?_
  · have : Plain .html { tag with name := "img" } := plain_of_name (show "img" ∉ partNames by decide)
    exact h.keep hlasts
  refine .ite (fun _ => h.keep hlasts) fun _ => ?_
  refine .ite (fun _ => h.keep hlasts) fun _ => ?_
  refine .ite (fun _ => hraw inferInstance .rcdata) fun _ => ?_
  refine .ite (fun _ => hraw inferInstance .rawtext) fun _ => ?_
  refine .ite (fun _ => hraw inferInstance .rawtext) fun _ => ?_
  refine .ite (fun _ => hraw inferInstance .rawtext) fun _ => ?_
  refine .ite (fun hname => h.startSelect hmode (beq_iff_eq.mp hname)) fun _ => ?_
  refine .ite (fun _ => ?_) fun _ => ?_
  · have : Keeps b (if b.currentNamed "option" then b.pop else b) :=
      hkeeps.popIf fun e he => not_isPart_of_named he (by decide)
    exact h.keep hlasts
  refine .ite (fun _ => h.keep hlasts) fun _ => ?_
  refine .ite (fun _ => h.keep hlasts) fun _ => ?_
  refine .ite (fun hname => ?_) fun _ => ?_
  · have : Plain .math tag := plain_of_space (by decide) (by rw [beq_iff_eq.mp hname]; decide)
    exact h.keep hlasts
  refine .ite (fun hname => ?_) fun _ => ?_
  · have : Plain .svg tag := plain_of_space (by decide) (by rw [beq_iff_eq.mp hname]; decide)
    exact h.keep hlasts
  exact .ite (fun _ => h) fun _ => h.keep hlasts

theorem laid_startInBody (h : b.Laid) (hmode : b.mode.isSteady = true) (tag : Tag) :
    (b.startInBody tag).1.Laid := by
  by_cases hname : tag.name ∈ partNames
  · exact laid_startPart h hmode hname
  · have := plain_of_name hname
    exact laid_startPlain h hmode tag

/-- An end tag of a part closes the innermost part of the page, if that has its name. A head or a frame
set never is the innermost part. -/
theorem Laid.closePart (h : b.Laid) (hmode : b.mode.isSteady = true) {name : String}
    (hname : name ∉ ["html", "body", "template"]) (hpart : b.mode = .inBody ∨ name ∈ ["head", "frameset"]) :
    (b.closeGeneric name).Laid := by
  have hnested := Mode.isNested_of_isSteady hmode
  have hs := h.nested hnested
  have hkeeps := h.grown.keeps
  unfold closeGeneric
  split
  next hscope =>
    obtain ⟨before, e, hstack, he, hbefore⟩ := exists_of_inScope_isSpecial hscope
    have hin := hs
    rw [hstack] at hin
    have hheld := (h.steady hmode).holds
    rw [hstack] at hheld
    have hinner : name ∉ ["head", "frameset"] := fun hmem =>
      hin.not_outer hheld hbefore (among_of_named he hmem)
    -- What is left has another innermost part, so the mode must be one that all parts fit.
    have hbody := hpart.resolve_right hinner
    simp only [List.mem_cons, List.not_mem_nil, or_false, not_or] at hname hinner
    obtain ⟨hsits, hrest⟩ := (hin.suffix (List.cons_ne_nil e _)).sits
      (not_among_of_named he (by simp [hname, hinner]))
    have htemplate : e.named "template" = false := by
      simp [Opened.named, (named_eq_true.mp he).2, hname]
    have hclosed : ((b.closeImpliedExcept name).popNamed name).stack = outside (·.named name) b.stack :=
      outside_dropWhile (fun _ he => by simp [he]) b.stack
    refine h.arrive hnested inferInstance ?_ ?_ fun hopen => ?_
    · rw [hclosed]
      change Fits b.mode _
      rw [hbody]
      exact .of_holds hrest (hsits.holds hrest htemplate)
    · exact Mode.not_isEarly_of_isNested hnested
    · rw [hclosed]
      exact hopen.outside hs (exists_of_inScope hscope) fun _ he => not_among_of_named he (by simp [hname])
  next => exact h

theorem laid_finishInBody (h : b.Laid) (hmode : b.mode.isSteady = true) {name : String}
    (hname : b.mode = .inBody ∨ (name ∈ partNames → name ∈ ["head", "frameset", "template"])) :
    (b.finishInBody name).1.Laid := by
  have hnested := Mode.isNested_of_isSteady hmode
  have hlasts := lasts_of_isSteady hmode
  have hkeeps := h.grown.keeps
  have hsteady := h.steady hmode
  have hafter : Laid { b with mode := .afterBody } :=
    h.arrive hnested inferInstance (.of_holds hsteady.nested hsteady.holds) rfl id
  unfold finishInBody blockFrames
  refine .ite (fun _ => h.endTemplate hnested) fun htemplate => ?_
  refine .ite (fun _ => .either (fun _ => hafter) fun _ => h) fun hbody => ?_
  refine .ite (fun _ => .ite (fun _ => hafter) fun _ => h) fun hhtml => ?_
  refine .ite (fun hclosable => .either (fun hhas => ?_) fun _ => h) fun _ => ?_
  · have hnone : ∀ name ∈ closableNames, name ∉ partNames ++ Opened.stayingNames := by decide
    have := hkeeps.closeNamed (hnone name (List.contains_iff_mem.mp hclosable)) hhas
    exact h.keep hlasts
  refine .ite (fun _ => ?_) fun _ => ?_
  · have := keeps_finishForm (h := hkeeps)
    exact h.keep hlasts
  refine .ite (fun _ => ?_) fun _ => ?_
  · have := keeps_finishParagraph (h := hkeeps)
    exact h.keep hlasts
  refine .ite (fun hitem => .either (fun hhas => ?_) fun _ => h) fun _ => ?_
  · have hplain : name ∉ partNames := by
      simp only [Bool.or_eq_true, beq_iff_eq, or_assoc] at hitem
      rcases hitem with rfl | rfl | rfl <;> decide
    have hends : Bounding (if name == "li" then Opened.endsListScope else Opened.endsScope) := by
      split
      · exact bounding_endsListScope
      · exact bounding_endsScope
    have := hkeeps.closeExcept (atHand_of_has hends hplain hhas)
    exact h.keep hlasts
  refine .ite (fun _ => .ite (fun hscope => ?_) fun _ => h) fun _ => ?_
  · have hplain {e : Opened} (he : e.among headingNames = true) : e.isPart = false :=
      among_disjoint he (by decide)
    have := hkeeps.closeAtHand (fun _ => Opened.not_isPart_of_mayStayOpen)
      (fun _ he => among_disjoint he (by decide))
      fun halike => .of_inScope halike.nested bounding_endsScope (fun _ _ => hplain) hscope
    exact h.keep hlasts
  refine .ite (fun hformat => ?_) fun _ => ?_
  · have := hkeeps.closeFormatting (List.contains_iff_mem.mp hformat)
    exact h.keep hlasts
  refine .ite (fun hobject => .either (fun hhas => ?_) fun _ => h) fun _ => ?_
  · have hnone : ∀ name ∈ ["applet", "marquee", "object"], name ∉ partNames ++ Opened.stayingNames := by
      decide
    have := hkeeps.closeNamed (hnone name (List.contains_iff_mem.mp hobject)) hhas
    exact h.keep hlasts
  refine .ite (fun _ => ?_) fun _ => ?_
  · have : Plain .html { name := "br" } := plain_of_name (by decide)
    exact h.keep hlasts
  by_cases hpart : name ∈ partNames
  · simp only [beq_iff_eq] at htemplate hbody hhtml
    refine h.closePart hmode (by simp [htemplate, hbody, hhtml]) (hname.imp_right fun hnames => ?_)
    simpa [htemplate] using hnames hpart
  · have := hkeeps.closeGeneric hpart
    exact h.keep hlasts

theorem laid_eofInBody (h : b.Laid) (hnested : b.mode.isNested = true) : (b.readInBody .eof).1.Laid := by
  unfold readInBody
  exact .ite (fun _ => h) fun _ => h.endOfTemplates hnested

theorem laid_textInBody (h : b.Laid) (hmode : b.mode.lasts = true) (s : List Char) :
    (b.readInBody (.text s)).1.Laid := by
  have hkeeps := h.grown.keeps
  change (b.textInBody s).Laid
  exact h.keep hmode

/-- Only in the body itself are all end tags read as in the body. -/
def Ends (mode : Mode) (token : Token) : Prop :=
  ∀ name, token = .finish name → mode = .inBody ∨ (name ∈ partNames → name ∈ ["head", "frameset", "template"])

theorem ends_start (mode : Mode) (tag : Tag) : Ends mode (.start tag) := nofun

theorem ends_text (mode : Mode) (s : List Char) : Ends mode (.text s) := nofun

theorem ends_comment (mode : Mode) (s : String) : Ends mode (.comment s) := nofun

theorem ends_finish {name : String} (h : name ∈ partNames → name ∈ ["head", "frameset", "template"])
    (mode : Mode) : Ends mode (.finish name) := by
  rintro _ ⟨⟩
  exact .inr h

theorem laid_readInBody (h : b.Laid) (hmode : b.mode.isSteady = true) {token : Token}
    (hends : Ends b.mode token) : (b.readInBody token).1.Laid := by
  have hlasts := lasts_of_isSteady hmode
  have hkeeps := h.grown.keeps
  cases token with
  | text s => exact laid_textInBody h hlasts s
  | comment s =>
    change (b.addComment s).Laid
    exact h.keep hlasts
  | start tag => exact laid_startInBody h hmode tag
  | finish name => exact laid_finishInBody h hmode (hends name rfl)
  | eof => exact laid_eofInBody h (Mode.isNested_of_isSteady hmode)
  | doctype | null | lapse => exact h

theorem laid_readFostered (h : b.Laid) (hmode : b.mode.isSteady = true) {token : Token}
    (hends : Ends b.mode token) : (b.readFostered token).1.Laid := by
  have hfoster : Laid { b with fosters := true } := h.flags
  exact (laid_readInBody hfoster hmode hends).flags

end Builder

end PageGrader.Tree
