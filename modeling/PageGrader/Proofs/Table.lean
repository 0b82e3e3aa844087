import PageGrader.Proofs.Body

namespace PageGrader.Tree

open Markup (Tag Token)
open Opened (among_disjoint named_eq_true among_of_named among_singleton isPart_of_among
  not_among_of_named)

theorem among_of_not_named {e : Opened} {name : String} {names others : List String}
    (h : e.among names = true) (hnot : e.named name = false)
    (hsub : ∀ n ∈ names, n = name ∨ n ∈ others) : e.among others = true := by
  obtain ⟨hspace, hmem⟩ := Opened.among_eq_true.mp h
  refine Opened.among_eq_true.mpr ⟨hspace, (hsub _ hmem).resolve_left fun hsame => ?_⟩
  exact Bool.false_ne_true (hnot.symm.trans (named_eq_true.mpr ⟨hspace, hsame⟩))

/-- Closing a part of a table leaves what it stood right inside of. -/
theorem tops_outside {s : List Opened} {names : List String} {wanted : Opened → Bool} (hs : Nested s)
    (hopen : ∃ e ∈ s, wanted e = true)
    (hwanted : ∀ e, wanted e = true → e.among ["html", "head", "body"] = false)
    (htops : ∀ e t, wanted e = true → Sits t e → Tops names t) :
    Nested (outside wanted s) ∧ Tops names (outside wanted s) := by
  obtain ⟨before, e, hstack, he, -⟩ := exists_outside hopen
  rw [hstack] at hs
  obtain ⟨hsits, hrest⟩ := (hs.suffix (List.cons_ne_nil e _)).sits (hwanted e he)
  exact ⟨hrest, htops e _ he hsits⟩

theorem Sits.tops_group {e : Opened} {s : List Opened} (h : Sits s e)
    (he : e.among ["caption", "colgroup", "tbody", "tfoot", "thead"] = true) : Tops ["table", "template"] s :=
  (h.tops (isPart_of_among he (by decide))).1 he

theorem Sits.tops_row {e : Opened} {s : List Opened} (h : Sits s e) (he : e.among ["tr"] = true) :
    Tops ["tbody", "tfoot", "thead", "template"] s := by
  obtain ⟨hspace, hname⟩ := Opened.among_eq_true.mp he
  exact (h.tops (isPart_of_among he (by decide))).2.1
    (named_eq_true.mpr ⟨hspace, List.mem_singleton.mp hname⟩)

theorem Sits.tops_cell {e : Opened} {s : List Opened} (h : Sits s e) (he : e.among ["td", "th"] = true) :
    Tops ["tr", "template"] s :=
  (h.tops (isPart_of_among he (by decide))).2.2 he

/-- Where a scope of tables reaches a part, the innermost part is no template. -/
theorem Begins.not_template {s : List Opened} {names others : List String} {stop wanted : Opened → Bool}
    (h : Begins names s) (hstop : ∀ e, e.among names = true → stop e = true)
    (hpart : ∀ e, stop e = true → e.isPart = true) (hscope : inScope (·.endsTableScope) wanted s = true)
    (hwanted : ∀ e, wanted e = true → e.among others = true) (hothers : ∀ n ∈ others, n ∈ partNames)
    (htemplate : "template" ∉ others) : ∀ e ∈ (s.dropWhile (!stop ·)).head?, e.named "template" = false := by
  obtain ⟨before, f, after, rfl, hbefore, -, hname⟩ := h.split
  have hkeep : ∀ g ∈ before, wanted g = false := fun g hg => Bool.eq_false_iff.mpr fun hw =>
    Bool.eq_false_iff.mp (hbefore g hg) (isPart_of_among (hwanted g hw) hothers)
  have hskip : ∀ g ∈ before, (!stop g) = true := fun g hg => by
    rw [Bool.not_eq_true']
    exact Bool.eq_false_iff.mpr fun hs => Bool.eq_false_iff.mp (hbefore g hg) (hpart g hs)
  intro e he
  rw [List.dropWhile_append_of_pos hskip, List.dropWhile_cons_of_neg (by simp [hstop f hname])] at he
  obtain rfl := Option.some.inj he
  refine Bool.eq_false_iff.mpr fun hroot => ?_
  -- A template would end the scope before anything wanted is met.
  have hreach := inScope_of_append hkeep hscope
  have hnot : wanted f = false := Bool.eq_false_iff.mpr fun hw =>
    Bool.false_ne_true ((not_among_of_named hroot htemplate).symm.trans (hwanted f hw))
  have hends : f.endsTableScope = true := among_of_named hroot (by decide)
  simp [inScope, hnot, hends] at hreach

namespace Builder

variable {a b c : Builder}

/-- What was open inside of something was closed. -/
structure Cleared (a b : Builder) (names : List String) : Prop where
  grown : Grown a b
  nested : Nested b.stack
  tops : Tops names b.stack
  body : HasBody a.stack → HasBody b.stack

theorem Laid.cleared (h : b.Laid) (hnested : b.mode.isNested = true) {names : List String}
    {wanted : Opened → Bool} (htops : Tops names (b.stack.dropWhile (!wanted ·)))
    (hnames : ∀ n ∈ names, n ∉ ["html", "body"]) : Cleared b (b.popUntil wanted) names := by
  have := h.grown
  obtain ⟨hs, hbody⟩ := (h.nested hnested).dropWhile htops hnames
  exact ⟨inferInstance, hs, htops, hbody⟩

/-- A part of a table is opened right inside of what it is part of. -/
theorem Laid.openPart (h : a.Laid) (hnested : a.mode.isNested = true) {names : List String}
    (hc : Cleared a c names) (hb : Grown a b) {id : Nat} {name : String}
    (hstack : b.stack = ⟨id, .html, name⟩ :: c.stack) (hsits : Sits c.stack ⟨id, .html, name⟩)
    (hname : name ∈ partNames) (hinner : name ∉ ["html", "head"])
    (hfits : Within [name] b.stack → Fits b.mode b.stack) (hearly : b.mode.isEarly = false) : b.Laid := by
  refine h.arrive hnested hb (hfits ?_) hearly fun hopen => ?_
  · rw [hstack]
    exact within_cons hc.nested hsits (among_singleton (named_eq_true.mpr ⟨rfl, rfl⟩))
      (by simpa using hname) (by simpa using hinner)
  · rw [hstack]
    exact (hc.body hopen).cons _

/-- A part of a table is closed when nothing is open inside of it. -/
theorem Laid.popPart (h : a.Laid) (hnested : a.mode.isNested = true) {names outer : List String}
    (hc : Cleared a c names) (hb : Grown a b) (hstack : b.stack = c.stack.drop 1)
    (hnames : ∀ n ∈ names, n ∉ ["html", "head", "body"])
    (htops : ∀ e ∈ c.stack.head?, ∀ t, e.among names = true → Sits t e → Tops outer t)
    (hparts : ∀ n ∈ outer, n ∈ partNames) (houter : ∀ n ∈ outer, n ∉ ["html", "head"])
    (hfits : Within outer b.stack → Fits b.mode b.stack) (hearly : b.mode.isEarly = false) : b.Laid := by
  obtain ⟨e, he, hname⟩ := hc.tops
  obtain ⟨s, hs⟩ := List.head?_eq_some_iff.mp he
  have hout := among_disjoint hname hnames
  have hnest := hc.nested
  rw [hs] at hnest hstack
  obtain ⟨hsits, hrest⟩ := hnest.sits hout
  refine h.arrive hnested hb (hfits ?_) hearly fun hopen => ?_
  · rw [hstack]
    exact .of_tops hrest (htops e he s hname hsits) hparts houter
  · have hbody := hc.body hopen
    rw [hs] at hbody
    rw [hstack]
    refine hbody.of_cons (Bool.eq_false_iff.mpr fun hroot => ?_)
    exact Bool.false_ne_true (hout.symm.trans (Opened.among_mono hroot (by decide)))

theorem isNested_of_tableMode {mode : Mode} (h : mode ∈ tableModes) : mode.isNested = true :=
  Mode.isNested_of_isSteady (steady_of_tableMode h)

theorem Laid.cleared_toTable (h : b.Laid) (hmode : b.mode ∈ tableModes) :
    Cleared b b.toTable ["table", "template"] := by
  have hnested := isNested_of_tableMode hmode
  have hfits := h.fits_of_nested hnested
  refine h.cleared hnested ((h.nested hnested).tops_table ?_) (by decide)
  simp only [tableModes, List.mem_cons, List.not_mem_nil, or_false] at hmode
  rcases hmode with hmode | hmode | hmode
  all_goals
    rw [hmode] at hfits
    exact hfits.begins.mono (by decide)

/-- A group of a table is opened, right inside of the table. -/
theorem Laid.openGroup (h : b.Laid) (hmode : b.mode ∈ tableModes) (hc : Grown b c) {id : Nat} {name : String}
    (hstack : c.stack = ⟨id, .html, name⟩ :: b.toTable.stack)
    (hname : name ∈ ["caption", "colgroup", "tbody", "tfoot", "thead"])
    (hfits : Within [name] c.stack → Fits c.mode c.stack) (hearly : c.mode.isEarly = false) : c.Laid := by
  have hpart : ∀ n ∈ ["caption", "colgroup", "tbody", "tfoot", "thead"],
      n ∈ partNames ∧ n ∉ ["html", "head"] := by decide
  have hclear := h.cleared_toTable hmode
  exact h.openPart (isNested_of_tableMode hmode) hclear hc hstack
    (.group (Opened.among_eq_true.mpr ⟨rfl, hname⟩) hclear.tops) (hpart name hname).1 (hpart name hname).2
    hfits hearly

theorem Laid.closeTable (h : b.Laid) (hnested : b.mode.isNested = true)
    (hscope : b.inTableScope "table" = true) : (b.popNamed "table").resetMode.Laid :=
  have := h.grown
  h.close hnested inferInstance rfl (exists_of_inScope hscope) fun _ he => not_among_of_named he (by decide)

theorem laid_startInTable (h : b.Laid) (hmode : b.mode ∈ tableModes) (tag : Tag) :
    (b.startInTable tag).1.Laid := by
  have hsteady := steady_of_tableMode hmode
  have hnested := Mode.isNested_of_isSteady hsteady
  have hkeeps := h.grown.keeps
  have hclear : Grown b b.toTable := (h.cleared_toTable hmode).grown
  have husual {names : List String} (hmem : tag.name ∈ names)
      (hnames : ∀ n ∈ names, n ∉ ["html", "head", "body"]) :
      Usual .html tag := usual_of_name (hnames _ hmem)
  unfold startInTable
  dsimp only
  refine .ite (fun hname => ?_) fun _ => ?_
  · rw [beq_iff_eq] at hname
    have := husual (List.mem_singleton.mpr hname) (by decide)
    exact h.openGroup hmode inferInstance (stack_insert _ tag) (by rw [hname]; decide)
      (by rw [hname]; exact id) rfl
  refine .ite (fun hname => ?_) fun _ => ?_
  · rw [beq_iff_eq] at hname
    have := husual (List.mem_singleton.mpr hname) (by decide)
    exact h.openGroup hmode inferInstance (stack_insert _ tag) (by rw [hname]; decide)
      (by rw [hname]; exact fun hw => hw.mono (by decide)) rfl
  refine .ite (fun _ => ?_) fun _ => ?_
  · have : Usual .html { name := "colgroup" } := usual_of_name (by decide)
    exact h.openGroup hmode inferInstance (stack_insert _ { name := "colgroup" }) (by decide)
      (fun hw => hw.mono (by decide)) rfl
  refine .ite (fun hname => ?_) fun _ => ?_
  · rw [List.contains_iff_mem] at hname
    have := husual hname (by decide)
    have hgroup : ∀ n ∈ sectionNames, n ∈ ["caption", "colgroup", "tbody", "tfoot", "thead"] ∧
        n ∈ ["tbody", "tfoot", "thead", "template"] := by decide
    exact h.openGroup hmode inferInstance (stack_insert _ tag) (hgroup _ hname).1
      (fun hw => hw.mono (by simpa using (hgroup _ hname).2)) rfl
  refine .ite (fun _ => ?_) fun _ => ?_
  · have : Usual .html { name := "tbody" } := usual_of_name (by decide)
    exact h.openGroup hmode inferInstance (stack_insert _ { name := "tbody" }) (by decide)
      (fun hw => hw.mono (by decide)) rfl
  refine .ite (fun _ => .ite (fun hscope => h.closeTable hnested hscope) fun _ => h) fun _ => ?_
  refine .ite (fun _ => h.startInHead_getD hnested tag h) fun _ => ?_
  refine .ite (fun hname => ?_) fun _ => ?_
  · have := plain_of_beq (Bool.and_eq_true _ _ ▸ hname).1 (by decide)
    exact h.keep (lasts_of_isSteady hsteady)
  refine .ite (fun hname => .ite (fun _ => h) fun _ => ?_) fun _ => ?_
  · have : Plain .html tag := plain_of_beq hname (by decide)
    have hform : Keeps b { (b.insertClosed .html tag).2 with
        form := some (b.insertClosed .html tag).1.id } := by
      refine (keeps_insertClosed (h := hkeeps) .html tag).noteForm fun id hid => ?_
      have := h.grown.sound
      obtain rfl := Option.some.inj hid
      exact (opened_insertClosed (b := b) .html tag).tag.trans (by rw [fst_insertClosed, beq_iff_eq.mp hname])
    exact Laid.keep h (lasts_of_isSteady hsteady)
  exact laid_readFostered h hsteady (ends_start _ tag)

theorem laid_textInTable (h : b.Laid) (hmode : b.mode ∈ tableModes) {token : Token}
    (hends : Ends b.mode token) : (b.textInTable token).1.Laid := by
  have hnested := isNested_of_tableMode hmode
  have := h.grown
  refine .ite (fun _ => ?_) fun _ => laid_readFostered h (steady_of_tableMode hmode) hends
  have hfits := h.fits_of_nested hnested
  have hb : Grown b { b with resume := b.mode, mode := .inTableText } := inferInstance
  exact ⟨hb.refl, ⟨hmode, hfits⟩, h.progress_of_fits hfits⟩

theorem of_strayTableEnds {name : String} (htable : ¬(name == "table") = true)
    (hstray : ¬strayTableEnds.contains name = true) (hpart : name ∈ partNames) :
    name ∈ ["head", "frameset", "template"] := by
  simp only [partNames, strayTableEnds, List.contains_iff_mem, beq_iff_eq, List.mem_cons, List.not_mem_nil,
    or_false, not_or] at hpart hstray htable ⊢
  tauto

theorem laid_readInTable (h : b.Laid) (hmode : b.mode ∈ tableModes) (token : Token) :
    (b.readInTable token).1.Laid := by
  have hsteady := steady_of_tableMode hmode
  have hnested := Mode.isNested_of_isSteady hsteady
  have hkeeps := h.grown.keeps
  cases token with
  | text s | null => exact laid_textInTable h hmode nofun
  | comment s =>
    change (b.addComment s).Laid
    exact h.keep (lasts_of_isSteady hsteady)
  | start tag => exact laid_startInTable h hmode tag
  | finish name =>
    refine .ite (fun _ => .either (fun hscope => h.closeTable hnested hscope) fun _ => h) fun htable => ?_
    refine .ite (fun _ => h) fun hstray => ?_
    refine .ite (fun _ => h.endTemplate hnested) fun _ => ?_
    exact laid_readFostered h hsteady (ends_finish (of_strayTableEnds htable hstray) _)
  | eof => exact laid_eofInBody h hnested
  | doctype | lapse => exact h

theorem keeps_releaseText [h : Keeps a b] : Keeps a b.releaseText := by
  have hempty : Keeps a { b with tableText := [] } := inferInstance
  unfold releaseText
  dsimp only
  split
  · exact hempty.foldl _ fun c x _ hc => keeps_addText (h := hc) x.1
  · refine hempty.foldl _ fun c x _ hc => ?_
    have : Keeps a ({ c with fosters := true }.textInBody x.1.toList) := inferInstance
    exact keeps_mk

theorem laid_readInTableText (h : b.Laid) (hmode : b.mode = .inTableText) (token : Token) :
    (b.readInTableText token).1.Laid := by
  have hkeeps := h.grown.keeps
  have hkept := keeps_releaseText (h := hkeeps)
  have hlasts : b.mode.lasts = true := by rw [hmode]; rfl
  have hreleased : b.releaseText.Laid := h.keep hlasts
  have hleave : (b.releaseText.againIn b.resume).1.Laid := by
    have hstill : b.releaseText.mode = .inTableText := hkept.mode.trans hmode
    have hfitting := hreleased.fitting
    have hprogress := hreleased.progress
    unfold Fitting at hfitting
    unfold place at hprogress
    rw [hstill] at hfitting hprogress
    rw [← hkept.resume]
    exact .of_fits (grown_againIn (h := hreleased.grown) _).refl hfitting.2 hprogress
  unfold readInTableText
  split
  · exact h
  · exact h.flags
  · exact hleave

/-- A part of a table is closed, with all that is open in it. -/
theorem Laid.closePartOf (h : a.Laid) (hnested : a.mode.isNested = true) (hb : Grown a b)
    {wanted : Opened → Bool} {names : List String} (hstack : b.stack = outside wanted a.stack)
    (hopen : ∃ e ∈ a.stack, wanted e = true)
    (hwanted : ∀ e, wanted e = true → e.among ["html", "head", "body"] = false)
    (htops : ∀ e t, wanted e = true → Sits t e → Tops names t) (hparts : ∀ n ∈ names, n ∈ partNames)
    (hinner : ∀ n ∈ names, n ∉ ["html", "head"]) (hfits : Within names b.stack → Fits b.mode b.stack)
    (hearly : b.mode.isEarly = false) : b.Laid := by
  have hs := h.nested hnested
  obtain ⟨hrest, htop⟩ := tops_outside hs hopen hwanted htops
  refine h.arrive hnested hb (hfits ?_) hearly fun hbody => ?_
  · rw [hstack]
    exact .of_tops hrest htop hparts hinner
  · rw [hstack]
    refine hbody.outside hs hopen fun e he => Bool.eq_false_iff.mpr fun hname => ?_
    exact Bool.false_ne_true ((hwanted e he).symm.trans (Opened.among_mono hname (by decide)))

theorem Laid.endCaption (h : b.Laid) (hmode : b.mode = .inCaption)
    (hscope : b.inTableScope "caption" = true) : b.endCaption.Laid := by
  have hnested : b.mode.isNested = true := by rw [hmode]; rfl
  have := h.grown
  unfold Builder.endCaption
  refine h.closePartOf hnested inferInstance ?_ (exists_of_inScope hscope)
    (fun e he => not_among_of_named he (by decide))
    (fun e t he hsits => hsits.tops_group (among_of_named he (by decide))) (by decide) (by decide) id rfl
  exact outside_dropWhile (fun e he => Opened.not_mayStayOpen_of_named he (by decide)) b.stack

theorem laid_readInCaption (h : b.Laid) (hmode : b.mode = .inCaption) (token : Token) :
    (b.readInCaption token).1.Laid := by
  have hsteady : b.mode.isSteady = true := by rw [hmode]; rfl
  have hleave : (if b.inTableScope "caption" then (b.endCaption, Next.again) else (b, .done)).1.Laid :=
    .ite (fun hscope => h.endCaption hmode hscope) fun _ => h
  unfold readInCaption
  dsimp only
  split
  · exact .ite (fun _ => hleave) fun _ => laid_readInBody h hsteady (ends_start _ _)
  next name =>
    refine .ite (fun _ => .either (fun hscope => h.endCaption hmode hscope) fun _ => h) fun _ => ?_
    refine .ite (fun _ => hleave) fun htable => ?_
    refine .ite (fun _ => h) fun hstray => ?_
    exact laid_readInBody h hsteady (ends_finish (of_strayTableEnds htable hstray) _)
  next hfinish => exact laid_readInBody h hsteady fun name hname => (hfinish name hname).elim

theorem laid_readInColumnGroup (h : b.Laid) (hmode : b.mode = .inColumnGroup) (token : Token) :
    (b.readInColumnGroup token).1.Laid := by
  have hsteady : b.mode.isSteady = true := by rw [hmode]; rfl
  have hnested := Mode.isNested_of_isSteady hsteady
  have hlasts := lasts_of_isSteady hsteady
  have hkeeps := h.grown.keeps
  have hpop (hcurrent : b.currentNamed "colgroup" = true) : Laid { b.pop with mode := .inTable } := by
    obtain ⟨e, he, hname⟩ := (Option.any_eq_true _ _).mp hcurrent
    have hgroup : e.among ["colgroup"] = true := among_singleton hname
    have hc : Cleared b b ["colgroup"] := ⟨h.grown, h.nested hnested, ⟨e, he, hgroup⟩, id⟩
    exact h.popPart hnested hc inferInstance rfl (by decide)
      (fun f _ t hf hsits => hsits.tops_group (Opened.among_mono hf (by decide)))
      (by decide) (by decide) id rfl
  have hleave : (if b.currentNamed "colgroup" then b.pop.againIn .inTable else (b, .done)).1.Laid :=
    .ite hpop fun _ => h
  unfold readInColumnGroup
  dsimp only
  split
  · exact .ite (fun _ => h.keep hlasts) fun _ => hleave
  · exact h.keep hlasts
  next tag =>
    refine .ite (fun _ => h.keep hlasts) fun _ => ?_
    refine .ite (fun hname => ?_) fun _ => ?_
    · have := plain_of_beq hname (by decide)
      exact h.keep hlasts
    exact .ite (fun _ => h.startInHead_getD hnested tag hleave) fun _ => hleave
  next name =>
    refine .ite (fun _ => .ite hpop fun _ => h) fun _ => ?_
    refine .ite (fun _ => h) fun _ => ?_
    exact .ite (fun _ => h.endTemplate hnested) fun _ => hleave
  · exact laid_eofInBody h hnested
  · exact hleave

theorem Laid.fits_of_mode (h : b.Laid) {mode : Mode} (hmode : b.mode = mode)
    (hnested : mode.isNested = true) : Fits mode b.stack := by
  subst hmode
  exact h.fits_of_nested hnested

/-- Goes out to the innermost part. -/
theorem Laid.clearedPart (h : b.Laid) (hnested : b.mode.isNested = true) {names : List String}
    (hwithin : Within names b.stack) {stop : Opened → Bool}
    (hstop : ∀ e, e.among names = true → stop e = true)
    (hpart : ∀ e, stop e = true → e.isPart = true) (hnames : ∀ n ∈ names, n ∉ ["html", "body"]) :
    Cleared b (b.popUntil stop) names :=
  h.cleared hnested (hwithin.begins.dropWhile hwithin.nested hstop hpart).2 hnames

/-- Closes the innermost part, which is no template when a scope of tables reaches some part. -/
theorem Laid.endPart (h : b.Laid) (hnested : b.mode.isNested = true) {names outer others : List String}
    (hwithin : Within names b.stack) {stop wanted : Opened → Bool}
    (hstop : ∀ e, e.among names = true → stop e = true) (hpart : ∀ e, stop e = true → e.isPart = true)
    (hnames : ∀ n ∈ names, n ∉ ["html", "head", "body"])
    (hscope : inScope (·.endsTableScope) wanted b.stack = true)
    (hwanted : ∀ e, wanted e = true → e.among others = true)
    (hothers : (∀ n ∈ others, n ∈ partNames) ∧ "template" ∉ others)
    (htops : ∀ e t, e.among names = true → e.named "template" = false → Sits t e → Tops outer t)
    (houter : (∀ n ∈ outer, n ∈ partNames) ∧ ∀ n ∈ outer, n ∉ ["html", "head"]) {mode : Mode}
    (hfits : ∀ s, Within outer s → Fits mode s) (hearly : mode.isEarly = false) :
    Laid { (b.popUntil stop).pop with mode } := by
  have hclear := h.clearedPart hnested hwithin hstop hpart
    fun n hn hmem => hnames n hn (by revert hmem; simp; tauto)
  have := hclear.grown
  refine h.popPart hnested hclear inferInstance rfl hnames (fun e he t hname hsits => ?_) houter.1 houter.2
    (hfits _) hearly
  have hnot := hwithin.begins.not_template hstop hpart hscope hwanted hothers.1 hothers.2 e he
  exact htops e t hname hnot hsits

theorem Laid.endSection (h : b.Laid) (hmode : b.mode = .inTableBody) {names : List String}
    {wanted : Opened → Bool} (hscope : inScope (·.endsTableScope) wanted b.stack = true)
    (hwanted : ∀ e, wanted e = true → e.among names = true)
    (hnames : (∀ n ∈ names, n ∈ partNames) ∧ "template" ∉ names) :
    Laid { b.toSection.pop with mode := .inTable } := by
  have hwithin : Within ["tbody", "tfoot", "thead", "template"] b.stack := h.fits_of_mode hmode rfl
  exact h.endPart (by rw [hmode]; rfl) hwithin (fun _ he => Opened.among_mono he (by decide))
    (fun _ he => isPart_of_among he (by decide)) (by decide) hscope hwanted hnames
    (fun e t he hnot hsits => hsits.tops_group (among_of_not_named he hnot (by decide)))
    (by decide) (fun _ hw => hw) rfl

theorem Laid.endRow (h : b.Laid) (hmode : b.mode = .inRow) (hscope : b.inTableScope "tr" = true) :
    Laid { b.toRow.pop with mode := .inTableBody } := by
  have hwithin : Within ["tr", "template"] b.stack := h.fits_of_mode hmode rfl
  exact h.endPart (by rw [hmode]; rfl) hwithin (fun _ he => Opened.among_mono he (by decide))
    (fun _ he => isPart_of_among he (by decide)) (by decide) hscope
    (fun _ he => among_singleton he) (by decide)
    (fun e t he hnot hsits => hsits.tops_row (among_of_not_named he hnot (by decide)))
    (by decide) (fun _ hw => hw) rfl

theorem laid_readInTableBody (h : b.Laid) (hmode : b.mode = .inTableBody) (token : Token) :
    (b.readInTableBody token).1.Laid := by
  have hnested : b.mode.isNested = true := by rw [hmode]; rfl
  have htable : b.mode ∈ tableModes := by rw [hmode]; decide
  have hwithin : Within ["tbody", "tfoot", "thead", "template"] b.stack := h.fits_of_mode hmode rfl
  have hclear : Cleared b b.toSection ["tbody", "tfoot", "thead", "template"] :=
    h.clearedPart hnested hwithin (fun _ he => Opened.among_mono he (by decide))
      (fun _ he => isPart_of_among he (by decide)) (by decide)
  have := hclear.grown
  have hleave : (if inScope (·.endsTableScope) (·.among ["table", "tbody", "tfoot"]) b.stack then
      b.toSection.pop.againIn .inTable else (b, .done)).1.Laid :=
    .ite (fun hscope => h.endSection hmode hscope (fun _ he => he) (by decide)) fun _ => h
  have hrow (tag : Tag) (hname : tag.name = "tr") : Laid { b.toSection.insert tag with mode := .inRow } := by
    have : Usual .html tag := usual_of_name (by rw [hname]; decide)
    have hstack := stack_insert b.toSection tag
    rw [hname] at hstack
    exact h.openPart hnested hclear inferInstance hstack (.row rfl hclear.tops) (by decide) (by decide)
      (fun hw => hw.mono (by decide)) rfl
  unfold readInTableBody
  dsimp only
  split
  next tag =>
    refine .ite (fun hname => hrow tag (beq_iff_eq.mp hname)) fun _ => ?_
    refine .ite (fun _ => hrow { name := "tr" } rfl) fun _ => ?_
    exact .ite (fun _ => hleave) fun _ => laid_readInTable h htable _
  next name =>
    refine .ite (fun hsection => .ite (fun hscope => ?_) fun _ => h) fun _ => ?_
    · rw [List.contains_iff_mem] at hsection
      exact h.endSection hmode hscope (fun _ he => among_of_named he hsection) (by decide)
    refine .ite (fun _ => hleave) fun _ => ?_
    exact .ite (fun _ => h) fun _ => laid_readInTable h htable _
  next => exact laid_readInTable h htable _

theorem laid_readInRow (h : b.Laid) (hmode : b.mode = .inRow) (token : Token) :
    (b.readInRow token).1.Laid := by
  have hnested : b.mode.isNested = true := by rw [hmode]; rfl
  have htable : b.mode ∈ tableModes := by rw [hmode]; decide
  have hwithin : Within ["tr", "template"] b.stack := h.fits_of_mode hmode rfl
  have hclear : Cleared b b.toRow ["tr", "template"] :=
    h.clearedPart hnested hwithin (fun _ he => Opened.among_mono he (by decide))
      (fun _ he => isPart_of_among he (by decide)) (by decide)
  have := hclear.grown
  have hleave : (if b.inTableScope "tr" then b.toRow.pop.againIn .inTableBody else (b, .done)).1.Laid :=
    .ite (fun hscope => h.endRow hmode hscope) fun _ => h
  unfold readInRow
  dsimp only
  split
  next tag =>
    refine .ite (fun hname => ?_) fun _ => ?_
    · have hcell : tag.name ∈ ["td", "th"] := by
        simp only [Bool.or_eq_true, beq_iff_eq] at hname
        rcases hname with hname | hname
        all_goals
          rw [hname]
          decide
      have hall : ∀ n ∈ ["td", "th"], n ∈ partNames ∧ n ∉ ["html", "head", "body"] := by decide
      have : Usual .html tag := usual_of_name (hall _ hcell).2
      exact h.openPart hnested hclear inferInstance (stack_insert b.toRow tag)
        (.cell (Opened.among_eq_true.mpr ⟨rfl, hcell⟩) hclear.tops) (hall _ hcell).1
        (fun hmem => (hall _ hcell).2 (by revert hmem; simp; tauto))
        (fun hw => hw.mono (by simpa using hcell)) rfl
    exact .ite (fun _ => hleave) fun _ => laid_readInTable h htable _
  next name =>
    refine .ite (fun _ => .ite (fun hscope => h.endRow hmode hscope) fun _ => h) fun _ => ?_
    refine .ite (fun _ => hleave) fun _ => ?_
    refine .ite (fun _ => .ite (fun _ => hleave) fun _ => h) fun _ => ?_
    exact .ite (fun _ => h) fun _ => laid_readInTable h htable _
  next => exact laid_readInTable h htable _

/-- A cell is closed, with all that is open in it. -/
theorem Laid.closeCell (h : b.Laid) (hmode : b.mode = .inCell) {wanted : Opened → Bool}
    (hopen : ∃ e ∈ b.stack, wanted e = true) (hwanted : ∀ e, wanted e = true → e.among ["td", "th"] = true) :
    Laid { ((b.closeImplied (·.mayStayOpen)).popThrough wanted).clearToMarker with mode := .inRow } := by
  have := h.grown
  refine h.closePartOf (by rw [hmode]; rfl) inferInstance ?_ hopen
    (fun e he => among_disjoint (hwanted e he) (by decide))
    (fun e t he hsits => hsits.tops_cell (hwanted e he))
    (by decide) (by decide) (fun hw => hw) rfl
  exact outside_dropWhile (fun e he => among_disjoint (hwanted e he) (by decide)) b.stack

theorem laid_readInCell (h : b.Laid) (hmode : b.mode = .inCell) (token : Token) :
    (b.readInCell token).1.Laid := by
  have hsteady : b.mode.isSteady = true := by rw [hmode]; rfl
  have hwithin : Within ["td", "th"] b.stack := h.fits_of_mode hmode rfl
  have hend : b.endCell.Laid := by
    obtain ⟨e, he, hname⟩ := hwithin.begins
    exact h.closeCell hmode ⟨e, List.mem_of_find?_eq_some he, hname⟩ fun _ he => he
  unfold readInCell
  split
  · refine .ite (fun _ => .ite (fun _ => hend) fun _ => h) fun _ => ?_
    exact laid_readInBody h hsteady (ends_start _ _)
  next name =>
    refine .ite (fun hcell => .ite (fun hscope => ?_) fun _ => h) fun hcell => ?_
    · refine h.closeCell hmode (exists_of_inScope hscope) fun e he => among_of_named he ?_
      simpa using hcell
    refine .ite (fun _ => h) fun hstray => ?_
    refine .ite (fun _ => .ite (fun _ => hend) fun _ => h) fun htable => ?_
    refine laid_readInBody h hsteady (ends_finish (fun hpart => ?_) _)
    simp only [partNames, List.contains_iff_mem, Bool.or_eq_true, beq_iff_eq, List.mem_cons, List.not_mem_nil,
      or_false, not_or] at hpart hcell hstray htable ⊢
    tauto
  next hfinish => exact laid_readInBody h hsteady fun name hname => (hfinish name hname).elim

end Builder

end PageGrader.Tree
