import PageGrader.Proofs.Keeping
import PageGrader.Tree.Reading

namespace PageGrader.Tree

open Markup (Tag Content)
open Nodes (Grows)
open Opened (among_eq_true named_eq_true among_of_named among_singleton not_among_of_named)

/-- The modes in which text of a table may be met. -/
def tableModes : List Mode := [.inTable, .inTableBody, .inRow]

namespace Mode

/-- The modes before there is a head. -/
def isEarly : Mode → Bool
  | .initial | .beforeHtml | .beforeHead => true
  | _ => false

/-- The modes of a page that has a frame set for its body. -/
def isFrames : Mode → Bool
  | .inFrameset | .afterFrameset | .afterAfterFrameset => true
  | _ => false

/-- The modes in which all kinds of elements can be opened. -/
def isSteady : Mode → Bool
  | .inBody | .inSelect | .afterBody | .afterAfterBody | .inTable | .inCaption | .inColumnGroup
  | .inTableBody | .inRow | .inCell | .inTemplate => true
  | _ => false

/-- The modes in which the root is the outermost of what is open, from the head on. -/
def isNested : Mode → Bool
  | .inHead | .afterHead | .inSelectInTable => true
  | mode => mode.isSteady

/-- The modes that go on as long as the same parts are open. -/
def lasts (mode : Mode) : Bool := mode.isSteady || mode.isFrames || mode == .inTableText

variable {mode : Mode}

theorem isNested_of_isSteady (h : mode.isSteady = true) : mode.isNested = true := by
  revert h
  cases mode <;> decide

theorem not_isEarly_of_isNested (h : mode.isNested = true) : mode.isEarly = false := by
  revert h
  cases mode <;> decide

theorem not_isFrames_of_isNested (h : mode.isNested = true) : mode.isFrames = false := by
  revert h
  cases mode <;> decide

theorem begun_of_not_isEarly (h : mode.isEarly = false) : mode ∉ [initial, beforeHtml] := by
  revert h
  cases mode <;> decide

theorem not_isEarly_of_isFrames (h : mode.isFrames = true) : mode.isEarly = false := by
  revert h
  cases mode <;> decide

end Mode

/-- What is open in a mode. -/
def Fits : Mode → List Opened → Prop
  | .initial, s | .beforeHtml, s => s = []
  | .beforeHead, s | .afterHead, s => ∃ r, s = [r] ∧ r.named "html" = true
  | .inHead, s => ∃ e r, s = [e, r] ∧ e.named "head" = true ∧ r.named "html" = true
  | .inBody, s | .inSelect, s | .afterBody, s | .afterAfterBody, s => Within partNames s
  | .inSelectInTable, s => Within partNames s ∧ ∃ e ∈ s, e.named "select" = true
  | .inTable, s => Within ["table", "template"] s
  | .inCaption, s => Within ["caption"] s
  | .inColumnGroup, s => Within ["colgroup", "template"] s
  | .inTableBody, s => Within ["tbody", "tfoot", "thead", "template"] s
  | .inRow, s => Within ["tr", "template"] s
  | .inCell, s => Within ["td", "th"] s
  | .inTemplate, s => Within ["template"] s
  | .inFrameset, _ | .afterFrameset, _ | .afterAfterFrameset, _ => True
  | .rawText, _ | .inTableText, _ => False

namespace Fits

variable {mode : Mode} {e : Opened} {s t : List Opened}

theorem steady (h : Fits mode s) (hmode : mode.isSteady = true) : Nested s ∧ Holds s := by
  cases mode <;> first | exact ⟨h.nested, h.holds⟩ | cases hmode

theorem alike (h : Fits mode s) (hmode : mode.isSteady = true) (hst : Alike s t) : Fits mode t := by
  cases mode <;> first | exact Within.alike h hst | cases hmode

theorem nested (h : Fits mode s) (hmode : mode.isNested = true) : Nested s := by
  cases mode with
  | inHead =>
    obtain ⟨e, r, rfl, he, hr⟩ := h
    exact .outer (among_of_named he (by decide)) hr
  | afterHead =>
    obtain ⟨r, rfl, hr⟩ := h
    exact .root hr
  | inSelectInTable => exact h.1.nested
  | _ => first | exact h.nested | cases hmode

/-- A mode goes on fitting when an element is opened that any mode allows. -/
theorem push (h : Fits mode s) (hs : Holds s) (he : e.isPart = false) : Fits mode (e :: s) := by
  have hroot {r : Opened} (hr : r.named "html" = true) : r.among ["body", "template"] = false :=
    not_among_of_named hr (by decide)
  cases mode with
  | initial | beforeHtml => exact absurd h hs.ne_nil
  | beforeHead | afterHead =>
    obtain ⟨r, rfl, hr⟩ := h
    exact absurd rfl (hs.of_cons (hroot hr)).ne_nil
  | inHead =>
    obtain ⟨f, r, rfl, hf, hr⟩ := h
    have hhead : f.among ["body", "template"] = false :=
      not_among_of_named hf (by decide)
    exact absurd rfl ((hs.of_cons hhead).of_cons (hroot hr)).ne_nil
  | inSelectInTable => exact ⟨h.1.push he, h.2.imp fun _ hf => hf.imp_left (List.mem_cons_of_mem e)⟩
  | _ => first | exact Within.push h he | exact h

theorem of_isFrames (h : mode.isFrames = true) (s : List Opened) : Fits mode s := by
  cases mode <;> trivial

end Fits

/-- How far the page has come: whether there is a root, a head and a body. -/
inductive Progress (mode : Mode) (nodes : Nodes) (head : Option Opened) (stack : List Opened) : Prop where
  | bare (hmode : mode ∈ [.initial, .beforeHtml]) (hnodes : nodes.Bare) (hhead : head = none)
  | rooted (hmode : mode = .beforeHead) (hleads : ∃ r, nodes.Leads r) (hhead : head = none)
    (hlacks : nodes.Lacks "head" ∧ nodes.Lacks "body")
  | headed (hmode : mode.isEarly = false) (hleads : ∃ r, nodes.Leads r) (hhead : head.isSome = true)
    (hsole : nodes.Sole "head" ∧ nodes.Sole "body")
    (hbody : mode.isFrames = true ∨ HasBody stack ∨ nodes.Lacks "body")

namespace Progress

variable {mode : Mode} {nodes ms : Nodes} {head : Option Opened} {stack rest : List Opened}

theorem grow (h : Progress mode nodes head stack) (hmode : mode ∉ [.initial, .beforeHtml])
    (hgrows : Grows nodes ms) (hbody : mode.isFrames = true ∨ (HasBody stack → HasBody rest)) :
    Progress mode ms head rest := by
  have hleads : (∃ r, nodes.Leads r) → ∃ r, ms.Leads r := fun ⟨r, hr⟩ => ⟨r, hgrows.leads r hr⟩
  cases h with
  | bare hmem => exact absurd hmem hmode
  | rooted hbefore hroot hhead hlacks =>
    exact .rooted hbefore (hleads hroot) hhead
      ⟨hlacks.1.after hgrows.toAfter (hgrows.made_ne (by decide)),
        hlacks.2.after hgrows.toAfter (hgrows.made_ne (by decide))⟩
  | headed hlate hroot hhead hsole hopen =>
    exact .headed hlate (hleads hroot) hhead
      ⟨hsole.1.after hgrows.toAfter (hgrows.made_ne (by decide)),
        hsole.2.after hgrows.toAfter (hgrows.made_ne (by decide))⟩
      (hbody.elim .inl fun hbody => hopen.imp_right <|
        .imp hbody fun hlacks => hlacks.after hgrows.toAfter (hgrows.made_ne (by decide)))

theorem late (h : Progress mode nodes head stack) (hmode : mode.isEarly = false) :
    (∃ r, nodes.Leads r) ∧ head.isSome = true ∧ (nodes.Sole "head" ∧ nodes.Sole "body") ∧
      (mode.isFrames = true ∨ HasBody stack ∨ nodes.Lacks "body") := by
  cases h with
  | bare hmem => exact absurd hmem (Mode.begun_of_not_isEarly hmode)
  | rooted hbefore =>
    rw [hbefore] at hmode
    cases hmode
  | headed _ hroot hhead hsole hopen => exact ⟨hroot, hhead, hsole, hopen⟩

theorem move (h : Progress mode nodes head stack) {mode' : Mode} (hmode : mode.isEarly = false)
    (hframes : mode.isFrames = false) (hmode' : mode'.isEarly = false) :
    Progress mode' nodes head stack := by
  obtain ⟨hroot, hhead, hsole, hopen⟩ := h.late hmode
  refine .headed hmode' hroot hhead hsole (.inr (hopen.resolve_left fun htrue => ?_))
  exact Bool.false_ne_true (hframes.symm.trans htrue)

/-- A page with a frame set may have lost its body. -/
theorem toFrames (h : Progress mode nodes head stack) {mode' : Mode} (hmode : mode.isEarly = false)
    (hframes : mode'.isFrames = true) : Progress mode' nodes head stack := by
  obtain ⟨hroot, hhead, hsole, -⟩ := h.late hmode
  exact .headed (Mode.not_isEarly_of_isFrames hframes) hroot hhead hsole (.inl hframes)

end Progress

namespace Builder

variable {a b : Builder}

/-- The mode that says what is open around raw text or text of a table. -/
def place (b : Builder) : Mode :=
  match b.mode with
  | .rawText | .inTableText => b.resume
  | mode => mode

def Fitting (b : Builder) : Prop :=
  match b.mode with
  | .rawText => ∃ e s, b.stack = e :: s ∧ e.isPart = false ∧ e.space = .html ∧ Fits b.resume s
  | .inTableText => b.resume ∈ tableModes ∧ Fits b.resume b.stack
  | mode => Fits mode b.stack

structure Laid (b : Builder) : Prop where
  grown : Grown b b
  fitting : b.Fitting
  progress : Progress b.place b.nodes b.head b.stack

theorem fitting_of_fits (h : Fits b.mode b.stack) : b.Fitting := by
  unfold Fitting
  split
  next hmode =>
    rw [hmode] at h
    exact h.elim
  next hmode =>
    rw [hmode] at h
    exact h.elim
  next => exact h

theorem place_of_fits {s : List Opened} (h : Fits b.mode s) : b.place = b.mode := by
  unfold place
  split
  next hmode =>
    rw [hmode] at h
    exact h.elim
  next hmode =>
    rw [hmode] at h
    exact h.elim
  next => rfl

theorem Laid.of_fits (h : Grown b b) (hfits : Fits b.mode b.stack)
    (hprogress : Progress b.mode b.nodes b.head b.stack) : b.Laid :=
  ⟨h, fitting_of_fits hfits, by rwa [place_of_fits hfits]⟩

theorem Laid.fits (h : b.Laid) (hraw : b.mode ≠ .rawText) (htext : b.mode ≠ .inTableText) :
    Fits b.mode b.stack := by
  have hfitting := h.fitting
  unfold Fitting at hfitting
  split at hfitting
  next hmode => exact absurd hmode hraw
  next hmode => exact absurd hmode htext
  next => exact hfitting

theorem Laid.progress_of_fits (h : b.Laid) {s : List Opened} (hfits : Fits b.mode s) :
    Progress b.mode b.nodes b.head b.stack := by
  have hprogress := h.progress
  rwa [place_of_fits hfits] at hprogress

theorem Laid.fits_of_nested (h : b.Laid) (hmode : b.mode.isNested = true) : Fits b.mode b.stack := by
  refine h.fits ?_ ?_
  all_goals
    intro heq
    rw [heq] at hmode
    cases hmode

theorem Laid.steady (h : b.Laid) (hmode : b.mode.isSteady = true) : Steady b := by
  obtain ⟨hnested, hholds⟩ := (h.fits_of_nested (Mode.isNested_of_isSteady hmode)).steady hmode
  exact ⟨hnested, hholds⟩

/-- A change of nodes alone, without another root, head or body. -/
theorem Laid.same (h : a.Laid) (hplace : a.place ∉ [.initial, .beforeHtml]) (hb : Grown a b)
    (heq : b = { a with nodes := b.nodes }) : b.Laid := by
  refine ⟨hb.refl, ?_, ?_⟩
  · rw [heq]
    exact h.fitting
  · have hprogress := h.progress.grow hplace hb.grows (.inr id)
    rw [heq]
    exact hprogress

theorem steady_of_tableMode {mode : Mode} (h : mode ∈ tableModes) : mode.isSteady = true := by
  have hall : ∀ mode ∈ tableModes, mode.isSteady = true := by decide
  exact hall mode h

theorem Laid.lasting (h : a.Laid) (hmode : a.mode.lasts = true) :
    a.place.isEarly = false ∧ (a.place.isFrames = true ∨ Steady a) := by
  simp only [Mode.lasts, Bool.or_eq_true, beq_iff_eq] at hmode
  rcases hmode with (hsteady | hframes) | htext
  · have hnested := Mode.isNested_of_isSteady hsteady
    rw [place_of_fits (h.fits_of_nested hnested)]
    exact ⟨Mode.not_isEarly_of_isNested hnested, .inr (h.steady hsteady)⟩
  · unfold place
    revert hframes
    cases a.mode <;> first | exact fun _ => ⟨rfl, .inl rfl⟩ | exact nofun
  · have hfitting := h.fitting
    unfold Fitting at hfitting
    unfold place
    rw [htext] at hfitting ⊢
    obtain ⟨hresume, hfits⟩ := hfitting
    have hsteady := steady_of_tableMode hresume
    obtain ⟨hnested, hholds⟩ := hfits.steady hsteady
    exact ⟨Mode.not_isEarly_of_isNested (Mode.isNested_of_isSteady hsteady), .inr ⟨hnested, hholds⟩⟩

theorem Laid.keep (h : a.Laid) (hmode : a.mode.lasts = true) [hk : Keeps a b] : b.Laid := by
  obtain ⟨hearly, hsteady⟩ := h.lasting hmode
  have hplace : b.place = a.place := by
    unfold place
    rw [hk.mode, hk.resume]
  refine ⟨hk.toGrown.refl, ?_, ?_⟩
  · simp only [Mode.lasts, Bool.or_eq_true, beq_iff_eq] at hmode
    rcases hmode with (hmode | hframes) | htext
    · refine fitting_of_fits ?_
      rw [hk.mode]
      exact (h.fits_of_nested (Mode.isNested_of_isSteady hmode)).alike hmode (hk.alike (h.steady hmode))
    · refine fitting_of_fits ?_
      rw [hk.mode]
      revert hframes
      cases a.mode <;> first | exact fun _ => trivial | exact nofun
    · have hfitting := h.fitting
      unfold Fitting at hfitting ⊢
      rw [hk.mode, htext]
      rw [htext] at hfitting
      obtain ⟨hresume, hfits⟩ := hfitting
      -- Text of a table is met in steady modes only, so what is open fits the mode to come back to.
      have hsteady := steady_of_tableMode hresume
      obtain ⟨hnested, hholds⟩ := hfits.steady hsteady
      dsimp only
      rw [hk.resume]
      exact ⟨hresume, hfits.alike hsteady (hk.alike ⟨hnested, hholds⟩)⟩
  · rw [hplace, hk.head]
    exact h.progress.grow (Mode.begun_of_not_isEarly hearly) hk.grows
      (hsteady.imp_right fun hs hbody => hbody.alike (hk.alike hs))

theorem Laid.late (h : b.Laid) (hnested : b.mode.isNested = true) : b.place.isEarly = false := by
  rw [place_of_fits (h.fits_of_nested hnested)]
  exact Mode.not_isEarly_of_isNested hnested

theorem Laid.arriveFrames (h : a.Laid) (hearly : a.place.isEarly = false) (hb : Grown a b)
    (hmode : b.mode.isFrames = true) : b.Laid := by
  refine .of_fits hb.refl (.of_isFrames hmode _) ?_
  rw [hb.head]
  exact (h.progress.toFrames hearly hmode).grow
    (Mode.begun_of_not_isEarly (Mode.not_isEarly_of_isFrames hmode)) hb.grows (.inl hmode)

/-- Another mode is come to, with what fits it open. -/
theorem Laid.arrive (h : a.Laid) (hnested : a.mode.isNested = true) (hb : Grown a b)
    (hfits : Fits b.mode b.stack) (hmode : b.mode.isEarly = false)
    (hbody : HasBody a.stack → HasBody b.stack) : b.Laid := by
  refine .of_fits hb.refl hfits ?_
  rw [hb.head]
  have hmoved := (h.progress_of_fits (h.fits_of_nested hnested)).move (Mode.not_isEarly_of_isNested hnested)
    (Mode.not_isFrames_of_isNested hnested) hmode
  exact hmoved.grow (Mode.begun_of_not_isEarly hmode) hb.grows (.inr hbody)

theorem fits_contentMode {mode : Mode} (hmode : mode ∈ contentModes) {s : List Opened}
    (h : Within ["template"] s) : Fits mode s ∧ mode.isEarly = false := by
  have hmono {names : List String} (hmem : "template" ∈ names) : Within names s :=
    h.mono (by simpa using hmem)
  simp only [contentModes, List.mem_cons, List.not_mem_nil, or_false] at hmode
  rcases hmode with rfl | rfl | rfl | rfl | rfl | rfl
  all_goals exact ⟨hmono (by decide), rfl⟩

theorem modeFor_select {e : Opened} (h : e.named "select" = true) (s : List Opened) :
    b.modeFor (e :: s) = .inSelectInTable ∨ b.modeFor (e :: s) = .inSelect := by
  obtain ⟨hspace, hname⟩ := named_eq_true.mp h
  simp only [modeFor, hspace, hname, bne_self_eq_false, Bool.false_eq_true, if_false,
    beq_self_eq_true, if_true]
  split
  · split
    · exact .inl rfl
    · exact .inr rfl
  · exact .inr rfl

/-- Elements without a mode of their own are read in the mode of what is around them. -/
theorem modeFor_plain {e : Opened} (h : e.isPart = false) (hselect : e.named "select" = false)
    (s : List Opened) : b.modeFor (e :: s) = b.modeFor s := by
  by_cases hspace : e.space = .html
  · have hname : e.name ∉ partNames := by simpa [Opened.isPart, Opened.among, hspace] using h
    have hsame : e.name ≠ "select" := by simpa [Opened.named, hspace] using hselect
    simp only [partNames, List.mem_cons, List.not_mem_nil, or_false, not_or] at hname
    simp [modeFor, hspace, hsame, hname]
  · simp [modeFor, hspace]

theorem fits_modeFor_group {e : Opened} {s : List Opened}
    (h : e.among ["caption", "colgroup", "tbody", "tfoot", "thead"] = true) (hs : Nested (e :: s)) :
    Fits (b.modeFor (e :: s)) (e :: s) ∧ (b.modeFor (e :: s)).isEarly = false := by
  obtain ⟨hspace, hname⟩ := among_eq_true.mp h
  have hwithin {names : List String} (hmem : e.name ∈ names) (hnames : ∀ n ∈ names, n ∈ partNames)
      (hinner : ∀ n ∈ names, n ∉ ["html", "head"]) : Within names (e :: s) :=
    .of_tops hs ⟨e, rfl, among_eq_true.mpr ⟨hspace, hmem⟩⟩ hnames hinner
  simp only [List.mem_cons, List.not_mem_nil, or_false] at hname
  rcases hname with hname | hname | hname | hname | hname
  · have hmode : b.modeFor (e :: s) = .inCaption := by simp [modeFor, hspace, hname]
    rw [hmode]
    exact ⟨hwithin (by rw [hname]; decide) (by decide) (by decide), rfl⟩
  · have hmode : b.modeFor (e :: s) = .inColumnGroup := by simp [modeFor, hspace, hname]
    rw [hmode]
    exact ⟨hwithin (by rw [hname]; decide) (by decide) (by decide), rfl⟩
  all_goals
    have hmode : b.modeFor (e :: s) = .inTableBody := by simp [modeFor, hspace, hname]
    rw [hmode]
    exact ⟨hwithin (by rw [hname]; decide) (by decide) (by decide), rfl⟩

/-- The mode that is found for what is open fits it, once there was a head. -/
theorem fits_modeFor (htemplates : ∀ mode ∈ b.templates, mode ∈ contentModes) (hhead : b.head.isSome = true)
    {s : List Opened} (hs : Nested s) : Fits (b.modeFor s) s ∧ (b.modeFor s).isEarly = false := by
  induction hs with
  | @root r h =>
    obtain ⟨hspace, hname⟩ := named_eq_true.mp h
    have hnone : b.head.isNone = false := by simpa using hhead
    have hmode : b.modeFor [r] = .afterHead := by simp [modeFor, hspace, hname, hnone]
    rw [hmode]
    exact ⟨⟨r, rfl, h⟩, rfl⟩
  | @outer e r h hr =>
    obtain ⟨hspace, hname⟩ := among_eq_true.mp h
    simp only [List.mem_cons, List.not_mem_nil, or_false] at hname
    rcases hname with hname | hname
    · have hmode : b.modeFor [e, r] = .inHead := by simp [modeFor, hspace, hname]
      rw [hmode]
      exact ⟨⟨e, r, rfl, named_eq_true.mpr ⟨hspace, hname⟩, hr⟩, rfl⟩
    · have hmode : b.modeFor [e, r] = .inBody := by simp [modeFor, hspace, hname]
      have hbody : Holds [e, r] := ⟨e, List.mem_cons_self, among_of_named
        (named_eq_true.mpr ⟨hspace, hname⟩) (by decide)⟩
      rw [hmode]
      exact ⟨.of_holds (.outer h hr) hbody, rfl⟩
  | @inner e s h hs ih =>
    have hnested : Nested (e :: s) := .inner h hs
    have hwithin {names : List String} (hname : e.among names = true) (hnames : ∀ n ∈ names, n ∈ partNames)
        (hinner : ∀ n ∈ names, n ∉ ["html", "head"]) : Within names (e :: s) :=
      .of_tops hnested ⟨e, rfl, hname⟩ hnames hinner
    cases h with
    | plain hplain hholds =>
      by_cases hselect : e.named "select" = true
      · have hopen : Within partNames (e :: s) := .of_holds hnested (hholds.cons e)
        rcases modeFor_select (b := b) hselect s with hmode | hmode
        all_goals rw [hmode]
        · exact ⟨⟨hopen, e, List.mem_cons_self, hselect⟩, rfl⟩
        · exact ⟨hopen, rfl⟩
      · rw [modeFor_plain hplain (Bool.eq_false_iff.mpr hselect)]
        exact ⟨ih.1.push hholds hplain, ih.2⟩
    | template hname =>
      obtain ⟨hspace, hsame⟩ := named_eq_true.mp hname
      have hmode : b.modeFor (e :: s) = (b.templates.head?).getD .inBody := by
        simp [modeFor, hspace, hsame]
      rw [hmode]
      refine fits_contentMode ?_ (hwithin (among_singleton hname) (by decide) (by decide))
      cases hfirst : b.templates.head? with
      | none => decide
      | some mode => exact htemplates mode (List.mem_of_mem_head? hfirst)
    | table hname hholds =>
      obtain ⟨hspace, hsame⟩ := named_eq_true.mp hname
      have hmode : b.modeFor (e :: s) = .inTable := by simp [modeFor, hspace, hsame]
      rw [hmode]
      exact ⟨hwithin (among_of_named hname (by decide)) (by decide) (by decide), rfl⟩
    | group hname htops => exact fits_modeFor_group hname hnested
    | row hname htops =>
      obtain ⟨hspace, hsame⟩ := named_eq_true.mp hname
      have hmode : b.modeFor (e :: s) = .inRow := by simp [modeFor, hspace, hsame]
      rw [hmode]
      exact ⟨hwithin (among_of_named hname (by decide)) (by decide) (by decide), rfl⟩
    | cell hname htops =>
      obtain ⟨hspace, hsame⟩ := among_eq_true.mp hname
      have hmode : b.modeFor (e :: s) = .inCell := by
        -- A cell alone would be read as the root of a fragment; here a row is around it.
        have hne := hs.ne_nil
        simp only [List.mem_cons, List.not_mem_nil, or_false] at hsame
        rcases hsame with hsame | hsame <;> simp [modeFor, hspace, hsame, hne]
      rw [hmode]
      exact ⟨hwithin hname (by decide) (by decide), rfl⟩

theorem Laid.nested (h : b.Laid) (hmode : b.mode.isNested = true) : Nested b.stack :=
  (h.fits_of_nested hmode).nested hmode

/-- Where something is open there is a root. -/
theorem Laid.begun (h : b.Laid) (hne : b.stack ≠ []) : b.place ∉ [.initial, .beforeHtml] := by
  cases h.progress with
  | bare hmode hbare hhead =>
    obtain ⟨e, he⟩ := List.exists_mem_of_ne_nil _ hne
    have htag := (h.grown.sound.standing.stack e he).tag
    rw [hbare.untagged] at htag
    cases htag
  | rooted hmode =>
    rw [hmode]
    decide
  | headed hmode => exact Mode.begun_of_not_isEarly hmode

theorem Laid.addText (h : b.Laid) (hbegun : b.place ∉ [.initial, .beforeHtml]) (s : String) :
    (b.addText s).Laid :=
  have := h.grown
  h.same hbegun inferInstance (addText_eq b s)

theorem Laid.addComment (h : b.Laid) (hbegun : b.place ∉ [.initial, .beforeHtml]) (s : String) :
    (b.addComment s).Laid :=
  have := h.grown
  h.same hbegun inferInstance (addComment_eq b s)

theorem Laid.addCommentTo (h : b.Laid) (hbegun : b.place ∉ [.initial, .beforeHtml]) (holder : Nat)
    (s : String) : (b.addCommentTo holder s).Laid :=
  have := h.grown
  h.same hbegun inferInstance rfl

theorem Laid.mergeRoot (h : b.Laid) (hbegun : b.place ∉ [.initial, .beforeHtml]) (tag : Tag) :
    (b.mergeRoot tag).Laid :=
  have := h.grown
  h.same hbegun inferInstance (mergeRoot_eq b tag)

theorem Laid.insertVoid (h : b.Laid) (hbegun : b.place ∉ [.initial, .beforeHtml]) (tag : Tag)
    [Usual .html tag] : (b.insertVoid tag).Laid :=
  have := h.grown
  h.same hbegun inferInstance (snd_insertClosed b .html tag)

/-- Nothing but the nodes, the open elements, the head and the mode matters. -/
theorem Laid.flags (h : b.Laid) {framesetOk skipsNewline fosters tableInParagraph tableText} :
    Laid ⟨b.nodes, b.stack, b.formatting, b.mode, b.resume, b.templates, b.head, b.form, framesetOk,
      skipsNewline, fosters, tableInParagraph, tableText⟩ :=
  have := h.grown
  have hb : Grown b ⟨b.nodes, b.stack, b.formatting, b.mode, b.resume, b.templates, b.head, b.form,
    framesetOk, skipsNewline, fosters, tableInParagraph, tableText⟩ := inferInstance
  ⟨hb.refl, h.fitting, h.progress⟩

theorem openRaw_eq (b : Builder) (tag : Tag) (content : Content) : (b.openRaw tag content).1 =
    { b with
      nodes := (b.insert tag).nodes
      stack := ⟨b.nodes.size, .html, tag.name⟩ :: b.stack
      resume := b.mode
      mode := .rawText } := by
  unfold openRaw
  rw [insert, snd_insertIn]

instance grown_openRaw [Grown a b] (tag : Tag) [Usual .html tag] (content : Content) :
    Grown a (b.openRaw tag content).1 := by
  unfold openRaw
  infer_instance

theorem Laid.openRaw (h : b.Laid) (hfits : Fits b.mode b.stack) (hbegun : b.place ∉ [.initial, .beforeHtml])
    (tag : Tag) [ht : Plain .html tag] (content : Content) : (b.openRaw tag content).1.Laid := by
  have := h.grown
  have hb : Grown b (b.openRaw tag content).1 := inferInstance
  refine ⟨hb.refl, ?_, ?_⟩
  · rw [openRaw_eq]
    exact ⟨_, _, rfl, ht.plain _, rfl, hfits⟩
  · have hprogress := h.progress.grow hbegun hb.grows
      (.inr fun hbody => hbody.cons ⟨b.nodes.size, .html, tag.name⟩)
    rw [place_of_fits hfits] at hprogress
    rw [openRaw_eq] at hprogress ⊢
    exact hprogress

theorem Laid.resetMode (h : a.Laid) (hnested : a.mode.isNested = true) (hb : Grown a b) (hs : Nested b.stack)
    (hbody : HasBody a.stack → HasBody b.stack) : b.resetMode.Laid := by
  have hhead : b.head.isSome = true := by
    rw [hb.head]
    exact ((h.progress_of_fits (h.fits_of_nested hnested)).late (Mode.not_isEarly_of_isNested hnested)).2.1
  obtain ⟨hfits, hlate⟩ := fits_modeFor hb.recorded.templates hhead hs
  exact h.arrive hnested grown_resetMode hfits hlate hbody

/-- An element is closed, whatever it is but the root and the body, and the mode goes by what is left. -/
theorem Laid.close (h : a.Laid) (hnested : a.mode.isNested = true) (hb : Grown a b) {wanted : Opened → Bool}
    (hstack : b.stack = outside wanted a.stack) (hopen : ∃ e ∈ a.stack, wanted e = true)
    (hwanted : ∀ e, wanted e = true → e.among ["html", "body"] = false) : b.resetMode.Laid := by
  have hs := h.nested hnested
  refine h.resetMode hnested hb ?_ fun hbody => ?_
  · rw [hstack]
    refine hs.outside hopen fun e he => Bool.eq_false_iff.mpr fun hname => ?_
    exact Bool.false_ne_true ((hwanted e he).symm.trans (among_of_named hname (by decide)))
  · rw [hstack]
    exact hbody.outside hs hopen hwanted

theorem exists_of_hasOpen {name : String} (h : b.hasOpen name = true) :
    ∃ e ∈ b.stack, e.named name = true := List.any_eq_true.mp h

theorem Laid.endTemplate (h : b.Laid) (hnested : b.mode.isNested = true) : b.endTemplate.Laid := by
  have := h.grown
  unfold Builder.endTemplate
  split
  next hopen =>
    have hb : Grown b ((b.closeImplied (·.mayStayOpenInTemplate)).popNamed "template").clearToMarker :=
      inferInstance
    refine h.close hnested (hb.retemplate fun mode hmem =>
      h.grown.recorded.templates mode (List.mem_of_mem_drop hmem))
      (outside_dropWhile (fun e he => ?_) _) (exists_of_hasOpen hopen)
      fun e he => Opened.not_among_of_named he (by decide)
    have hstay : e.mayStayOpen = false := Opened.not_mayStayOpen_of_named he (by decide)
    simp only [Opened.mayStayOpenInTemplate, hstay, Bool.false_or]
    exact Opened.not_among_of_named he (by decide)
  next => exact h

theorem Laid.endOfTemplates (h : b.Laid) (hnested : b.mode.isNested = true) : b.endOfTemplates.1.Laid := by
  have := h.grown
  unfold Builder.endOfTemplates
  split
  next hopen =>
    have hb : Grown b (b.popNamed "template").clearToMarker := inferInstance
    exact h.close hnested
      (hb.retemplate fun mode hmem => h.grown.recorded.templates mode (List.mem_of_mem_drop hmem)) rfl
      (exists_of_hasOpen hopen) fun e he => Opened.not_among_of_named he (by decide)
  next => exact h

/-- A part of a page that was just opened is the innermost one. -/
theorem within_cons {e : Opened} {s : List Opened} {names : List String} (hs : Nested s) (hsits : Sits s e)
    (he : e.among names = true) (hnames : ∀ n ∈ names, n ∈ partNames)
    (hinner : ∀ n ∈ names, n ∉ ["html", "head"]) : Within names (e :: s) :=
  .of_tops (.inner hsits hs) ⟨e, rfl, he⟩ hnames hinner

theorem Laid.openTemplate (h : b.Laid) (hnested : b.mode.isNested = true) {tag : Tag}
    (hname : tag.name = "template") :
    Laid { (b.insert tag).addMarker with
      framesetOk := false
      mode := .inTemplate
      templates := .inTemplate :: (b.insert tag).addMarker.templates } := by
  have := h.grown
  have : Usual .html tag := usual_of_name (by rw [hname]; decide)
  have hb : Grown b (b.insert tag).addMarker := inferInstance
  have ht := hb.retemplate (List.forall_mem_cons.mpr ⟨show Mode.inTemplate ∈ contentModes by decide,
    hb.recorded.templates⟩)
  have hstack := stack_insert b tag
  rw [hname] at hstack
  refine h.arrive hnested (grown_mk (h := ht)) ?_ rfl fun hbody => ?_
  · change Within ["template"] (b.insert tag).stack
    rw [hstack]
    exact within_cons (h.nested hnested) (.template rfl) rfl (by decide) (by decide)
  · change HasBody (b.insert tag).stack
    rw [hstack]
    exact hbody.cons _

theorem Laid.startInHead (h : b.Laid) (hnested : b.mode.isNested = true) {tag : Tag} {r : Builder × Next}
    (hr : b.startInHead tag = some r) : r.1.Laid := by
  have hfits := h.fits_of_nested hnested
  have hbegun := h.begun (h.nested hnested).ne_nil
  unfold Builder.startInHead at hr
  split_ifs at hr with hvoid htitle hraw hscript htemplate
  · obtain rfl := Option.some.inj hr
    have := plain_of_contains hvoid (by decide)
    exact h.insertVoid hbegun tag
  · obtain rfl := Option.some.inj hr
    have := plain_of_beq htitle (by decide)
    exact h.openRaw hfits hbegun tag .rcdata
  · obtain rfl := Option.some.inj hr
    have := plain_of_contains hraw (by decide)
    exact h.openRaw hfits hbegun tag .rawtext
  · obtain rfl := Option.some.inj hr
    have := plain_of_beq hscript (by decide)
    exact h.openRaw hfits hbegun tag .script
  · obtain rfl := Option.some.inj hr
    exact h.openTemplate hnested (beq_iff_eq.mp htemplate)

theorem Laid.startInHead_getD (h : b.Laid) (hnested : b.mode.isNested = true) (tag : Tag) {r : Builder × Next}
    (hr : r.1.Laid) : ((b.startInHead tag).getD r).1.Laid := by
  cases hstart : b.startInHead tag with
  | none => exact hr
  | some r' => exact h.startInHead hnested hstart

end Builder

end PageGrader.Tree
