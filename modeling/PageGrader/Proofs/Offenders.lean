import PageGrader.Proofs.Navigation

namespace PageGrader

/-- Different sites that the walk comes to have different indices. -/
theorem Document.Plain.nodup_indices {d : Document} (h : d.Plain) {sites : List Site}
    (hsites : ∀ s ∈ sites, s ∈ d.sites) (hreached : ∀ s ∈ sites, d.Reaches s) (hnodup : sites.Nodup) :
    ((d.handles sites).map (·.index)).Nodup := by
  rw [handles, List.map_map]
  apply hnodup.map_on
  intro s hs t ht hindex
  exact h.eq_of_index (hsites s hs) (hsites t ht) (hreached s hs) (hreached t ht) hindex

namespace Rule

open Navigation (standsIn)

/-- An offence: which elements commit it, and what is said if so many do. -/
structure Offence where
  commits : Site → Bool
  phrase : Nat → String

/-- The elements that commit an offence, in the order of selection. -/
def Offence.offenders (k : Offence) (d : Document) : List Site := d.sites.filter k.commits

def blamed (d : Document) (offences : List Offence) : List Site := offences.flatMap (·.offenders d)

def charge (d : Document) (offences : List Offence) : String :=
  ", ".intercalate (offences.flatMap fun k =>
    if (k.offenders d).isEmpty then [] else [k.phrase (k.offenders d).length]) ++ "."

/-- A check that fails just if one of the offences is committed, and then names all who commit one and
says how many there are. -/
def Reports (d : Document) (offences : List Offence) (result : Except Breakdown Outcome) : Prop :=
  ∃ o, result = .ok o ∧ (o.passed = false ↔ blamed d offences ≠ []) ∧
    (o.passed = false →
      o.evidence.Perm (d.handles (blamed d offences)) ∧ o.message = charge d offences)

namespace Reports

variable {α : Type} {d : Document} {offences : List Offence} {k k' : Offence} {kept : Outcome}
  {message suggestion : String} {evidence : List Handle}

theorem bind {first : Except Breakdown α} {a : α} {rest : α → Except Breakdown Outcome}
    (hfirst : first = .ok a) (hrest : Reports d offences (rest a)) :
    Reports d offences (first >>= rest) := by
  rw [hfirst]
  exact hrest

theorem ite {none : Bool} (hnone : none = (blamed d offences).isEmpty) (hkept : kept.passed = true)
    (hevidence : evidence.Perm (d.handles (blamed d offences)))
    (hmessage : blamed d offences ≠ [] → message = charge d offences) :
    Reports d offences (if none then .ok kept else .ok (.fail message suggestion evidence)) := by
  subst hnone
  by_cases h : blamed d offences = []
  · exact ⟨kept, by simp [h], by simp [hkept, h], by simp [hkept]⟩
  · exact ⟨.fail message suggestion evidence, by simp [h], by simp [Outcome.fail, h],
      fun _ => ⟨hevidence, hmessage h⟩⟩

/-- One offence, with the offenders found in any order. The message is the phrase and a full stop. -/
theorem one {found : List Site} {start rest : String} (hfound : found.Perm (k.offenders d))
    (hkept : kept.passed = true) (hphrase : k.phrase found.length = start ++ rest)
    (hmessage : start ++ (rest ++ ".") = message) :
    Reports d [k] (if found.isEmpty then .ok kept
      else .ok (.fail message suggestion (d.handles found))) := by
  have hblamed : blamed d [k] = k.offenders d := by simp [blamed]
  apply ite _ hkept
  · rw [hblamed]
    exact hfound.map _
  · intro hany
    rw [hblamed] at hany
    rw [← hmessage, ← String.append_assoc, ← hphrase, hfound.length_eq]
    simp [charge, hany]
  · rw [hblamed, hfound.isEmpty_eq]

theorem two (hkept : kept.passed = true)
    (hevidence : evidence.Perm (d.handles (k.offenders d ++ k'.offenders d))) :
    Reports d [k, k'] (if (k.offenders d).isEmpty && (k'.offenders d).isEmpty then .ok kept
      else .ok (.fail
        (", ".intercalate
          ((if (k.offenders d).isEmpty then [] else [k.phrase (k.offenders d).length]) ++
            (if (k'.offenders d).isEmpty then [] else [k'.phrase (k'.offenders d).length])) ++ ".")
        suggestion evidence)) := by
  have hblamed : blamed d [k, k'] = k.offenders d ++ k'.offenders d := by simp [blamed]
  apply ite _ hkept
  · rw [hblamed]
    exact hevidence
  · intro _
    simp [charge]
  · rw [hblamed, isEmpty_and_isEmpty]

end Reports

/-- A list item whose parent is no unordered list; `up` tells the parent. -/
def strayItem (up : Site → Option Site) : Offence where
  commits s := s.name == "li" && !standsIn up s "ul"
  phrase n := s!"{n} LI elements are not inside a UL"

def strayTarget : Offence where
  commits s := s.hasAttribute "href" && s.name != "a"
  phrase n := s!"{n} elements with href are not A tags"

def straySource : Offence where
  commits s := s.hasAttribute "src" && s.name != "img"
  phrase n := s!"{n} elements with src are not IMG"

def bareImage : Offence where
  commits s := s.name == "img" && (s.attribute? "src").all (·.isEmpty)
  phrase n := s!"{n} IMG elements without a valid src"

def looseButton : Offence where
  commits s := s.name == "button" && !s.around.any (·.name == "form")
  phrase n := s!"{n} buttons are not inside a FORM element"

def tablePart : Offence where
  commits s := ["table", "thead", "tbody", "tfoot", "tr", "td", "th"].contains s.name
  phrase n := s!"Found {n} forbidden table elements"

def visualTag : Offence where
  commits s := ["u", "b", "i"].contains s.name
  phrase n := s!"Found {n} forbidden presentational tags"

/-- Audio without controls, or video that is not muted or has no controls. -/
def bareMedia : Offence where
  commits s := s.name == "audio" && !s.hasAttribute "controls" ||
    s.name == "video" && !(s.hasAttribute "controls" && s.hasAttribute "muted")
  phrase n := s!"{n} media elements are missing required attributes"

def undescribedImage : Offence where
  commits s := s.name == "img" && !s.hasAttribute "alt"
  phrase n := s!"{n} images are missing the alt attribute"

def blankDescription : Offence where
  commits s := s.name == "img" && (s.attribute? "alt").any (·.toList.all Text.isBlank) &&
    (s.attribute? "src").any fun source => Reference.isImage source.toList
  phrase n := s!"{n} images have a suspicious empty alt"

def charges : List (Rule × List Offence) :=
  [(listItems, [strayItem Site.parent?]), (targets, [strayTarget]),
   (sources, [straySource, bareImage]), (buttons, [looseButton]), (tables, [tablePart]),
   (presentational, [visualTag]), (controls, [bareMedia]),
   (alternatives, [undescribedImage, blankDescription])]

variable {d : Document} {page : List Char} {s : Site}

theorem reports_listItems (d : Document) (page : List Char) :
    Reports d [strayItem Site.parent?] (listItems.check d page) := by
  have hitems : (d.all "li").filter outsideList = (strayItem Site.parent?).offenders d := by
    rw [d.filter_all_tag "li" rfl (by decide)]
    apply List.filter_congr
    intro s _
    cases hparent : s.parent? <;> simp [outsideList, strayItem, standsIn, hparent, bne]
  exact .bind (d.query_of_inUse (by decide)) (.one (.of_eq hitems) rfl rfl rfl)

theorem reports_targets (d : Document) (page : List Char) :
    Reports d [strayTarget] (targets.check d page) := by
  have hfound : (d.all "[href]").filter (·.name != "a") = strayTarget.offenders d :=
    d.filter_all_present rfl (by decide) _
  exact .bind (d.query_of_inUse (by decide)) (.one (.of_eq hfound) rfl rfl rfl)

theorem reports_sources (d : Document) (page : List Char) :
    Reports d [straySource, bareImage] (sources.check d page) := by
  have hothers : (d.all "[src]").filter (·.name != "img") = straySource.offenders d :=
    d.filter_all_present rfl (by decide) _
  have hbare : (d.all "img").filter lacksSource = bareImage.offenders d := by
    rw [d.filter_all_tag "img" rfl (by decide)]
    apply List.filter_congr
    intro s _
    cases hsource : s.attribute? "src" <;> simp [lacksSource, bareImage, hsource]
  refine .bind (d.query_of_inUse (by decide)) (.bind (d.query_of_inUse (by decide)) ?_)
  dsimp only
  rw [hothers, hbare, ← d.handles_append]
  exact .two rfl (.refl _)

theorem reports_buttons (hread : Document.read page = .ok d) :
    Reports d [looseButton] (buttons.check d page) := by
  have hfound : (d.all "button").filter (fun s => !s.hasAncestor "form") = looseButton.offenders d := by
    rw [d.filter_all_tag "button" rfl (by decide)]
    apply List.filter_congr
    intro s hs
    rw [looseButton, Document.hasAncestor_eq hread hs (by decide)]
  exact .bind (d.query_of_inUse (by decide)) (.one (.of_eq hfound) rfl rfl rfl)

theorem reports_tables (d : Document) (page : List Char) :
    Reports d [tablePart] (tables.check d page) := by
  have hfound : d.all "table, thead, tbody, tfoot, tr, td, th" = tablePart.offenders d :=
    d.all_anyTag rfl (by decide)
  exact .bind (d.query_of_inUse (by decide)) (.one (.of_eq hfound) rfl rfl rfl)

theorem reports_presentational (d : Document) (page : List Char) :
    Reports d [visualTag] (presentational.check d page) := by
  have hfound : d.all "u, b, i" = visualTag.offenders d := d.all_anyTag rfl (by decide)
  exact .bind (d.query_of_inUse (by decide)) (.one (.of_eq hfound) rfl rfl rfl)

theorem filter_append_perm_filter_or {α : Type} (p q : α → Bool) (l : List α)
    (h : ∀ a ∈ l, p a = true → q a = false) :
    (l.filter p ++ l.filter q).Perm (l.filter fun a => p a || q a) := by
  induction l with
  | nil => exact .refl _
  | cons a rest ih =>
    obtain ⟨ha, hrest⟩ := List.forall_mem_cons.mp h
    cases hp : p a with
    | true => simpa [List.filter_cons, hp, ha hp] using ih hrest
    | false =>
      cases hq : q a with
      | true => simpa [List.filter_cons, hp, hq] using List.perm_middle.trans ((ih hrest).cons a)
      | false => simpa [List.filter_cons, hp, hq] using ih hrest

theorem reports_controls (d : Document) (page : List Char) :
    Reports d [bareMedia] (controls.check d page) := by
  have hfound : ((d.all "audio").filter mute ++ (d.all "video").filter unruly).Perm
      (bareMedia.offenders d) := by
    rw [d.filter_all_tag "audio" rfl (by decide), d.filter_all_tag "video" rfl (by decide)]
    refine (filter_append_perm_filter_or _ _ d.sites ?_).trans (.of_eq ?_)
    · intro s _ hname
      have hname : s.name = "audio" := by simpa using (Bool.and_eq_true_iff.mp hname).1
      simp [hname]
    · apply List.filter_congr
      intro s _
      simp [bareMedia, mute, unruly, Bool.not_and]
  refine .bind (d.query_of_inUse (by decide)) (.bind (d.query_of_inUse (by decide)) ?_)
  dsimp only
  -- With no media at all the check passes before it looks for offenders, and there are none.
  by_cases hnone : (d.all "audio").length + (d.all "video").length = 0
  · have hempty : bareMedia.offenders d = [] := by
      rw [← List.length_eq_zero_iff, ← hfound.length_eq, List.length_append]
      have haudios := ((d.all "audio").filter_sublist (p := mute)).length_le
      have hvideos := ((d.all "video").filter_sublist (p := unruly)).length_le
      omega
    rw [if_pos (by simpa using hnone)]
    exact ⟨_, rfl, by simp [Outcome.pass, blamed, hempty], nofun⟩
  · rw [if_neg (by simpa using hnone)]
    exact .one hfound rfl rfl rfl

theorem reports_alternatives (d : Document) (page : List Char) :
    Reports d [undescribedImage, blankDescription] (alternatives.check d page) := by
  have hmissing : (d.all "img").filter lacksAlternative = undescribedImage.offenders d := by
    rw [d.filter_all_tag "img" rfl (by decide)]
    apply List.filter_congr
    intro s _
    simp [lacksAlternative, undescribedImage, Site.attribute?, Site.hasAttribute, Element.hasAttribute]
  have hsuspect : (d.all "img").filter hidesAlternative = blankDescription.offenders d := by
    rw [d.filter_all_tag "img" rfl (by decide)]
    apply List.filter_congr
    intro s _
    simp [hidesAlternative, blankDescription, Bool.and_assoc]
  refine .bind (d.query_of_inUse (by decide)) ?_
  dsimp only
  rw [hmissing, hsuspect, ← d.handles_append]
  exact .two rfl (sortOn_perm _ _)

theorem reports_of_mem_charges (hread : Document.read page = .ok d) :
    ∀ c ∈ charges, Reports d c.2 (c.1.check d page) := by
  simp only [charges, List.forall_mem_cons, List.not_mem_nil, false_implies, implies_true]
  exact ⟨reports_listItems d page, reports_targets d page, reports_sources d page,
    reports_buttons hread, reports_tables d page, reports_presentational d page,
    reports_controls d page, reports_alternatives d page, trivial⟩

theorem pairwise_of_mem_charges : ∀ c ∈ charges,
    c.2.Pairwise fun k k' => ∀ s, k.commits s = true → k'.commits s = false := by
  simp only [charges, List.forall_mem_cons, List.pairwise_singleton, List.pairwise_pair, true_and,
    List.not_mem_nil, false_implies, implies_true, and_true]
  constructor
  · intro s h
    simp only [straySource, bareImage, Bool.and_eq_true, bne_iff_ne] at h ⊢
    simp [h.2]
  · intro s h
    simp only [undescribedImage, Bool.and_eq_true, Bool.not_eq_true', Site.hasAttribute,
      Element.hasAttribute, Option.isSome_eq_false_iff, Option.isNone_iff_eq_none] at h
    simp [blankDescription, Site.attribute?, h.2]

theorem mem_blamed {offences : List Offence} :
    s ∈ blamed d offences ↔ s ∈ d.sites ∧ ∃ k ∈ offences, k.commits s = true := by
  simp only [blamed, List.mem_flatMap, Offence.offenders, List.mem_filter]
  constructor
  · exact fun ⟨k, hk, hs, hcommits⟩ => ⟨hs, k, hk, hcommits⟩
  · exact fun ⟨hs, k, hk, hcommits⟩ => ⟨k, hk, hs, hcommits⟩

theorem nodup_blamed (hplain : d.Plain) {offences : List Offence}
    (h : offences.Pairwise fun k k' => ∀ s, k.commits s = true → k'.commits s = false) :
    (blamed d offences).Nodup := by
  have hsites : d.sites.Nodup := hplain.sites_increasing.imp fun hlt heq => by simp [heq] at hlt
  rw [blamed, List.nodup_flatMap]
  refine ⟨fun k _ => hsites.filter _, h.imp ?_⟩
  intro k k' hother s hs hs'
  have hcommits := (List.mem_filter.mp hs').2
  rw [hother s (List.mem_filter.mp hs).2] at hcommits
  cases hcommits

structure Exposes (d : Document) (offences : List Offence) (o : Outcome) : Prop where
  /-- The check fails just if some element offends. -/
  fails_iff : o.passed = false ↔ ∃ s ∈ d.sites, ∃ k ∈ offences, k.commits s = true
  /-- No element commits two of the offences, -/
  apart : offences.Pairwise fun k k' => ∀ s, k.commits s = true → k'.commits s = false
  /-- the message says how many commit each of them, -/
  message : o.passed = false → o.message = charge d offences
  /-- and the evidence is made up of those who commit the one and those who commit the other. -/
  evidence : o.passed = false → o.evidence.Perm (d.handles (offences.flatMap (·.offenders d)))
  named_iff : o.passed = false → ∀ h, h ∈ o.evidence ↔
    ∃ s ∈ d.sites, (∃ k ∈ offences, k.commits s = true) ∧ d.handle s.element = h
  /-- If the walk that numbers the elements comes to all offenders, each is named once. -/
  once : o.passed = false → (∀ s ∈ d.sites, (∃ k ∈ offences, k.commits s = true) → d.Reaches s) →
    (o.evidence.map (·.index)).Nodup

theorem Reports.exposes (hplain : d.Plain) {offences : List Offence} {result : Except Breakdown Outcome}
    (h : Reports d offences result)
    (hapart : offences.Pairwise fun k k' => ∀ s, k.commits s = true → k'.commits s = false) :
    ∃ o, result = .ok o ∧ Exposes d offences o := by
  obtain ⟨o, ho, hfails, htells⟩ := h
  refine ⟨o, ho, ?_, hapart, fun hfailed => (htells hfailed).2, fun hfailed => (htells hfailed).1, ?_, ?_⟩
  · rw [hfails, ← List.isEmpty_eq_false_iff, List.isEmpty_eq_false_iff_exists_mem]
    simp only [mem_blamed]
  · intro hfailed h
    simp only [(htells hfailed).1.mem_iff, Document.mem_handles, mem_blamed, and_assoc]
  · intro hfailed hreached
    rw [((htells hfailed).1.map _).nodup_iff]
    apply Document.Plain.nodup_indices hplain (fun s hs => (mem_blamed.mp hs).1) ?_
      (nodup_blamed hplain hapart)
    intro s hs
    exact hreached s (mem_blamed.mp hs).1 (mem_blamed.mp hs).2

theorem sorted_alternatives {o : Outcome} (h : alternatives.check d page = .ok o)
    (hfailed : o.passed = false) : o.evidence.Pairwise (·.index ≤ ·.index) := by
  have hcheck : alternatives.check d page = _ := congrArg (· >>= _) (d.query_of_inUse (by decide))
  rw [hcheck] at h
  dsimp only [bind, Except.bind] at h
  split at h
  · obtain rfl := Except.ok.inj h
    cases hfailed
  · obtain rfl := Except.ok.inj h
    exact sortOn_sorted _ _

/-- A list item that stands in a formatting element, but looks up to an unordered list. -/
def sheltered (s : Site) : Bool :=
  s.name == "li" && s.holder?.any (·.element.formats) && standsIn Site.parent? s "ul"

/-- Judged by what it stands in, a list item may offend though it looks up to a list. -/
theorem commits_strayItem (hread : Document.read page = .ok d) (hs : s ∈ d.sites) :
    (strayItem Site.parent?).commits s = ((strayItem Site.holder?).commits s && !sheltered s) ∧
      (sheltered s = true → (strayItem Site.holder?).commits s = true) := by
  -- It looks up to the element it stands in, or stands in one that formats, which is no list.
  rcases Site.parent?_eq_or_formats (Document.looks_past_formatting hread hs).1 with heq | ⟨p, hp, hformats⟩
  · have hnot : sheltered s = false := by
      rw [sheltered, standsIn, heq]
      cases hholder : s.holder? with
      | none => simp
      | some p =>
        by_cases hlist : p.name = "ul"
        · simp [Site.formats_eq_false hlist (by decide)]
        · simp [hlist]
    simp [strayItem, standsIn, heq, hnot]
  · have hlist : p.name ≠ "ul" := by
      intro hlist
      rw [Site.formats_eq_false hlist (by decide)] at hformats
      cases hformats
    have hstands : standsIn Site.holder? s "ul" = false := by simp [standsIn, hp, hlist]
    simp only [strayItem, sheltered, hstands, hp, hformats, Option.any_some]
    cases s.name == "li" <;> simp

theorem offenders_parent (hread : Document.read page = .ok d) :
    (strayItem Site.parent?).offenders d =
      ((strayItem Site.holder?).offenders d).filter (!sheltered ·) := by
  rw [Offence.offenders, Offence.offenders, List.filter_filter]
  apply List.filter_congr
  intro s hs
  rw [(commits_strayItem hread hs).1, Bool.and_comm]

/-- The rule on list items goes by what they stand in just if none of them is sheltered. -/
theorem exposes_holder_iff (hread : Document.read page = .ok d) :
    (∃ o, listItems.check d page = .ok o ∧ Exposes d [strayItem Site.holder?] o) ↔
      ∀ s ∈ d.sites, sheltered s = false := by
  have hplain := Document.plain_of_read hread
  have hreports := reports_listItems d page
  constructor
  · rintro ⟨o, ho, hexposes⟩ s hs
    obtain ⟨o', ho', -, htells⟩ := hreports
    obtain rfl := Except.ok.inj (ho.symm.trans ho')
    rw [← Bool.not_eq_true]
    intro hsheltered
    have hcommits := (commits_strayItem hread hs).2 hsheltered
    have hfailed := hexposes.fails_iff.mpr ⟨s, hs, _, List.mem_singleton_self _, hcommits⟩
    -- Both ways of judging name as many offenders, so none is missing.
    have hsame := ((hexposes.evidence hfailed).symm.trans (htells hfailed).1).length_eq
    simp only [blamed, List.flatMap_singleton, Document.handles, List.length_map,
      offenders_parent hread] at hsame
    have hall := List.length_filter_eq_length_iff.mp hsame.symm s (List.mem_filter.mpr ⟨hs, hcommits⟩)
    simp [hsheltered] at hall
  · intro hnone
    have hsame : (strayItem Site.parent?).offenders d = (strayItem Site.holder?).offenders d := by
      rw [offenders_parent hread, List.filter_eq_self]
      intro s hs
      rw [hnone s (List.mem_filter.mp hs).1]
      rfl
    have hphrase : (strayItem Site.parent?).phrase = (strayItem Site.holder?).phrase := rfl
    have hholder : Reports d [strayItem Site.holder?] (listItems.check d page) := by
      simpa only [Reports, blamed, charge, List.flatMap_singleton, hsame, hphrase] using hreports
    exact hholder.exposes hplain (List.pairwise_singleton _ _)

/-- The rules on placement, on media and on descriptions of images fail just if some element offends,
and then tell of all offenders and no others, each of them once. This goes by the element that a list
item looks up to; it goes by the one that the item stands in just if no item is sheltered. Images are
named in document order. -/
theorem exposes_every_offender (hread : Document.read page = .ok d) :
    (∀ c ∈ charges, ∃ o, c.1.check d page = .ok o ∧ Exposes d c.2 o) ∧
      ((∃ o, listItems.check d page = .ok o ∧ Exposes d [strayItem Site.holder?] o) ↔
        ∀ s ∈ d.sites, sheltered s = false) ∧
      ∀ o, alternatives.check d page = .ok o → o.passed = false →
        (∀ s ∈ d.sites, s.name = "img" → d.Reaches s) → o.evidence.Pairwise (·.index < ·.index) := by
  have hplain := Document.plain_of_read hread
  have hall : ∀ c ∈ charges, ∃ o, c.1.check d page = .ok o ∧ Exposes d c.2 o := fun c hc =>
    (reports_of_mem_charges hread c hc).exposes hplain (pairwise_of_mem_charges c hc)
  refine ⟨hall, exposes_holder_iff hread, ?_⟩
  intro o ho hfailed hreached
  obtain ⟨o', ho', hexposes⟩ :=
    hall (alternatives, [undescribedImage, blankDescription]) (by simp [charges])
  obtain rfl := Except.ok.inj (ho.symm.trans ho')
  -- Sorted by index, and no index twice.
  have hdistinct : (o.evidence.map (·.index)).Nodup := by
    apply hexposes.once hfailed
    rintro s hs ⟨k, hk, hcommits⟩
    apply hreached s hs
    simp only [List.mem_cons, List.not_mem_nil, or_false] at hk
    rcases hk with rfl | rfl <;> simp_all [undescribedImage, blankDescription]
  rw [List.Nodup, List.pairwise_map] at hdistinct
  exact (sorted_alternatives ho hfailed).imp₂ (fun _ _ hle hne => Nat.lt_of_le_of_ne hle hne) hdistinct

/-- A page with a list item outside of a list, an image without a description and one with an empty
one. -/
theorem exposes_offenders_of_small_page :
    let page := "<li></li><img alt src=a.png><img>".toList
    let d := Document.ofPage page
    Document.read page = .ok d ∧ (∀ s ∈ d.sites, s.name = "img" → d.Reaches s) ∧
      (∃ o, listItems.check d page = .ok o ∧ Exposes d [strayItem Site.holder?] o ∧ o.passed = false) ∧
      ∃ o, alternatives.check d page = .ok o ∧ o.passed = false ∧
        o.message = "1 images are missing the alt attribute, 1 images have a suspicious empty alt." ∧
        o.evidence.Pairwise (·.index < ·.index) := by
  intro page d
  have hread : Document.read page = .ok d := rfl
  have hreached : ∀ s ∈ d.sites, s.name = "img" → d.Reaches s := by decide +kernel
  have hnone : ∀ s ∈ d.sites, sheltered s = false := by decide +kernel
  have hitem : ∃ s ∈ d.sites, (strayItem Site.holder?).commits s = true := by decide +kernel
  have hcharge : charge d [undescribedImage, blankDescription] =
      "1 images are missing the alt attribute, 1 images have a suspicious empty alt." := by decide +kernel
  have himage : ∃ s ∈ d.sites, undescribedImage.commits s = true := by decide +kernel
  obtain ⟨hall, hitems, hordered⟩ := exposes_every_offender hread
  obtain ⟨o, ho, hexposes⟩ := hitems.mpr hnone
  obtain ⟨o', ho', himages⟩ := hall (alternatives, [undescribedImage, blankDescription]) (by simp [charges])
  have hfailed : o'.passed = false := by
    obtain ⟨s, hs, hcommits⟩ := himage
    exact himages.fails_iff.mpr ⟨s, hs, _, List.mem_cons_self, hcommits⟩
  refine ⟨hread, hreached, ⟨o, ho, hexposes, ?_⟩, o', ho', hfailed, ?_, hordered o' ho' hfailed hreached⟩
  · obtain ⟨s, hs, hcommits⟩ := hitem
    exact hexposes.fails_iff.mpr ⟨s, hs, _, List.mem_singleton_self _, hcommits⟩
  · rw [himages.message hfailed, hcharge]

/-- The list item is moved into a copy of the `b` inside the list, but still looks up to the list. -/
theorem item_in_bold_tolerated :
    let page := "<b><ul>t<li>x</li>t</b></ul>".toList
    let d := Document.ofPage page
    (∀ s ∈ d.sites, d.Reaches s) ∧
      (listItems.check d page).toOption.map (·.passed) = some true ∧
      ∃ s ∈ d.sites, s.name = "li" ∧ s.holder?.map (·.name) = some "b" ∧
        (strayItem Site.holder?).commits s = true := by
  decide +kernel

end Rule

end PageGrader
