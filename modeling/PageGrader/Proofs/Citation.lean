import PageGrader.Execution
import PageGrader.Proofs.Handle
import PageGrader.Proofs.Query
import PageGrader.Proofs.Sorting
import PageGrader.Registry

namespace PageGrader

/-- A check that comes to an outcome with the handles of just these sites as its evidence. -/
def Cites (d : Document) (result : Except Breakdown Outcome) (sites : List Site) : Prop :=
  ∃ o, result = .ok o ∧ ∀ h, h ∈ o.evidence ↔ h ∈ d.handles sites

namespace Cites

variable {α : Type} {d : Document} {message suggestion : String} {sites : List Site}

theorem pass : Cites d (.ok (.pass message (d.handles sites))) sites :=
  ⟨_, rfl, fun _ => Iff.rfl⟩

theorem fail : Cites d (.ok (.fail message suggestion (d.handles sites))) sites :=
  ⟨_, rfl, fun _ => Iff.rfl⟩

theorem pass_nothing : Cites d (.ok (.pass message)) [] := ⟨_, rfl, fun _ => Iff.rfl⟩

theorem fail_nothing : Cites d (.ok (.fail message suggestion)) [] := ⟨_, rfl, fun _ => Iff.rfl⟩

theorem bind {first : Except Breakdown α} {a : α} {rest : α → Except Breakdown Outcome}
    (hfirst : first = .ok a) (hrest : Cites d (rest a) sites) : Cites d (first >>= rest) sites := by
  rw [hfirst]
  exact hrest

/-- The evidence may come in another order, or without repetitions. -/
theorem of_mem {o : Outcome} (h : ∀ handle, handle ∈ o.evidence ↔ handle ∈ d.handles sites) :
    Cites d (.ok o) sites := ⟨o, rfl, h⟩

end Cites

def blame (looked offending : List Site) : List Site :=
  if offending.isEmpty then looked else offending

theorem isEmpty_and_isEmpty (sites others : List Site) :
    (sites.isEmpty && others.isEmpty) = (sites ++ others).isEmpty := by
  cases sites <;> rfl

theorem Cites.blame {d : Document} {looked offending : List Site} {o o' : Except Breakdown Outcome}
    {none : Bool} (hnone : none = offending.isEmpty) (hlooked : Cites d o looked)
    (hoffending : Cites d o' offending) :
    Cites d (if none then o else o') (blame looked offending) := by
  rw [hnone, PageGrader.blame]
  split
  · exact hlooked
  · exact hoffending

theorem Cites.some_or_none {d : Document} {found : List Site} {o o' : Except Breakdown Outcome}
    (hnone : Cites d o []) (hsome : Cites d o' found) :
    Cites d (if found.isEmpty then o else o') found := by
  split
  next h =>
    rw [List.isEmpty_iff.mp h]
    exact hnone
  next => exact hsome

theorem mapM_ok {α β : Type} {f : α → Except Breakdown β} {g : α → β} {l : List α}
    (h : ∀ a ∈ l, f a = .ok (g a)) : l.mapM f = .ok (l.map g) := by
  induction l with
  | nil => rfl
  | cons a rest ih =>
    rw [List.mapM_cons, h a List.mem_cons_self, ih fun b hb => h b (List.mem_cons_of_mem _ hb)]
    rfl

namespace Rule

variable (d : Document) (page : List Char)

theorem cites_listItems :
    Cites d (listItems.check d page) (blame (d.all "li") ((d.all "li").filter outsideList)) := by
  refine .bind (d.query_of_inUse (by decide)) ?_
  exact .blame rfl .pass .fail

theorem cites_targets :
    Cites d (targets.check d page)
      (blame (d.all "[href]") ((d.all "[href]").filter (·.name != "a"))) := by
  refine .bind (d.query_of_inUse (by decide)) ?_
  exact .blame rfl .pass .fail

theorem cites_buttons :
    Cites d (buttons.check d page)
      (blame (d.all "button") ((d.all "button").filter fun s => !s.hasAncestor "form")) := by
  refine .bind (d.query_of_inUse (by decide)) ?_
  exact .blame rfl .pass .fail

theorem cites_tables :
    Cites d (tables.check d page) (d.all "table, thead, tbody, tfoot, tr, td, th") := by
  refine .bind (d.query_of_inUse (by decide)) ?_
  exact .some_or_none .pass_nothing .fail

theorem cites_presentational : Cites d (presentational.check d page) (d.all "u, b, i") := by
  refine .bind (d.query_of_inUse (by decide)) ?_
  exact .some_or_none .pass_nothing .fail

theorem cites_sources :
    Cites d (sources.check d page) (blame (d.all "[src]")
      ((d.all "[src]").filter (·.name != "img") ++ (d.all "img").filter lacksSource)) := by
  refine .bind (d.query_of_inUse (by decide)) ?_
  refine .bind (d.query_of_inUse (by decide)) ?_
  refine .blame (isEmpty_and_isEmpty _ _) .pass (.of_mem ?_)
  intro h
  rw [d.handles_append]
  rfl

theorem cites_fileNames :
    Cites d (fileNames.check d page) ((d.all "[href], [src]").filter misnames) := by
  refine .bind (d.query_of_inUse (by decide)) ?_
  exact .some_or_none .pass_nothing .fail

theorem cites_pageNames :
    Cites d (pageNames.check d page) ((d.all "a[href], link[href]").filter misnamesPage) := by
  refine .bind (d.query_of_inUse (by decide)) ?_
  exact .some_or_none .pass_nothing .fail

theorem cites_controls :
    Cites d (controls.check d page) (blame (d.all "audio" ++ d.all "video")
      ((d.all "audio").filter mute ++ (d.all "video").filter unruly)) := by
  refine .bind (d.query_of_inUse (by decide)) ?_
  refine .bind (d.query_of_inUse (by decide)) ?_
  by_cases h : (d.all "audio").length + (d.all "video").length = 0
  · have haudio : d.all "audio" = [] := List.eq_nil_of_length_eq_zero (by omega)
    have hvideo : d.all "video" = [] := List.eq_nil_of_length_eq_zero (by omega)
    rw [haudio, hvideo]
    exact .pass_nothing
  · refine Eq.mpr (congrArg (Cites d · _) (if_neg ?_)) (.blame rfl .pass .fail)
    rw [beq_iff_eq]
    exact h

theorem cites_alternatives :
    Cites d (alternatives.check d page) (blame (d.all "img")
      ((d.all "img").filter lacksAlternative ++ (d.all "img").filter hidesAlternative)) := by
  refine .bind (d.query_of_inUse (by decide)) ?_
  refine .blame (isEmpty_and_isEmpty _ _) .pass (.of_mem ?_)
  intro h
  rw [d.handles_append]
  exact mem_sortOn

theorem cites_imageSizes : Cites d (imageSizes.check d page) [] := .pass_nothing

theorem cites_singleTop : Cites d (singleTop.check d page) (d.all "h1") := by
  refine .bind (d.query_of_inUse (by decide)) ?_
  cases hfound : d.all "h1" with
  | nil => exact .fail_nothing
  | cons first rest =>
    cases rest with
    | nil => exact .pass
    | cons second rest => exact .fail

theorem cites_proportion :
    Cites d (proportion.check d page)
      (if enoughMeaning (d.all semantic).length ((d.all "div").length + (d.all "span").length)
        then d.all semantic else (d.all "div").take 5) := by
  refine .bind (d.query_of_inUse (by decide)) ?_
  refine .bind (d.query_of_inUse (by decide)) ?_
  refine .bind (d.query_of_inUse (by decide)) ?_
  dsimp only
  split
  · exact .pass
  · exact .fail

theorem mapM_first :
    (landmarkTags.mapM fun tag => return (tag, ← d.first? tag)) =
      .ok (landmarkTags.map fun tag => (tag, (d.all tag).head?)) := by
  apply mapM_ok
  intro tag htag
  have huse : ∀ tag ∈ landmarkTags, tag ∈ Selector.inUse := by decide
  rw [d.first_of_inUse (huse tag htag)]
  rfl

theorem cites_landmarks :
    Cites d (landmarks.check d page) (landmarkTags.filterMap fun tag => (d.all tag).head?) := by
  refine .bind (mapM_first d) ?_
  have hfound : (landmarkTags.map fun tag => (tag, (d.all tag).head?)).filterMap (·.2) =
      landmarkTags.filterMap fun tag => (d.all tag).head? := List.filterMap_map
  dsimp only
  rw [hfound]
  split
  · exact .pass
  · exact .fail

theorem cites_title : Cites d (title.check d page) (d.all "head title").head?.toList := by
  refine .bind (d.first_of_inUse (by decide)) ?_
  cases (d.all "head title").head? with
  | none => exact .fail_nothing
  | some found =>
    dsimp only
    split
    · exact .fail
    · exact .pass

theorem cites_encoding :
    Cites d (encoding.check d page) (((d.all "meta[charset]").find? declaresCharset <|>
      (d.all "meta[http-equiv]").find? declaresContentType)).toList := by
  refine .bind (d.query_of_inUse (by decide)) ?_
  refine .bind (d.query_of_inUse (by decide)) ?_
  dsimp only
  cases ((d.all "meta[charset]").find? declaresCharset <|>
    (d.all "meta[http-equiv]").find? declaresContentType) with
  | none => exact .fail_nothing
  | some found => exact .pass

def isViewport (s : Site) : Bool := attributeIs s "name" (Text.sameLetters · "viewport")

theorem cites_viewport :
    Cites d (viewport.check d page) ((d.all "meta[name]").find? isViewport).toList := by
  refine .bind (d.query_of_inUse (by decide)) ?_
  have hfound : ((d.all "meta[name]").find? fun s =>
      attributeIs s "name" (Text.sameLetters · "viewport")) =
        (d.all "meta[name]").find? isViewport := rfl
  dsimp only
  rw [hfound]
  cases (d.all "meta[name]").find? isViewport with
  | none => exact .fail_nothing
  | some found =>
    dsimp only
    split
    · exact .pass
    · exact .fail

namespace Navigation

def against (nav : Site) : List Reason := found (reasons nav)

theorem reasons_eq (nav : Site) : reasons nav = .ok (against nav) := by
  apply eq_found
  unfold reasons
  rw [nav.query_of_inUse (by decide), nav.query_of_inUse (by decide)]
  exact ⟨_, rfl⟩

theorem mapM_reasons (navs : List Site) :
    (navs.mapM fun nav => return (nav, ← reasons nav)) =
      .ok (navs.map fun nav => (nav, against nav)) := by
  apply mapM_ok
  intro nav _
  rw [reasons_eq]
  rfl

end Navigation

theorem cites_navigation :
    Cites d (navigation.check d page) (blame (d.all "nav")
      ((d.all "nav").filter fun nav => !(Navigation.against nav).isEmpty)) := by
  refine .bind (d.query_of_inUse (by decide)) ?_
  by_cases hnone : d.all "nav" = []
  · rw [hnone]
    exact .pass_nothing
  · refine Eq.mpr (congrArg (Cites d · _) (if_neg fun h => hnone (List.isEmpty_iff.mp h))) ?_
    refine .bind (Navigation.mapM_reasons _) ?_
    have hinvalid : (((d.all "nav").map fun nav => (nav, Navigation.against nav)).filter
        (!·.2.isEmpty)).map (·.1) =
          (d.all "nav").filter fun nav => !(Navigation.against nav).isEmpty := by
      rw [List.filter_map, List.map_map]
      exact List.map_id _
    dsimp only
    rw [hinvalid]
    refine .blame ?_ .pass .fail
    rw [← hinvalid, List.isEmpty_map]

theorem cites_closure : Cites d (closure.check d page) [] := by
  unfold closure
  dsimp only
  split
  · exact .pass_nothing
  · exact .fail_nothing

namespace Skeleton

def part? (tag : String) : Option Site :=
  (d.all tag).head?.filter fun _ => (written tag).occurs page

/-- The three outer elements, as far as their tags are written out. -/
def parts : List Site := ["html", "head", "body"].filterMap (part? d page)

theorem part_eq {tag : String} (htag : tag ∈ Selector.inUse) :
    part d page tag = .ok (part? d page tag) := by
  rw [part, d.first_of_inUse htag]
  rfl

theorem mapM_part :
    (["html", "head", "body"].mapM fun tag => return (tag, ← part d page tag)) =
      .ok (["html", "head", "body"].map fun tag => (tag, part? d page tag)) := by
  apply mapM_ok
  intro tag htag
  have huse : ∀ tag ∈ ["html", "head", "body"], tag ∈ Selector.inUse := by decide
  rw [part_eq d page (huse tag htag)]
  rfl

end Skeleton

theorem evidence_of_passed {accepted : Bool} {sites : List Site} {message reproach advice : String} :
    ∃ o, (if accepted then .ok (.pass message (d.handles sites)) else .ok (.fail reproach advice) :
        Except Breakdown Outcome) = .ok o ∧
      o.evidence = d.handles (if o.passed then sites else []) := by
  cases accepted with
  | true => exact ⟨_, rfl, rfl⟩
  | false => exact ⟨_, rfl, rfl⟩

theorem evidence_skeleton :
    ∃ o, skeleton.check d page = .ok o ∧
      o.evidence = d.handles (if o.passed then Skeleton.parts d page else []) := by
  have hfound : (["html", "head", "body"].map fun tag =>
      (tag, Skeleton.part? d page tag)).filterMap (·.2) = Skeleton.parts d page :=
    List.filterMap_map
  unfold skeleton
  dsimp only
  rw [Skeleton.mapM_part]
  simp only [bind, Except.bind]
  rw [hfound]
  exact evidence_of_passed d

/-- What the defects are does not matter: with any of them nothing is named. -/
theorem cites_skeleton :
    Cites d (skeleton.check d page)
      (if (Execution.outcomeOf skeleton d page).passed then Skeleton.parts d page else []) := by
  obtain ⟨o, ho, hevidence⟩ := evidence_skeleton d page
  have houtcome : Execution.outcomeOf skeleton d page = o := by
    rw [Execution.outcomeOf, ho]
  rw [houtcome, ho]
  apply Cites.of_mem
  intro h
  rw [hevidence]

namespace Hierarchy

theorem headerFlags_eq (header : Site) : headerFlags header = .ok (found (headerFlags header)) := by
  apply eq_found
  unfold headerFlags
  rw [header.query_of_inUse (by decide)]
  exact ⟨_, rfl⟩

theorem navFlags_eq (nav : Site) : navFlags nav = .ok (found (navFlags nav)) := by
  apply eq_found
  unfold navFlags
  rw [nav.query_of_inUse (by decide), nav.query_of_inUse (by decide),
    nav.query_of_inUse (by decide)]
  exact ⟨_, rfl⟩

theorem flags_parts : flags d = .ok (sequenceFlags none false (d.all headings) ++
    ((d.all "header").map fun header => found (headerFlags header)).flatten ++
    ((d.all "nav").map fun nav => found (navFlags nav)).flatten ++
    landmarkFlags ((d.body?.map landmarks).getD [])) := by
  have hheaders := mapM_ok (l := d.all "header") fun header _ => headerFlags_eq header
  have hnavs := mapM_ok (l := d.all "nav") fun nav _ => navFlags_eq nav
  unfold flags
  rw [d.query_of_inUse (by decide), d.query_of_inUse (by decide), d.query_of_inUse (by decide)]
  simp only [bind, Except.bind, hheaders, hnavs]
  cases d.body? <;> rfl

theorem flags_eq : flags d = .ok (found (flags d)) := eq_found ⟨_, flags_parts d⟩

def flagged : List Site := (found (flags d)).map (·.site)

end Hierarchy

theorem cites_hierarchy : Cites d (hierarchy.check d page) (Hierarchy.flagged d) := by
  refine .bind (Hierarchy.flags_eq d) ?_
  unfold Hierarchy.flagged
  cases found (Hierarchy.flags d) with
  | nil => exact .pass_nothing
  | cons first rest =>
    apply Cites.of_mem
    intro h
    exact mem_dropRepeats.trans mem_sortOn

end Rule

end PageGrader
