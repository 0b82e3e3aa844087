import PageGrader.Proofs.Citation
import PageGrader.Proofs.Run
import PageGrader.Proofs.Summary

namespace PageGrader

namespace Rule

def citations (d : Document) (page : List Char) : List (Rule × List Site) :=
  [(singleTop, d.all "h1"),
   (listItems, blame (d.all "li") ((d.all "li").filter outsideList)),
   (targets, blame (d.all "[href]") ((d.all "[href]").filter (·.name != "a"))),
   (sources, blame (d.all "[src]")
      ((d.all "[src]").filter (·.name != "img") ++ (d.all "img").filter lacksSource)),
   (buttons, blame (d.all "button") ((d.all "button").filter fun s => !s.hasAncestor "form")),
   (tables, d.all "table, thead, tbody, tfoot, tr, td, th"),
   (presentational, d.all "u, b, i"),
   (proportion,
      if enoughMeaning (d.all semantic).length ((d.all "div").length + (d.all "span").length)
      then d.all semantic else (d.all "div").take 5),
   (landmarks, landmarkTags.filterMap fun tag => (d.all tag).head?),
   (fileNames, (d.all "[href], [src]").filter misnames),
   (imageSizes, []),
   (title, (d.all "head title").head?.toList),
   (encoding, ((d.all "meta[charset]").find? declaresCharset <|>
      (d.all "meta[http-equiv]").find? declaresContentType).toList),
   (controls, blame (d.all "audio" ++ d.all "video")
      ((d.all "audio").filter mute ++ (d.all "video").filter unruly)),
   (pageNames, (d.all "a[href], link[href]").filter misnamesPage),
   (navigation, blame (d.all "nav")
      ((d.all "nav").filter fun nav => !(Navigation.against nav).isEmpty)),
   (skeleton,
      if (Execution.outcomeOf skeleton d page).passed then Skeleton.parts d page else []),
   (closure, []),
   (viewport, ((d.all "meta[name]").find? isViewport).toList),
   (hierarchy, Hierarchy.flagged d),
   (alternatives, blame (d.all "img")
      ((d.all "img").filter lacksAlternative ++ (d.all "img").filter hidesAlternative))]

theorem citations_rules (d : Document) (page : List Char) :
    (citations d page).map (·.1) = Registry.standard.rules := rfl

theorem cites_of_mem (d : Document) (page : List Char) :
    ∀ c ∈ citations d page, Cites d (c.1.check d page) c.2 := by
  simp only [citations, List.forall_mem_cons, List.not_mem_nil, false_implies, implies_true]
  exact ⟨cites_singleTop d page, cites_listItems d page, cites_targets d page,
    cites_sources d page, cites_buttons d page, cites_tables d page, cites_presentational d page,
    cites_proportion d page, cites_landmarks d page, cites_fileNames d page,
    cites_imageSizes d page, cites_title d page, cites_encoding d page, cites_controls d page,
    cites_pageNames d page, cites_navigation d page, cites_skeleton d page, cites_closure d page,
    cites_viewport d page, cites_hierarchy d page, cites_alternatives d page, trivial⟩

end Rule

namespace Image

def sites (d : Document) : List Site := (d.all "img[src]").filter (·.hasAttribute "src")

theorem mem_sources_nodes {d : Document} {l : List Source} (hsources : sources d = .ok l)
    {h : Handle} : (∃ source ∈ l, source.node = h) ↔ h ∈ d.handles (sites d) := by
  rw [sources_eq] at hsources
  obtain rfl := Except.ok.inj hsources
  rw [d.mem_handles]
  constructor
  · rintro ⟨source, hmem, rfl⟩
    obtain ⟨image, himage, hsource⟩ := List.mem_filterMap.mp hmem
    obtain ⟨address, haddress, rfl⟩ := Option.map_eq_some_iff.mp hsource
    refine ⟨image, List.mem_filter.mpr ⟨himage, ?_⟩, rfl⟩
    exact Option.isSome_of_eq_some haddress
  · rintro ⟨image, himage, rfl⟩
    obtain ⟨hmem, hsrc⟩ := List.mem_filter.mp himage
    obtain ⟨address, haddress⟩ : ∃ address, image.attribute? "src" = some address :=
      Option.isSome_iff_exists.mp hsrc
    refine ⟨⟨d.handle image.element, Text.trimmed address⟩, ?_, rfl⟩
    apply List.mem_filterMap.mpr
    refine ⟨image, hmem, ?_⟩
    rw [haddress]
    rfl

theorem check_evidence {resolve : String → Option String} {limit : Nat} {probe : Probe}
    {l : List Source} {h : Handle} (hmem : h ∈ (check resolve probe limit l).evidence) :
    ∃ source ∈ l, source.node = h := by
  by_cases hplans : plans resolve l = []
  · rw [check_of_no_plans hplans] at hmem
    exact absurd hmem List.not_mem_nil
  · rw [check_of_plans hplans, summary_evidence] at hmem
    obtain ⟨source, hsource, -, hnode⟩ := mem_tooLarge_learned.mp hmem
    exact ⟨source, hsource, hnode⟩

end Image

namespace Prepared

/-- A handle that can be seen of a run: in a finding, before or after the images are measured, or with
an image that waits to be measured. -/
inductive Shows (p : Prepared) (h : Handle) : Prop where
  | found {f : Finding} (hf : f ∈ p.provisional.findings) (hh : h ∈ f.outcome.evidence)
  | finished {resolve answers s} {f : Finding} (hf : f ∈ (p.finishing resolve answers s).findings)
    (hh : h ∈ f.outcome.evidence)
  | waiting {q : Pending} {source : Image.Source} (hq : q ∈ p.pending) (hsource : source ∈ q.sources)
    (hnode : source.node = h)

def named (d : Document) (page : List Char) : List Site :=
  (Rule.citations d page).flatMap (·.2) ++ Image.sites d

variable {d : Document} {page : List Char} {p : Prepared} {h : Handle}

theorem mem_run_evidence :
    (∃ f ∈ (Execution.run Registry.standard.rules d page).findings, h ∈ f.outcome.evidence) ↔
      ∃ c ∈ Rule.citations d page, h ∈ d.handles c.2 := by
  rw [Execution.run_findings, ← Rule.citations_rules d page, List.map_map]
  have houtcome : ∀ c ∈ Rule.citations d page,
      (h ∈ (Execution.outcomeOf c.1 d page).evidence ↔ h ∈ d.handles c.2) := by
    intro c hc
    obtain ⟨o, ho, hevidence⟩ := Rule.cites_of_mem d page c hc
    rw [Execution.outcomeOf, ho]
    exact hevidence h
  constructor
  · rintro ⟨f, hf, hh⟩
    obtain ⟨c, hc, rfl⟩ := List.mem_map.mp hf
    exact ⟨c, hc, (houtcome c hc).mp hh⟩
  · rintro ⟨c, hc, hh⟩
    exact ⟨_, List.mem_map_of_mem hc, (houtcome c hc).mpr hh⟩

theorem mem_provisional_evidence (hread : Document.read page = .ok d)
    (hp : ofPage .standard page = .ok p) :
    (∃ f ∈ p.findings, h ∈ f.outcome.evidence) ↔
      ∃ c ∈ Rule.citations d page, h ∈ d.handles c.2 := by
  rw [ofPage_eq .standard hread] at hp
  obtain rfl := Except.ok.inj hp
  rw [← mem_run_evidence]
  constructor
  · rintro ⟨f, hf, hh⟩
    rcases List.mem_append.mp hf with hflag | hrun
    -- A red flag is raised before there are elements, so it names none.
    · obtain ⟨flag, -, rfl⟩ := List.mem_map.mp hflag
      exact absurd hh List.not_mem_nil
    · exact ⟨f, hrun, hh⟩
  · rintro ⟨f, hf, hh⟩
    exact ⟨f, List.mem_append_right _ hf, hh⟩

theorem mem_handles_named :
    h ∈ d.handles (named d page) ↔
      (∃ c ∈ Rule.citations d page, h ∈ d.handles c.2) ∨ h ∈ d.handles (Image.sites d) := by
  rw [named, d.handles_append, List.mem_append]
  apply or_congr_left
  constructor
  · intro hh
    obtain ⟨s, hs, rfl⟩ := d.mem_handles.mp hh
    obtain ⟨c, hc, hsite⟩ := List.mem_flatMap.mp hs
    exact ⟨c, hc, d.mem_handles.mpr ⟨s, hsite, rfl⟩⟩
  · rintro ⟨c, hc, hh⟩
    obtain ⟨s, hs, rfl⟩ := d.mem_handles.mp hh
    exact d.mem_handles.mpr ⟨s, List.mem_flatMap.mpr ⟨c, hc, hs⟩, rfl⟩

theorem mem_finished_evidence (hread : Document.read page = .ok d)
    (hp : ofPage .standard page = .ok p) {resolve : Image.Resolver} {answers : Nat → Image.Probe}
    {s : Settings} {f : Finding} (hf : f ∈ (p.finishing resolve answers s).findings)
    (hh : h ∈ f.outcome.evidence) :
    h ∈ d.handles (named d page) := by
  have hfinishes := finishes_finishing resolve answers s (waits_ofPage hread hp)
  obtain ⟨i, hi, hget⟩ := List.getElem_of_mem hf
  have hget? : (p.finishing resolve answers s).findings[i]? = some f := by
    rw [List.getElem?_eq_getElem hi, hget]
  rw [mem_handles_named]
  by_cases hslot : i ∈ p.pending.map (·.slot)
  · obtain ⟨l, hl, houtcome⟩ := hfinishes.measured i hslot
    rw [hget?, Option.map_some] at houtcome
    rw [Option.some.inj houtcome] at hh
    exact .inr ((Image.mem_sources_nodes hl).mp (Image.check_evidence hh))
  · rw [hfinishes.settled i hslot] at hget?
    have hmem : f ∈ p.findings := List.mem_of_getElem? hget?
    exact .inl ((mem_provisional_evidence hread hp).mp ⟨f, hmem, hh⟩)

/-- What can be seen of a run are the handles of the sites it names, and all of them. -/
theorem shows_iff (hread : Document.read page = .ok d) (hp : ofPage .standard page = .ok p) :
    p.Shows h ↔ h ∈ d.handles (named d page) := by
  have hwaits := waits_ofPage hread hp
  constructor
  · intro hshows
    cases hshows with
    | found hf hh =>
      exact mem_handles_named.mpr (.inl ((mem_provisional_evidence hread hp).mp ⟨_, hf, hh⟩))
    | finished hf hh => exact mem_finished_evidence hread hp hf hh
    | waiting hq hsource hnode =>
      have hl := hwaits.sources _ hq
      exact mem_handles_named.mpr (.inr ((Image.mem_sources_nodes hl).mp ⟨_, hsource, hnode⟩))
  · intro hmem
    rcases mem_handles_named.mp hmem with hcited | himage
    · obtain ⟨f, hf, hh⟩ := (mem_provisional_evidence hread hp).mpr hcited
      exact .found hf hh
    -- The finding on image sizes always waits, with all images that are measured.
    · have hslot : (RedFlag.findings page).length + 10 ∈ p.pending.map (·.slot) := by
        rw [slots_standard hwaits]
        exact List.mem_singleton_self _
      obtain ⟨q, hq, -⟩ := List.mem_map.mp hslot
      obtain ⟨source, hsource, hnode⟩ := (Image.mem_sources_nodes (hwaits.sources q hq)).mpr himage
      exact .waiting hq hsource hnode

/-- What can be seen of a run stays inside the document, and away from the handle beyond all others,
just if the walk that numbers the elements comes to every site the run names; what is not inside stands
for a site it does not come to. A document cannot have more elements than that handle can count. -/
theorem shows_owned_iff_reached (hread : Document.read page = .ok d)
    (hcount : d.count ≤ Handle.nowhere) :
    ∃ p, ofPage .standard page = .ok p ∧
      ((∀ h, p.Shows h → d.Owns h ∧ h.index ≠ Handle.nowhere) ↔
        ∀ s ∈ named d page, d.Reaches s) ∧
      ∀ h, p.Shows h → d.Owns h ∨
        ∃ s ∈ named d page, ¬ d.Reaches s ∧ h = ⟨Handle.nowhere, s.name, 0⟩ := by
  have hp := ofPage_eq .standard hread
  refine ⟨_, hp, ⟨?_, ?_⟩, ?_⟩
  · intro howned s hs
    apply (Document.owns_handle_iff hcount).mp
    refine (howned _ ?_).1
    exact (shows_iff hread hp).mpr (d.mem_handles.mpr ⟨s, hs, rfl⟩)
  · intro hreached h hshows
    obtain ⟨s, hs, rfl⟩ := d.mem_handles.mp ((shows_iff hread hp).mp hshows)
    have howns := Document.owns_handle (hreached s hs)
    have hlt := howns.inRange
    exact ⟨howns, by omega⟩
  · intro h hshows
    obtain ⟨s, hs, rfl⟩ := d.mem_handles.mp ((shows_iff hread hp).mp hshows)
    by_cases hreached : d.Reaches s
    · exact .inl (Document.owns_handle hreached)
    · exact .inr ⟨s, hs, hreached, Document.handle_of_not_reaches hreached⟩

/-- A page whose only presentational element stays where the walk comes to it. -/
theorem shows_owned_in_paragraph :
    Document.read "<p><b>".toList = .ok (Document.ofPage "<p><b>".toList) ∧
      (Document.ofPage "<p><b>".toList).count ≤ Handle.nowhere ∧
      ∃ p, ofPage .standard "<p><b>".toList = .ok p ∧
        ∀ h, p.Shows h → (Document.ofPage "<p><b>".toList).Owns h ∧ h.index ≠ Handle.nowhere := by
  have hread : Document.read "<p><b>".toList = .ok (Document.ofPage "<p><b>".toList) := rfl
  have hcount : (Document.ofPage "<p><b>".toList).count ≤ Handle.nowhere := by decide +kernel
  obtain ⟨p, hp, howned, -⟩ := shows_owned_iff_reached hread hcount
  refine ⟨hread, hcount, p, hp, howned.mpr ?_⟩
  unfold Document.Reaches
  decide +kernel

/-- A set of frames takes the place of the body, and what was in the body is named all the same. -/
theorem shows_nowhere_beside_frames :
    ¬ ∀ (page : List Char) (d : Document) (p : Prepared), Document.read page = .ok d →
      ofPage .standard page = .ok p → ∀ h, p.Shows h → d.Owns h ∧ h.index ≠ Handle.nowhere := by
  intro hall
  let page := "<b></b><frameset></frameset>".toList
  have hread : Document.read page = .ok (Document.ofPage page) := rfl
  have hp := ofPage_eq .standard hread
  have hmem : ⟨Handle.nowhere, "b", 0⟩ ∈
      (Document.ofPage page).handles (named (Document.ofPage page) page) := by decide +kernel
  exact (hall page _ _ hread hp _ ((shows_iff hread hp).mpr hmem)).2 rfl

end Prepared

end PageGrader
