import PageGrader.Proofs.Hierarchy
import PageGrader.Proofs.Navigation

namespace PageGrader.Rule

open Navigation (navs against isIn)
open Hierarchy (problems headingTags levels)

variable {d : Document} {nav t : Site} {page : List Char}

/-- The list items that stand anywhere but directly in an unordered list. -/
def offenders (d : Document) : List Site := (among ["li"] d.sites).filter outsideList

theorem mem_offenders : t ∈ offenders d ↔ t ∈ d.sites ∧ t.name = "li" ∧ outsideList t = true := by
  rw [offenders, List.mem_filter, mem_among, List.mem_singleton, and_assoc]

theorem check_listItems (d : Document) (page : List Char) :
    ∃ o, listItems.check d page = .ok o ∧ (o.passed = true ↔ offenders d = []) ∧
      (o.passed = false → o.evidence = d.handles (offenders d)) := by
  have hitems : d.all "li" = among ["li"] d.sites := d.all_anyTag rfl (by decide)
  have hcheck : listItems.check d page = _ := congrArg (· >>= _) (d.query_of_inUse (by decide))
  rw [hcheck, hitems, offenders]
  dsimp only [bind, Except.bind]
  cases (among ["li"] d.sites).filter outsideList with
  | nil => exact ⟨_, rfl, by simp [Outcome.pass], nofun⟩
  | cons first rest => exact ⟨_, rfl, by simp [Outcome.fail], fun _ => rfl⟩

theorem check_singleTop (d : Document) (page : List Char) :
    ∃ o, singleTop.check d page = .ok o ∧ (o.passed = true ↔ (among ["h1"] d.sites).length = 1) := by
  have htops : d.all "h1" = among ["h1"] d.sites := d.all_anyTag rfl (by decide)
  have hcheck : singleTop.check d page = _ := congrArg (· >>= _) (d.query_of_inUse (by decide))
  rw [hcheck, htops]
  match among ["h1"] d.sites with
  | [] => exact ⟨_, rfl, by simp [Outcome.fail]⟩
  | [_] => exact ⟨_, rfl, by simp [Outcome.pass]⟩
  | _ :: _ :: _ => exact ⟨_, rfl, by simp [Outcome.fail]⟩

theorem outsideList_eq (item : Site) : outsideList item = !isIn item "ul" := by
  unfold outsideList isIn
  cases item.parent? <;> simp [bne]

theorem itemOutsideList_mem_against :
    .itemOutsideList ∈ against nav ↔ ∃ t ∈ nav.descendants, t.name = "li" ∧ outsideList t = true := by
  rw [← List.count_pos_iff, Navigation.count_against, Navigation.departures, List.countP_pos_iff]
  simp only [Bool.and_eq_true, beq_iff_eq, outsideList_eq]
  rfl

/-- The list that an item inside a `nav` stands in is inside, too. -/
theorem exists_list (hread : Document.read page = .ok d) (hnav : nav ∈ navs d) (ht : t ∈ nav.descendants)
    (hin : outsideList t = false) : ∃ u ∈ nav.descendants, u.name = "ul" := by
  obtain ⟨hsite, hname⟩ := mem_among.mp hnav
  have hname : nav.name = "nav" := List.mem_singleton.mp hname
  have hencloses := Document.encloses hread hsite (Navigation.formats_of_mem_navs hnav)
  rw [outsideList_eq, Bool.not_eq_false'] at hin
  rw [nav.descendants_eq] at ht ⊢
  obtain ⟨item, hitem, rfl⟩ := List.mem_map.mp ht
  rw [Navigation.isIn_within (hencloses item hitem) (by rw [hname]; decide)] at hin
  obtain ⟨u, hu, hlist⟩ := (Option.any_eq_true _ _).mp hin
  refine ⟨u.within nav.surroundings, List.mem_map_of_mem ?_, beq_iff_eq.mp hlist⟩
  exact Forest.mem_walk_of_suffix hitem (Site.surroundings_suffix hu) List.nil_suffix

theorem mem_problems_of_nav {p : Hierarchy.Problem} (hpart : p.part = .nav) :
    p ∈ problems d ↔ ∃ nav ∈ navs d, p ∈ Hierarchy.navProblems nav := by
  rw [Hierarchy.mem_problems]
  refine exists_congr fun nav => ?_
  rw [Hierarchy.mem_flags, hpart]
  rfl

theorem mem_problems_of_header {p : Hierarchy.Problem} (hpart : p.part = .header) : p ∈ problems d ↔
    ∃ header ∈ among ["header"] d.sites, p ∈ Hierarchy.headerProblems (levels header.descendants) := by
  rw [Hierarchy.mem_problems]
  refine exists_congr fun header => ?_
  rw [Hierarchy.mem_flags, hpart]

/-- Items that some `nav` has right inside are out of place for the rule on list items. -/
theorem exists_offender (hread : Document.read page = .ok d) (h : .navItems ∈ problems d) :
    ∃ nav ∈ navs d, ∃ t ∈ nav.contents, t ∈ offenders d := by
  obtain ⟨nav, hnav, hitems⟩ := (mem_problems_of_nav rfl).mp h
  obtain ⟨e, he, hname⟩ := Hierarchy.navItems_mem_navProblems.mp hitems
  obtain ⟨hsite, hnavName⟩ := mem_among.mp hnav
  obtain ⟨t, ht, rfl, hparent⟩ :=
    Document.exists_of_mem_children hread hsite (Navigation.formats_of_mem_navs hnav) he
  have hother : nav.name ≠ "ul" := by
    rw [List.mem_singleton.mp hnavName]
    decide
  have houtside : outsideList t = true := by simpa [outsideList, hparent] using hother
  have hplace := Document.mem_sites_of_mem_contents hsite ht
  exact ⟨nav, hnav, t, ht, mem_offenders.mpr ⟨hplace, hname, houtside⟩⟩

theorem mem_sites_of_mem_descendants (hnav : nav ∈ navs d) (ht : t ∈ nav.descendants) : t ∈ d.sites :=
  Document.mem_sites_of_mem_contents (mem_among.mp hnav).1 (nav.descendants_sublist_contents.mem ht)

/-- In a `nav` without any reason against it, a walk comes to no item that is out of place. -/
theorem not_mem_offenders (h : against nav = []) (ht : t ∈ nav.descendants) : t ∉ offenders d := by
  intro hoffends
  obtain ⟨-, hname, houtside⟩ := mem_offenders.mp hoffends
  have hreason := itemOutsideList_mem_against.mpr ⟨t, ht, hname, houtside⟩
  rw [h] at hreason
  cases hreason

theorem navWithoutList_not_mem (hread : Document.read page = .ok d)
    (h : ∀ nav ∈ navs d, against nav = []) : .navWithoutList ∉ problems d := by
  intro hproblem
  obtain ⟨nav, hnav, hproblem⟩ := (mem_problems_of_nav rfl).mp hproblem
  obtain ⟨⟨t, ht, hname⟩, hnone⟩ := Hierarchy.navWithoutList_mem_navProblems.mp hproblem
  have hin : outsideList t = false := by
    rw [← Bool.not_eq_true]
    intro houtside
    exact not_mem_offenders (h nav hnav) ht
      (mem_offenders.mpr ⟨mem_sites_of_mem_descendants hnav ht, hname, houtside⟩)
  obtain ⟨u, hu, hlist⟩ := exists_list hread hnav ht hin
  exact (hnone u hu).1 hlist

/-- Of the list items in a `nav`, a walk through the `nav` comes to all that are out of place. -/
def Noticed (d : Document) : Prop :=
  ∀ nav ∈ navs d, ∀ t ∈ nav.contents, t ∈ offenders d → t ∈ nav.descendants

theorem noticed_of_whole (h : ∀ nav ∈ navs d, nav.inside.Whole) : Noticed d := by
  intro nav hnav t ht _
  rw [Site.descendants, (h nav hnav).walk_eq_sites]
  exact ht

/-- None of the rules finds a list item of a `nav` out of place. -/
structure Listed (d : Document) : Prop where
  direct : .navItems ∉ problems d
  lists : .navWithoutList ∉ problems d
  items : ∀ nav ∈ navs d, ∀ t ∈ nav.contents, t ∉ offenders d

theorem listed_iff_noticed (hread : Document.read page = .ok d)
    (h : ∀ nav ∈ navs d, against nav = []) : Listed d ↔ Noticed d := by
  constructor
  · intro hlisted nav hnav t ht hoffends
    exact absurd hoffends (hlisted.items nav hnav t ht)
  · intro hnoticed
    have hitems (nav) (hnav : nav ∈ navs d) (t) (ht : t ∈ nav.contents) : t ∉ offenders d :=
      fun hoffends => not_mem_offenders (h nav hnav) (hnoticed nav hnav t ht hoffends) hoffends
    refine ⟨fun hdirect => ?_, navWithoutList_not_mem hread h, hitems⟩
    obtain ⟨nav, hnav, t, ht, hoffends⟩ := exists_offender hread hdirect
    exact hitems nav hnav t ht hoffends

theorem inLists_of_none (hread : Document.read page = .ok d) (h : offenders d = []) :
    .navItems ∉ problems d ∧ ∀ nav ∈ navs d, .itemOutsideList ∉ against nav := by
  have hnone (t) : t ∉ offenders d := by simp [h]
  constructor
  · intro hdirect
    obtain ⟨-, -, t, -, hoffends⟩ := exists_offender hread hdirect
    exact hnone t hoffends
  · intro nav hnav hreason
    obtain ⟨t, ht, hname, houtside⟩ := itemOutsideList_mem_against.mp hreason
    have hsite := mem_sites_of_mem_descendants hnav ht
    exact hnone t (mem_offenders.mpr ⟨hsite, hname, houtside⟩)

theorem level_eq_one : Hierarchy.level t = 1 ↔ t.name = "h1" := by
  rw [Hierarchy.level, headingTags, List.idxOf_cons]
  cases h : "h1" == t.name with
  | true => simp [(beq_iff_eq.mp h).symm]
  | false => simp [(beq_eq_false_iff_ne.mp h).symm]

/-- Headings of the first level, counted by their level or by their name. -/
theorem count_levels (sites : List Site) : (levels sites).count 1 = (among ["h1"] sites).length := by
  rw [levels, List.count_eq_countP, List.countP_map, among, List.countP_filter, among,
    ← List.countP_eq_length_filter]
  apply List.countP_congr
  intro s _
  simp only [Function.comp_apply, Bool.and_eq_true, beq_iff_eq, level_eq_one, List.contains_iff_mem,
    List.mem_singleton]
  refine and_iff_left_of_imp fun hname => ?_
  rw [hname]
  exact List.mem_cons_self

/-- There are no more of them in an element than in the document. -/
theorem count_levels_le (h : t ∈ d.sites) :
    (levels t.descendants).count 1 ≤ (among ["h1"] d.sites).length := by
  have hinside : t.descendants.Sublist d.places :=
    t.descendants_sublist_contents.trans (Document.contents_sublist_places (Document.mem_sites.mp h))
  have hall : (among ["h1"] d.sites).Perm (among ["h1"] d.places) := (sortOn_perm _ _).filter _
  rw [count_levels, hall.length_eq]
  exact (hinside.filter _).length_le

theorem headerTops_not_mem (h : (among ["h1"] d.sites).length = 1) (count : Nat) :
    .headerTops count ∉ problems d := by
  intro hproblem
  obtain ⟨header, hheader, hproblem⟩ := (mem_problems_of_header rfl).mp hproblem
  have hmany := (Hierarchy.headerTops_mem_headerProblems.mp hproblem).1
  have hle := count_levels_le (mem_among.mp hheader).1
  omega

theorem tops_ne_nil (h : Hierarchy.Orderly Site.descendants d) (hany : among headingTags d.sites ≠ []) :
    among ["h1"] d.sites ≠ [] := by
  have hlevels : levels d.sites ≠ [] := by simpa [levels] using hany
  obtain ⟨first, rest, hlevels⟩ := List.exists_cons_of_ne_nil hlevels
  have hfirst : first = 1 := h.begins first (by rw [hlevels]; rfl)
  have hpos : 0 < (levels d.sites).count 1 := by
    rw [List.count_pos_iff, hlevels, hfirst]
    exact List.mem_cons_self
  rw [count_levels] at hpos
  exact List.ne_nil_of_length_pos hpos

/-- What each of the rules tells, and where one finds nothing wrong, what the others do not find. -/
structure Agreement (d : Document) (shape items top order : Outcome) : Prop where
  shapeTells : shape.passed = false → shape.message = Navigation.verdict d
  itemsTells : items.passed = false → items.evidence = d.handles (offenders d)
  orderTells : order.passed = false → order.message = Hierarchy.complaint d
  /-- If navigation is in shape, no `nav` lacks a list for its items, -/
  lists : shape.passed = true → .navWithoutList ∉ problems d
  /-- no item in it that a walk comes to is out of place, -/
  reached : shape.passed = true → ∀ nav ∈ navs d, ∀ t ∈ nav.descendants, t ∉ offenders d
  /-- and no item at all just if a walk comes to those that are. -/
  listed_iff : shape.passed = true → (Listed d ↔ Noticed d)
  /-- If list items are in their lists, those in navigation are. -/
  inLists : items.passed = true →
    .navItems ∉ problems d ∧ ∀ nav ∈ navs d, .itemOutsideList ∉ against nav
  /-- If there is a single main heading, no header has several. -/
  single : top.passed = true → ∀ count, .headerTops count ∉ problems d
  /-- Headings without a main one fail both rules on headings. -/
  topless : d.all Hierarchy.headings ≠ [] → d.all "h1" = [] →
    top.passed = false ∧ order.passed = false

/-- The rules on navigation, list items, the main heading and the order of headings agree on every page,
up to list items of a `nav` that a walk through it does not come to; in a tree without breaks there are
none. -/
theorem rules_agree (h : Document.read page = .ok d) :
    ((∀ nav ∈ navs d, nav.inside.Whole) → Noticed d) ∧
      ∃ shape items top order, navigation.check d page = .ok shape ∧
        listItems.check d page = .ok items ∧ singleTop.check d page = .ok top ∧
        hierarchy.check d page = .ok order ∧ Agreement d shape items top order := by
  obtain ⟨shape, hshape, hshapePasses, hshapeTells⟩ := Navigation.check_navigation d page
  obtain ⟨items, hitems, hitemsPasses, hitemsTells⟩ := check_listItems d page
  obtain ⟨top, htop, htopPasses⟩ := check_singleTop d page
  obtain ⟨order, horder, horderPasses, horderTells⟩ := Hierarchy.check_hierarchy d page
  refine ⟨noticed_of_whole, shape, items, top, order, hshape, hitems, htop, horder, ?_⟩
  exact {
    shapeTells := fun hfailed => (hshapeTells hfailed).2
    itemsTells := hitemsTells
    orderTells := fun hfailed => (horderTells hfailed).2
    lists := fun hpassed => navWithoutList_not_mem h (hshapePasses.mp hpassed)
    reached := fun hpassed nav hnav _ ht => not_mem_offenders (hshapePasses.mp hpassed nav hnav) ht
    listed_iff := fun hpassed => listed_iff_noticed h (hshapePasses.mp hpassed)
    inLists := fun hpassed => inLists_of_none h (hitemsPasses.mp hpassed)
    single := fun hpassed => headerTops_not_mem (htopPasses.mp hpassed)
    topless := by
      have htops : d.all "h1" = among ["h1"] d.sites := d.all_anyTag rfl (by decide)
      rw [htops, Hierarchy.all_headings]
      intro hany hnone
      constructor
      · rw [← Bool.not_eq_true, htopPasses, hnone]
        exact Nat.zero_ne_one
      · rw [← Bool.not_eq_true, horderPasses, Hierarchy.flagged_eq_nil]
        exact fun horderly => tops_ne_nil horderly hany hnone }

/-- A page with a menu as it should be, and one heading, of the second level. -/
theorem rules_agree_on_menu :
    let page := "<nav><ul><li><a>x</a></li></ul></nav><h2>y</h2>".toList
    let d := Document.ofPage page
    Document.read page = .ok d ∧ Listed d ∧ ∃ top order, singleTop.check d page = .ok top ∧
      hierarchy.check d page = .ok order ∧ top.passed = false ∧ order.passed = false := by
  intro page d
  have hread : Document.read page = .ok d := by rfl
  have hwhole : ∀ nav ∈ navs d, nav.inside.Whole := by decide +kernel
  have hpasses : (navigation.check d page).toOption.map (·.passed) = some true := by decide +kernel
  have hheadings : (d.all Hierarchy.headings).length = 1 := by decide +kernel
  have htops : (d.all "h1").length = 0 := by decide +kernel
  obtain ⟨hnoticed, shape, items, top, order, hshape, -, htop, horder, hagree⟩ := rules_agree hread
  rw [hshape] at hpasses
  have hpassed : shape.passed = true := Option.some.inj hpasses
  refine ⟨hread, (hagree.listed_iff hpassed).mpr (hnoticed hwhole), top, order, htop, horder, ?_⟩
  exact hagree.topless (List.ne_nil_of_length_pos (by omega)) (List.eq_nil_of_length_eq_zero htops)

/-- The text and the comment are moved into a copy of the `b`, but the comment still looks up to the
`nav`. A walk takes the `nav` to end with it, and does not come to the list item that follows. -/
theorem item_in_nav_overlooked :
    let page := "<b><nav>t<!----><li></b></li><ul></ul></nav>".toList
    let d := Document.ofPage page
    (navigation.check d page).toOption.map (·.passed) = some true ∧
      (listItems.check d page).toOption.map (·.passed) = some false ∧ .navItems ∈ problems d ∧
      ∃ nav ∈ navs d, ∃ t ∈ nav.contents, t.name = "li" ∧ outsideList t = true := by
  decide +kernel

end PageGrader.Rule
