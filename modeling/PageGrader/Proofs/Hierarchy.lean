import Mathlib.Data.List.Chain
import PageGrader.Proofs.Citation
import PageGrader.Proofs.Surroundings
import PageGrader.Proofs.Tags

namespace PageGrader.Rule.Hierarchy

variable {d : Document} {s t : Site} {before sites : List Site} {scope scope' : Site → List Site}

def headingTags : List String := ["h1", "h2", "h3", "h4", "h5", "h6"]

def level (s : Site) : Nat := headingTags.idxOf s.name + 1

def levels (sites : List Site) : List Nat := (among headingTags sites).map level

theorem levelOf_heading (h : s.name ∈ headingTags) : Heading.levelOf? s.name = some (level s) := by
  have hall : ∀ name ∈ headingTags,
      Heading.levelOf? name = some (headingTags.idxOf name + 1) := by decide +kernel
  exact hall _ h

theorem filterMap_levelOf (sites : List Site) :
    (among headingTags sites).filterMap (Heading.levelOf? ·.name) = levels sites := by
  rw [levels, ← List.filterMap_eq_map]
  apply List.filterMap_congr
  intro s hs
  rw [levelOf_heading (mem_among.mp hs).2, Function.comp_apply]

theorem all_headings (d : Document) : d.all headings = among headingTags d.sites :=
  d.all_anyTag rfl (by decide)

theorem below_headings (s : Site) : s.below headings = among headingTags s.descendants :=
  s.below_anyTag rfl (by decide)

/-- A heading out of place after some others: the first one has to be of the first level, none comes
before one of the first level, and none is more than a level below the one right before it. -/
inductive Misplaced (before : List Site) (s : Site) : Prop where
  | first (h : before = []) (hlevel : level s ≠ 1)
  | early (h : before ≠ []) (hnone : ∀ t ∈ before, level t ≠ 1)
  | skips {t : Site} (h : t ∈ before.getLast?) (hlevel : level t + 1 < level s)

theorem headingProblems_ne_nil :
    headingProblems (before.getLast?.map level) (before.any (level · == 1)) (level s) ≠ [] ↔
      Misplaced before s := by
  rcases List.eq_nil_or_concat before with rfl | ⟨rest, t, rfl⟩
  · have hproblems : headingProblems none false (level s) ≠ [] ↔ level s ≠ 1 := by
      simp [headingProblems]
    refine hproblems.trans ⟨.first rfl, ?_⟩
    rintro (⟨-, hlevel⟩ | ⟨hne, -⟩ | ⟨h, -⟩)
    · exact hlevel
    · exact absurd rfl hne
    · cases h
  · have hlast : (rest.concat t).getLast? = some t := by simp
    have hproblems : headingProblems (some (level t)) ((rest.concat t).any (level · == 1)) (level s) ≠ [] ↔
        (∀ u ∈ rest.concat t, level u ≠ 1) ∨ level t + 1 < level s := by
      rw [headingProblems, ← not_iff_not]
      simp only [not_not, List.append_eq_nil_iff, not_or, not_forall]
      refine and_congr ?_ (by simp)
      split
      next h => simpa using h
      next h =>
        simp at h
        split <;> simpa using h
    rw [hlast, Option.map_some]
    refine hproblems.trans ⟨?_, ?_⟩
    · rintro (hnone | hlevel)
      · exact .early (by simp) hnone
      · exact .skips hlast hlevel
    · rintro (⟨h, -⟩ | ⟨-, hnone⟩ | ⟨h, hlevel⟩)
      · simp at h
      · exact .inl hnone
      · obtain rfl := Option.some.inj (hlast.symm.trans h)
        exact .inr hlevel

def Flagged (flags : List Flag) (s : Site) : Prop := ∃ f ∈ flags, f.site = s

theorem flagged_append {flags others : List Flag} :
    Flagged (flags ++ others) s ↔ Flagged flags s ∨ Flagged others s := by
  simp [Flagged, or_and_right, exists_or]

theorem flagged_map {problems : List Problem} :
    Flagged (problems.map (⟨t, ·⟩)) s ↔ t = s ∧ problems ≠ [] := by
  cases problems <;> simp [Flagged]

theorem flagged_flatten {flagsOf : Site → List Flag} :
    Flagged (sites.map flagsOf).flatten s ↔ ∃ t ∈ sites, Flagged (flagsOf t) s := by
  simp only [Flagged, List.mem_flatten, List.mem_map]
  constructor
  · rintro ⟨f, ⟨_, ⟨t, ht, rfl⟩, hf⟩, hs⟩
    exact ⟨t, ht, f, hf, hs⟩
  · rintro ⟨t, ht, f, hf, hs⟩
    exact ⟨f, ⟨_, ⟨t, ht, rfl⟩, hf⟩, hs⟩

/-- The scan remembers the level of the last heading and whether the first level was there, which is
all that misplacing depends on. -/
theorem flagged_sequenceFlags (before : List Site) (hheadings : ∀ t ∈ sites, t.name ∈ headingTags) :
    Flagged (sequenceFlags (before.getLast?.map level) (before.any (level · == 1)) sites) s ↔
      ∃ between after, sites = between ++ s :: after ∧ Misplaced (before ++ between) s := by
  induction sites generalizing before with
  | nil => simp [sequenceFlags, Flagged]
  | cons t rest ih =>
    obtain ⟨ht, hrest⟩ := List.forall_mem_cons.mp hheadings
    have hstate := ih (before ++ [t]) hrest
    rw [List.getLast?_concat, List.any_append, List.any_cons, List.any_nil, Bool.or_false,
      Option.map_some] at hstate
    rw [sequenceFlags, levelOf_heading ht]
    dsimp only
    rw [flagged_append, flagged_map, hstate, headingProblems_ne_nil]
    constructor
    · rintro (⟨rfl, hmisplaced⟩ | ⟨between, after, rfl, hmisplaced⟩)
      · exact ⟨[], rest, rfl, by simpa using hmisplaced⟩
      · exact ⟨t :: between, after, rfl, by simpa using hmisplaced⟩
    · rintro ⟨between, after, hsplit, hmisplaced⟩
      rcases List.cons_eq_append_iff.mp hsplit with ⟨rfl, heq⟩ | ⟨between', rfl, rfl⟩
      · obtain ⟨rfl, rfl⟩ := List.cons.inj heq
        exact .inl ⟨rfl, by simpa using hmisplaced⟩
      · exact .inr ⟨between', after, rfl, by simpa using hmisplaced⟩

theorem headerProblems_ne_nil {levels : List Nat} :
    headerProblems levels ≠ [] ↔ ¬ (levels = [] ∨ levels = [1]) := by
  have hle : levels.count 1 ≤ levels.length := List.count_le_length
  have hcounts : headerProblems levels = [] ↔ levels.count 1 = levels.length ∧ levels.length ≤ 1 := by
    simp only [headerProblems, List.append_eq_nil_iff, ite_eq_right_iff, Bool.and_eq_true,
      decide_eq_true_eq, beq_iff_eq, reduceCtorEq, imp_false, not_and]
    omega
  rw [ne_eq, hcounts, not_iff_not]
  match levels with
  | [] => simp
  | [a] => simp [List.count_singleton]
  | a :: b :: rest => simp

theorem headerTops_mem_headerProblems {levels : List Nat} {count : Nat} :
    .headerTops count ∈ headerProblems levels ↔ 1 < levels.count 1 ∧ count = levels.count 1 := by
  simp [headerProblems]

/-- What a `nav` may not hold: headings, list items as its own children, or items without any list. Which
elements it holds is up to `scope`: those that a walk through it comes to, or all that stand inside. -/
inductive Cluttered (scope : Site → List Site) (nav : Site) : Prop where
  | headings (h : levels (scope nav) ≠ [])
  | items (h : ∃ e ∈ nav.children, e.name = "li")
  | loose (hitem : ∃ t ∈ scope nav, t.name = "li")
    (hlist : ∀ t ∈ scope nav, t.name ≠ "ul" ∧ t.name ≠ "ol")

theorem headerFlags_ok (header : Site) : headerFlags header =
    .ok ((headerProblems (levels header.descendants)).map (⟨header, ·⟩)) := by
  rw [headerFlags, header.query_of_inUse (by decide), below_headings, ← filterMap_levelOf]
  rfl

def navProblems (nav : Site) : List Problem :=
  let found := among headingTags nav.descendants
  (if found.isEmpty then [] else [.navHeadings found.length]) ++
    (if nav.children.any (·.name == "li") then [.navItems] else []) ++
    (if !(among ["li"] nav.descendants).isEmpty && (among ["ul", "ol"] nav.descendants).isEmpty
      then [.navWithoutList] else [])

theorem navFlags_ok (nav : Site) : navFlags nav = .ok ((navProblems nav).map (⟨nav, ·⟩)) := by
  have hitems : nav.below "li" = among ["li"] nav.descendants := nav.below_anyTag rfl (by decide)
  have hlists : nav.below "ul, ol" = among ["ul", "ol"] nav.descendants :=
    nav.below_anyTag rfl (by decide)
  rw [navFlags, nav.query_of_inUse (by decide), nav.query_of_inUse (by decide),
    nav.query_of_inUse (by decide), below_headings, hitems, hlists]
  rfl

theorem navItems_mem_navProblems {nav : Site} :
    .navItems ∈ navProblems nav ↔ ∃ e ∈ nav.children, e.name = "li" := by
  simp [navProblems]

theorem navWithoutList_mem_navProblems {nav : Site} : .navWithoutList ∈ navProblems nav ↔
    (∃ t ∈ nav.descendants, t.name = "li") ∧
      ∀ t ∈ nav.descendants, t.name ≠ "ul" ∧ t.name ≠ "ol" := by
  simp [navProblems, among]

theorem navProblems_ne_nil {nav : Site} : navProblems nav ≠ [] ↔ Cluttered Site.descendants nav := by
  have hproblems : navProblems nav ≠ [] ↔ levels nav.descendants ≠ [] ∨
      .navItems ∈ navProblems nav ∨ .navWithoutList ∈ navProblems nav := by
    have hlevels : levels nav.descendants = [] ↔ (among headingTags nav.descendants).isEmpty = true := by
      rw [levels, List.map_eq_nil_iff, List.isEmpty_iff]
    rw [ne_eq, ne_eq, hlevels, navProblems]
    split_ifs <;> simp_all
  rw [hproblems, navItems_mem_navProblems, navWithoutList_mem_navProblems]
  constructor
  · rintro (hheadings | hitems | ⟨hitem, hlist⟩)
    · exact .headings hheadings
    · exact .items hitems
    · exact .loose hitem hlist
  · rintro (hheadings | hitems | ⟨hitem, hlist⟩)
    · exact .inl hheadings
    · exact .inr (.inl hitems)
    · exact .inr (.inr ⟨hitem, hlist⟩)

theorem flagged_landmarkFlags :
    Flagged (landmarkFlags sites) s ↔
      ∃ before after, sites = before ++ s :: after ∧
        landmarkProblems s.name (after.map (·.name)) ≠ [] := by
  induction sites with
  | nil => simp [landmarkFlags, Flagged]
  | cons t later ih =>
    rw [landmarkFlags, flagged_append, flagged_map, ih]
    constructor
    · rintro (⟨rfl, hproblems⟩ | ⟨before, after, rfl, hproblems⟩)
      · exact ⟨[], later, rfl, hproblems⟩
      · exact ⟨t :: before, after, rfl, hproblems⟩
    · rintro ⟨before, after, hsplit, hproblems⟩
      rcases List.cons_eq_append_iff.mp hsplit with ⟨rfl, heq⟩ | ⟨before', rfl, rfl⟩
      · obtain ⟨rfl, rfl⟩ := List.cons.inj heq
        exact .inl ⟨rfl, hproblems⟩
      · exact .inr ⟨before', after, rfl, hproblems⟩

/-- A landmark that stands before others it should follow: a `main` before a `header` or a `nav`, or a
`footer` before anything but an `aside`. -/
def Outruns (name : String) (after : List String) : Prop :=
  name = "main" ∧ (∃ other ∈ after, other = "header" ∨ other = "nav") ∨
    name = "footer" ∧ ∃ other ∈ after, other ≠ "aside"

theorem landmarkProblems_ne_nil {name : String} {after : List String} :
    landmarkProblems name after ≠ [] ↔ Outruns name after := by
  by_cases hmain : name = "main"
  · subst hmain
    have hproblems : landmarkProblems "main" after =
        (after.filter fun n => n == "header" || n == "nav").map .mainBefore := if_pos rfl
    simp [hproblems, Outruns, or_iff_not_imp_left]
  · by_cases hfooter : name = "footer"
    · subst hfooter
      simp [landmarkProblems, Outruns]
    · simp [landmarkProblems, Outruns, hmain, hfooter]

/-- The landmarks directly inside the body, if there is a body. -/
def ordered (d : Document) : List Site := (d.body?.map landmarks).getD []

theorem flags_among (d : Document) : flags d = .ok
    (sequenceFlags none false (among headingTags d.sites) ++
      ((among ["header"] d.sites).map fun header =>
        (headerProblems (levels header.descendants)).map (⟨header, ·⟩)).flatten ++
      ((among ["nav"] d.sites).map fun nav => (navProblems nav).map (⟨nav, ·⟩)).flatten ++
      landmarkFlags (ordered d)) := by
  have hheader : d.all "header" = among ["header"] d.sites := d.all_anyTag rfl (by decide)
  have hnav : d.all "nav" = among ["nav"] d.sites := d.all_anyTag rfl (by decide)
  rw [flags_parts, all_headings, hheader, hnav]
  simp only [headerFlags_ok, navFlags_ok]
  rfl

inductive Part where
  | headings
  | header
  | nav
  | order

def Problem.part : Problem → Part
  | startsAt _ | lateTop | beforeTop _ | skips _ _ => .headings
  | headerWithoutTop | headerMixed | headerTops _ => .header
  | navHeadings _ | navItems | navWithoutList => .nav
  | mainBefore _ | footerBefore _ => .order

variable {p : Problem} {f : Flag}

theorem part_of_mem_headingProblems {previous : Option Nat} {topped : Bool} {level : Nat}
    (h : p ∈ headingProblems previous topped level) : p.part = .headings := by
  unfold headingProblems at h
  cases previous <;> grind [Problem.part]

theorem part_of_mem_sequenceFlags {previous : Option Nat} {topped : Bool}
    (h : f ∈ sequenceFlags previous topped sites) : f.problem.part = .headings := by
  fun_induction sequenceFlags previous topped sites with
  | case1 => cases h
  | case2 previous topped s rest hlevel ih => exact ih h
  | case3 previous topped s rest level hlevel ih =>
    rcases List.mem_append.mp h with hfirst | hlater
    · obtain ⟨p, hp, rfl⟩ := List.mem_map.mp hfirst
      exact part_of_mem_headingProblems hp
    · exact ih hlater

theorem part_of_mem_headerProblems {levels : List Nat} (h : p ∈ headerProblems levels) :
    p.part = .header := by
  simp only [headerProblems, List.mem_append, List.mem_ite_nil_right, List.mem_singleton] at h
  rcases h with (⟨-, rfl⟩ | ⟨-, rfl⟩) | ⟨-, rfl⟩ <;> rfl

theorem part_of_mem_navProblems {nav : Site} (h : p ∈ navProblems nav) : p.part = .nav := by
  simp only [navProblems, List.mem_append, List.mem_ite_nil_left, List.mem_ite_nil_right,
    List.mem_singleton] at h
  rcases h with (⟨-, rfl⟩ | ⟨-, rfl⟩) | ⟨-, rfl⟩ <;> rfl

theorem part_of_mem_landmarkProblems {name : String} {later : List String}
    (h : p ∈ landmarkProblems name later) : p.part = .order := by
  unfold landmarkProblems at h
  split_ifs at h
  · obtain ⟨n, -, rfl⟩ := List.mem_map.mp h
    rfl
  · rw [Option.mem_toList, Option.map_eq_some_iff] at h
    obtain ⟨n, -, rfl⟩ := h
    rfl
  · cases h

theorem part_of_mem_landmarkFlags (h : f ∈ landmarkFlags sites) : f.problem.part = .order := by
  induction sites with
  | nil => cases h
  | cons s later ih =>
    rcases List.mem_append.mp h with hfirst | hlater
    · obtain ⟨p, hp, rfl⟩ := List.mem_map.mp hfirst
      exact part_of_mem_landmarkProblems hp
    · exact ih hlater

/-- Each problem is found where problems of its part are looked for. -/
theorem mem_flags : f ∈ found (flags d) ↔
    match f.problem.part with
    | .headings => f ∈ sequenceFlags none false (among headingTags d.sites)
    | .header => f.site ∈ among ["header"] d.sites ∧
        f.problem ∈ headerProblems (levels f.site.descendants)
    | .nav => f.site ∈ among ["nav"] d.sites ∧ f.problem ∈ navProblems f.site
    | .order => f ∈ landmarkFlags (ordered d) := by
  have hok (l : List Flag) : found (.ok l) = l := rfl
  have hat {sites : List Site} {problemsOf : Site → List Problem} :
      f ∈ (sites.map fun s => (problemsOf s).map (Flag.mk s)).flatten ↔
        f.site ∈ sites ∧ f.problem ∈ problemsOf f.site := by
    simp only [List.mem_flatten, List.mem_map]
    constructor
    · rintro ⟨_, ⟨s, hs, rfl⟩, hf⟩
      obtain ⟨p, hp, rfl⟩ := List.mem_map.mp hf
      exact ⟨hs, hp⟩
    · rintro ⟨hs, hp⟩
      exact ⟨_, ⟨f.site, hs, rfl⟩, List.mem_map_of_mem hp⟩
  rw [flags_among, hok, List.mem_append, List.mem_append, List.mem_append, hat, hat]
  constructor
  · rintro (((h | h) | h) | h)
    · rwa [part_of_mem_sequenceFlags h]
    · rwa [part_of_mem_headerProblems h.2]
    · rwa [part_of_mem_navProblems h.2]
    · rwa [part_of_mem_landmarkFlags h]
  · intro h
    split at h
    · exact .inl (.inl (.inl h))
    · exact .inl (.inl (.inr h))
    · exact .inl (.inr h)
    · exact .inr h

structure Orderly (scope : Site → List Site) (d : Document) : Prop where
  /-- The first heading is of the first level, -/
  begins : ∀ first ∈ (levels d.sites).head?, first = 1
  /-- and levels go down one at a time. -/
  descends : (levels d.sites).IsChain fun before after => after ≤ before + 1
  headers : ∀ s ∈ d.sites, s.name = "header" → levels (scope s) = [] ∨ levels (scope s) = [1]
  navs : ∀ s ∈ d.sites, s.name = "nav" → levels (scope s) = []
  items : ∀ s ∈ d.sites, s.name = "nav" → (∀ e ∈ s.children, e.name ≠ "li") ∧
    ((∃ t ∈ scope s, t.name = "li") → ∃ t ∈ scope s, t.name = "ul" ∨ t.name = "ol")
  /-- Neither a `header` nor a `nav` comes after a `main`, and only an `aside` after a `footer`. -/
  order : ((ordered d).map (·.name)).Pairwise fun before after =>
    (before = "main" → after ≠ "header" ∧ after ≠ "nav") ∧ (before = "footer" → after = "aside")

inductive Offends (scope : Site → List Site) (d : Document) (s : Site) : Prop where
  | heading {before after : List Site} (h : among headingTags d.sites = before ++ s :: after)
    (hmisplaced : Misplaced before s)
  | header (h : s ∈ d.sites) (hname : s.name = "header")
    (hlevels : ¬ (levels (scope s) = [] ∨ levels (scope s) = [1]))
  | nav (h : s ∈ d.sites) (hname : s.name = "nav") (hcluttered : Cluttered scope s)
  | landmark {before after : List Site} (h : ordered d = before ++ s :: after)
    (houtruns : Outruns s.name (after.map (·.name)))

theorem flagged_flags : Flagged (found (flags d)) s ↔ Offends Site.descendants d s := by
  have hsequence : Flagged (sequenceFlags none false (among headingTags d.sites)) s ↔
      ∃ before after, among headingTags d.sites = before ++ s :: after ∧ Misplaced before s :=
    flagged_sequenceFlags [] fun t ht => (mem_among.mp ht).2
  have hok (l : List Flag) : found (.ok l) = l := rfl
  rw [flags_among, hok]
  simp only [flagged_append, hsequence, flagged_flatten, flagged_map, headerProblems_ne_nil,
    navProblems_ne_nil, flagged_landmarkFlags, landmarkProblems_ne_nil, mem_among, List.mem_singleton]
  constructor
  · rintro (((⟨before, after, h, hmisplaced⟩ | ⟨_, ⟨h, hname⟩, rfl, hlevels⟩) |
      ⟨_, ⟨h, hname⟩, rfl, hcluttered⟩) | ⟨before, after, h, houtruns⟩)
    · exact .heading h hmisplaced
    · exact .header h hname hlevels
    · exact .nav h hname hcluttered
    · exact .landmark h houtruns
  · rintro (⟨h, hmisplaced⟩ | ⟨h, hname, hlevels⟩ | ⟨h, hname, hcluttered⟩ | ⟨h, houtruns⟩)
    · exact .inl (.inl (.inl ⟨_, _, h, hmisplaced⟩))
    · exact .inl (.inl (.inr ⟨s, ⟨h, hname⟩, rfl, hlevels⟩))
    · exact .inl (.inr ⟨s, ⟨h, hname⟩, rfl, hcluttered⟩)
    · exact .inr ⟨_, _, h, houtruns⟩

theorem outruns_iff : (∀ before t after, sites = before ++ t :: after →
      ¬ Outruns t.name (after.map (·.name))) ↔
    (sites.map (·.name)).Pairwise fun before after =>
      (before = "main" → after ≠ "header" ∧ after ≠ "nav") ∧ (before = "footer" → after = "aside") := by
  induction sites with
  | nil => simp
  | cons t rest ih =>
    have hsplits : (∀ before u after, t :: rest = before ++ u :: after →
          ¬ Outruns u.name (after.map (·.name))) ↔ ¬ Outruns t.name (rest.map (·.name)) ∧
        ∀ before u after, rest = before ++ u :: after → ¬ Outruns u.name (after.map (·.name)) := by
      constructor
      · intro h
        exact ⟨h [] t rest rfl, fun before u after heq => h (t :: before) u after (by rw [heq]; rfl)⟩
      · rintro ⟨ht, hrest⟩ before u after heq
        rcases List.cons_eq_append_iff.mp heq with ⟨rfl, heq⟩ | ⟨before', rfl, rfl⟩
        · obtain ⟨rfl, rfl⟩ := List.cons.inj heq
          exact ht
        · exact hrest before' u after rfl
    rw [hsplits, ih, List.map_cons, List.pairwise_cons]
    refine and_congr_left fun _ => ?_
    simp only [Outruns, not_or, not_and, not_exists]
    grind

theorem orderly_iff : Orderly scope d ↔ ∀ s, ¬ Offends scope d s := by
  constructor
  · intro o s hoffends
    cases hoffends with
    | heading h hmisplaced =>
      have hlevels : levels d.sites = _ := congrArg (List.map level) h
      cases hmisplaced with
      | first hnil hlevel =>
        rw [hnil] at hlevels
        exact hlevel (o.begins _ (by rw [hlevels]; rfl))
      | early hne hnone =>
        obtain ⟨t, rest, rfl⟩ := List.exists_cons_of_ne_nil hne
        exact hnone t List.mem_cons_self (o.begins _ (by rw [hlevels]; rfl))
      | @skips t hlast hlevel =>
        obtain ⟨rest, rfl⟩ := List.getLast?_eq_some_iff.mp hlast
        have hdescends := o.descends
        rw [hlevels, List.isChain_iff_forall_rel_of_append_cons_cons] at hdescends
        have hle : level s ≤ level t + 1 := hdescends (by simp; rfl)
        omega
    | header h hname hlevels => exact hlevels (o.headers s h hname)
    | nav h hname hcluttered =>
      obtain ⟨hchildren, hitems⟩ := o.items s h hname
      cases hcluttered with
      | headings hlevels => exact hlevels (o.navs s h hname)
      | items hitem =>
        obtain ⟨e, he, hname⟩ := hitem
        exact hchildren e he hname
      | loose hitem hlist =>
        obtain ⟨t, ht, hname⟩ := hitems hitem
        obtain ⟨hul, hol⟩ := hlist t ht
        exact hname.elim hul hol
    | landmark h houtruns => exact outruns_iff.mpr o.order _ _ _ h houtruns
  · intro hnone
    have hcluttered (s) (h : s ∈ d.sites) (hname : s.name = "nav") : ¬ Cluttered scope s :=
      fun hcluttered => hnone s (.nav h hname hcluttered)
    refine ⟨?_, ?_, ?_, ?_, ?_, ?_⟩
    · intro first hfirst
      cases hheadings : among headingTags d.sites with
      | nil => simp [levels, hheadings] at hfirst
      | cons s rest =>
        have hlevel : level s = first := by simpa [levels, hheadings] using hfirst
        by_contra hne
        have hmisplaced : Misplaced [] s := .first rfl (hlevel ▸ hne)
        have hfront : among headingTags d.sites = [] ++ s :: rest := hheadings
        exact hnone s (.heading hfront hmisplaced)
    · rw [levels, List.isChain_map, List.isChain_iff_forall_rel_of_append_cons_cons]
      intro t s before after heq
      by_contra hlt
      have hmisplaced : Misplaced (before ++ [t]) s := .skips (t := t) (by simp) (by omega)
      have hsplit : among headingTags d.sites = before ++ [t] ++ s :: after := by simpa using heq
      exact hnone s (.heading hsplit hmisplaced)
    · intro s h hname
      by_contra hlevels
      exact hnone s (.header h hname hlevels)
    · intro s h hname
      by_contra hlevels
      exact hcluttered s h hname (.headings hlevels)
    · intro s h hname
      refine ⟨fun e he hitem => hcluttered s h hname (.items ⟨e, he, hitem⟩), fun hitem => ?_⟩
      by_contra hlist
      refine hcluttered s h hname (.loose hitem fun t ht => not_or.mp fun hname => ?_)
      exact hlist ⟨t, ht, hname⟩
    · exact outruns_iff.mp fun before t after heq houtruns => hnone t (.landmark heq houtruns)

/-- The headings, the landmarks that hold some of them, and those that stand directly in the body. -/
def judged (d : Document) : List Site :=
  d.all headings ++ d.all "header" ++ d.all "nav" ++ ordered d

theorem mem_judged (h : Offends scope d s) : s ∈ judged d := by
  have hheader : d.all "header" = among ["header"] d.sites := d.all_anyTag rfl (by decide)
  have hnav : d.all "nav" = among ["nav"] d.sites := d.all_anyTag rfl (by decide)
  rw [judged, all_headings, hheader, hnav]
  simp only [List.mem_append, mem_among, List.mem_singleton]
  cases h with
  | heading h hmisplaced =>
    have hmem : s ∈ among headingTags d.sites := by simp [h]
    exact .inl (.inl (.inl (mem_among.mp hmem)))
  | header h hname => exact .inl (.inl (.inr ⟨h, hname⟩))
  | nav h hname => exact .inl (.inr ⟨h, hname⟩)
  | landmark h => exact .inr (by simp [h])

def problems (d : Document) : List Problem := (found (flags d)).map (·.problem)

theorem mem_problems : p ∈ problems d ↔ ∃ s, ⟨s, p⟩ ∈ found (flags d) := by
  rw [problems, List.mem_map]
  constructor
  · rintro ⟨f, hf, rfl⟩
    exact ⟨f.site, hf⟩
  · rintro ⟨s, hf⟩
    exact ⟨_, hf, rfl⟩

def complaint (d : Document) : String :=
  let told := "; ".intercalate ((problems d).map (·.text))
  s!"Heading and landmark structure problems: {told}."

theorem mem_flagged : s ∈ flagged d ↔ Offends Site.descendants d s := List.mem_map.trans flagged_flags

theorem flagged_eq_nil : flagged d = [] ↔ Orderly Site.descendants d := by
  rw [List.eq_nil_iff_forall_not_mem, orderly_iff]
  exact forall_congr' fun s => not_congr mem_flagged

theorem check_hierarchy (d : Document) (page : List Char) :
    ∃ o, hierarchy.check d page = .ok o ∧ (o.passed = true ↔ flagged d = []) ∧
      (o.passed = false → o.evidence = dropRepeats (sortOn (·.index) (d.handles (flagged d))) ∧
        o.message = complaint d) := by
  have hcheck : hierarchy.check d page = _ := congrArg (· >>= _) (flags_eq d)
  rw [hcheck]
  unfold complaint problems flagged
  rw [List.map_map]
  cases found (flags d) with
  | nil => exact ⟨_, rfl, by simp [Outcome.pass], nofun⟩
  | cons first rest => exact ⟨_, rfl, by simp [Outcome.fail], fun _ => ⟨rfl, rfl⟩⟩

/-- An outcome that passes just if headings and landmarks are in order, and otherwise counts up the
elements that offend and names no others. -/
structure Decides (scope : Site → List Site) (d : Document) (o : Outcome) : Prop where
  passed_iff : o.passed = true ↔ Orderly scope d
  increasing : o.passed = false → o.evidence.Pairwise (·.index < ·.index)
  named_iff : o.passed = false →
    ∀ handle, handle ∈ o.evidence ↔ ∃ s, Offends scope d s ∧ d.handle s.element = handle

theorem decides_check (h : ∀ s ∈ judged d, d.Reaches s) (page : List Char) :
    ∃ o, hierarchy.check d page = .ok o ∧ Decides Site.descendants d o := by
  obtain ⟨o, ho, hpassed, hevidence⟩ := check_hierarchy d page
  have hmem (handle : Handle) : handle ∈ d.handles (flagged d) ↔
      ∃ s, Offends Site.descendants d s ∧ d.handle s.element = handle := by
    simp only [Document.mem_handles, mem_flagged]
  refine ⟨o, ho, hpassed.trans flagged_eq_nil, fun hfailed => ?_, fun hfailed handle => ?_⟩
  · have howns (handle : Handle) (hhandle : handle ∈ sortOn (·.index) (d.handles (flagged d))) :
        d.Owns handle := by
      obtain ⟨s, hs, rfl⟩ := (hmem handle).mp (mem_sortOn.mp hhandle)
      exact Document.owns_handle (h s (mem_judged hs))
    rw [(hevidence hfailed).1]
    refine dropRepeats_increasing _ (sortOn_sorted _ _) ?_
    intro a ha b hb
    exact Document.eq_of_index (howns a ha) (howns b hb)
  · rw [(hevidence hfailed).1]
    exact mem_dropRepeats.trans (mem_sortOn.trans (hmem handle))

/-- An element offends by what a walk comes to just if it does by all that stands inside. -/
def Faithful (d : Document) : Prop := ∀ s, Offends Site.descendants d s ↔ Offends Site.contents d s

theorem mem_sites_of_mem_ordered (h : s ∈ ordered d) : s ∈ d.sites := by
  unfold ordered at h
  cases hbody : d.body? with
  | none =>
    rw [hbody] at h
    cases h
  | some body =>
    rw [hbody] at h
    exact Document.mem_sites_of_mem_childSites (Document.mem_sites_of_body? hbody) (List.mem_filter.mp h).1

theorem Offends.mem_sites (h : Offends scope d s) : s ∈ d.sites := by
  cases h with
  | heading h hmisplaced =>
    have hmem : s ∈ among headingTags d.sites := by simp [h]
    exact (mem_among.mp hmem).1
  | header h => exact h
  | nav h => exact h
  | landmark h => exact mem_sites_of_mem_ordered (by simp [h])

/-- With handles that tell the elements apart, an outcome fits just one notion of offenders. -/
theorem Decides.contents_iff {o : Outcome} (h : Decides Site.descendants d o) (hplain : d.Plain)
    (hreached : ∀ s ∈ judged d, d.Reaches s) : Decides Site.contents d o ↔ Faithful d := by
  constructor
  · intro hcontents
    cases hpassed : o.passed with
    | true =>
      have hnone := orderly_iff.mp (h.passed_iff.mp hpassed)
      have hnone' := orderly_iff.mp (hcontents.passed_iff.mp hpassed)
      exact fun s => iff_of_false (hnone s) (hnone' s)
    | false =>
      have hsame {scope scope' : Site → List Site} {s t : Site} (hs : Offends scope d s)
          (ht : Offends scope' d t) (hhandle : d.handle t.element = d.handle s.element) : t = s :=
        hplain.eq_of_index ht.mem_sites hs.mem_sites (hreached t (mem_judged ht))
          (hreached s (mem_judged hs)) (by rw [hhandle])
      intro s
      constructor
      · intro hs
        have hnamed := (h.named_iff hpassed _).mpr ⟨s, hs, rfl⟩
        obtain ⟨t, ht, hhandle⟩ := (hcontents.named_iff hpassed _).mp hnamed
        exact hsame hs ht hhandle ▸ ht
      · intro hs
        have hnamed := (hcontents.named_iff hpassed _).mpr ⟨s, hs, rfl⟩
        obtain ⟨t, ht, hhandle⟩ := (h.named_iff hpassed _).mp hnamed
        exact hsame hs ht hhandle ▸ ht
  · intro hfaithful
    refine ⟨?_, h.increasing, fun hfailed handle => ?_⟩
    · rw [h.passed_iff, orderly_iff, orderly_iff]
      exact forall_congr' fun s => not_congr (hfaithful s)
    · rw [h.named_iff hfailed]
      exact exists_congr fun s => and_congr_left fun _ => hfaithful s

def sought : List String := headingTags ++ ["li", "ul", "ol"]

theorem among_sought {names : List String} (hnames : ∀ name ∈ names, name ∈ sought) {sites others : List Site}
    (h : among sought sites = among sought others) : among names sites = among names others := by
  have hamong (sites : List Site) : among names (among sought sites) = among names sites := by
    rw [among, among, among, List.filter_filter]
    apply List.filter_congr
    intro s _
    rw [Bool.and_eq_left_iff_imp]
    simpa using hnames s.name
  rw [← hamong sites, h, hamong]

theorem Offends.of_scope (hscope : ∀ s ∈ d.sites, s.name = "header" ∨ s.name = "nav" →
      among sought (scope s) = among sought (scope' s)) (h : Offends scope d s) : Offends scope' d s := by
  have hlevels (s) (hs : s ∈ d.sites) (hname : s.name = "header" ∨ s.name = "nav") :
      levels (scope s) = levels (scope' s) :=
    congrArg (List.map level) (among_sought (by decide) (hscope s hs hname))
  cases h with
  | heading h hmisplaced => exact .heading h hmisplaced
  | header h hname hproblem => exact .header h hname (hlevels s h (.inl hname) ▸ hproblem)
  | landmark h houtruns => exact .landmark h houtruns
  | nav h hname hcluttered =>
    have hmem {name : String} (hsought : name ∈ sought) :
        (∃ t ∈ scope s, t.name = name) ↔ ∃ t ∈ scope' s, t.name = name := by
      have hamong := among_sought (List.forall_mem_singleton.mpr hsought) (hscope s h (.inr hname))
      have hexists (sites : List Site) : (∃ t ∈ sites, t.name = name) ↔ among [name] sites ≠ [] := by
        simp [among]
      rw [hexists, hexists, hamong]
    refine .nav h hname ?_
    cases hcluttered with
    | headings hproblem => exact .headings (hlevels s h (.inr hname) ▸ hproblem)
    | items hitem => exact .items hitem
    | loose hitem hlist =>
      refine .loose ((hmem (by decide)).mp hitem) fun t ht => ⟨fun hul => ?_, fun hol => ?_⟩
      · obtain ⟨u, hu, huname⟩ := (hmem (by decide)).mpr ⟨t, ht, hul⟩
        exact (hlist u hu).1 huname
      · obtain ⟨u, hu, huname⟩ := (hmem (by decide)).mpr ⟨t, ht, hol⟩
        exact (hlist u hu).2 huname

/-- Everything sought inside of headers and navigation can be found there: a walk goes on to the end, or the
table holds all of it. -/
def Explored (d : Document) : Prop :=
  ∀ s ∈ d.sites, s.name = "header" ∨ s.name = "nav" →
    s.inside.Whole ∨ ∀ t ∈ s.contents, t.name ∈ sought → d.Reaches t

theorem Explored.faithful (h : Explored d) (hplain : d.Plain) : Faithful d := by
  have hscope (s) (hs : s ∈ d.sites) (hname : s.name = "header" ∨ s.name = "nav") :
      among sought s.descendants = among sought s.contents := by
    rcases h s hs hname with hwhole | hreached
    · rw [Site.descendants_of_whole hwhole]
    · have hinside : (among sought s.contents).Nodup := by
        refine List.Nodup.filter _ (List.Nodup.of_map (·.element.serial) ?_)
        exact hplain.nodup_places.sublist
          ((Document.contents_sublist_places (Document.mem_sites.mp hs)).map _)
      have hsublist : (among sought s.descendants).Sublist (among sought s.contents) :=
        s.descendants_sublist_contents.filter _
      refine hsublist.eq_of_length_le (List.subperm_of_subset hinside fun t ht => ?_).length_le
      obtain ⟨hmem, htname⟩ := mem_among.mp ht
      exact mem_among.mpr ⟨hplain.mem_descendants hs hmem (hreached t hmem htname), htname⟩
  intro s
  exact ⟨.of_scope hscope, .of_scope fun s hs hname => (hscope s hs hname).symm⟩

/-- On a page whose judged elements are all in the table, the five conditions are decided by what a walk
through headers and navigation comes to. By all that stands inside, they are decided just if each element
offends either way or neither way, as it is where the walk misses nothing that is sought. -/
theorem judges_five_conditions_iff {page : List Char} (hread : Document.read page = .ok d)
    (h : ∀ s ∈ judged d, d.Reaches s) :
    (∃ o, hierarchy.check d page = .ok o ∧ Decides Site.descendants d o ∧
      (Decides Site.contents d o ↔ Faithful d)) ∧ (Explored d → Faithful d) := by
  have hplain := Document.plain_of_read hread
  obtain ⟨o, ho, hdecides⟩ := decides_check h page
  exact ⟨⟨o, ho, hdecides, hdecides.contents_iff hplain h⟩, fun hexplored => hexplored.faithful hplain⟩

/-- A page that begins with a heading of the second level, and puts another one into a `nav`. -/
theorem judges_heading_in_nav :
    let page := "<h2>a</h2><nav><h1>b</h1></nav>".toList
    let d := Document.ofPage page
    Document.read page = .ok d ∧ (∀ s ∈ judged d, d.Reaches s) ∧
      ∃ o, hierarchy.check d page = .ok o ∧ o.passed = false ∧ Decides Site.contents d o ∧
        ∃ s, Offends Site.contents d s ∧ d.handle s.element = ⟨3, "h2", 0⟩ := by
  intro page d
  have hread : Document.read page = .ok d := rfl
  have hreaches : ∀ s ∈ judged d, d.Reaches s := by decide +kernel
  have hwhole : ∀ s ∈ d.sites, s.inside.Whole := by decide +kernel
  have hlisted : (hierarchy.check d page).toOption.map (fun o => (o.passed, o.evidence)) =
      some (false, [⟨3, "h2", 0⟩, ⟨4, "nav", 0⟩, ⟨5, "h1", 0⟩]) := by decide +kernel
  obtain ⟨⟨o, ho, -, hiff⟩, hfaithful⟩ := judges_five_conditions_iff hread hreaches
  rw [ho] at hlisted
  obtain ⟨hfails, hevidence⟩ := Prod.mk.inj (Option.some.inj hlisted)
  have hdecides := hiff.mpr (hfaithful fun s hs _ => .inl (hwhole s hs))
  refine ⟨hread, hreaches, o, ho, hfails, hdecides, (hdecides.named_iff hfails _).mp ?_⟩
  simp [hevidence]

/-- The text and the comment are moved into a copy of the `b`, but the comment still looks up to the
`nav`. A walk takes the `nav` to end with it, and misses the list item, which stands in no list. -/
theorem item_without_list_overlooked :
    ¬ ∀ (page : List Char) (d : Document) (o : Outcome), Document.read page = .ok d →
      (∀ s ∈ judged d, d.Reaches s) → hierarchy.check d page = .ok o → Decides Site.contents d o := by
  intro hall
  let page := "<b><nav>t<!----><div></b><li></li></div></nav>".toList
  let d := Document.ofPage page
  have hreaches : ∀ s ∈ judged d, d.Reaches s := by decide +kernel
  have hpasses : (hierarchy.check d page).toOption.map (·.passed) = some true := by decide +kernel
  have hitem : ∃ s ∈ d.sites, s.name = "nav" ∧ (∃ t ∈ s.contents, t.name = "li") ∧
      ∀ t ∈ s.contents, t.name ≠ "ul" ∧ t.name ≠ "ol" := by decide +kernel
  obtain ⟨o, ho, -⟩ := check_hierarchy d page
  rw [ho] at hpasses
  have hdecides := hall page d o rfl hreaches ho
  have horderly := hdecides.passed_iff.mp (Option.some.inj hpasses)
  obtain ⟨s, hs, hname, hli, hnone⟩ := hitem
  obtain ⟨t, ht, hlist⟩ := (horderly.items s hs hname).2 hli
  exact hlist.elim (hnone t ht).1 (hnone t ht).2

end PageGrader.Rule.Hierarchy
