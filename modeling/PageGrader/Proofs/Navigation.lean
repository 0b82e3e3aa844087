import PageGrader.Proofs.Citation
import PageGrader.Proofs.Surroundings
import PageGrader.Proofs.Tags

namespace PageGrader.Rule.Navigation

variable {d : Document} {nav : Site}

/-- Whether a site is in an element of that name, with `up` for the parent. -/
def standsIn (up : Site → Option Site) (s : Site) (name : String) : Bool :=
  (up s).any (·.name == name)

/-- How often a reason holds against a `nav` with these sites inside, with `up` for the parent. -/
def departures (up : Site → Option Site) (nav : Site) (inside : List Site) : Reason → Nat
  | .noList => if hasChild nav "ul" then 0 else 1
  | .itemOutsideList => inside.countP fun t => t.name == "li" && !standsIn up t "ul"
  | .itemWithoutLink => inside.countP fun t =>
      t.name == "li" && standsIn up t "ul" && !hasChild t "a"
  | .directLink => if hasChild nav "a" then 1 else 0
  | .linkOutsideItem => inside.countP fun t =>
      t.name == "a" && !(up t).any fun item => item.name == "li" && standsIn up item "ul"

/-- The reasons of sites come to as many of one kind as there are sites that give it. -/
theorem count_flatMap_eq {reason : Reason} {reasonsOf : Site → List Reason} {gives : Site → Bool}
    (h : ∀ t, (reasonsOf t).count reason = if gives t then 1 else 0) (sites : List Site) :
    (sites.flatMap reasonsOf).count reason = sites.countP gives := by
  induction sites with
  | nil => rfl
  | cons t rest ih => rw [List.flatMap_cons, List.count_append, h, ih, List.countP_cons, Nat.add_comm]

theorem against_eq (nav : Site) :
    against nav = (if hasChild nav "ul" then [] else [.noList]) ++
      (among ["li"] nav.descendants).flatMap itemReasons ++
      (if hasChild nav "a" then [.directLink] else []) ++
      (among ["a"] nav.descendants).flatMap linkReasons := by
  have hitems : nav.below "li" = among ["li"] nav.descendants := nav.below_anyTag rfl (by decide)
  have hlinks : nav.below "a" = among ["a"] nav.descendants := nav.below_anyTag rfl (by decide)
  rw [against, reasons, nav.query_of_inUse (by decide), nav.query_of_inUse (by decide), hitems, hlinks]
  rfl

theorem countP_among (name : String) (p : Site → Bool) (sites : List Site) :
    (among [name] sites).countP p = sites.countP fun t => t.name == name && p t := by
  rw [among, List.countP_filter]
  apply List.countP_congr
  intro t _
  simp [and_comm]

def itemGives : Reason → Site → Bool
  | .itemOutsideList, item => !isIn item "ul"
  | .itemWithoutLink, item => isIn item "ul" && !hasChild item "a"
  | _, _ => false

def linkGives : Reason → Site → Bool
  | .linkOutsideItem, link => !isListed link
  | _, _ => false

theorem count_itemReasons (reason : Reason) (item : Site) :
    (itemReasons item).count reason = if itemGives reason item then 1 else 0 := by
  unfold itemReasons
  cases hin : isIn item "ul" <;> cases hlink : hasChild item "a" <;> cases reason <;>
    simp [itemGives, hin, hlink]

theorem count_linkReasons (reason : Reason) (link : Site) :
    (linkReasons link).count reason = if linkGives reason link then 1 else 0 := by
  unfold linkReasons
  cases hlisted : isListed link <;> cases reason <;> simp [linkGives, hlisted]

theorem count_against (nav : Site) (reason : Reason) :
    (against nav).count reason = departures Site.parent? nav nav.descendants reason := by
  rw [against_eq, List.count_append, List.count_append, List.count_append,
    count_flatMap_eq (count_itemReasons reason), count_flatMap_eq (count_linkReasons reason),
    countP_among, countP_among]
  cases hlist : hasChild nav "ul" <;> cases hlink : hasChild nav "a" <;> cases reason <;>
    simp [departures, itemGives, linkGives, standsIn, isIn, isListed, hlist, hlink, Bool.and_assoc]

theorem length_eq_counts (l : List Reason) :
    l.length = l.count .noList + l.count .itemOutsideList + l.count .itemWithoutLink +
      l.count .directLink + l.count .linkOutsideItem := by
  induction l with
  | nil => rfl
  | cons reason rest ih => cases reason <;> simp [ih] <;> omega

/-- The reasons against a `nav` with this content, whatever is around. -/
def judge (inside : Forest) : List Reason :=
  (if inside.tops.any (·.name == "ul") then [] else [.noList]) ++
    (among ["li"] (inside.walk [] [])).flatMap itemReasons ++
    (if inside.tops.any (·.name == "a") then [.directLink] else []) ++
    (among ["a"] (inside.walk [] [])).flatMap linkReasons

theorem isIn_within {t : Site} {name : String} (hlift : t.element.lift ≤ t.above.length)
    (hname : nav.name ≠ name) : isIn (t.within nav.surroundings) name = isIn t name :=
  Site.any_parent_within hlift (by simpa using hname)

theorem isListed_within {t : Site} (hnav : nav.name = "nav") (hencloses : nav.Encloses)
    (ht : t ∈ nav.inside.walk [] []) : isListed (t.within nav.surroundings) = isListed t := by
  refine (Site.any_parent_within (hencloses t ht) ?_).trans ?_
  · simp [hnav]
  · rw [isListed]
    cases hparent : t.parent? with
    | none => rfl
    | some item =>
      have hitem := Forest.mem_walk_of_suffix ht (Site.surroundings_suffix hparent) (List.nil_suffix)
      change (item.name == "li" && isIn (item.within nav.surroundings) "ul") = _
      rw [isIn_within (hencloses item hitem) (by rw [hnav]; decide)]
      rfl

/-- The same questions answered the same way in any surroundings. -/
theorem flatMap_among_within {reasonsOf : Site → List Reason} (name : String) (sites : List Site)
    (around : List Holder) (h : ∀ t ∈ sites, reasonsOf (t.within around) = reasonsOf t) :
    (among [name] (sites.map (·.within around))).flatMap reasonsOf =
      (among [name] sites).flatMap reasonsOf := by
  have hamong : among [name] (sites.map (·.within around)) =
      (among [name] sites).map (·.within around) := List.filter_map
  rw [hamong, List.flatMap_map]
  apply List.flatMap_congr
  intro t ht
  exact h t (mem_among.mp ht).1

theorem against_eq_judge (hnav : nav.name = "nav") (hencloses : nav.Encloses) :
    against nav = judge nav.inside := by
  rw [against_eq, nav.descendants_eq, flatMap_among_within, flatMap_among_within]
  · rfl
  · intro t ht
    rw [linkReasons, isListed_within hnav hencloses ht, linkReasons]
  · intro t ht
    rw [itemReasons, isIn_within (hencloses t ht) (by rw [hnav]; decide), itemReasons]
    rfl

/-- Every list item and every link inside looks up to the element it stands in, and no walk passes over
something inside. -/
structure Settled (nav : Site) : Prop where
  whole : nav.inside.Whole
  standing : ∀ t ∈ nav.descendants, t.name = "li" ∨ t.name = "a" → t.element.lift = 0

instance : Decidable (Settled nav) :=
  decidable_of_iff
    (nav.inside.Whole ∧ ∀ t ∈ nav.descendants, t.name = "li" ∨ t.name = "a" → t.element.lift = 0)
    ⟨fun h => ⟨h.1, h.2⟩, fun h => ⟨h.1, h.2⟩⟩

theorem Settled.parent?_eq (h : Settled nav) {t : Site} (ht : t ∈ nav.descendants)
    (hname : t.name = "li" ∨ t.name = "a") : t.parent? = t.holder? :=
  Site.parent?_eq_holder? (h.standing t ht hname)

theorem holder_mem_descendants (hnav : nav.name = "nav") {t item : Site} (ht : t ∈ nav.descendants)
    (hitem : t.holder? = some item) (hname : item.name = "li") : item ∈ nav.descendants := by
  have hitem := Site.surroundings_of_holder? hitem
  have habove := Forest.suffix_of_mem_walk ht
  rw [← hitem] at habove
  rcases List.suffix_cons_iff.mp habove with heq | hin
  · obtain ⟨hspot, -⟩ := List.cons.inj heq
    have hsame : nav.name = item.name := congrArg (·.element.name) (Holder.element.inj hspot)
    rw [hnav, hname] at hsame
    exact absurd hsame (by decide)
  · exact Forest.mem_walk_of_suffix ht ⟨[], hitem⟩ hin

theorem Settled.departures_eq (h : Settled nav) (hnav : nav.name = "nav") (reason : Reason) :
    departures Site.parent? nav nav.descendants reason =
      departures Site.holder? nav nav.contents reason := by
  have hcontents : nav.contents = nav.descendants := (h.whole.walk_eq_sites _ _).symm
  have hitem {t : Site} (ht : t ∈ nav.descendants) (hname : t.name = "li") (name : String) :
      standsIn Site.parent? t name = standsIn Site.holder? t name := by
    rw [standsIn, standsIn, h.parent?_eq ht (.inl hname)]
  rw [hcontents]
  cases reason with
  | noList | directLink => rfl
  | itemOutsideList | itemWithoutLink =>
    apply List.countP_congr
    intro t ht
    by_cases hname : t.name = "li"
    · rw [hitem ht hname]
    · simp [hname]
  | linkOutsideItem =>
    apply List.countP_congr
    intro t ht
    by_cases hname : t.name = "a"
    · rw [h.parent?_eq ht (.inr hname)]
      cases hholder : t.holder? with
      | none => rfl
      | some item =>
        by_cases hli : item.name = "li"
        · have hmem := holder_mem_descendants hnav ht hholder hli
          simp [hitem hmem hli]
        · simp [hli]
    · simp [hname]

/-- The `nav` elements of a document, in the order of selection. -/
def navs (d : Document) : List Site := among ["nav"] d.sites

theorem formats_of_mem_navs (h : nav ∈ navs d) : nav.element.formats = false :=
  Site.formats_eq_false (List.mem_singleton.mp (mem_among.mp h).2) (by decide)

def faulty (d : Document) : List Site := (navs d).filter fun nav => !(against nav).isEmpty

/-- What a failed check tells: how many `nav` elements are at fault, and all the reasons. -/
def verdict (d : Document) : String :=
  let count := (faulty d).length
  let total := (navs d).length
  let reasons := "; ".intercalate ((faulty d).flatMap fun nav => (against nav).map (·.text))
  s!"{count} of {total} NAV elements do not follow the correct structure: {reasons}."

theorem check_navigation (d : Document) (page : List Char) :
    ∃ o, navigation.check d page = .ok o ∧ (o.passed = true ↔ ∀ nav ∈ navs d, against nav = []) ∧
      (o.passed = false → o.evidence = d.handles (faulty d) ∧ o.message = verdict d) := by
  have hnavs : d.all "nav" = navs d := d.all_anyTag rfl (by decide)
  have hjudged := mapM_reasons (navs d)
  have hinvalid : ((navs d).map fun nav => (nav, against nav)).filter (!·.2.isEmpty) =
      (faulty d).map fun nav => (nav, against nav) := List.filter_map
  have hpasses : faulty d = [] ↔ ∀ nav ∈ navs d, against nav = [] := by
    simp [faulty, List.filter_eq_nil_iff]
  have hcheck : navigation.check d page = _ := congrArg (· >>= _) (d.query_of_inUse (by decide))
  rw [hcheck, hnavs]
  by_cases hnone : navs d = []
  · rw [hnone]
    exact ⟨_, rfl, by simp [Outcome.pass], nofun⟩
  · have hany : (navs d).isEmpty = false := by simp [hnone]
    simp only [bind, Except.bind] at hjudged ⊢
    simp only [hany, hjudged, hinvalid, Bool.false_eq_true, if_false]
    cases hfaulty : faulty d with
    | nil => exact ⟨_, rfl, ⟨fun _ => hpasses.mp hfaulty, fun _ => rfl⟩, nofun⟩
    | cons first rest =>
      have hfails : ¬ ∀ nav ∈ navs d, against nav = [] := by simp [← hpasses, hfaulty]
      refine ⟨_, rfl, by simpa [Outcome.fail] using hfails, fun _ => ⟨?_, ?_⟩⟩
      · have hfirst : ((first :: rest).map fun nav => (nav, against nav)).map (·.1) = first :: rest := by
          rw [List.map_map]
          exact List.map_id _
        exact congrArg d.handles hfirst
      · simp [Outcome.fail, verdict, hfaulty, List.flatMap_map]

/-- A list of reasons in which each occurs as often as it holds. -/
structure Exact (up : Site → Option Site) (nav : Site) (inside : List Site) (l : List Reason) : Prop where
  counts : ∀ reason, l.count reason = departures up nav inside reason
  length : l.length = departures up nav inside .noList + departures up nav inside .itemOutsideList +
    departures up nav inside .itemWithoutLink + departures up nav inside .directLink +
    departures up nav inside .linkOutsideItem

theorem exact_of_counts {up : Site → Option Site} {inside : List Site} {l : List Reason}
    (h : ∀ reason, l.count reason = departures up nav inside reason) : Exact up nav inside l :=
  ⟨h, by simp only [length_eq_counts l, h]⟩

structure Judged (nav : Site) : Prop where
  answers : reasons nav = .ok (against nav)
  /-- Each reason comes as often as it holds, if the parent is what an element looks up to. -/
  looksUp : Exact Site.parent? nav nav.descendants (against nav)
  /-- The reasons depend on the content alone. -/
  content : against nav = judge nav.inside
  /-- If that is what an element stands in, each reason comes as often as it holds of all inside. -/
  stands : Settled nav → Exact Site.holder? nav nav.contents (against nav)

theorem judged {page : List Char} (h : Document.read page = .ok d) (hnav : nav ∈ navs d) : Judged nav := by
  obtain ⟨hsite, hname⟩ := mem_among.mp hnav
  have hname : nav.name = "nav" := List.mem_singleton.mp hname
  have hencloses := Document.encloses h hsite (formats_of_mem_navs hnav)
  refine ⟨reasons_eq nav, exact_of_counts (count_against nav), against_eq_judge hname hencloses,
    fun hsettled => ?_⟩
  apply exact_of_counts
  intro reason
  rw [count_against, hsettled.departures_eq hname]

/-- Every `nav` of a page is given exactly the reasons that its content calls for, and the rule fails just
if some `nav` is given any. -/
theorem judges_every_nav {page : List Char} (h : Document.read page = .ok d) :
    Function.Injective Reason.text ∧ (∀ nav ∈ navs d, Judged nav) ∧
      ∃ o, navigation.check d page = .ok o ∧ (o.passed = true ↔ ∀ nav ∈ navs d, against nav = []) ∧
        (o.passed = false → o.evidence = d.handles (faulty d) ∧ o.message = verdict d) := by
  refine ⟨?_, fun nav hnav => judged h hnav, check_navigation d page⟩
  intro reason other heq
  cases reason <;> cases other <;> simp [Reason.text] at heq ⊢

/-- A page with a link right in its `nav`. -/
theorem judges_direct_link :
    let page := "<nav><ul><li><a>x</a></li></ul><a>y</a></nav>".toList
    let d := Document.ofPage page
    Document.read page = .ok d ∧ (∃ nav ∈ navs d, Settled nav ∧
        Exact Site.holder? nav nav.contents [.directLink, .linkOutsideItem]) ∧
      ∃ o, navigation.check d page = .ok o ∧ o.passed = false ∧ o.evidence = [⟨3, "nav", 0⟩] := by
  intro page d
  have hread : Document.read page = .ok d := by rfl
  have hfound : ∃ nav ∈ navs d, Settled nav ∧ against nav = [.directLink, .linkOutsideItem] := by
    decide +kernel
  have hfaulty : d.handles (faulty d) = [⟨3, "nav", 0⟩] := by decide +kernel
  obtain ⟨-, hjudged, o, ho, hpassed, hfailed⟩ := judges_every_nav hread
  obtain ⟨nav, hnav, hsettled, hreasons⟩ := hfound
  have hfails : o.passed = false := by
    rw [← Bool.not_eq_true, hpassed]
    intro hnone
    rw [hnone nav hnav] at hreasons
    cases hreasons
  refine ⟨hread, ⟨nav, hnav, hsettled, ?_⟩, o, ho, hfails, ?_⟩
  · rw [← hreasons]
    exact (hjudged nav hnav).stands hsettled
  · rw [(hfailed hfails).1, hfaulty]

/-- A link that stands in a `b` still looks up to the list item around that, so it is not noticed. -/
theorem link_in_bold_unnoticed :
    let page := "<nav><ul><b><li>t<a>x</a>t</b><a>y</a></li></ul></nav>".toList
    let d := Document.ofPage page
    (navigation.check d page).toOption.map (·.passed) = some true ∧
      ∃ nav ∈ navs d, departures Site.holder? nav nav.contents .linkOutsideItem = 1 := by
  decide +kernel

end PageGrader.Rule.Navigation
