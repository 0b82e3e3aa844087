import PageGrader.Proofs.Numbering

namespace PageGrader

def Site.surroundings (s : Site) : List Holder := .element s.toSpot :: s.above

def Site.within (s : Site) (around : List Holder) : Site := ⟨s.toSpot, s.above ++ around⟩

namespace Forest

variable {f : Forest} {above around : List Holder} {earlier : List (Element × Forest)} {s t : Site}

theorem walk_append (f : Forest) (above around : List Holder) (earlier : List (Element × Forest)) :
    f.walk (above ++ around) earlier = (f.walk above earlier).map (·.within around) := by
  induction f generalizing above earlier with
  | nil | unreached _ _ => rfl
  | text _ _ ih | comment _ _ ih => exact ih above earlier
  | fragment _ _ ihi ihr =>
    have hinside := ihi (.fragment :: above) []
    have hrest := ihr above earlier
    simp only [List.cons_append] at hinside
    simp [walk, hinside, hrest]
  | element e inside _ ihi ihr =>
    have hinside := ihi (.element ⟨e, inside, earlier⟩ :: above) []
    have hrest := ihr above ((e, inside) :: earlier)
    simp only [List.cons_append] at hinside
    simp [walk, hinside, hrest, Site.within]

/-- All sites stay among the holders that are around the forest. -/
theorem suffix_of_mem_sites (h : s ∈ f.sites above earlier) : above <:+ s.above := by
  induction f generalizing above earlier with
  | nil => cases h
  | text _ _ ih | comment _ _ ih | unreached _ ih => exact ih h
  | fragment _ _ ihi ihr =>
    rcases List.mem_append.mp h with h | h
    · exact (List.suffix_cons _ _).trans (ihi h)
    · exact ihr h
  | element _ _ _ ihi ihr =>
    simp only [sites, List.mem_cons, List.mem_append] at h
    rcases h with rfl | h | h
    · exact List.suffix_rfl
    · exact (List.suffix_cons _ _).trans (ihi h)
    · exact ihr h

theorem suffix_of_mem_walk (h : s ∈ f.walk above earlier) : above <:+ s.above :=
  suffix_of_mem_sites ((f.walk_sublist_sites above earlier).mem h)

/-- One of the holders around a site is the first that a walk went into, or stands inside of that. -/
theorem eq_or_suffix {first holder : Holder} {rest : List Holder} (hfirst : first :: above <:+ s.above)
    (hholder : holder :: rest <:+ s.above) (habove : above <:+ rest) :
    holder = first ∧ rest = above ∨ first :: above <:+ rest := by
  rcases List.suffix_or_suffix_of_suffix hfirst hholder with h | h
  · refine (List.suffix_cons_iff.mp h).imp_left fun heq => ?_
    obtain ⟨rfl, rfl⟩ := List.cons.inj heq
    exact ⟨rfl, rfl⟩
  · have hlength := h.length_le
    have hle := habove.length_le
    obtain ⟨rfl, rfl⟩ := List.cons.inj (h.eq_of_length (by simp at hlength ⊢; omega))
    exact .inl ⟨rfl, rfl⟩

/-- A walk that comes to a site came to the elements around it before. -/
theorem mem_walk_of_suffix (h : s ∈ f.walk above earlier) (ht : t.surroundings <:+ s.above)
    (habove : above <:+ t.above) : t ∈ f.walk above earlier := by
  induction f generalizing above earlier with
  | nil | unreached _ _ => cases h
  | text _ _ ih | comment _ _ ih => exact ih h habove
  | fragment _ _ ihi ihr =>
    rw [walk, List.mem_append]
    rcases List.mem_append.mp h with h | h
    · rcases eq_or_suffix (suffix_of_mem_walk h) ht habove with ⟨heq, -⟩ | hin
      · cases heq
      · exact .inl (ihi h hin)
    · exact .inr (ihr h habove)
  | element e inside _ ihi ihr =>
    simp only [walk, List.mem_cons, List.mem_append] at h ⊢
    rcases h with rfl | h | h
    · have hlength := ht.length_le
      have hle := habove.length_le
      simp only [Site.surroundings, List.length_cons] at hlength
      omega
    · rcases eq_or_suffix (suffix_of_mem_walk h) ht habove with ⟨heq, hrest⟩ | hin
      · refine .inl ?_
        obtain ⟨spot, rest⟩ := t
        obtain rfl := Holder.element.inj heq
        obtain rfl := hrest
        rfl
      · exact .inr (.inl (ihi h hin))
    · exact .inr (.inr (ihr h habove))

end Forest

namespace Site

variable {s t nav : Site}

theorem surroundings_suffix (h : t.parent? = some s) : s.surroundings <:+ t.above := by
  unfold parent? at h
  split at h
  next hdrop =>
    obtain rfl := Option.some.inj h
    rw [surroundings, ← hdrop]
    exact List.drop_suffix _ _
  next => cases h

/-- Where a site looks up no further than the element that surrounds it all, no question about its parent
is decided further out, unless the question is about that element itself. -/
theorem any_parent_within (hlift : t.element.lift ≤ t.above.length) {q : Site → Bool}
    (hq : q nav = false) :
    (t.within nav.surroundings).parent?.any q =
      t.parent?.any fun p => q (p.within nav.surroundings) := by
  unfold parent?
  have hdrop : (t.within nav.surroundings).above.drop (t.within nav.surroundings).element.lift =
      t.above.drop t.element.lift ++ nav.surroundings := List.drop_append_of_le_length hlift
  rw [hdrop]
  match t.above.drop t.element.lift with
  | [] => simpa [surroundings] using hq
  | .fragment :: rest => rfl
  | .element spot :: rest => rfl

def holder? (s : Site) : Option Site :=
  match s.above with
  | .element spot :: above => some ⟨spot, above⟩
  | _ => none

theorem parent?_eq_holder? (h : s.element.lift = 0) : s.parent? = s.holder? := by
  rw [parent?, h, List.drop_zero]
  rfl

theorem surroundings_of_holder? (h : t.holder? = some s) : s.surroundings = t.above := by
  unfold holder? at h
  split at h
  next habove =>
    obtain rfl := Option.some.inj h
    exact habove.symm
  next => cases h

/-- The sites of all that stands inside, whether a walk comes there or not. -/
def contents (s : Site) : List Site := s.inside.sites s.surroundings []

theorem descendants_sublist_contents (s : Site) : s.descendants.Sublist s.contents :=
  s.inside.walk_sublist_sites s.surroundings []

theorem descendants_eq (s : Site) :
    s.descendants = (s.inside.walk [] []).map (·.within s.surroundings) :=
  Forest.walk_append s.inside [] s.surroundings []

end Site

namespace Forest

variable {f : Forest} {above : List Holder} {earlier : List (Element × Forest)} {s : Site}

theorem contents_sublist_sites (h : s ∈ f.sites above earlier) :
    s.contents.Sublist (f.sites above earlier) := by
  induction f generalizing above earlier with
  | nil => cases h
  | text _ _ ih | comment _ _ ih | unreached _ ih => exact ih h
  | fragment _ _ ihi ihr =>
    rcases List.mem_append.mp h with h | h
    · exact (ihi h).trans (List.sublist_append_left _ _)
    · exact (ihr h).trans (List.sublist_append_right _ _)
  | element _ _ _ ihi ihr =>
    simp only [sites, List.mem_cons, List.mem_append] at h
    rcases h with rfl | h | h
    · exact (List.sublist_append_left _ _).cons _
    · exact ((ihi h).trans (List.sublist_append_left _ _)).cons _
    · exact ((ihr h).trans (List.sublist_append_right _ _)).cons _

theorem topSites_sublist_sites (f : Forest) (above : List Holder) (earlier : List (Element × Forest)) :
    (f.topSites above earlier).Sublist (f.sites above earlier) := by
  induction f generalizing earlier with
  | nil => exact .slnil
  | text _ _ ih | comment _ _ ih | unreached _ ih => exact ih earlier
  | fragment _ _ _ ih => exact (ih earlier).trans (List.sublist_append_right _ _)
  | element e inside _ _ ih => exact ((ih _).trans (List.sublist_append_right _ _)).cons_cons _

theorem exists_site_of_mem_tops (above : List Holder) (earlier : List (Element × Forest)) {e : Element}
    (h : e ∈ f.tops) : ∃ t ∈ f.sites above earlier, t.element = e ∧ t.above = above := by
  induction f generalizing earlier with
  | nil => cases h
  | text _ _ ih | comment _ _ ih | unreached _ ih => exact ih earlier h
  | fragment _ _ _ ih =>
    obtain ⟨t, ht, hat⟩ := ih earlier h
    exact ⟨t, List.mem_append_right _ ht, hat⟩
  | element e' inside _ _ ih =>
    rcases List.mem_cons.mp h with rfl | h
    · exact ⟨⟨⟨e, inside, earlier⟩, above⟩, List.mem_cons_self, rfl, rfl⟩
    · obtain ⟨t, ht, hat⟩ := ih _ h
      exact ⟨t, List.mem_cons_of_mem _ (List.mem_append_right _ ht), hat⟩

end Forest

namespace Forest

/-- A walk that comes to what stands in a site goes through the site. -/
theorem mem_descendants_of_mem_walk {f : Forest} {above : List Holder} {earlier : List (Element × Forest)}
    {s t : Site} (h : t ∈ f.walk above earlier) (hs : s.surroundings <:+ t.above)
    (habove : above <:+ s.above) : t ∈ s.descendants := by
  induction f generalizing above earlier with
  | nil | unreached _ _ => cases h
  | text _ _ ih | comment _ _ ih => exact ih h habove
  | fragment _ _ ihi ihr =>
    rcases List.mem_append.mp h with h | h
    · rcases eq_or_suffix (suffix_of_mem_walk h) hs habove with ⟨heq, -⟩ | hin
      · cases heq
      · exact ihi h hin
    · exact ihr h habove
  | element e inside _ ihi ihr =>
    simp only [walk, List.mem_cons, List.mem_append] at h
    rcases h with rfl | h | h
    · have hlength := hs.length_le
      have hle := habove.length_le
      simp only [Site.surroundings, List.length_cons] at hlength
      omega
    · rcases eq_or_suffix (suffix_of_mem_walk h) hs habove with ⟨heq, hrest⟩ | hin
      · obtain ⟨spot, rest⟩ := s
        obtain rfl := Holder.element.inj heq
        obtain rfl := hrest
        exact h
      · exact ihi h hin
    · exact ihr h habove

end Forest

theorem Site.descendants_of_whole {s : Site} (h : s.inside.Whole) : s.descendants = s.contents :=
  h.walk_eq_sites _ _

def Element.formats (e : Element) : Bool :=
  e.space == .html && Tree.Builder.formattingNames.contains e.name

def Holder.formats : Holder → Bool
  | .fragment => false
  | .element spot => spot.element.formats

theorem Site.formats_eq_false {s : Site} {name : String} (h : s.name = name)
    (hother : name ∉ Tree.Builder.formattingNames) : s.element.formats = false := by
  have hname : s.element.name = name := h
  simp [Element.formats, hname, hother]

namespace Forest

variable {f : Forest} {above : List Holder} {earlier : List (Element × Forest)} {s : Site}

/-- All elements look past formatting elements only; `around` tells of the holders around the forest,
innermost first, which of them format. -/
def Steady (around : List Bool) : Forest → Prop
  | nil => True
  | text _ rest | comment _ rest | unreached rest => rest.Steady around
  | fragment inside rest => inside.Steady (false :: around) ∧ rest.Steady around
  | element e inside rest =>
    (∀ formats ∈ around.take e.lift, formats = true) ∧ inside.Steady (e.formats :: around) ∧
      rest.Steady around

/-- So it is for every site, and for what stands inside of it. -/
theorem Steady.of_mem_sites (above : List Holder) (h : f.Steady (above.map Holder.formats))
    (hs : s ∈ f.sites above earlier) :
    (∀ holder ∈ s.above.take s.element.lift, holder.formats = true) ∧
      s.inside.Steady (s.surroundings.map Holder.formats) := by
  induction f generalizing above earlier with
  | nil => cases hs
  | text _ _ ih | comment _ _ ih | unreached _ ih => exact ih above h hs
  | fragment _ _ ihi ihr =>
    rcases List.mem_append.mp hs with hs | hs
    · exact ihi (.fragment :: above) h.1 hs
    · exact ihr above h.2 hs
  | element e inside _ ihi ihr =>
    obtain ⟨hlift, hinside, hrest⟩ := h
    simp only [sites, List.mem_cons, List.mem_append] at hs
    rcases hs with rfl | hs | hs
    · refine ⟨fun holder hholder => hlift _ ?_, hinside⟩
      rw [← List.map_take]
      exact List.mem_map_of_mem hholder
    · exact ihi (.element ⟨e, inside, earlier⟩ :: above) hinside hs
    · exact ihr above hrest hs

end Forest

namespace Tree.Nodes

variable {ns : Nodes} {path ids : List Nat} {v p id : Nat}

def formats (ns : Nodes) (id : Nat) : Bool :=
  (ns.tag? id).any fun tag => tag.1 == .html && Builder.formattingNames.contains tag.2

theorem Formats.formats_eq (h : ns.Formats id) : ns.formats id = true := by
  obtain ⟨name, hname, htag⟩ := h
  simpa [formats, htag] using hname

def Outwards (ns : Nodes) (path : List Nat) : Prop := path.IsChain fun v w => ns.holder? v = some w

theorem Past.formats_of_mem_take (h : ns.Past v p) (hpath : ns.Outwards (v :: path)) :
    ∀ w ∈ (v :: path).take ((v :: path).idxOf p), ns.formats w = true := by
  induction h generalizing path with
  | here v => simp
  | @out v w p hformats hholder _ ih =>
    by_cases hv : v = p
    · simp [hv]
    · rw [List.idxOf_cons_ne _ hv, List.take_succ_cons]
      refine List.forall_mem_cons.mpr ⟨hformats.formats_eq, ?_⟩
      cases path with
      | nil => simp
      | cons w' rest =>
        obtain ⟨hhead, hrest⟩ := List.isChain_cons_cons.mp hpath
        obtain rfl := Option.some.inj (hholder.symm.trans hhead)
        exact ih hrest

/-- What a node passes over to the one it looks up to are formatting elements. -/
theorem Linked.formats_of_mem_take (h : ns.Linked) (hpath : ns.Outwards path)
    (hid : ∀ v ∈ path.head?, ns.holder? id = some v) :
    ∀ w ∈ path.take (liftOf (ns.parent? id) path), ns.formats w = true := by
  unfold liftOf
  split
  next p hp =>
    split
    · cases path with
      | nil => simp
      | cons v path =>
        obtain ⟨v', hv', hway⟩ := h.near id p hp
        obtain rfl := Option.some.inj ((hid v rfl).symm.trans hv')
        exact hway.formats_of_mem_take hpath
    · simp
  next => simp

theorem steady_forestOf (h : ns.Linked) (n : Nat) (path : List Nat) (hpath : ns.Outwards path)
    (hids : ∀ id ∈ ids, ∀ v ∈ path.head?, ns.holder? id = some v) :
    (ns.forestOf n path ids).1.Steady (path.map ns.formats) := by
  induction n generalizing path ids with
  | zero => trivial
  | succ n ih =>
    cases ids with
    | nil => trivial
    | cons id rest =>
      obtain ⟨hid, hrest⟩ := List.forall_mem_cons.mp hids
      have hinside : (ns.forestOf n (id :: path) (ns.children id)).1.Steady
          (ns.formats id :: path.map ns.formats) := by
        refine ih (id :: path) ?_ ?_
        · cases path with
          | nil => exact .singleton id
          | cons v path => exact List.isChain_cons_cons.mpr ⟨hid v rfl, hpath⟩
        · intro c hc v hv
          obtain rfl := Option.some.inj hv
          exact h.held _ c hc
      have hafter (left lift : Nat) :
          (if 0 < left then (if rest.isEmpty then (ns.forestOf n path rest).1
              else .unreached (ns.forestOf n path rest).1, left - 1)
            else ((ns.forestOf n path rest).1, if rest.isEmpty then lift
              else (ns.forestOf n path rest).2) : Forest × Nat).1.Steady (path.map ns.formats) := by
        split_ifs <;> exact ih path hpath hrest
      rw [forestOf]
      split
      next => exact ih path hpath hrest
      next node hnode =>
        have hchildren : ns.children id = node.children := by
          rw [children, hnode]
          rfl
        have hlift := h.formats_of_mem_take hpath hid
        have hparent : ns.parent? id = node.parent := by
          rw [parent?, hnode]
          rfl
        have htag : ns.tag? id = node.kind.tag? := by
          rw [tag?, hnode]
          rfl
        rw [hchildren] at hinside
        rw [hparent] at hlift
        rw [formats, htag] at hinside
        dsimp only
        split
        next => exact hafter _ _
        next => exact hafter _ _
        next hkind =>
          rw [hkind] at hinside
          exact ⟨hinside, hafter _ _⟩
        next => exact hafter _ _
        next => exact hafter _ _
        next space name attributes hkind =>
          rw [hkind] at hinside
          refine ⟨?_, hinside, hafter _ _⟩
          rw [← List.map_take]
          exact List.forall_mem_map.mpr hlift

theorem steady_attached (h : ns.Linked) : ns.attached.Steady [] :=
  steady_forestOf h _ [] .nil nofun

theorem steady_strays (h : ns.Linked) : ns.strays.Steady [] :=
  steady_forestOf h _ [] .nil nofun

end Tree.Nodes

/-- No element inside looks up to one further out than the site itself. -/
def Site.Encloses (s : Site) : Prop := ∀ t ∈ s.inside.walk [] [], t.element.lift ≤ t.above.length

namespace Document

variable {d : Document} {page : List Char} {s : Site}

/-- What is inside an element of a document is in the document. -/
theorem contents_sublist_places (h : s ∈ d.places) : s.contents.Sublist d.places := by
  rcases List.mem_append.mp h with h | h
  · exact (Forest.contents_sublist_sites h).trans (List.sublist_append_left _ _)
  · have hinside : ∀ t ∈ s.contents, (!t.above.isEmpty) = true := by
      intro t ht
      have hlength := (Forest.suffix_of_mem_sites ht).length_le
      have hpos : 0 < t.above.length := by
        simp only [Site.surroundings, List.length_cons] at hlength
        omega
      simpa [List.length_pos_iff] using hpos
    rw [← List.filter_eq_self.mpr hinside]
    refine List.Sublist.trans ?_ (List.sublist_append_right _ _)
    exact (Forest.contents_sublist_sites (List.mem_filter.mp h).1).filter _

theorem mem_sites_of_mem_contents {t : Site} (hs : s ∈ d.sites) (ht : t ∈ s.contents) : t ∈ d.sites :=
  mem_sites.mpr ((contents_sublist_places (mem_sites.mp hs)).mem ht)

/-- What the walk from the root comes to inside of an element, a walk through that element comes to. -/
theorem Plain.mem_descendants (h : d.Plain) {t : Site} (hs : s ∈ d.sites) (ht : t ∈ s.contents)
    (hreach : d.Reaches t) : t ∈ s.descendants := by
  have hplace := (contents_sublist_places (mem_sites.mp hs)).mem ht
  exact Forest.mem_descendants_of_mem_walk ((h.reaches_iff hplace).mp hreach)
    (Forest.suffix_of_mem_sites ht) List.nil_suffix

theorem mem_sites_of_mem_childSites {t : Site} (hs : s ∈ d.sites) (ht : t ∈ s.childSites) : t ∈ d.sites :=
  mem_sites_of_mem_contents hs ((s.inside.topSites_sublist_sites s.surroundings []).mem ht)

theorem mem_sites_of_body? {body : Site} (h : d.body? = some body) : body ∈ d.sites := by
  obtain ⟨root, hroot, hbody⟩ := Option.bind_eq_some_iff.mp h
  have hattached : root ∈ d.attached := List.mem_of_find?_eq_some hroot
  have hsites : root ∈ d.sites := mem_sites.mpr (List.mem_append_left _ hattached)
  exact mem_sites_of_mem_childSites hsites (List.mem_of_find?_eq_some hbody)

/-- Every site of a page is one of a forest in which elements look past formatting elements only. -/
theorem exists_steady (h : read page = .ok d) (hs : s ∈ d.sites) :
    ∃ f : Forest, f.Steady [] ∧ s ∈ f.sites [] [] := by
  have hlinked := Tree.linked_nodesOf page
  unfold read at h
  split_ifs at h
  obtain rfl := Except.ok.inj h
  rcases List.mem_append.mp (mem_sites.mp hs) with hs | hs
  · exact ⟨_, Tree.Nodes.steady_attached hlinked, hs⟩
  · exact ⟨_, Tree.Nodes.steady_strays hlinked, (List.mem_filter.mp hs).1⟩

/-- On a page, every element looks past formatting elements only, and so do those inside of it. -/
theorem looks_past_formatting (h : read page = .ok d) (hs : s ∈ d.sites) :
    (∀ holder ∈ s.above.take s.element.lift, holder.formats = true) ∧
      s.inside.Steady (s.surroundings.map Holder.formats) := by
  obtain ⟨f, hsteady, hmem⟩ := exists_steady h hs
  exact hsteady.of_mem_sites [] hmem

/-- What stands right in an element that does not only format looks up to it. -/
theorem exists_of_mem_children (h : read page = .ok d) (hs : s ∈ d.sites)
    (hformats : s.element.formats = false) {e : Element} (he : e ∈ s.children) :
    ∃ t ∈ s.contents, t.element = e ∧ t.parent? = some s := by
  obtain ⟨t, ht, rfl, habove⟩ := Forest.exists_site_of_mem_tops s.surroundings [] he
  obtain ⟨hpast, -⟩ := looks_past_formatting h (mem_sites_of_mem_contents hs ht)
  refine ⟨t, ht, rfl, ?_⟩
  rw [habove] at hpast
  cases hlift : t.element.lift with
  | zero =>
    rw [Site.parent?_eq_holder? hlift, Site.holder?, habove]
    rfl
  | succ k =>
    rw [hlift] at hpast
    exact absurd (hpast _ List.mem_cons_self) (by simp [Holder.formats, hformats])

/-- What is inside an element that does not only format looks no further out than to that. -/
theorem encloses (h : read page = .ok d) (hs : s ∈ d.sites) (hformats : s.element.formats = false) :
    s.Encloses := by
  intro t ht
  obtain ⟨-, hsteady⟩ := looks_past_formatting h hs
  have hmem : t.within s.surroundings ∈ s.contents := by
    apply s.descendants_sublist_contents.mem
    rw [s.descendants_eq]
    exact List.mem_map_of_mem ht
  obtain ⟨hpast, -⟩ := hsteady.of_mem_sites s.surroundings hmem
  by_contra hlt
  have hholder : Holder.element s.toSpot ∈ (t.above ++ s.surroundings).take t.element.lift := by
    rw [List.take_append, List.mem_append]
    refine .inr ?_
    obtain ⟨k, hk⟩ := Nat.exists_eq_add_of_lt (Nat.lt_of_not_le hlt)
    rw [hk]
    simp [Site.surroundings, Nat.add_assoc]
  exact Bool.false_ne_true (hformats.symm.trans (hpast _ hholder))

end Document

def Holder.sites : List Holder → List Site
  | [] => []
  | .fragment :: above => sites above
  | .element spot :: above => ⟨spot, above⟩ :: sites above

def Site.around (s : Site) : List Site := Holder.sites s.above

/-- All elements among the holders look past formatting elements only. -/
def Holder.LookOut : List Holder → Prop
  | [] => True
  | .fragment :: above => LookOut above
  | .element spot :: above =>
    (∀ holder ∈ above.take spot.element.lift, holder.formats = true) ∧ LookOut above

theorem Forest.Steady.lookOut {f : Forest} {above : List Holder} {earlier : List (Element × Forest)}
    {s : Site} (h : f.Steady (above.map Holder.formats)) (habove : Holder.LookOut above)
    (hs : s ∈ f.sites above earlier) : Holder.LookOut s.above := by
  induction f generalizing above earlier with
  | nil => cases hs
  | text _ _ ih | comment _ _ ih | unreached _ ih => exact ih h habove hs
  | fragment _ _ ihi ihr =>
    rcases List.mem_append.mp hs with hs | hs
    · refine ihi ?_ ?_ hs
      · exact h.1
      · exact habove
    · exact ihr h.2 habove hs
  | element e inside _ ihi ihr =>
    obtain ⟨hlift, hinside, hrest⟩ := h
    rw [← List.map_take, List.forall_mem_map] at hlift
    simp only [sites, List.mem_cons, List.mem_append] at hs
    rcases hs with rfl | hs | hs
    · exact habove
    · -- What stands in `e` has it as the nearest holder.
      refine ihi ?_ ?_ hs
      · exact hinside
      · exact ⟨hlift, habove⟩
    · exact ihr hrest habove hs

namespace Site

/-- What is asked of the ancestors is asked of all elements around, unless it could be true of a
formatting element. -/
theorem any_ancestorsFrom {q : Site → Bool} (hq : ∀ t : Site, t.element.formats = true → q t = false)
    (lift : Nat) (above : List Holder) (hlift : ∀ holder ∈ above.take lift, holder.formats = true)
    (habove : Holder.LookOut above) :
    (ancestorsFrom lift above).any q = (Holder.sites above).any q := by
  fun_induction ancestorsFrom lift above with
  | case1 => rfl
  | case2 lift holder above ih =>
    obtain ⟨hholder, hrest⟩ := List.forall_mem_cons.mp hlift
    -- What is passed over formats, so nothing is missed with it.
    cases holder with
    | fragment => cases hholder
    | element spot =>
      rw [ih hrest habove.2, Holder.sites, List.any_cons, hq ⟨spot, above⟩ hholder, Bool.false_or]
  | case3 above ih => exact ih (by simp) habove
  | case4 spot above ih => rw [List.any_cons, ih habove.1 habove.2, Holder.sites, List.any_cons]

/-- A site looks up to the element it stands in, unless that is a formatting element. -/
theorem parent?_eq_or_formats {s : Site}
    (h : ∀ holder ∈ s.above.take s.element.lift, holder.formats = true) :
    s.parent? = s.holder? ∨ ∃ p, s.holder? = some p ∧ p.element.formats = true := by
  cases hlift : s.element.lift with
  | zero => exact .inl (parent?_eq_holder? hlift)
  | succ k =>
    rw [hlift] at h
    rw [parent?, holder?, hlift]
    match s.above, h with
    | [], _ => exact .inl rfl
    | .fragment :: _, h => exact absurd (h .fragment List.mem_cons_self) (by simp [Holder.formats])
    | .element spot :: above, h => exact .inr ⟨⟨spot, above⟩, rfl, h (.element spot) List.mem_cons_self⟩

end Site

namespace Document

variable {d : Document} {page : List Char} {s : Site}

theorem lookOut (h : read page = .ok d) (hs : s ∈ d.sites) : Holder.LookOut s.above := by
  obtain ⟨f, hsteady, hmem⟩ := exists_steady h hs
  refine Forest.Steady.lookOut ?_ ?_ hmem
  · exact hsteady
  · trivial

/-- On a page, an element that does not format is an ancestor of all that it is around. -/
theorem hasAncestor_eq (h : read page = .ok d) (hs : s ∈ d.sites) {name : String}
    (hname : name ∉ Tree.Builder.formattingNames) :
    s.hasAncestor name = s.around.any (·.name == name) := by
  apply Site.any_ancestorsFrom
  · intro t hformats
    rw [beq_eq_false_iff_ne]
    intro heq
    rw [Site.formats_eq_false heq hname] at hformats
    cases hformats
  · exact (looks_past_formatting h hs).1
  · exact lookOut h hs

end Document

end PageGrader
