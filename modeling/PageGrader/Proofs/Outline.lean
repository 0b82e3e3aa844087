import Mathlib.Data.List.TakeWhile
import PageGrader.Tree.Adoption

namespace PageGrader.Tree

variable {e r : Opened} {s t before : List Opened} {names : List String} {ends wanted : Opened → Bool}

/-- Elements that have a mode of their own to be read in. All others can stand anywhere in a body. -/
def partNames : List String :=
  ["html", "head", "body", "frameset", "template", "table", "caption", "colgroup", "tbody", "tfoot",
   "thead", "tr", "td", "th"]

def Opened.isPart (e : Opened) : Bool := e.among partNames

/-- What begins with an element of one of the names. -/
def Tops (names : List String) (s : List Opened) : Prop := ∃ e ∈ s.head?, e.among names = true

/-- Something that can hold all kinds of elements is open. -/
def Holds (s : List Opened) : Prop := ∃ e ∈ s, e.among ["body", "template"] = true

/-- Where an element may be opened when `s` is open already. -/
inductive Sits (s : List Opened) (e : Opened) : Prop where
  | plain (h : e.isPart = false) (hs : Holds s)
  | template (h : e.named "template" = true)
  | table (h : e.named "table" = true) (hs : Holds s)
  | group (h : e.among ["caption", "colgroup", "tbody", "tfoot", "thead"] = true)
    (hs : Tops ["table", "template"] s)
  | row (h : e.named "tr" = true) (hs : Tops ["tbody", "tfoot", "thead", "template"] s)
  | cell (h : e.among ["td", "th"] = true) (hs : Tops ["tr", "template"] s)

/-- The root is the outermost element, then come the head or the body, and parts of tables are right inside
of what they are part of. In the head there is nothing but templates. -/
inductive Nested : List Opened → Prop where
  | root {r : Opened} (h : r.named "html" = true) : Nested [r]
  | outer {e r : Opened} (h : e.among ["head", "body"] = true) (hr : r.named "html" = true) : Nested [e, r]
  | inner {e : Opened} {s : List Opened} (h : Sits s e) (hs : Nested s) : Nested (e :: s)

namespace Opened

theorem among_eq_true : e.among names = true ↔ e.space = .html ∧ e.name ∈ names := by
  simp [among]

theorem named_eq_true {name : String} : e.named name = true ↔ e.space = .html ∧ e.name = name := by
  simp [named]

theorem among_mono {others : List String} (h : e.among names = true) (hsub : ∀ n ∈ names, n ∈ others) :
    e.among others = true := by
  rw [among_eq_true] at *
  exact ⟨h.1, hsub _ h.2⟩

theorem among_of_named {name : String} (h : e.named name = true) (hmem : name ∈ names) :
    e.among names = true := by
  rw [named_eq_true] at h
  exact among_eq_true.mpr ⟨h.1, h.2 ▸ hmem⟩

theorem among_of_isPart (h : e.isPart = false) (hsub : ∀ n ∈ names, n ∈ partNames) :
    e.among names = false := by
  rw [Bool.eq_false_iff]
  exact fun hamong => Bool.eq_false_iff.mp h (among_mono hamong hsub)

theorem isPart_of_among (h : e.among names = true) (hsub : ∀ n ∈ names, n ∈ partNames) :
    e.isPart = true :=
  among_mono h hsub

/-- An element has one name only. -/
theorem among_disjoint {others : List String} (h : e.among names = true)
    (hdisjoint : ∀ n ∈ names, n ∉ others) : e.among others = false := by
  rw [Bool.eq_false_iff]
  exact fun hother => hdisjoint _ (among_eq_true.mp h).2 (among_eq_true.mp hother).2

theorem among_singleton {name : String} (h : e.named name = true) : e.among [name] = true :=
  among_of_named h (List.mem_singleton_self name)

theorem not_among_of_named {name : String} (h : e.named name = true) (hname : name ∉ names) :
    e.among names = false :=
  among_disjoint (among_singleton h) fun _ hn => List.mem_singleton.mp hn ▸ hname

end Opened

open Opened

theorem Holds.cons (h : Holds s) (e : Opened) : Holds (e :: s) :=
  let ⟨f, hf, hname⟩ := h
  ⟨f, List.mem_cons_of_mem e hf, hname⟩

theorem Holds.of_cons (h : Holds (e :: s)) (he : e.among ["body", "template"] = false) : Holds s := by
  obtain ⟨f, hf, hname⟩ := h
  rcases List.mem_cons.mp hf with rfl | hf
  · exact absurd (he.symm.trans hname) Bool.false_ne_true
  · exact ⟨f, hf, hname⟩

theorem Holds.ne_nil (h : Holds s) : s ≠ [] := by
  rintro rfl
  obtain ⟨e, he, -⟩ := h
  cases he

/-- Whether something holds all kinds of elements is up to the parts alone. -/
theorem Holds.congr (h : Holds s) (hparts : t.filter (·.isPart) = s.filter (·.isPart)) : Holds t := by
  obtain ⟨e, he, hname⟩ := h
  have hmem : e ∈ t.filter (·.isPart) :=
    hparts ▸ List.mem_filter.mpr ⟨he, isPart_of_among hname (by decide)⟩
  exact ⟨e, (List.mem_filter.mp hmem).1, hname⟩

namespace Nested

theorem ne_nil (h : Nested s) : s ≠ [] := by
  cases h <;> exact List.cons_ne_nil _ _

theorem tail (h : Nested (e :: s)) (hne : s ≠ []) : Nested s := by
  cases h with
  | root h => exact absurd rfl hne
  | outer h hr => exact .root hr
  | inner h hs => exact hs

theorem suffix (h : Nested (before ++ s)) (hne : s ≠ []) : Nested s := by
  induction before with
  | nil => exact h
  | cons e before ih => exact ih (h.tail (by simp [hne]))

theorem bottom (h : Nested s) : ∃ r ∈ s.getLast?, r.named "html" = true := by
  induction h with
  | root h => exact ⟨_, rfl, h⟩
  | outer h hr => exact ⟨_, rfl, hr⟩
  | inner h hs ih =>
    obtain ⟨r, hr, hname⟩ := ih
    exact ⟨r, by rw [List.getLast?_cons_of_ne_nil hs.ne_nil]; exact hr, hname⟩

/-- All kinds of elements can be held inside of anything but the root and the head. -/
theorem holds (h : Nested s) (htop : ∀ e ∈ s.head?, e.among ["html", "head"] = false) : Holds s := by
  have hinner {e : Opened} {s : List Opened}
      (ih : (∀ f ∈ s.head?, f.among ["html", "head"] = false) → Holds s) {names : List String}
      (hs : Tops names s) (hnames : ∀ n ∈ names, n ∉ ["html", "head"]) : Holds (e :: s) := by
    refine (ih fun f hf => ?_).cons e
    obtain ⟨g, hg, hname⟩ := hs
    obtain rfl := Option.some.inj (hg.symm.trans hf)
    exact among_disjoint hname hnames
  induction h with
  | root h =>
    have hnot := htop _ rfl
    exact absurd (hnot.symm.trans (among_of_named h (by decide))) Bool.false_ne_true
  | @outer e r h hr =>
    have hnot := Bool.eq_false_iff.mp (htop _ rfl)
    refine ⟨e, List.mem_cons_self, ?_⟩
    simp only [ne_eq, among_eq_true, List.mem_cons, List.not_mem_nil, or_false] at h hnot ⊢
    exact ⟨h.1, .inl (h.2.resolve_left fun hhead => hnot ⟨h.1, .inr hhead⟩)⟩
  | @inner e s h hs ih =>
    cases h with
    | plain h hs => exact hs.cons e
    | template h => exact ⟨e, List.mem_cons_self, among_of_named h (by decide)⟩
    | table h hs => exact hs.cons e
    | group h hs => exact hinner ih hs (by decide)
    | row h hs => exact hinner ih hs (by decide)
    | cell h hs => exact hinner ih hs (by decide)

end Nested

/-- The innermost part has one of the names. -/
def Begins (names : List String) (s : List Opened) : Prop :=
  ∃ e ∈ s.find? (·.isPart), e.among names = true

theorem Begins.congr (h : Begins names s) (hparts : t.filter (·.isPart) = s.filter (·.isPart)) :
    Begins names t := by
  rw [Begins, ← List.head?_filter, hparts, List.head?_filter]
  exact h

theorem Begins.mono {others : List String} (h : Begins names s) (hsub : ∀ n ∈ names, n ∈ others) :
    Begins others s :=
  let ⟨e, he, hname⟩ := h
  ⟨e, he, among_mono hname hsub⟩

theorem Begins.of_tops (h : Tops names s) (hnames : ∀ n ∈ names, n ∈ partNames) : Begins names s := by
  obtain ⟨e, he, hname⟩ := h
  obtain ⟨s, rfl⟩ := List.head?_eq_some_iff.mp he
  exact ⟨e, List.find?_cons_of_pos (isPart_of_among hname hnames), hname⟩

/-- What is open from the innermost part on. -/
theorem Begins.split (h : Begins names s) : ∃ before e after, s = before ++ e :: after ∧
    (∀ f ∈ before, f.isPart = false) ∧ e.isPart = true ∧ e.among names = true := by
  obtain ⟨e, he, hname⟩ := h
  obtain ⟨hpart, before, after, rfl, hbefore⟩ := List.find?_eq_some_iff_append.mp he
  exact ⟨before, e, after, rfl, fun f hf => by simpa using hbefore f hf, hpart, hname⟩

theorem Begins.holds (h : Begins names s) (hs : Nested s) (hnames : ∀ n ∈ names, n ∉ ["html", "head"]) :
    Holds s := by
  obtain ⟨before, e, after, rfl, -, -, hname⟩ := h.split
  have hinner := hs.suffix (List.cons_ne_nil e after)
  obtain ⟨f, hf, hf'⟩ := hinner.holds fun f hf => Option.some.inj hf ▸ among_disjoint hname hnames
  exact ⟨f, List.mem_append_right _ hf, hf'⟩

/-- Going out to the innermost element that is wanted ends at the innermost part, if that is one. -/
theorem Begins.dropWhile (h : Begins names s) (hs : Nested s)
    (hwanted : ∀ e, e.among names = true → wanted e = true)
    (hpart : ∀ e, wanted e = true → e.isPart = true) :
    Nested (s.dropWhile (!wanted ·)) ∧ Tops names (s.dropWhile (!wanted ·)) := by
  obtain ⟨before, e, after, rfl, hbefore, -, hname⟩ := h.split
  have hdrop : (before ++ e :: after).dropWhile (!wanted ·) = e :: after := by
    rw [List.dropWhile_append_of_pos, List.dropWhile_cons_of_neg (by simp [hwanted e hname])]
    intro f hf
    have hnot : wanted f = false :=
      Bool.eq_false_iff.mpr fun hw => Bool.eq_false_iff.mp (hbefore f hf) (hpart f hw)
    rw [hnot]
    rfl
  rw [hdrop]
  exact ⟨hs.suffix (List.cons_ne_nil _ _), e, rfl, hname⟩

theorem outside_append {after : List Opened} (hbefore : ∀ f ∈ before, wanted f = false)
    (he : wanted e = true) : outside wanted (before ++ e :: after) = after := by
  induction before with
  | nil => simp [outside, he]
  | cons f before ih =>
    obtain ⟨hf, hrest⟩ := List.forall_mem_cons.mp hbefore
    simp [outside, hf, ih hrest]

theorem exists_of_inScope (h : inScope ends wanted s = true) : ∃ e ∈ s, wanted e = true := by
  induction s with
  | nil => cases h
  | cons e s ih =>
    rw [inScope, Bool.or_eq_true, Bool.and_eq_true] at h
    rcases h with he | ⟨-, hs⟩
    · exact ⟨e, List.mem_cons_self, he⟩
    · obtain ⟨f, hf, hwanted⟩ := ih hs
      exact ⟨f, List.mem_cons_of_mem e hf, hwanted⟩

theorem outside_dropWhile {may : Opened → Bool} (hmay : ∀ e, wanted e = true → may e = false)
    (s : List Opened) : outside wanted (s.dropWhile may) = outside wanted s := by
  induction s with
  | nil => rfl
  | cons e s ih =>
    rw [List.dropWhile_cons]
    split
    next he =>
      have hnot : wanted e = false :=
        Bool.eq_false_iff.mpr fun hw => Bool.false_ne_true ((hmay e hw).symm.trans he)
      rw [ih, outside, hnot]
      rfl
    next => rfl

/-- Closing an element that is open leaves what is open around it. -/
theorem exists_outside (h : ∃ e ∈ s, wanted e = true) : ∃ before e,
    s = before ++ e :: outside wanted s ∧ wanted e = true ∧ ∀ f ∈ before, wanted f = false := by
  obtain ⟨e, hfind⟩ := Option.isSome_iff_exists.mp (List.find?_isSome.mpr h)
  obtain ⟨he, before, after, rfl, hbefore⟩ := List.find?_eq_some_iff_append.mp hfind
  have hnot : ∀ f ∈ before, wanted f = false := fun f hf => by simpa using hbefore f hf
  exact ⟨before, e, by rw [outside_append hnot he], he, hnot⟩

/-- What ends every scope but that of tables. -/
def Bounding (ends : Opened → Bool) : Prop :=
  ∀ e, e.among ["html", "template", "table", "caption", "td", "th"] = true → ends e = true

/-- The parts end a scope, or stand right inside of one that does. -/
theorem inScope_of_part (hs : Nested s) (htop : ∃ e ∈ s.head?, e.isPart = true) (hends : Bounding ends)
    (hwanted : ∀ e ∈ s, wanted e = true → e.isPart = false) : inScope ends wanted s = false := by
  have hnot {e : Opened} {s : List Opened} (hwanted : ∀ f ∈ e :: s, wanted f = true → f.isPart = false)
      (he : e.isPart = true) : wanted e = false :=
    Bool.eq_false_iff.mpr fun hw => Bool.eq_false_iff.mp (hwanted e List.mem_cons_self hw) he
  have hend {e : Opened} {s : List Opened} {names : List String}
      (hwanted : ∀ f ∈ e :: s, wanted f = true → f.isPart = false) (he : e.among names = true)
      (hsub : ∀ n ∈ names, n ∈ ["html", "template", "table", "caption", "td", "th"]) :
      inScope ends wanted (e :: s) = false := by
    have hpart := isPart_of_among (among_mono he hsub) (by decide)
    rw [inScope, hnot hwanted hpart, hends e (among_mono he hsub)]
    rfl
  have hon {e : Opened} {s : List Opened} {names : List String}
      (hwanted : ∀ f ∈ e :: s, wanted f = true → f.isPart = false) (he : e.isPart = true)
      (ih : (∃ f ∈ s.head?, f.isPart = true) → (∀ f ∈ s, wanted f = true → f.isPart = false) →
        inScope ends wanted s = false)
      (hs : Tops names s) (hnames : ∀ n ∈ names, n ∈ partNames) :
      inScope ends wanted (e :: s) = false := by
    -- No part is wanted itself, so the scope goes on to what the part stands right inside of.
    obtain ⟨f, hf, hname⟩ := hs
    rw [inScope, hnot hwanted he, ih ⟨f, hf, isPart_of_among hname hnames⟩
      (List.forall_mem_cons.mp hwanted).2, Bool.and_false]
    rfl
  induction hs with
  | @root r h => exact hend hwanted (among_singleton h) (by decide)
  | @outer e r h hr =>
    have hroot : inScope ends wanted [r] = false :=
      hend (List.forall_mem_cons.mp hwanted).2 (among_singleton hr) (by decide)
    rw [inScope, hnot hwanted (isPart_of_among h (by decide)), hroot, Bool.and_false]
    rfl
  | @inner e s h hs ih =>
    cases h with
    | plain h hs =>
      obtain ⟨f, hf, hpart⟩ := htop
      obtain rfl := Option.some.inj hf
      exact absurd (h.symm.trans hpart) Bool.false_ne_true
    | template h => exact hend hwanted (among_singleton h) (by decide)
    | table h hs => exact hend hwanted (among_singleton h) (by decide)
    | group h hs => exact hon hwanted (isPart_of_among h (by decide)) ih hs (by decide)
    | row h hs => exact hon hwanted (among_of_named h (by decide)) ih hs (by decide)
    | cell h hs => exact hend hwanted h (by decide)

/-- A wanted element is open inside of all parts. -/
inductive AtHand (wanted : Opened → Bool) : List Opened → Prop where
  | here {e : Opened} {s : List Opened} (he : wanted e = true) (hplain : e.isPart = false) :
    AtHand wanted (e :: s)
  | there {e : Opened} {s : List Opened} (hplain : e.isPart = false) (h : AtHand wanted s) :
    AtHand wanted (e :: s)

namespace AtHand

/-- A scope reaches no plain element beyond the innermost part. -/
theorem of_inScope (hs : Nested s) (hends : Bounding ends)
    (hwanted : ∀ e ∈ s, wanted e = true → e.isPart = false) (h : inScope ends wanted s = true) :
    AtHand wanted s := by
  induction s with
  | nil => cases h
  | cons e s ih =>
    obtain ⟨he, hrest⟩ := List.forall_mem_cons.mp hwanted
    have hplain : e.isPart = false := by
      rw [Bool.eq_false_iff]
      intro hpart
      rw [inScope_of_part hs ⟨e, rfl, hpart⟩ hends hwanted] at h
      cases h
    rw [inScope, Bool.or_eq_true, Bool.and_eq_true] at h
    rcases h with h | ⟨-, h⟩
    · exact .here h hplain
    · have hne : s ≠ [] := by
        rintro rfl
        cases h
      exact .there hplain (ih (hs.tail hne) hrest h)

theorem append (hbefore : ∀ f ∈ before, f.isPart = false) (h : AtHand wanted s) :
    AtHand wanted (before ++ s) := by
  induction before with
  | nil => exact h
  | cons f before ih =>
    obtain ⟨hf, hrest⟩ := List.forall_mem_cons.mp hbefore
    exact .there hf (ih hrest)

theorem dropWhile (h : AtHand wanted s) {may : Opened → Bool}
    (hmay : ∀ e, wanted e = true → may e = false) : AtHand wanted (s.dropWhile may) := by
  induction h with
  | here he hplain =>
    rw [List.dropWhile_cons_of_neg (by simp [hmay _ he])]
    exact .here he hplain
  | @there e s hplain h ih =>
    rw [List.dropWhile_cons]
    split
    · exact ih
    · exact .there hplain h

theorem split (h : AtHand wanted s) : ∃ e, s = s.takeWhile (!wanted ·) ++ e :: outside wanted s ∧
    wanted e = true ∧ e.isPart = false ∧ ∀ f ∈ s.takeWhile (!wanted ·), f.isPart = false := by
  induction h with
  | @here e s he hplain => exact ⟨e, by simp [outside, he], he, hplain, by simp [he]⟩
  | @there e s hplain h ih =>
    by_cases he : wanted e = true
    · exact ⟨e, by simp [outside, he], he, hplain, by simp [he]⟩
    · obtain ⟨f, hs, hf, hf', hbefore⟩ := ih
      rw [Bool.not_eq_true] at he
      have htake : (e :: s).takeWhile (!wanted ·) = e :: s.takeWhile (!wanted ·) := by simp [he]
      refine ⟨f, ?_, hf, hf', ?_⟩
      · rw [htake, outside, if_neg (by simp [he]), List.cons_append, ← hs]
      · rw [htake]
        exact List.forall_mem_cons.mpr ⟨hplain, hbefore⟩

end AtHand

theorem filter_eraseP (hwanted : ∀ e ∈ s, wanted e = true → e.isPart = false) :
    (s.eraseP wanted).filter (·.isPart) = s.filter (·.isPart) := by
  induction s with
  | nil => rfl
  | cons e s ih =>
    obtain ⟨he, hrest⟩ := List.forall_mem_cons.mp hwanted
    by_cases hw : wanted e = true
    · rw [List.eraseP_cons_of_pos hw, List.filter_cons_of_neg (by simp [he hw])]
    · rw [List.eraseP_cons_of_neg hw, List.filter_cons, List.filter_cons, ih hrest]

theorem eraseP_of_isPart (hwanted : ∀ f ∈ e :: s, wanted f = true → f.isPart = false)
    (he : e.isPart = true) : (e :: s).eraseP wanted = e :: s.eraseP wanted :=
  List.eraseP_cons_of_neg fun hw => Bool.eq_false_iff.mp (hwanted e List.mem_cons_self hw) he

theorem Tops.eraseP (h : Tops names s) (hnames : ∀ n ∈ names, n ∈ partNames)
    (hwanted : ∀ e ∈ s, wanted e = true → e.isPart = false) : Tops names (s.eraseP wanted) := by
  obtain ⟨e, he, hname⟩ := h
  obtain ⟨s, rfl⟩ := List.head?_eq_some_iff.mp he
  exact ⟨e, by rw [eraseP_of_isPart hwanted (isPart_of_among hname hnames)]; rfl, hname⟩

theorem Nested.eraseP (h : Nested s) (hwanted : ∀ e ∈ s, wanted e = true → e.isPart = false) :
    Nested (s.eraseP wanted) := by
  induction h with
  | @root r h =>
    rw [eraseP_of_isPart hwanted (among_of_named h (by decide))]
    exact .root h
  | @outer e r h hr =>
    have hrest := (List.forall_mem_cons.mp hwanted).2
    rw [eraseP_of_isPart hwanted (isPart_of_among h (by decide)),
      eraseP_of_isPart hrest (among_of_named hr (by decide))]
    exact .outer h hr
  | @inner e s h hs ih =>
    have hrest := (List.forall_mem_cons.mp hwanted).2
    by_cases hw : wanted e = true
    · rw [List.eraseP_cons_of_pos hw]
      exact hs
    · rw [List.eraseP_cons_of_neg hw]
      refine .inner ?_ (ih hrest)
      cases h with
      | plain h hs => exact .plain h (hs.congr (filter_eraseP hrest))
      | template h => exact .template h
      | table h hs => exact .table h (hs.congr (filter_eraseP hrest))
      | group h hs => exact .group h (hs.eraseP (by decide) hrest)
      | row h hs => exact .row h (hs.eraseP (by decide) hrest)
      | cell h hs => exact .cell h (hs.eraseP (by decide) hrest)

/-- The same parts are open, and in their places. -/
structure Alike (s t : List Opened) : Prop where
  parts : t.filter (·.isPart) = s.filter (·.isPart)
  nested : Nested t
  holds : Holds t

namespace Alike

theorem refl (hs : Nested s) (hholds : Holds s) : Alike s s := ⟨rfl, hs, hholds⟩

theorem push (h : Alike s t) (he : e.isPart = false) : Alike s (e :: t) where
  parts := by rw [List.filter_cons_of_neg (by simp [he]), h.parts]
  nested := .inner (.plain he h.holds) h.nested
  holds := h.holds.cons e

theorem pushes (h : Alike s t) (hbefore : ∀ f ∈ before, f.isPart = false) : Alike s (before ++ t) := by
  induction before with
  | nil => exact h
  | cons e before ih =>
    obtain ⟨he, hrest⟩ := List.forall_mem_cons.mp hbefore
    exact (ih hrest).push he

theorem drop (h : Alike s (before ++ t)) (hbefore : ∀ f ∈ before, f.isPart = false) : Alike s t := by
  have hnone : before.filter (·.isPart) = [] :=
    List.filter_eq_nil_iff.mpr fun f hf => by simp [hbefore f hf]
  have hparts : t.filter (·.isPart) = (before ++ t).filter (·.isPart) := by
    rw [List.filter_append, hnone, List.nil_append]
  have hholds := h.holds.congr hparts
  exact ⟨hparts.trans h.parts, h.nested.suffix hholds.ne_nil, hholds⟩

theorem dropWhile (h : Alike s t) {may : Opened → Bool} (hmay : ∀ e, may e = true → e.isPart = false) :
    Alike s (t.dropWhile may) := by
  rw [← List.takeWhile_append_dropWhile (p := may) (l := t)] at h
  exact h.drop fun f hf => hmay f (List.mem_takeWhile_imp hf)

theorem outside (h : Alike s t) (hwanted : AtHand wanted t) : Alike s (outside wanted t) := by
  obtain ⟨e, ht, -, he, hbefore⟩ := hwanted.split
  rw [ht, List.append_cons] at h
  refine h.drop fun f hf => ?_
  rcases List.mem_append.mp hf with hf | hf
  · exact hbefore f hf
  · exact List.mem_singleton.mp hf ▸ he

theorem eraseP (h : Alike s t) (hwanted : ∀ e ∈ t, wanted e = true → e.isPart = false) :
    Alike s (t.eraseP wanted) :=
  ⟨(filter_eraseP hwanted).trans h.parts, h.nested.eraseP hwanted, h.holds.congr (filter_eraseP hwanted)⟩

end Alike

/-- All kinds of elements can stand in what is open, and its innermost part has one of the names. -/
structure Within (names : List String) (s : List Opened) : Prop where
  nested : Nested s
  holds : Holds s
  begins : Begins names s

namespace Within

theorem alike (h : Within names s) (hst : Alike s t) : Within names t :=
  ⟨hst.nested, hst.holds, h.begins.congr hst.parts⟩

theorem mono {others : List String} (h : Within names s) (hsub : ∀ n ∈ names, n ∈ others) : Within others s :=
  ⟨h.nested, h.holds, h.begins.mono hsub⟩

theorem push (h : Within names s) (he : e.isPart = false) : Within names (e :: s) :=
  h.alike ((Alike.refl h.nested h.holds).push he)

theorem of_tops (hs : Nested s) (h : Tops names s) (hnames : ∀ n ∈ names, n ∈ partNames)
    (hinner : ∀ n ∈ names, n ∉ ["html", "head"]) : Within names s :=
  have hbegins := Begins.of_tops h hnames
  ⟨hs, hbegins.holds hs hinner, hbegins⟩

/-- Some part is the innermost one. -/
theorem of_holds (hs : Nested s) (hholds : Holds s) : Within partNames s := by
  refine ⟨hs, hholds, ?_⟩
  obtain ⟨e, he, hname⟩ := hholds
  have hpart := isPart_of_among hname (by decide)
  obtain ⟨f, hf⟩ := Option.isSome_iff_exists.mp (List.find?_isSome.mpr ⟨e, he, hpart⟩)
  exact ⟨f, hf, List.find?_some hf⟩

end Within

theorem Nested.sits (h : Nested (e :: s)) (he : e.among ["html", "head", "body"] = false) :
    Sits s e ∧ Nested s := by
  have hout {name : String} (hname : e.named name = true) (hmem : name ∈ ["html", "head", "body"]) : False :=
    Bool.false_ne_true (he.symm.trans (among_of_named hname hmem))
  cases h with
  | root h => exact (hout h (by decide)).elim
  | outer h hr => exact absurd (he.symm.trans (among_mono h (by decide))) Bool.false_ne_true
  | inner h hs => exact ⟨h, hs⟩

/-- What a part of a table stands right inside of. -/
theorem Sits.tops (h : Sits s e) (hpart : e.isPart = true) :
    (e.among ["caption", "colgroup", "tbody", "tfoot", "thead"] = true → Tops ["table", "template"] s) ∧
    (e.named "tr" = true → Tops ["tbody", "tfoot", "thead", "template"] s) ∧
    (e.among ["td", "th"] = true → Tops ["tr", "template"] s) := by
  have hclash {names others : List String} (h : e.among names = true) (h' : e.among others = true)
      (hdisjoint : ∀ n ∈ names, n ∉ others) : False :=
    Bool.false_ne_true ((among_disjoint h hdisjoint).symm.trans h')
  cases h with
  | plain h hs => exact absurd (h.symm.trans hpart) Bool.false_ne_true
  | template h | table h hs | row h hs => simp_all [named_eq_true, among_eq_true]
  | group h hs =>
    exact ⟨fun _ => hs, fun h' => (hclash h (among_of_named h' (List.mem_singleton_self _)) (by decide)).elim,
      fun h' => (hclash h h' (by decide)).elim⟩
  | cell h hs =>
    exact ⟨fun h' => (hclash h h' (by decide)).elim,
      fun h' => (hclash h (among_of_named h' (List.mem_singleton_self _)) (by decide)).elim, fun _ => hs⟩

theorem Nested.outside (h : Nested s) (hopen : ∃ e ∈ s, wanted e = true)
    (hwanted : ∀ e, wanted e = true → e.named "html" = false) : Nested (outside wanted s) := by
  obtain ⟨before, e, hs, he, -⟩ := exists_outside hopen
  rw [hs] at h
  have hinner := h.suffix (List.cons_ne_nil e _)
  refine hinner.tail fun hnil => ?_
  obtain ⟨r, hr, hname⟩ := hinner.bottom
  rw [hnil] at hr
  obtain rfl := Option.some.inj hr
  exact Bool.false_ne_true ((hwanted e he).symm.trans hname)

/-- The body is open. -/
def HasBody (s : List Opened) : Prop := ∃ e ∈ s, e.named "body" = true

namespace HasBody

theorem congr (h : HasBody s) (hparts : t.filter (·.isPart) = s.filter (·.isPart)) : HasBody t := by
  obtain ⟨e, he, hname⟩ := h
  have hmem : e ∈ t.filter (·.isPart) :=
    hparts ▸ List.mem_filter.mpr ⟨he, among_of_named hname (by decide)⟩
  exact ⟨e, (List.mem_filter.mp hmem).1, hname⟩

theorem alike (h : HasBody s) (hst : Alike s t) : HasBody t := h.congr hst.parts

theorem cons (h : HasBody s) (e : Opened) : HasBody (e :: s) :=
  let ⟨f, hf, hname⟩ := h
  ⟨f, List.mem_cons_of_mem e hf, hname⟩

theorem of_cons (h : HasBody (e :: s)) (he : e.among ["html", "body"] = false) : HasBody s := by
  obtain ⟨f, hf, hname⟩ := h
  rcases List.mem_cons.mp hf with rfl | hf
  · exact absurd (he.symm.trans (among_of_named hname (by decide))) Bool.false_ne_true
  · exact ⟨f, hf, hname⟩

/-- Nothing but the root is open around the body, so it stays open when something inside of it is closed. -/
theorem after (h : HasBody (before ++ e :: s)) (hs : Nested (before ++ e :: s))
    (he : e.among ["html", "body"] = false) : HasBody s := by
  have hout {name : String} (hname : e.named name = true) (hmem : name ∈ ["html", "body"]) : False :=
    Bool.false_ne_true (he.symm.trans (among_of_named hname hmem))
  -- The induction is on what is closed. The body is not in it, as only the root stands around the body.
  induction before with
  | nil => exact h.of_cons he
  | cons f before ih =>
    have htail := hs.tail (by simp : before ++ e :: s ≠ [])
    obtain ⟨g, hg, hname⟩ := h
    rcases List.mem_cons.mp hg with rfl | hg
    · rw [List.cons_append] at hs
      generalize hrest : before ++ e :: s = rest at hs
      cases hs with
      | root h => simp at hrest
      | @outer _ r h hr =>
        obtain ⟨rfl, rfl⟩ : e = r ∧ s = [] := by
          cases before with
          | nil => simpa using hrest
          | cons _ _ => simp at hrest
        exact (hout hr (by decide)).elim
      | inner h hs =>
        have hpart := among_of_named hname (show "body" ∈ partNames by decide)
        cases h with
        | plain h hs => exact absurd (h.symm.trans hpart) Bool.false_ne_true
        | template h | table h hs | group h hs | row h hs | cell h hs =>
          simp_all [named_eq_true, among_eq_true]
    · exact ih ⟨g, hg, hname⟩ htail

theorem tops (h : HasBody (before ++ s)) (hs : Nested (before ++ s)) (htop : Tops names s)
    (hnames : ∀ n ∈ names, n ∉ ["html", "body"]) : HasBody s := by
  obtain ⟨e, he, hname⟩ := htop
  obtain ⟨s, rfl⟩ := List.head?_eq_some_iff.mp he
  exact (h.after hs (among_disjoint hname hnames)).cons e

theorem outside (h : HasBody s) (hs : Nested s) (hopen : ∃ e ∈ s, wanted e = true)
    (hwanted : ∀ e, wanted e = true → e.among ["html", "body"] = false) : HasBody (outside wanted s) := by
  obtain ⟨before, e, heq, he, -⟩ := exists_outside hopen
  rw [heq] at h hs
  exact h.after hs (hwanted e he)

end HasBody

theorem inScope_of_append (hbefore : ∀ f ∈ before, wanted f = false)
    (h : inScope ends wanted (before ++ s) = true) : inScope ends wanted s = true := by
  induction before with
  | nil => exact h
  | cons f before ih =>
    obtain ⟨hf, hrest⟩ := List.forall_mem_cons.mp hbefore
    rw [List.cons_append, inScope, hf, Bool.false_or, Bool.and_eq_true] at h
    exact ih hrest h.2

/-- Going out to some element leaves what is open from there on. -/
theorem Nested.dropWhile (hs : Nested s) {may : Opened → Bool} (htop : Tops names (s.dropWhile may))
    (hnames : ∀ n ∈ names, n ∉ ["html", "body"]) :
    Nested (s.dropWhile may) ∧ (HasBody s → HasBody (s.dropWhile may)) := by
  rw [← List.takeWhile_append_dropWhile (p := may) (l := s)] at hs
  refine ⟨hs.suffix ?_, fun hbody => ?_⟩
  · obtain ⟨e, he, -⟩ := htop
    rintro hnil
    rw [hnil] at he
    cases he
  · rw [← List.takeWhile_append_dropWhile (p := may) (l := s)] at hbody
    exact hbody.tops hs htop hnames

def tabularNames : List String :=
  ["table", "template", "caption", "colgroup", "tbody", "tfoot", "thead", "tr"]

/-- From a part of a table one comes out to a table or a template. -/
theorem Nested.tops_table (hs : Nested s) (h : Begins tabularNames s) :
    Tops ["table", "template"] (s.dropWhile (!·.endsTableScope)) := by
  have hstay {e : Opened} {s : List Opened} (he : e.among ["table", "template"] = true) :
      Tops ["table", "template"] ((e :: s).dropWhile (!·.endsTableScope)) := by
    have hends : e.endsTableScope = true := among_mono he (by decide)
    exact ⟨e, by simp [hends], he⟩
  have hon {e : Opened} {s : List Opened} (he : e.endsTableScope = false)
      (h : Tops ["table", "template"] (s.dropWhile (!·.endsTableScope))) :
      Tops ["table", "template"] ((e :: s).dropWhile (!·.endsTableScope)) := by
    rwa [List.dropWhile_cons_of_pos (by simp [he])]
  have hin {e : Opened} {s : List Opened} {names : List String} (hname : e.among names = true)
      (hsub : ∀ n ∈ names, n ∈ partNames) (h : Begins tabularNames (e :: s)) :
      e.among tabularNames = true := by
    obtain ⟨f, hf, hf'⟩ := h
    rw [List.find?_cons_of_pos (isPart_of_among hname hsub)] at hf
    exact Option.some.inj hf ▸ hf'
  induction hs with
  | @root r h' =>
    have hpart := hin (among_singleton h') (by decide) h
    exact absurd ((not_among_of_named h' (by decide)).symm.trans hpart) Bool.false_ne_true
  | @outer e r h' hr =>
    exact absurd ((among_disjoint h' (by decide)).symm.trans (hin h' (by decide) h)) Bool.false_ne_true
  | @inner e s h' hs ih =>
    cases h' with
    | plain hplain hs =>
      obtain ⟨f, hf, hname⟩ := h
      rw [List.find?_cons_of_neg (by simp [hplain])] at hf
      exact hon (among_of_isPart hplain (by decide)) (ih ⟨f, hf, hname⟩)
    | template hname => exact hstay (among_of_named hname (by decide))
    | table hname hs => exact hstay (among_of_named hname (by decide))
    | group hname hs =>
      exact hon (among_disjoint hname (by decide)) (ih ((Begins.of_tops hs (by decide)).mono (by decide)))
    | row hname hs =>
      exact hon (not_among_of_named hname (by decide))
        (ih ((Begins.of_tops hs (by decide)).mono (by decide)))
    | cell hname hs =>
      exact absurd ((among_disjoint hname (by decide)).symm.trans (hin hname (by decide) h))
        Bool.false_ne_true

end PageGrader.Tree
