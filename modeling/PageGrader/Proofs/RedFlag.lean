import PageGrader.RedFlag
import PageGrader.Proofs.Taken

namespace PageGrader.RedFlag

open Text (isBlank isWord endsWord fold)
open Text.Shape

variable {shape : Text.Shape} {p : List Char → Prop} {page : List Char} {tag : String} {flag : RedFlag}

def Named (tag : String) (name : List Char) : Prop := name.map fold = tag.toList.map fold

def IsHeading (u : List Char) : Prop :=
  ∃ c d v, fold c = 'h' ∧ ('1' ≤ d ∧ d ≤ '6') ∧ '>' ∉ v ∧ u = '<' :: c :: d :: (v ++ ['>'])

/-- Text of an opening of the tag; the character after the name is none of a word. -/
def IsOpening (tag : String) (u : List Char) : Prop :=
  ∃ name v, Named tag name ∧ '>' ∉ v ∧ endsWord (v ++ ['>']) = true ∧ u = '<' :: (name ++ (v ++ ['>']))

def IsClosing (u : List Char) : Prop :=
  ∃ c v, c ≠ '>' ∧ '>' ∉ v ∧ u = '<' :: '/' :: c :: (v ++ ['>'])

/-- Text of a kind twice, with nothing but white space between. -/
def IsTwice (p : List Char → Prop) (u : List Char) : Prop :=
  ∃ first gap second, p first ∧ (∀ c ∈ gap, isBlank c = true) ∧ p second ∧ u = first ++ (gap ++ second)

theorem takes_heading : Takes heading IsHeading := by
  have hheading := (takes_marked ['h']).andThen
    ((takes_one fun c => '1' ≤ c && c ≤ '6').andThen takes_through.last)
  refine hheading.of_iff fun u => ⟨?_, ?_⟩
  · rintro ⟨_, _, ⟨name, hname, rfl⟩, ⟨_, _, ⟨d, hd, rfl⟩, ⟨v, hv, rfl⟩, rfl⟩, rfl⟩
    obtain ⟨c, rfl, hc⟩ := List.map_eq_singleton_iff.mp hname
    rw [Bool.and_eq_true, decide_eq_true_eq, decide_eq_true_eq] at hd
    exact ⟨c, d, v, hc, hd, hv, rfl⟩
  · rintro ⟨c, d, v, hc, hd, hv, rfl⟩
    have hname : [c].map fold = ['h'].map fold := congrArg (fun x => [x]) hc
    exact ⟨_, _, ⟨[c], hname, rfl⟩, ⟨[d], _, ⟨d, by simp [hd], rfl⟩, ⟨v, hv, rfl⟩, rfl⟩, rfl⟩

theorem takes_opening (tag : String) : Takes (opening tag) (IsOpening tag) := by
  have hopening := (takes_marked tag.toList).andThen
    (takes_through.last.afterWord (by rintro _ ⟨v, -, rfl⟩; simp))
  refine hopening.of_iff fun u => ⟨?_, ?_⟩
  · rintro ⟨_, _, ⟨name, hname, rfl⟩, ⟨⟨v, hv, rfl⟩, hword⟩, rfl⟩
    exact ⟨name, v, hname, hv, hword, rfl⟩
  · rintro ⟨name, v, hname, hv, hword, rfl⟩
    exact ⟨_, _, ⟨name, hname, rfl⟩, ⟨⟨v, hv, rfl⟩, hword⟩, rfl⟩

theorem takes_closingTag : Takes closingTag IsClosing := by
  have hclosing := (takes_sign '<').andThen <| (takes_sign '/').andThen <|
    (takes_one (· != '>')).andThen takes_through.last
  refine hclosing.of_iff fun u => ⟨?_, ?_⟩
  · rintro ⟨_, _, rfl, ⟨_, _, rfl, ⟨_, _, ⟨c, hc, rfl⟩, ⟨v, hv, rfl⟩, rfl⟩, rfl⟩, rfl⟩
    exact ⟨c, v, bne_iff_ne.mp hc, hv, rfl⟩
  · rintro ⟨c, v, hc, hv, rfl⟩
    exact ⟨_, _, rfl, ⟨_, _, rfl, ⟨_, _, ⟨c, bne_iff_ne.mpr hc, rfl⟩, ⟨v, hv, rfl⟩, rfl⟩, rfl⟩, rfl⟩

theorem takes_twice (h : Takes shape p) (hfront : ∀ u, p u → u.head? = some '<') :
    Takes (twice shape) (IsTwice p) := by
  have hmark : ∀ u, p u → ∃ c ∈ u.head?, isBlank c = false := fun u hu => ⟨'<', hfront u hu, by decide⟩
  refine (h.andThen (h.last.afterBlanks hmark)).of_iff fun u => ⟨?_, ?_⟩
  · rintro ⟨first, _, hfirst, ⟨gap, second, hgap, hsecond, rfl⟩, rfl⟩
    exact ⟨first, gap, second, hfirst, hgap, hsecond, rfl⟩
  · rintro ⟨first, gap, second, hfirst, hgap, hsecond, rfl⟩
    exact ⟨first, _, hfirst, ⟨gap, second, hgap, hsecond, rfl⟩, rfl⟩

theorem takes_headings : Takes (twice heading) (IsTwice IsHeading) :=
  takes_twice takes_heading (by rintro _ ⟨c, d, v, -, -, -, rfl⟩; rfl)

theorem takes_openings (tag : String) : Takes (twice (opening tag)) (IsTwice (IsOpening tag)) :=
  takes_twice (takes_opening tag) (by rintro _ ⟨name, v, -, -, -, rfl⟩; rfl)

theorem takes_closingTags : Takes (twice closingTag) (IsTwice IsClosing) :=
  takes_twice takes_closingTag (by rintro _ ⟨c, v, -, -, rfl⟩; rfl)

def Shows : RedFlag → List Char → Prop
  | headers, u => IsTwice IsHeading u
  | nesting, u => ∃ tag ∈ ["div", "p", "span"], IsTwice (IsOpening tag) u
  | closing, u => IsTwice IsClosing u

theorem isRaised_iff :
    flag.isRaised page = true ↔ ∃ before u after, flag.Shows u ∧ page = before ++ u ++ after := by
  cases flag with
  | headers => simpa [isRaised, shapes, Shows] using takes_headings.occurs_iff
  | closing => simpa [isRaised, shapes, Shows] using takes_closingTags.occurs_iff
  | nesting =>
    have hraised : nesting.isRaised page = true ↔
        ∃ tag ∈ ["div", "p", "span"], (twice (opening tag)).occurs page = true := by
      rw [isRaised, shapes, List.any_map, List.any_eq_true]
      rfl
    rw [hraised]
    constructor
    · rintro ⟨tag, htag, hoccurs⟩
      obtain ⟨before, u, after, hu, rfl⟩ := (takes_openings tag).occurs_iff.mp hoccurs
      exact ⟨before, u, after, ⟨tag, htag, hu⟩, rfl⟩
    · rintro ⟨before, u, after, ⟨tag, htag, hu⟩, rfl⟩
      exact ⟨tag, htag, (takes_openings tag).occurs_iff.mpr ⟨before, u, after, hu, rfl⟩⟩

/-- What is written on a page is written in any text around it. -/
theorem isRaised_around (before after : List Char) (h : flag.isRaised page = true) :
    flag.isRaised (before ++ page ++ after) = true := by
  obtain ⟨before', u, after', hu, rfl⟩ := isRaised_iff.mp h
  refine isRaised_iff.mpr ⟨before ++ before', u, after' ++ after, hu, ?_⟩
  simp only [List.append_assoc]

/-- A tag that is opened twice, and what stands between and after the two names. -/
structure Reopens (tag : String) (first inner gap second rest : List Char) : Prop where
  named : Named tag first
  /-- The name ends where it does: what follows is no character of a word. -/
  apart : ∃ c ∈ (inner ++ ['>']).head?, isWord c = false
  whole : '>' ∉ inner
  blank : ∀ c ∈ gap, isBlank c = true
  again : Named tag second
  apartAgain : ∃ c ∈ rest.head?, isWord c = false
  closed : '>' ∈ rest

/-- Somewhere the first `>` after an opening of the tag has only white space between it and the next
opening of the tag, and another `>` follows. -/
def Reopened (tag : String) (page : List Char) : Prop :=
  ∃ before first inner gap second rest,
    page = before ++ '<' :: (first ++ inner ++ '>' :: (gap ++ '<' :: (second ++ rest))) ∧
      Reopens tag first inner gap second rest

theorem endsWord_iff {u : List Char} (hu : u ≠ []) :
    endsWord u = true ↔ ∃ c ∈ u.head?, isWord c = false := by
  cases u with
  | nil => exact absurd rfl hu
  | cons c u => simp [endsWord]

theorem reopened_iff :
    Reopened tag page ↔ ∃ before u after, IsTwice (IsOpening tag) u ∧ page = before ++ u ++ after := by
  constructor
  · rintro ⟨before, first, inner, gap, second, rest, rfl, h⟩
    obtain ⟨inner', after, rfl, hinner'⟩ := List.eq_append_cons_of_mem h.closed
    have hword := (endsWord_iff (by simp)).mpr h.apart
    have hwordAgain : endsWord (inner' ++ ['>']) = true := by
      obtain ⟨c, hc, hno⟩ := h.apartAgain
      refine (endsWord_iff (by simp)).mpr ⟨c, ?_, hno⟩
      cases inner' <;> exact hc
    refine ⟨before, _, after, ⟨_, gap, _, ⟨first, inner, h.named, h.whole, hword, rfl⟩, h.blank,
      ⟨second, inner', h.again, hinner', hwordAgain, rfl⟩, rfl⟩, ?_⟩
    simp only [List.append_assoc, List.cons_append, List.nil_append]
  · rintro ⟨before, _, after, ⟨_, gap, _, ⟨first, inner, hfirst, hinner, hword, rfl⟩, hgap,
      ⟨second, inner', hsecond, -, hwordAgain, rfl⟩, rfl⟩, rfl⟩
    refine ⟨before, first, inner, gap, second, inner' ++ '>' :: after, ?_, hfirst,
      (endsWord_iff (by simp)).mp hword, hinner, hgap, hsecond, ?_, by simp⟩
    · simp only [List.append_assoc, List.cons_append, List.nil_append]
    · obtain ⟨c, hc, hno⟩ := (endsWord_iff (by simp)).mp hwordAgain
      refine ⟨c, ?_, hno⟩
      cases inner' <;> exact hc

theorem isRaised_nesting_iff :
    nesting.isRaised page = true ↔ ∃ tag ∈ ["div", "p", "span"], Reopened tag page := by
  rw [isRaised_iff]
  simp only [reopened_iff, Shows]
  constructor
  · rintro ⟨before, u, after, ⟨tag, htag, hu⟩, hpage⟩
    exact ⟨tag, htag, before, u, after, hu, hpage⟩
  · rintro ⟨tag, htag, before, u, after, hu, hpage⟩
    exact ⟨before, u, after, ⟨tag, htag, hu⟩, hpage⟩

theorem ids_findings (page : List Char) :
    (findings page).map (·.id) = (all.filter (isRaised page)).map id := by
  rw [findings, List.map_map]
  rfl

theorem ids_sublist (page : List Char) : ((findings page).map (·.id)).Sublist (all.map id) := by
  rw [ids_findings]
  exact List.filter_sublist.map id

theorem id_mem_findings : flag.id ∈ (findings page).map (·.id) ↔ flag.isRaised page = true := by
  have hall : flag ∈ all := by cases flag <;> decide
  have hid : ∀ other, other.id = flag.id → other = flag := by
    intro other
    cases other <;> cases flag <;> decide
  rw [ids_findings, List.mem_map]
  constructor
  · rintro ⟨other, hother, heq⟩
    obtain rfl := hid other heq
    exact (List.mem_filter.mp hother).2
  · intro h
    exact ⟨flag, List.mem_filter.mpr ⟨hall, h⟩, rfl⟩

/-- Text around a page hides none of its red flags. The flags that are raised are reported in their fixed
order, each once; and nesting is one of them just if a `div`, `p` or `span` is opened again at once. -/
theorem surroundings_hide_no_flag (page : List Char) :
    (∀ (before after : List Char) (flag : RedFlag), flag.isRaised page = true →
      flag.isRaised (before ++ page ++ after) = true) ∧
    ((findings page).map (·.id)).Sublist
      ["malformed-headers", "malformed-nesting", "malformed-closing"] ∧
    (∀ flag : RedFlag, flag.id ∈ (findings page).map (·.id) ↔ flag.isRaised page = true) ∧
    (nesting.isRaised page = true ↔ ∃ tag ∈ ["div", "p", "span"], Reopened tag page) :=
  ⟨fun before after _ => isRaised_around before after, ids_sublist page, fun _ => id_mem_findings,
    isRaised_nesting_iff⟩

/-- Two headings without an end between them, and the same inside a comment. -/
theorem comment_hides_no_heading :
    headers.isRaised "<h1>\n<H2 id=a>".toList = true ∧
      headers.isRaised ("<!-- ".toList ++ "<h1>\n<H2 id=a>".toList ++ " -->".toList) = true := by
  have hraised : headers.isRaised "<h1>\n<H2 id=a>".toList = true := by decide
  exact ⟨hraised, (surroundings_hide_no_flag _).1 _ _ _ hraised⟩

end PageGrader.RedFlag
