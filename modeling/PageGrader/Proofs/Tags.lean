import PageGrader.Proofs.Query

namespace PageGrader

def Document.anyTag (names : List String) : Selector := ⟨names.map fun name => ⟨[.tag name], []⟩⟩

open Document (anyTag)

namespace Selector

theorem nameFor_of_small (e : Element) {name : String} (h : Text.lowered name = name) :
    nameFor e name = name := by
  unfold nameFor
  split
  · exact h
  · rfl

theorem holds_tag (s : Site) (name : String) (h : Text.lowered name = name) :
    Test.holds (.tag name) s.element = (s.name == name) := by
  rw [Test.holds, nameFor_of_small s.element h, Site.name]

theorem holds_present (s : Site) (name : String) (h : Text.lowered name = name) :
    Test.holds (.present name) s.element = s.hasAttribute name := by
  rw [Test.holds, nameFor_of_small s.element h, Site.hasAttribute]

/-- A selector with several parts, each of which asks for all of its tests. -/
def anyOf (parts : List (List Test)) : Selector := ⟨parts.map fun tests => ⟨tests, []⟩⟩

theorem accepts_anyOf (parts : List (List Test)) :
    (anyOf parts).accepts = fun s => parts.any fun tests => tests.all (Test.holds · s.element) := by
  funext s
  simp [accepts, anyOf, List.any_map, Chain.accepts, fits, outwards, Function.comp_def]

end Selector

theorem Document.all_of_read (d : Document) {css : String} {sel : Selector}
    (h : Selector.read? css = some sel) : d.all css = d.select sel := by
  rw [all, query_eq, Selector.read, h]
  rfl

theorem Document.all_anyOf (d : Document) {css : String} (parts : List (List Test))
    (h : Selector.read? css = some (Selector.anyOf parts)) :
    d.all css = d.sites.filter fun s =>
      parts.any fun tests => tests.all (Selector.Test.holds · s.element) := by
  rw [d.all_of_read h, select, selecting, Selector.accepts_anyOf]

theorem Document.all_present (d : Document) {css name : String}
    (h : Selector.read? css = some (Selector.anyOf [[.present name]]))
    (hsmall : Text.lowered name = name) : d.all css = d.sites.filter (·.hasAttribute name) := by
  rw [d.all_anyOf _ h]
  apply List.filter_congr
  intro s _
  simp [Selector.holds_present s name hsmall]

theorem Document.filter_all_present (d : Document) {css name : String}
    (h : Selector.read? css = some (Selector.anyOf [[.present name]]))
    (hsmall : Text.lowered name = name) (p : Site → Bool) :
    (d.all css).filter p = d.sites.filter fun s => s.hasAttribute name && p s := by
  rw [d.all_present h hsmall, List.filter_filter]
  apply List.filter_congr
  intro s _
  exact Bool.and_comm _ _

def among (names : List String) (sites : List Site) : List Site :=
  sites.filter fun s => names.contains s.name

variable {names : List String} {css : String}

theorem mem_among {sites : List Site} {s : Site} :
    s ∈ among names sites ↔ s ∈ sites ∧ s.name ∈ names := by
  simp [among]

theorem accepts_anyTag (hsmall : ∀ name ∈ names, Text.lowered name = name) :
    (anyTag names).accepts = fun s => names.contains s.name := by
  have hparts : anyTag names = Selector.anyOf (names.map fun name => [.tag name]) := by
    simp [anyTag, Selector.anyOf]
  rw [hparts, Selector.accepts_anyOf]
  funext s
  rw [List.any_map, Bool.eq_iff_iff, List.any_eq_true, List.contains_iff_mem]
  have hholds : ∀ name ∈ names,
      [Test.tag name].all (Selector.Test.holds · s.element) = (s.name == name) := by
    intro name hmem
    rw [List.all_cons, List.all_nil, Bool.and_true, Selector.holds_tag s name (hsmall name hmem)]
  constructor
  · rintro ⟨name, hmem, hname⟩
    rw [Function.comp_apply, hholds name hmem, beq_iff_eq] at hname
    rwa [hname]
  · intro hmem
    exact ⟨s.name, hmem, (hholds _ hmem).trans (beq_self_eq_true _)⟩

theorem Document.all_anyTag (d : Document) (hcss : Selector.read? css = some (anyTag names))
    (hsmall : ∀ name ∈ names, Text.lowered name = name) : d.all css = among names d.sites := by
  rw [d.all_of_read hcss, select, selecting, accepts_anyTag hsmall, among]

theorem Document.filter_all_tag (d : Document) (name : String)
    (hcss : Selector.read? css = some (anyTag [name])) (hsmall : Text.lowered name = name)
    (p : Site → Bool) : (d.all css).filter p = d.sites.filter fun s => s.name == name && p s := by
  rw [d.all_anyTag hcss (List.forall_mem_singleton.mpr hsmall), among, List.filter_filter]
  apply List.filter_congr
  intro s _
  rw [List.contains_cons, List.contains_nil, Bool.or_false, Bool.and_comm]

theorem Site.below_anyTag (s : Site) (hcss : Selector.read? css = some (anyTag names))
    (hsmall : ∀ name ∈ names, Text.lowered name = name) : s.below css = among names s.descendants := by
  have hquery : s.query css = .ok (s.descendants.filter (anyTag names).accepts) := by
    rw [query, Selector.read, hcss]
    rfl
  rw [below, hquery]
  change s.descendants.filter (anyTag names).accepts = _
  rw [accepts_anyTag hsmall, among]

end PageGrader
