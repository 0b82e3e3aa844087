import PageGrader.Tree.Nodes

namespace PageGrader

/-- An element. `serial` grows in the order elements were made; `lift` says how many of the holders
around the element are passed over to reach the one it counts as its parent. -/
structure Element where
  serial : Nat
  space : Tree.Space := .html
  name : String
  attributes : List Markup.Attribute := []
  lift : Nat := 0
  deriving DecidableEq, Repr

def Element.attribute? (e : Element) (name : String) : Option String :=
  (e.attributes.find? fun a => a.space == .none && a.name == name).map (·.value)

def Element.hasAttribute (e : Element) (name : String) : Bool :=
  (e.attribute? name).isSome

inductive Forest where
  | nil
  | text (s : String) (rest : Forest)
  | comment (s : String) (rest : Forest)
  /-- What stands inside a template. -/
  | fragment (inside rest : Forest)
  | element (e : Element) (inside rest : Forest)
  /-- The nodes that follow are there, but a walk through the tree does not come to them. -/
  | unreached (rest : Forest)
  deriving Repr

/-- An element among its siblings: its content and the elements before it, nearest first. -/
structure Spot where
  element : Element
  inside : Forest
  earlier : List (Element × Forest)

inductive Holder where
  | fragment
  | element (spot : Spot)

/-- An element in its place; the holders around it are listed innermost first. -/
structure Site extends Spot where
  above : List Holder

namespace Forest

def tops : Forest → List Element
  | nil => []
  | text _ rest | comment _ rest | fragment _ rest | unreached rest => tops rest
  | element e _ rest => e :: tops rest

def topSites (above : List Holder) (earlier : List (Element × Forest)) : Forest → List Site
  | nil => []
  | text _ rest | comment _ rest | fragment _ rest | unreached rest => topSites above earlier rest
  | element e inside rest =>
    ⟨⟨e, inside, earlier⟩, above⟩ :: topSites above ((e, inside) :: earlier) rest

def elements : Forest → List Element
  | nil | unreached _ => []
  | text _ rest | comment _ rest => elements rest
  | fragment inside rest => elements inside ++ elements rest
  | element e inside rest => e :: (elements inside ++ elements rest)

def walk (above : List Holder) (earlier : List (Element × Forest)) : Forest → List Site
  | nil | unreached _ => []
  | text _ rest | comment _ rest => walk above earlier rest
  | fragment inside rest => walk (.fragment :: above) [] inside ++ walk above earlier rest
  | element e inside rest =>
    ⟨⟨e, inside, earlier⟩, above⟩ ::
      (walk (.element ⟨e, inside, earlier⟩ :: above) [] inside ++
        walk above ((e, inside) :: earlier) rest)

def sites (above : List Holder) (earlier : List (Element × Forest)) : Forest → List Site
  | nil => []
  | text _ rest | comment _ rest | unreached rest => sites above earlier rest
  | fragment inside rest => sites (.fragment :: above) [] inside ++ sites above earlier rest
  | element e inside rest =>
    ⟨⟨e, inside, earlier⟩, above⟩ ::
      (sites (.element ⟨e, inside, earlier⟩ :: above) [] inside ++
        sites above ((e, inside) :: earlier) rest)

def texts : Forest → List String
  | nil | unreached _ => []
  | text s rest => s :: texts rest
  | comment _ rest => texts rest
  | fragment inside rest | element _ inside rest => texts inside ++ texts rest

theorem walk_map_element (f : Forest) (above : List Holder) (earlier : List (Element × Forest)) :
    (f.walk above earlier).map (·.element) = f.elements := by
  induction f generalizing above earlier with
  | nil | unreached _ _ => rfl
  | text _ _ ih | comment _ _ ih => exact ih above earlier
  | fragment _ _ ihi ihr => simp [walk, elements, ihi, ihr]
  | element _ _ _ ihi ihr => simp [walk, elements, ihi, ihr]

end Forest

namespace Site

def name (s : Site) : String := s.element.name

def attribute? (s : Site) (name : String) : Option String := s.element.attribute? name

def hasAttribute (s : Site) (name : String) : Bool := s.element.hasAttribute name

/-- The element the site counts as its parent; the content of a template has none. -/
def parent? (s : Site) : Option Site :=
  match s.above.drop s.element.lift with
  | .element spot :: above => some ⟨spot, above⟩
  | _ => none

/-- The parent, its parent and so on, as far as elements follow each other; `lift` holders are
passed over first. -/
def parentsFrom : Nat → List Holder → List Site
  | _, [] => []
  | lift + 1, _ :: above => parentsFrom lift above
  | 0, .fragment :: _ => []
  | 0, .element spot :: above => ⟨spot, above⟩ :: parentsFrom spot.element.lift above

def parents (s : Site) : List Site := parentsFrom s.element.lift s.above

def ancestorsFrom : Nat → List Holder → List Site
  | _, [] => []
  | lift + 1, _ :: above => ancestorsFrom lift above
  | 0, .fragment :: above => ancestorsFrom 0 above
  | 0, .element spot :: above => ⟨spot, above⟩ :: ancestorsFrom spot.element.lift above

def ancestors (s : Site) : List Site := ancestorsFrom s.element.lift s.above

def hasAncestor (s : Site) (name : String) : Bool :=
  s.ancestors.any (·.name == name)

def children (s : Site) : List Element := s.inside.tops

def childSites (s : Site) : List Site :=
  s.inside.topSites (.element s.toSpot :: s.above) []

def descendants (s : Site) : List Site :=
  s.inside.walk (.element s.toSpot :: s.above) []

def earlierFrom (above : List Holder) : List (Element × Forest) → List Site
  | [] => []
  | (e, inside) :: rest => ⟨⟨e, inside, rest⟩, above⟩ :: earlierFrom above rest

def earlierSiblings (s : Site) : List Site := earlierFrom s.above s.earlier

def text (s : Site) : String := String.join s.inside.texts

end Site

end PageGrader
