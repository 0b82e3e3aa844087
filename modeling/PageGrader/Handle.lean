import PageGrader.Forest

namespace PageGrader

structure Handle where
  index : Nat
  tag : String
  occurrence : Nat
  deriving DecidableEq, Repr

namespace Handle

/-- The index of a handle for an element that is not in the document. -/
def nowhere : Nat := 18446744073709551615

/-- Handles for elements with the given names, after elements with the names `seen`. -/
def number (seen : List String) : List String → List Handle
  | [] => []
  | name :: rest => ⟨seen.length, name, seen.count name⟩ :: number (name :: seen) rest

def table (elements : List Element) : List (Nat × Handle) :=
  (elements.map (·.serial)).zip (number [] (elements.map (·.name)))

/-- The handle the table gives an element; one that is not in it gets an index beyond all others. -/
def find (table : List (Nat × Handle)) (e : Element) : Handle :=
  (table.lookup e.serial).getD ⟨nowhere, e.name, 0⟩

theorem number_length (seen names : List String) : (number seen names).length = names.length := by
  induction names generalizing seen with
  | nil => rfl
  | cons name rest ih => simp [number, ih]

end Handle

end PageGrader
