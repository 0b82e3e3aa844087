import PageGrader.Handle
import PageGrader.Sorting
import PageGrader.Tree.Settled

namespace PageGrader

inductive Refusal where
  | blank
  | withoutMarkup
  deriving DecidableEq, Repr

def Refusal.message : Refusal → String
  | .blank => "the submitted document is empty"
  | .withoutMarkup => "the submitted document contains no HTML markup"

structure Document where
  content : Forest
  /-- Trees that were cut off while the page was read. -/
  strays : Forest := .nil

namespace Document

/-- Whether the text has something like the start of a tag or a declaration. -/
def hasMarkup : List Char → Bool
  | '<' :: c :: r => c.isAlpha || c == '!' || c == '/' || hasMarkup (c :: r)
  | _ :: r => hasMarkup r
  | [] => false

def ofPage (page : List Char) : Document :=
  let nodes := Tree.nodesOf page
  ⟨nodes.attached, nodes.strays⟩

/-- Reads a page; only a blank page and one without any markup are refused. -/
def read (page : List Char) : Except Refusal Document :=
  if page.all Text.isBlank then .error .blank
  else if !hasMarkup page then .error .withoutMarkup
  else .ok (ofPage page)

def elements (d : Document) : List Element := d.content.elements

def count (d : Document) : Nat := d.elements.length

/-- The sites of the elements in the document, in document order. -/
def attached (d : Document) : List Site := d.content.sites [] []

/-- All sites that stand in something, in the order their elements were made. -/
def sites (d : Document) : List Site :=
  let stray := (d.strays.sites [] []).filter (!·.above.isEmpty)
  sortOn (·.element.serial) (d.attached ++ stray)

def table (d : Document) : List (Nat × Handle) := Handle.table d.elements

def handle (d : Document) (e : Element) : Handle := Handle.find d.table e

def handles (d : Document) (sites : List Site) : List Handle :=
  let table := d.table
  sites.map fun s => Handle.find table s.element

def root? (d : Document) : Option Site :=
  d.attached.find? (·.above.isEmpty)

def body? (d : Document) : Option Site :=
  d.root?.bind fun root => root.childSites.find? (·.name == "body")

end Document

end PageGrader
