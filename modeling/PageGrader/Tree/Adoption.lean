import PageGrader.Tree.Builder

namespace PageGrader.Tree

open Markup (Tag)

/-- The parts of the stack around a formatting element: what is open inside the block, the block,
what is open between the two, and what is open outside the formatting element. -/
structure Overlap where
  inner : List Opened
  block : Opened
  between : List Opened
  outer : List Opened

/-- Splits what is open inside a formatting element at its outermost special element. -/
def Overlap.find (outer : List Opened) : List Opened → Option Overlap
  | [] => none
  | e :: r =>
    match Overlap.find outer r with
    | some o => some { o with inner := e :: o.inner }
    | none => if e.isSpecial then some ⟨[], e, r, outer⟩ else none

/-- What the walk from the block out to the formatting element carries along. -/
structure Carried where
  builder : Builder
  /-- The node that goes into the next copy. -/
  last : Nat
  /-- The entry after which the new formatting element is listed, once a copy was made. -/
  bookmark : Option Nat := none
  /-- The copies made so far, innermost first. -/
  copies : List Opened := []
  count : Nat := 0

namespace Carried

/-- Takes one element between: the first three that are listed are copied, all others closed. -/
def step (block : Nat) (c : Carried) (e : Opened) : Carried :=
  let c := { c with count := c.count + 1 }
  let b := c.builder
  if 3 < c.count then { c with builder := b.unlist e.id }
  else match b.formatting.find? (·.hasId e.id) with
    | some (.element _ tag) =>
      let (copy, b) := b.make .html tag.name tag.attributes
      let formatting := Builder.replaceListed e.id (.element copy.id tag) b.formatting
      let nodes := (b.nodes.detach c.last).append copy.id c.last
      { c with
        builder := { b with formatting, nodes }
        bookmark := if c.last == block then some copy.id else c.bookmark
        last := copy.id
        copies := c.copies ++ [copy] }
    | _ => c

end Carried

namespace Builder

/-- Any other end tag: closes the innermost element of that name, unless a special one is in
between. -/
def closeGeneric (b : Builder) (name : String) : Builder :=
  if inScope (·.isSpecial) (·.named name) b.stack then (b.closeImpliedExcept name).popNamed name
  else b

/-- Lists a new entry right after (later than) the entry with number `id`. -/
def listAfter (id : Nat) (entry : Listed) : List Listed → List Listed
  | [] => []
  | e :: r => if e.hasId id then entry :: e :: r else e :: listAfter id entry r

def adopt (b : Builder) (id : Nat) (tag : Tag) (o : Overlap) : Builder :=
  let c := o.between.foldl (Carried.step o.block.id) ⟨b, o.block.id, none, [], 0⟩
  let b := { c.builder with nodes := c.builder.nodes.detach c.last }
  let b := match o.outer.head? with
    | some target => b.putAt (b.slotIn target) c.last
    | none => b
  let (copy, b) := b.make .html tag.name tag.attributes
  let nodes := (b.nodes.handOver o.block.id copy.id).append o.block.id copy.id
  let entry := Listed.element copy.id tag
  let formatting := match c.bookmark with
    | none => replaceListed id entry b.formatting
    | some previous => (listAfter previous entry b.formatting).eraseP (·.hasId id)
  { b with nodes, formatting, stack := o.inner ++ copy :: o.block :: c.copies ++ o.outer }

def latestListed (b : Builder) (name : String) : Option (Nat × Tag) :=
  b.recent.findSome? fun
    | .element id tag => if tag.name == name then some (id, tag) else none
    | .marker => none

def adoptRounds (name : String) : Nat → Builder → Builder
  | 0, b => b
  | n + 1, b =>
    match b.latestListed name with
    | none => b.closeGeneric name
    | some (id, tag) =>
      if !b.stack.any (·.id == id) then b.unlist id
      else if !inScope (·.endsScope) (·.id == id) b.stack then b
      else
        let outer := outside (·.id == id) b.stack
        match Overlap.find outer (b.stack.takeWhile (·.id != id)) with
        | none => { b with stack := outer }.unlist id
        | some o => adoptRounds name n (b.adopt id tag o)

def closeFormatting (b : Builder) (name : String) : Builder :=
  if b.currentIs fun e => e.named name && !b.isListed e.id then b.pop
  else adoptRounds name 8 b

def closeOuterLink (b : Builder) : Builder :=
  let open? := b.recent.findSome? fun
    | .element id tag => if tag.name == "a" then some id else none
    | .marker => none
  match open? with
  | some id => ((b.closeFormatting "a").unlist id).dropOpen id
  | none => b

end Builder

end PageGrader.Tree
