import PageGrader.Markup.Token

namespace PageGrader.Tree

inductive Space where
  | html
  | svg
  | math
  deriving DecidableEq, Repr

inductive Kind where
  | document
  | doctype
  /-- The holder of what stands inside a template. -/
  | fragment
  | comment (s : String)
  | text (s : String)
  | element (space : Space) (name : String) (attributes : List Markup.Attribute)
  deriving DecidableEq, Repr

/-- A node knows the list it stands in (`holder`) and, separately, the node it looks up to (`parent`): the
two differ for the inner children of a list that was handed over as a whole. -/
structure Node where
  kind : Kind
  holder : Option Nat := none
  parent : Option Nat := none
  children : List Nat := []
  deriving DecidableEq, Repr

abbrev Nodes := Array Node

namespace Nodes

def empty : Nodes := #[⟨.document, none, none, []⟩]

def update (ns : Nodes) (id : Nat) (f : Node → Node) : Nodes :=
  ns.modify id f

def make (ns : Nodes) (kind : Kind) : Nat × Nodes :=
  (ns.size, ns.push ⟨kind, none, none, []⟩)

def children (ns : Nodes) (id : Nat) : List Nat :=
  (ns[id]?.map (·.children)).getD []

def append (ns : Nodes) (holder id : Nat) : Nodes :=
  (ns.update holder fun n => { n with children := n.children ++ [id] }).update id fun n =>
    { n with holder := some holder, parent := some holder }

def detach (ns : Nodes) (id : Nat) : Nodes :=
  match (ns[id]?).bind (·.holder) with
  | none => ns
  | some holder =>
    (ns.update holder fun n => { n with children := n.children.filter (· != id) }).update id fun n =>
      { n with holder := none, parent := none }

def placedBefore (next id : Nat) : List Nat → List Nat
  | [] => [id]
  | c :: r => if c == next then id :: c :: r else c :: placedBefore next id r

/-- Puts a loose node right before `next`, under the parent `next` looks up to. -/
def insertBefore (ns : Nodes) (next id : Nat) : Nodes :=
  match ns[next]? with
  | some ⟨_, some holder, parent, _⟩ =>
    (ns.update holder fun n => { n with children := placedBefore next id n.children }).update id
      fun n => { n with holder := some holder, parent }
  | _ => ns

def addText? (ns : Nodes) (id : Option Nat) (s : String) : Option Nodes :=
  match id, id.bind (ns[·]?) with
  | some id, some ⟨.text t, _, _, _⟩ => some (ns.update id fun n => { n with kind := .text (t ++ s) })
  | _, _ => none

def appendText (ns : Nodes) (holder : Nat) (s : String) : Nodes :=
  match ns.addText? (ns.children holder).getLast? s with
  | some ns => ns
  | none =>
    let (id, ns) := ns.make (.text s)
    ns.append holder id

def insertTextBefore (ns : Nodes) (next : Nat) (s : String) : Nodes :=
  let siblings := (((ns[next]?).bind (·.holder)).map ns.children).getD []
  match ns.addText? (siblings.takeWhile (· != next)).getLast? s with
  | some ns => ns
  | none =>
    let (id, ns) := ns.make (.text s)
    ns.insertBefore next id

/-- Hands all children over to a node without any. The first and the last look up to their new
holder; those between keep looking up to the old one. -/
def handOver (ns : Nodes) (giver taker : Nat) : Nodes :=
  let moved := ns.children giver
  let outer := moved.head?.toList ++ moved.getLast?.toList
  let ns := (ns.update giver fun n => { n with children := [] }).update taker fun n =>
    { n with children := n.children ++ moved }
  moved.foldl (fun ns id => ns.update id fun n =>
    { n with holder := some taker, parent := if outer.contains id then some taker else n.parent }) ns

def addAttributes (ns : Nodes) (id : Nat) (more : List Markup.Attribute) : Nodes :=
  ns.update id fun n => match n.kind with
    | .element space name attributes =>
      let fresh := more.filter fun a =>
        !attributes.any fun b => b.name == a.name && b.space == a.space
      { n with kind := .element space name (attributes ++ fresh) }
    | _ => n

end Nodes

end PageGrader.Tree
