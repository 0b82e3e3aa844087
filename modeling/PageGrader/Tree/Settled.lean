import PageGrader.Forest
import PageGrader.Tree.Reading

namespace PageGrader.Tree.Nodes

/-- How many holders stand between a node and the parent it looks up to; `path` lists the holders
around it, innermost first. -/
def liftOf (parent : Option Nat) (path : List Nat) : Nat :=
  match parent with
  | some p => if path.contains p then path.idxOf p else 0
  | none => 0

/-- The forest of the given nodes; no node is reached twice, so their number bounds the depth. A walk
leaves a list for the parent that its last node looks up to, so it may pass over what follows the
holders in between; the number says how many of the holders it leaves that way. -/
def forestOf (ns : Nodes) : Nat → List Nat → List Nat → Forest × Nat
  | 0, _, _ => (.nil, 0)
  | _, _, [] => (.nil, 0)
  | n + 1, path, id :: rest =>
    match ns[id]? with
    | none => forestOf ns n path rest
    | some node =>
      let (inside, left) := forestOf ns n (id :: path) node.children
      let lift := liftOf node.parent path
      let (after, leaves) := forestOf ns n path rest
      let (after, leaves) :=
        if 0 < left then (if rest.isEmpty then after else .unreached after, left - 1)
        else (after, if rest.isEmpty then lift else leaves)
      let forest := match node.kind with
        | .document | .doctype => after
        | .fragment => .fragment inside after
        | .comment s => .comment s after
        | .text s => .text s after
        | .element space name attributes =>
          .element ⟨id, space, name, attributes, lift⟩ inside after
      (forest, leaves)

def attached (ns : Nodes) : Forest :=
  (ns.forestOf (ns.size + 1) [] (ns.children 0)).1

def strays (ns : Nodes) : Forest :=
  let loose := (List.range ns.size).filter fun id =>
    id != 0 && (ns[id]?).any (·.holder.isNone)
  (ns.forestOf (2 * ns.size + 1) [] loose).1

end PageGrader.Tree.Nodes
