import PageGrader.Tree.Opened

namespace PageGrader.Tree

open Markup (Tag Content)

inductive Mode where
  | initial
  | beforeHtml
  | beforeHead
  | inHead
  | afterHead
  | inBody
  | rawText
  | inTable
  | inTableText
  | inCaption
  | inColumnGroup
  | inTableBody
  | inRow
  | inCell
  | inSelect
  | inSelectInTable
  | inTemplate
  | afterBody
  | inFrameset
  | afterFrameset
  | afterAfterBody
  | afterAfterFrameset
  deriving DecidableEq, Repr

inductive Listed where
  | marker
  | element (id : Nat) (tag : Tag)
  deriving DecidableEq, Repr

def Listed.hasId (id : Nat) : Listed → Bool
  | .marker => false
  | .element other _ => other == id

/-- What is to be done with a token once a mode has looked at it. -/
inductive Next where
  | done
  /-- The same token is read again, in the mode that is now set. -/
  | again
  /-- The text that follows is read in another way. -/
  | content (c : Content)
  deriving DecidableEq, Repr

structure Builder where
  nodes : Nodes := Nodes.empty
  /-- Open elements, innermost first. -/
  stack : List Opened := []
  /-- Formatting elements, latest first. -/
  formatting : List Listed := []
  mode : Mode := .initial
  /-- The mode to come back to after raw text or text of a table. -/
  resume : Mode := .initial
  templates : List Mode := []
  head : Option Opened := none
  form : Option Nat := none
  framesetOk : Bool := true
  /-- A line feed that comes right now is dropped. -/
  skipsNewline : Bool := false
  /-- Content that cannot stand in a table goes in front of it. -/
  fosters : Bool := false
  tableInParagraph : Bool := false
  /-- Text met in a table, latest first; the flag says that it is white space. -/
  tableText : List (String × Bool) := []

namespace Builder

def currentIs (b : Builder) (wanted : Opened → Bool) : Bool :=
  b.stack.head?.any wanted

def currentNamed (b : Builder) (name : String) : Bool :=
  b.currentIs (·.named name)

def hasOpen (b : Builder) (name : String) : Bool :=
  b.stack.any (·.named name)

def has (b : Builder) (ends : Opened → Bool) (name : String) : Bool :=
  inScope ends (·.named name) b.stack

def root (b : Builder) : Option Opened :=
  b.stack.getLast?

def body (b : Builder) : Option Opened :=
  b.stack.reverse[1]?.filter (·.named "body")

def pop (b : Builder) : Builder := { b with stack := b.stack.drop 1 }

/-- Closes elements up to and including the innermost one that is `wanted`. -/
def popThrough (b : Builder) (wanted : Opened → Bool) : Builder :=
  { b with stack := outside wanted b.stack }

def popNamed (b : Builder) (name : String) : Builder :=
  b.popThrough (·.named name)

def popUntil (b : Builder) (wanted : Opened → Bool) : Builder :=
  { b with stack := b.stack.dropWhile (!wanted ·) }

def closeImplied (b : Builder) (may : Opened → Bool) : Builder :=
  { b with stack := b.stack.dropWhile may }

def closeImpliedExcept (b : Builder) (name : String) : Builder :=
  b.closeImplied fun e => e.mayStayOpen && !e.named name

/-- Closes an element of that name with what may stay open inside it. -/
def closeNamed (b : Builder) (name : String) : Builder :=
  (b.closeImplied (·.mayStayOpen)).popNamed name

def closeParagraph (b : Builder) : Builder :=
  (b.closeImpliedExcept "p").popNamed "p"

def closeParagraphInScope (b : Builder) : Builder :=
  if b.has (·.endsButtonScope) "p" then b.closeParagraph else b

def dropOpen (b : Builder) (id : Nat) : Builder :=
  { b with stack := b.stack.eraseP (·.id == id) }

inductive Slot where
  | last (holder : Nat)
  /-- In front of a table, or inside the element around it when the table stands nowhere. -/
  | foster (table around : Nat)
  deriving DecidableEq, Repr

def contentOf (b : Builder) (template : Nat) : Nat :=
  (b.nodes.children template).head?.getD template

def fosterSlot (b : Builder) : List Opened → Slot
  | [] => .last (b.root.map (·.id) |>.getD 0)
  | e :: outer =>
    if e.named "template" then .last (b.contentOf e.id)
    else if e.named "table" then .foster e.id ((outer.head?.map (·.id)).getD 0)
    else fosterSlot b outer

def slotIn (b : Builder) (target : Opened) : Slot :=
  if b.fosters && target.among ["table", "tbody", "tfoot", "thead", "tr"] then b.fosterSlot b.stack
  else if target.named "template" then .last (b.contentOf target.id)
  else .last target.id

def slot (b : Builder) : Slot :=
  match b.stack.head? with
  | some e => b.slotIn e
  | none => .last 0

def hasParent (b : Builder) (id : Nat) : Bool :=
  ((b.nodes[id]?).bind (·.parent)).isSome

def putAt (b : Builder) (slot : Slot) (id : Nat) : Builder :=
  match slot with
  | .last holder => { b with nodes := b.nodes.append holder id }
  | .foster table around =>
    { b with nodes := if b.hasParent table then b.nodes.insertBefore table id
                      else b.nodes.append around id }

def addText (b : Builder) (s : String) : Builder :=
  match b.slot with
  | .last holder => { b with nodes := b.nodes.appendText holder s }
  | .foster table around =>
    { b with nodes := if b.hasParent table then b.nodes.insertTextBefore table s
                      else b.nodes.appendText around s }

/-- Makes a loose element; a template gets the holder of its content with it. -/
def make (b : Builder) (space : Space) (name : String) (attributes : List Markup.Attribute) :
    Opened × Builder :=
  let (id, nodes) := b.nodes.make (.element space name attributes)
  let e : Opened := ⟨id, space, name⟩
  if e.named "template" then
    let (inside, nodes) := nodes.make .fragment
    (e, { b with nodes := nodes.append id inside })
  else (e, { b with nodes })

/-- Makes an element and puts it where the current one says, without opening it. -/
def insertClosed (b : Builder) (space : Space) (tag : Tag) : Opened × Builder :=
  let (e, b) := b.make space tag.name tag.attributes
  (e, b.putAt b.slot e.id)

def insertIn (b : Builder) (space : Space) (tag : Tag) : Opened × Builder :=
  let (e, b) := b.insertClosed space tag
  (e, { b with stack := e :: b.stack })

def insert (b : Builder) (tag : Tag) : Builder :=
  (b.insertIn .html tag).2

def insertVoid (b : Builder) (tag : Tag) : Builder :=
  (b.insertClosed .html tag).2

def insertImplied (b : Builder) (name : String) : Builder :=
  b.insert { name }

def addComment (b : Builder) (s : String) : Builder :=
  let (id, nodes) := b.nodes.make (.comment s)
  let b := { b with nodes }
  b.putAt b.slot id

def addCommentTo (b : Builder) (holder : Nat) (s : String) : Builder :=
  let (id, nodes) := b.nodes.make (.comment s)
  { b with nodes := nodes.append holder id }

def makeRoot (b : Builder) (attributes : List Markup.Attribute) : Builder :=
  let (e, b) := b.make .html "html" attributes
  { b with nodes := b.nodes.append 0 e.id, stack := e :: b.stack }

/-- Opens an element whose content is text, read in its own way. -/
def openRaw (b : Builder) (tag : Tag) (content : Content) : Builder × Next :=
  let b := b.insert tag
  ({ b with resume := b.mode, mode := .rawText }, .content content)

def isMarkerOrOpen (b : Builder) : Listed → Bool
  | .marker => true
  | .element id _ => b.stack.any (·.id == id)

def isListed (b : Builder) (id : Nat) : Bool :=
  b.formatting.any (·.hasId id)

def unlist (b : Builder) (id : Nat) : Builder :=
  { b with formatting := b.formatting.eraseP (·.hasId id) }

def addMarker (b : Builder) : Builder := { b with formatting := .marker :: b.formatting }

def clearToMarker (b : Builder) : Builder :=
  { b with formatting := (b.formatting.dropWhile (· != .marker)).drop 1 }

def recent (b : Builder) : List Listed :=
  b.formatting.takeWhile (· != .marker)

def replaceListed (id : Nat) (entry : Listed) (entries : List Listed) : List Listed :=
  entries.map fun e => if e.hasId id then entry else e

/-- Opens again, oldest first, the formatting elements that were closed since the last one that is
still open. -/
def reconstruct (b : Builder) : Builder :=
  let closed := (b.formatting.takeWhile (!b.isMarkerOrOpen ·)).reverse
  closed.foldl (fun b entry => match entry with
    | .marker => b
    | .element id tag =>
      let (e, b) := b.insertIn .html tag
      { b with formatting := replaceListed id (.element e.id tag) b.formatting }) b

def sameTag (s t : Tag) : Bool :=
  s.name == t.name && s.attributes.length == t.attributes.length &&
    s.attributes.all t.attributes.contains

/-- Of four equal formatting elements in a row the earliest is forgotten. -/
def forgetFourth (b : Builder) (tag : Tag) : Builder :=
  let equal := b.recent.filter fun
    | .element _ other => sameTag tag other
    | .marker => false
  match equal.getLast? with
  | some (.element id _) => if 3 ≤ equal.length then b.unlist id else b
  | _ => b

def insertFormatting (b : Builder) (tag : Tag) : Builder :=
  let (e, b) := (b.forgetFourth tag).insertIn .html tag
  { b with formatting := .element e.id tag :: b.formatting }

/-- The mode that fits the innermost open element that settles it. -/
def modeFor (b : Builder) : List Opened → Mode
  | [] => .inBody
  | e :: outer =>
    if e.space != .html then modeFor b outer
    else if e.name == "select" then
      match outer.find? fun o => o.named "template" || o.named "table" with
      | some o => if o.named "table" then .inSelectInTable else .inSelect
      | none => .inSelect
    else if (e.name == "td" || e.name == "th") && !outer.isEmpty then .inCell
    else if e.name == "tr" then .inRow
    else if ["tbody", "thead", "tfoot"].contains e.name then .inTableBody
    else if e.name == "caption" then .inCaption
    else if e.name == "colgroup" then .inColumnGroup
    else if e.name == "table" then .inTable
    else if e.name == "template" then (b.templates.head?).getD .inBody
    else if e.name == "head" && !outer.isEmpty then .inHead
    else if e.name == "body" then .inBody
    else if e.name == "frameset" then .inFrameset
    else if e.name == "html" then (if b.head.isNone then .beforeHead else .afterHead)
    else modeFor b outer

def resetMode (b : Builder) : Builder :=
  { b with mode := b.modeFor b.stack }

def goto (b : Builder) (mode : Mode) : Builder × Next := ({ b with mode }, .done)

def againIn (b : Builder) (mode : Mode) : Builder × Next := ({ b with mode }, .again)

end Builder

end PageGrader.Tree
