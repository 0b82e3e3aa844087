import PageGrader.Markup.Lexer
import PageGrader.Tree.Mode.Foreign

namespace PageGrader.Tree

open Markup (Token Content Lexer)

namespace Builder

def readInMode (b : Builder) (token : Token) : Builder × Next :=
  match b.mode with
  | .initial => b.readInitial token
  | .beforeHtml => b.readBeforeHtml token
  | .beforeHead => b.readBeforeHead token
  | .inHead => b.readInHead token
  | .afterHead => b.readAfterHead token
  | .inBody => b.readInBody token
  | .rawText => b.readRawText token
  | .inTable => b.readInTable token
  | .inTableText => b.readInTableText token
  | .inCaption => b.readInCaption token
  | .inColumnGroup => b.readInColumnGroup token
  | .inTableBody => b.readInTableBody token
  | .inRow => b.readInRow token
  | .inCell => b.readInCell token
  | .inSelect => b.readInSelect token
  | .inSelectInTable => b.readInSelectInTable token
  | .inTemplate => b.readInTemplate token
  | .afterBody => b.readAfterBody token
  | .inFrameset => b.readInFrameset token
  | .afterFrameset => b.readAfterFrameset token
  | .afterAfterBody => b.readAfterAfterBody token
  | .afterAfterFrameset => b.readAfterAfterFrameset token

def read (b : Builder) (token : Token) : Builder × Next :=
  if b.readsForeign token then
    match b.readForeign token with
    | (b, some next) => (b, next)
    | (b, none) => b.readInMode token
  else b.readInMode token

def readThrough : Nat → Builder → Token → Builder × Option Content
  | 0, b, _ => (b, none)
  | n + 1, b, token =>
    match b.read token with
    | (b, .done) => (b, none)
    | (b, .content c) => (b, some c)
    | (b, .again) => readThrough n b token

/-- Every mode passes a token on only after it closed something or moved on for good, so the open
elements bound how often a token is read. -/
def accept (b : Builder) (token : Token) : Builder × Option Content :=
  readThrough (8 * b.stack.length + 32) b token

/-- The longest run at the start that is white space throughout or free of it, and the rest. -/
def firstRun : List Char → List Char × List Char
  | [] => ([], [])
  | c :: r =>
    let same (d : Char) : Bool := Text.isMarkupSpace d == Text.isMarkupSpace c
    (c :: r.takeWhile same, r.dropWhile same)

def acceptText : Nat → Builder → List Char → Builder
  | 0, b, _ => b
  | n + 1, b, s =>
    match firstRun s with
    | ([], _) => b
    | (run, rest) => acceptText n (b.accept (.text run)).1 rest

def acceptDoctype (b : Builder) (d : Markup.Doctype) : Builder :=
  if b.mode == .initial then
    let (id, nodes) := b.nodes.make .doctype
    { b with nodes := nodes.append 0 id, tableInParagraph := d.isOld, mode := .beforeHtml }
  else b

/-- Takes in one token; the answer says how the text after it is to be read. -/
def take (b : Builder) (token : Token) : Builder × Option Content :=
  let skips := b.skipsNewline
  let b := { b with skipsNewline := false }
  match token with
  | .lapse => (b, none)
  | .doctype d => (b.acceptDoctype d, none)
  | .text s =>
    let s := match skips, s with
      | true, '\n' :: r => r
      | _, s => s
    (acceptText s.length b s, none)
  | _ => b.accept token

end Builder

structure Reading where
  lexer : Lexer := {}
  builder : Builder := {}

namespace Reading

def take (r : Reading) (token : Token) : Reading :=
  match r.builder.take token with
  | (builder, none) => { r with builder }
  | (builder, some content) => ⟨{ r.lexer with content }, builder⟩

def step (r : Reading) (c : Char) : Reading :=
  let foreign := r.builder.currentIs (·.space != .html)
  let (lexer, tokens) := r.lexer.feed foreign c
  tokens.foldl take { r with lexer }

def finish (r : Reading) : Nodes :=
  (r.lexer.close.foldl take r).builder.nodes

end Reading

def nodesOf (page : List Char) : Nodes :=
  ((Markup.normalise page).foldl Reading.step {}).finish

end PageGrader.Tree
