namespace PageGrader.Markup

/-- The vocabulary an attribute's name belongs to; plain attributes belong to none. -/
inductive AttributeSpace where
  | none
  | xlink
  | xml
  | xmlns
  deriving DecidableEq, Repr

structure Attribute where
  name : String
  value : String
  space : AttributeSpace := .none
  deriving DecidableEq, Repr

structure Tag where
  name : String
  attributes : List Attribute := []
  selfClosing : Bool := false
  deriving DecidableEq, Repr

def Tag.attribute? (t : Tag) (name : String) : Option String :=
  (t.attributes.find? fun a => a.space == .none && a.name == name).map (·.value)

/-- A document type declaration; `broken` records that it was cut short or garbled. -/
structure Doctype where
  name : Option String := none
  publicId : Option String := none
  systemId : Option String := none
  broken : Bool := false
  deriving DecidableEq, Repr

inductive Token where
  | doctype (d : Doctype)
  | start (t : Tag)
  | finish (name : String)
  | comment (s : String)
  /-- A run of characters. -/
  | text (s : List Char)
  | null
  /-- A mistake in the text that leaves no other trace. -/
  | lapse
  | eof
  deriving DecidableEq, Repr

inductive Content where
  | data
  | rcdata
  | rawtext
  | script
  | plaintext
  deriving DecidableEq, Repr

end PageGrader.Markup
