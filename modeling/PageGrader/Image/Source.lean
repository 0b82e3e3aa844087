import PageGrader.Rule

namespace PageGrader.Image

/-- An image and what its source attribute says, without white space around it. -/
structure Source where
  node : Handle
  address : String
  deriving DecidableEq, Repr

def sources (d : Document) : Except Breakdown (List Source) := do
  let images ← d.query "img[src]"
  return images.filterMap fun image =>
    (image.attribute? "src").map fun address => ⟨d.handle image.element, Text.trimmed address⟩

end PageGrader.Image
