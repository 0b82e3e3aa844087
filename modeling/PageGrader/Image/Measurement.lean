import PageGrader.Image.Plan

namespace PageGrader.Image

inductive Failure where
  | request (message : String)
  | status (code : Nat)
  deriving DecidableEq, Repr

def Failure.message : Failure → String
  | .request message => "request failed: " ++ message
  | .status code => s!"server answered HTTP {code}"

/-- What a server answers about an image, if it answers in time. -/
inductive Answer where
  | size (bytes : Nat)
  | unstated
  | failure (f : Failure)
  | late
  deriving DecidableEq, Repr

structure Request where
  node : Handle
  url : String
  deriving DecidableEq, Repr

abbrev Probe := Request → Answer

inductive Status where
  | within (bytes : Nat)
  | oversized (bytes : Nat)
  | unverifiable (why : Obstacle)
  deriving DecidableEq, Repr

def Answer.status (limit : Nat) : Answer → Status
  | .size bytes => if limit < bytes then .oversized bytes else .within bytes
  | .unstated => .unverifiable .unstated
  | .failure f => .unverifiable (.refused f.message)
  | .late => .unverifiable .late

def statusOf (probe : Probe) (limit : Nat) (node : Handle) : Plan → Status
  | .ask url => (probe ⟨node, url⟩).status limit
  | .give up => .unverifiable up

def requests (plans : List (Handle × Plan)) : List Request :=
  plans.filterMap fun
    | (node, .ask url) => some ⟨node, url⟩
    | (_, .give _) => none

def Status.isOversized : Status → Bool
  | .oversized _ => true
  | _ => false

def Status.isUnverifiable : Status → Bool
  | .unverifiable _ => true
  | _ => false

/-- The message for the numbers of images that are measured, too large, and not measured. -/
def message (measured oversized unverifiable limit : Nat) : String :=
  let size := limit / 1024
  (if measured == 0 then "The image sizes could not be verified."
    else if oversized == 0 then s!"All verified images ({measured}) are ≤ {size}KB."
    else s!"{oversized} images are larger than {size}KB.") ++
  if unverifiable == 0 then "" else s!" {unverifiable} images could not be verified."

/-- The outcome of what is known of all images, in whatever order it came to be known. -/
def summary (limit : Nat) (known : List (Handle × Status)) : Outcome :=
  let known := sortOn (·.1.index) known
  let oversized := (known.filter (·.2.isOversized)).map (·.1)
  let unverifiable := (known.filter (·.2.isUnverifiable)).length
  let text := message (known.length - unverifiable) oversized.length unverifiable limit
  if oversized.isEmpty then .pass text
  else
    let size := limit / 1024
    .fail text
      (s!"Optimize the images so they weigh less than {size}KB. Use compression tools or " ++
        "more efficient formats such as WebP.")
      oversized

def measured (probe : Probe) (limit : Nat) (plans : List (Handle × Plan)) :
    List (Handle × Status) :=
  plans.map fun (node, plan) => (node, statusOf probe limit node plan)

/-- The outcome of the images, when `resolve` completes relative sources. -/
def check (resolve : String → Option String) (probe : Probe) (limit : Nat) (sources : List Source) :
    Outcome :=
  match plans resolve sources with
  | [] => .pass "No images to check."
  | plans => summary limit (measured probe limit plans)

end PageGrader.Image
