import PageGrader.Image.Measurement
import PageGrader.Settings

namespace PageGrader

def Settings.room (s : Settings) : Nat := max s.concurrency 1

namespace Image

structure Progress where
  waiting : List (Handle × Plan)
  active : List (Handle × Plan) := []
  /-- The requests made so far. -/
  asked : List Request := []
  /-- What is known so far, in the order it came to be known. -/
  known : List (Handle × Status) := []
  deriving DecidableEq, Repr

namespace Progress

def start (images : List (Handle × Plan)) : Progress := { waiting := images }

variable (room : Nat) (probe : Probe) (limit : Nat)

/-- The next image is taken up, or one that was taken up is done. -/
inductive Step : Progress → Progress → Prop where
  | take {image waiting active asked known} (h : active.length < room) :
    Step ⟨image :: waiting, active, asked, known⟩
      ⟨waiting, active ++ [image], asked ++ requests [image], known⟩
  | done {image waiting before after asked known} :
    Step ⟨waiting, before ++ image :: after, asked, known⟩
      ⟨waiting, before ++ after, asked, known ++ measured probe limit [image]⟩

inductive Reaches : Progress → Progress → Prop where
  | refl {p} : Reaches p p
  | step {p q r} (h : Reaches p q) (hstep : Step room probe limit q r) : Reaches p r

def IsOver (p : Progress) : Prop := p.waiting = [] ∧ p.active = []

end Progress

/-- The outcomes of some sources, one for each order in which their images can be done. -/
inductive Concludes (resolve : String → Option String) (s : Settings) (probe : Probe)
    (sources : List Source) : Outcome → Prop where
  | nothing (h : plans resolve sources = []) :
    Concludes resolve s probe sources (.pass "No images to check.")
  | all {p : Progress} (h : plans resolve sources ≠ [])
      (hreach : Progress.Reaches s.room probe s.limit (.start (plans resolve sources)) p)
      (hover : p.IsOver) :
    Concludes resolve s probe sources (summary s.limit p.known)

end Image

end PageGrader
