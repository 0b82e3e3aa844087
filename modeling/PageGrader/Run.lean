import PageGrader.Execution
import PageGrader.Image.Measurement
import PageGrader.RedFlag
import PageGrader.Registry
import PageGrader.Score
import PageGrader.Settings

namespace PageGrader

structure Run where
  findings : List Finding
  score : Score
  verdict : Verdict
  deriving DecidableEq, Repr

def Run.ofFindings (findings : List Finding) : Run :=
  let score := Score.ofFindings findings
  ⟨findings, score, score.verdict⟩

def Run.kept? (a : Arithmetic) (findings : List Finding) : Option Run :=
  (Score.kept? a findings).map fun score => ⟨findings, score, score.verdict⟩

structure Prepared where
  findings : List Finding
  pending : List Pending
  deriving DecidableEq, Repr

namespace Prepared

/-- Looks for red flags and runs the rules. The findings of red flags come first. -/
def ofPage (registry : Registry) (page : List Char) : Except Refusal Prepared := do
  let flags := RedFlag.findings page
  let e := Execution.run registry.rules (← Document.read page) page
  return {
    findings := flags ++ e.findings
    pending := e.pending.map fun p => { p with slot := p.slot + flags.length } }

def isPending (p : Prepared) : Bool := !p.pending.isEmpty

def provisional (p : Prepared) : Run := .ofFindings p.findings

variable (resolve : Image.Resolver)

/-- Measures the images that one finding waits for and puts the outcome in its slot. `resolve` completes
relative sources, and `answers` says how servers answer while the finding in a slot is measured. -/
def measure (answers : Nat → Image.Probe) (s : Settings) (findings : List Finding) (p : Pending) :
    List Finding :=
  let outcome := Image.check (resolve s.base) (answers p.slot) s.limit p.sources
  findings.modify p.slot fun f => { f with outcome }

/-- The findings after everything has been measured, one after the other. -/
def measured (answers : Nat → Image.Probe) (s : Settings) (p : Prepared) : List Finding :=
  p.pending.foldl (measure resolve answers s) p.findings

def finishing (answers : Nat → Image.Probe) (s : Settings) (p : Prepared) : Run :=
  .ofFindings (p.measured resolve answers s)

def finish (probe : Image.Probe) (s : Settings) (p : Prepared) : Run :=
  p.finishing resolve (fun _ => probe) s

def requests (s : Settings) (p : Prepared) : List Image.Request :=
  p.pending.flatMap fun pending =>
    Image.requests (Image.plans (resolve s.base) pending.sources)

end Prepared

namespace Run

/-- Runs the standard rules and measures images, if the settings ask for it. -/
def ofPage (resolve : Image.Resolver) (probe : Image.Probe) (s : Settings) (page : List Char) :
    Except Refusal Run :=
  (Prepared.ofPage .standard page).map fun p =>
    if s.measures && p.isPending then p.finish resolve probe s else p.provisional

def offline (page : List Char) : Except Refusal Run :=
  (Prepared.ofPage .standard page).map Prepared.provisional

end Run

end PageGrader
