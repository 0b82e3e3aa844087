import PageGrader.Decimal.Text
import PageGrader.Display
import PageGrader.Run

namespace PageGrader.Transcript

/-- The lines for one finding, whose number is one more than `index`. -/
def entry (f : Finding) (index : Nat) : List String :=
  let points := Display.signed f.points
  [s!"{index + 1}. [{f.label}] {f.criterion.title} ({points} pts)", "   " ++ f.outcome.message] ++
    (match f.outcome.suggestion with
      | some suggestion => ["   💡 Suggestion: " ++ suggestion]
      | none => []) ++
    [""]

def heading (run : Run) : List String :=
  ["HTML CODE REVIEW", Display.rule '=' 37, "", "SUMMARY:",
   s!"- Score: {run.score.total} points", s!"- Percentage: {Decimal.onePlace run.score.shown}%",
   s!"- Status: {run.verdict.label}", s!"- Passed rules: {run.score.passed}",
   s!"- Failed rules: {run.score.failed}", "", "DETAILED FINDINGS:", Display.rule '=' 18, ""]

def ending (date : String) : List String :=
  ["", "Generated by: html-grader", "Date: " ++ date]

/-- All lines, as long as no text in them has line breaks of its own. -/
def lines (run : Run) (date : String) : List String :=
  heading run ++ (run.findings.mapIdx fun index f => entry f index).flatten ++ ending date

def joined (lines : List String) : String := String.join (lines.map (· ++ "\n"))

def text (run : Run) (date : String) : String := joined (lines run date)

end PageGrader.Transcript
