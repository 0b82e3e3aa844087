import PageGrader.Display
import PageGrader.Run

namespace PageGrader

structure Summary where
  total : Int
  percentage : Rat
  /-- The percentage as it is written. -/
  shown : Decimal.Binary64
  status : Verdict
  passed : Nat
  failed : Nat
  deriving DecidableEq, Repr

structure Entry where
  id : String
  title : String
  severity : Severity
  passed : Bool
  message : String
  suggestion : Option String
  points : Int
  line : Option Nat
  deriving DecidableEq, Repr

structure Report where
  timestamp : String
  summary : Summary
  entries : List Entry
  deriving DecidableEq, Repr

def Entry.ofFinding (page : List Char) (f : Finding) : Entry where
  id := f.criterion.id
  title := f.criterion.title
  severity := f.criterion.severity
  passed := f.passed
  message := f.outcome.message
  suggestion := f.outcome.suggestion
  points := f.points
  line := f.line? page

/-- The report on a run; lines are looked up in the text of the page. -/
def Report.ofRun (run : Run) (page : List Char) (timestamp : String) : Report where
  timestamp
  summary :=
    { total := run.score.total
      percentage := run.score.percentage
      shown := run.score.shown
      status := run.verdict
      passed := run.score.passed
      failed := run.score.failed }
  entries := run.findings.map (Entry.ofFinding page)

def Summary.toJson (s : Summary) : Json :=
  .obj [("totalScore", .int s.total), ("percentage", .real s.shown), ("status", .str s.status.key),
    ("passedRules", .int s.passed), ("failedRules", .int s.failed)]

def Entry.toJson (e : Entry) : Json :=
  .obj ([("ruleId", .str e.id), ("ruleName", .str e.title), ("ruleType", .str e.severity.text),
    ("passed", .bool e.passed), ("message", .str e.message),
    ("suggestion", match e.suggestion with
      | some suggestion => .str suggestion
      | none => .null),
    ("points", .int e.points)] ++
    match e.line with
    | some line => [("line", .int line)]
    | none => [])

def Report.toJson (r : Report) : Json :=
  .obj [("timestamp", .str r.timestamp), ("summary", r.summary.toJson),
    ("results", .arr (r.entries.map Entry.toJson))]

def Criterion.toJson (c : Criterion) : Json :=
  .obj [("id", .str c.id), ("description", .str c.title), ("severity", .str c.severity.text),
    ("points_on_pass", .int c.reward), ("points_on_fail", .int c.penalty)]

def Finding.toJson (f : Finding) : Json :=
  .obj ([("rule", f.criterion.toJson), ("passed", .bool f.passed),
    ("matches", .arr (f.outcome.evidence.map Handle.toJson)), ("message", .str f.outcome.message)] ++
    match f.outcome.suggestion with
    | some suggestion => [("suggestion", .str suggestion)]
    | none => [])

def Score.toJson (s : Score) : Json :=
  .obj [("totalScore", .int s.total), ("passedCount", .int s.passed), ("failedCount", .int s.failed),
    ("percentage", .real s.shown)]

def Run.toJson (run : Run) : Json :=
  .obj [("findings", .arr (run.findings.map Finding.toJson)), ("score", run.score.toJson),
    ("verdict", .str run.verdict.key)]

end PageGrader
