import PageGrader.Transcript

namespace PageGrader.Table

open Display (left right signed truncate)

/-- The lines for one finding; a suggestion is only given for a failure. -/
def row (page : List Char) (f : Finding) : List String :=
  let line := match f.line? page with
    | some n => toString n
    | none => "-"
  (left 14 f.label ++ " " ++ left 24 f.id ++ " " ++ right 5 (signed f.points) ++ " " ++
      right 6 line ++ "  " ++ truncate 60 f.outcome.message) ::
    match f.passed, f.outcome.suggestion with
    | false, some suggestion => [left 52 "" ++ "💡 " ++ suggestion]
    | _, _ => []

def lines (run : Run) (page : List Char) : List String :=
  [left 14 "STATUS" ++ " " ++ left 24 "RULE" ++ " " ++ right 5 "PTS" ++ " " ++ right 6 "LINE" ++
      "  MESSAGE",
    Display.rule '=' 110] ++
  (Display.order run.findings).flatMap (row page) ++
  ["", "📊 Summary:",
    s!"   Score: {run.score.total} points ({Decimal.onePlace run.score.shown}%)",
    s!"   ✅ Passed: {run.score.passed}", s!"   ❌ Failed: {run.score.failed}",
    s!"   📋 Verdict: {run.verdict.label}"]

def text (run : Run) (page : List Char) : String := Transcript.joined (lines run page)

def ruleRow (c : Criterion) : String :=
  left 24 c.id ++ " " ++ left 8 c.severity.text ++ " " ++ right 5 (signed c.reward) ++ " " ++
    right 5 (toString c.penalty) ++ "  " ++ c.title

def rules (registry : Registry) : String :=
  Transcript.joined
    ([left 24 "RULE" ++ " " ++ left 8 "TYPE" ++ " " ++ right 5 "PASS" ++ " " ++ right 5 "FAIL" ++
        "  DESCRIPTION",
      Display.rule '=' 80] ++ registry.rules.map fun r => ruleRow r.criterion)

end PageGrader.Table
