import PageGrader.Handle
import PageGrader.Json

namespace PageGrader

/-- How images are measured. The marks and points are not a matter of settings. -/
structure Settings where
  /-- How many bytes an image may have. -/
  limit : Nat := 500 * 1024
  /-- Seconds until a server is given up. -/
  patience : Nat := 10
  /-- How many servers are asked at once. -/
  concurrency : Nat := 8
  measures : Bool := true
  /-- What relative sources are relative to. -/
  base : Option String := none
  deriving DecidableEq, Repr

namespace Settings

def names : List String :=
  ["max_image_bytes", "probe_timeout", "probe_concurrency", "check_image_sizes", "base_url"]

def toJson (s : Settings) : Json :=
  .obj [("max_image_bytes", .int s.limit), ("probe_timeout", .int s.patience),
    ("probe_concurrency", .int s.concurrency), ("check_image_sizes", .bool s.measures),
    ("base_url", match s.base with
      | some base => .str base
      | none => .null)]

def ofJson? (j : Json) : Option Settings :=
  match j.record? names with
  | some [limit, patience, concurrency, measures, base] => do
    return {
      limit := ← (← limit).word?
      patience := ← (← patience).word?
      concurrency := ← (← concurrency).word?
      measures := ← (← measures).bool?
      base := ← Json.optional? Json.str? base }
  | _ => none

end Settings

namespace Handle

def names : List String := ["index", "tag", "occurrence"]

def toJson (h : Handle) : Json :=
  .obj [("index", .int h.index), ("tag", .str h.tag), ("occurrence", .int h.occurrence)]

def ofJson? (j : Json) : Option Handle :=
  match j.record? names with
  | some [index, tag, occurrence] => do
    return ⟨← (← index).word?, ← (← tag).str?, ← (← occurrence).word?⟩
  | _ => none

end Handle

end PageGrader
