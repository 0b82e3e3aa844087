import PageGrader.Input
import PageGrader.Report
import PageGrader.Table

namespace PageGrader.CommandLine

inductive Format where
  | table
  | json
  | transcript
  deriving DecidableEq, Repr

structure Check where
  path : String
  format : Format
  settings : Settings
  verbose : Bool
  deriving DecidableEq, Repr

inductive Command where
  /-- Nothing was asked for. -/
  | nothing
  | help
  | rules
  | check (c : Check)
  deriving DecidableEq, Repr

/-- The arguments of `check` read so far. Nothing can be given twice. -/
structure Given where
  paths : List String := []
  flags : List String := []
  values : List (String × String) := []

def flagNames : List String := ["json", "transcript", "no-network", "verbose"]

def optionNames : List String := ["base-url", "timeout-secs", "concurrency"]

def Given.addFlag (g : Given) (name : String) : Option Given :=
  if flagNames.contains name && !g.flags.contains name then
    some { g with flags := g.flags ++ [name] }
  else none

def Given.addValue (g : Given) (name value : String) : Option Given :=
  if optionNames.contains name && (g.values.lookup name).isNone then
    some { g with values := g.values ++ [(name, value)] }
  else none

def Given.addPath (g : Given) (path : String) : Given := { g with paths := g.paths ++ [path] }

def isDashed (arg : List Char) : Bool := arg.head? == some '-' && 1 < arg.length

def addLetters (g : Given) : List Char → Option Given
  | [] => some g
  | 'v' :: rest => (g.addFlag "verbose").bind (addLetters · rest)
  | _ => none

/-- Reads arguments; after two hyphens alone all of them are paths. -/
def read (g : Given) : List String → Option Given
  | [] => some g
  | arg :: rest =>
    match arg.toList with
    | ['-', '-'] => some (rest.foldl Given.addPath g)
    | '-' :: '-' :: long =>
      let name := String.ofList (long.takeWhile (· != '='))
      match long.dropWhile (· != '=') with
      | _ :: value => (g.addValue name (String.ofList value)).bind (read · rest)
      | [] =>
        if optionNames.contains name then
          match rest with
          | value :: rest =>
            if isDashed value.toList then none
            else (g.addValue name value).bind (read · rest)
          | [] => none
        else (g.addFlag name).bind (read · rest)
    | '-' :: c :: letters => (addLetters g (c :: letters)).bind (read · rest)
    | _ => read (g.addPath arg) rest

/-- A natural number of at most sixty-four bits, perhaps with a plus sign. -/
def number? (s : String) : Option Nat :=
  let digits := match s.toList with
    | '+' :: r => r
    | r => r
  if digits.isEmpty || !digits.all Char.isDigit then none
  else (Text.number? 10 digits).filter (· < 0x10000000000000000)

def Given.number? (g : Given) (name : String) (usual : Nat) : Option Nat :=
  match g.values.lookup name with
  | some value => CommandLine.number? value
  | none => some usual

/-- What all arguments together ask for: one path, and one format at most. -/
def Given.check? (g : Given) : Option Check :=
  match g.paths with
  | [path] => do
    let usual : Settings := {}
    let patience ← g.number? "timeout-secs" usual.patience
    let concurrency ← g.number? "concurrency" usual.concurrency
    let json := g.flags.contains "json"
    let transcript := g.flags.contains "transcript"
    if path.isEmpty || (json && transcript) then none
    else return {
      path
      format := if json then .json else if transcript then .transcript else .table
      settings := { usual with
        patience
        concurrency
        measures := !g.flags.contains "no-network"
        base := g.values.lookup "base-url" }
      verbose := g.flags.contains "verbose" }
  | _ => none

def helpArgs : List String := ["-h", "--help"]

def parse (args : List String) : Option Command :=
  match args with
  | [] => some .nothing
  | ["help"] | ["help", "check"] | ["help", "rules"] | ["help", "help"] => some .help
  | "check" :: rest =>
    if (rest.takeWhile (· != "--")).any helpArgs.contains then some .help
    else ((read {} rest).bind Given.check?).map .check
  | "rules" :: rest =>
    if rest.isEmpty || rest == ["--"] then some .rules
    else if rest.head?.any helpArgs.contains then some .help
    else none
  | first :: _ =>
    if helpArgs.contains first || ["-V", "--version"].contains first then some .help else none

structure Reply where
  exit : Nat
  output : String := ""
  /-- The error that ended it. -/
  fatal : Option String := none
  deriving DecidableEq, Repr

def exitOf : Verdict → Nat
  | .passed => 0
  | .improvable | .failed => 1

def fatal (message : String) : Reply := { exit := 2, fatal := some ("Error: " ++ message) }

structure Stamp where
  inData : String
  inText : String

def write (format : Format) (stamp : Stamp) (run : Run) (page : List Char) : String :=
  match format with
  | .table => Table.text run page
  | .json => (Report.ofRun run page stamp.inData).toJson.pretty 0 ++ "\n"
  | .transcript => Transcript.text run stamp.inText

variable (resolve : Image.Resolver)

def grade (reader : Input.Reader) (probe : Image.Probe) (stamp : Stamp) (c : Check) : Reply :=
  match Input.read reader c.path with
  | .error e => fatal ("could not read " ++ c.path ++ ": " ++ e.message ++ ": " ++ e.reason)
  | .ok text =>
    let page := text.toList
    match Run.ofPage resolve probe c.settings page with
    | .error refusal => fatal refusal.message
    | .ok run => { exit := exitOf run.verdict, output := write c.format stamp run page }

def Command.reply (reader : Input.Reader) (probe : Image.Probe) (stamp : Stamp) : Command → Reply
  | .nothing => { exit := 2 }
  | .help => { exit := 0 }
  | .rules => { exit := 0, output := Table.rules .standard }
  | .check c => grade resolve reader probe stamp c

end PageGrader.CommandLine
