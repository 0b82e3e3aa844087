import PageGrader.CommandLine
import PageGrader.Moment
import Std.Time.DateTime.Timestamp

open PageGrader

namespace PageGrader.CommandLine

def bytesOf (path : String) : IO (Except Unreadable ByteArray) := do
  try
    if path == "-" then
      let stdin ← IO.getStdin
      let mut all := ByteArray.empty
      repeat
        let more ← stdin.read 65536
        if more.isEmpty then break
        all := all ++ more
      return .ok all
    else
      return .ok (← IO.FS.readBinFile path)
  catch
    | .noFileOrDirectory .. => return .error .missing
    | e =>
      if path != "-" && (e.toString.splitOn "directory").length > 1 then return .error .directory
      else return .error (.other e.toString)

def now : IO Stamp := do
  let t ← Std.Time.Timestamp.now
  let moment : Moment := ⟨t.val.second.val, t.val.nano.val.toNat⟩
  return ⟨moment.inData, moment.inText⟩

end PageGrader.CommandLine

open CommandLine in
def main (args : List String) : IO UInt32 := do
  match parse args with
  | none =>
    IO.eprintln "error: the arguments were not accepted"
    return 2
  | some command =>
    let bytes ← match command with
      | .check c => bytesOf c.path
      | _ => pure (.error .missing)
    let noNetwork : Image.Probe := fun _ => .failure (.request "there is no network")
    let reply := command.reply Image.resolver (fun _ => bytes) noNetwork (← now)
    IO.print reply.output
    for message in reply.fatal do
      IO.eprintln message
    return reply.exit.toUInt32
