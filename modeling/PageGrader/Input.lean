namespace PageGrader

inductive Unreadable where
  | missing
  | directory
  | badName
  | notText
  | other (reason : String)
  deriving DecidableEq, Repr

namespace Unreadable

def reason : Unreadable → String
  | missing => "No such file or directory (os error 2)"
  | directory => "Is a directory (os error 21)"
  | badName => "file name contained an unexpected NUL byte"
  | notText => "stream did not contain valid UTF-8"
  | other reason => reason

def message (e : Unreadable) : String := "could not read input: " ++ e.reason

end Unreadable

namespace Input

/-- How the bytes behind a path are got; the path `-` stands for standard input. -/
abbrev Reader := String → Except Unreadable ByteArray

def decode (bytes : ByteArray) : Except Unreadable String :=
  match String.fromUTF8? bytes with
  | some text => .ok text
  | none => .error .notText

def read (reader : Reader) (path : String) : Except Unreadable String :=
  if path.toList.contains '\x00' then .error .badName
  else reader path >>= decode

end Input

end PageGrader
