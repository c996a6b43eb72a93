import SpanCapture.CommandLine.Run
import Std.Time.DateTime.Timestamp

/-! The program. It gathers what a run finds around it, which is the file with the
configuration, the calendar and a seed for identifiers, and prints what the run reports.
The calendar is read once, so every frame of a run opens and closes at the same reading. -/
namespace SpanCapture.CommandLine

/-- A word far from what its neighbours give. -/
def scattered (word : UInt64) : UInt64 :=
  let word := (word ^^^ (word >>> 30)) * 0xbf58476d1ce4e5b9
  let word := (word ^^^ (word >>> 27)) * 0x94d049bb133111eb
  word ^^^ (word >>> 31)

def hexWord (word : UInt64) : String :=
  let digits := Nat.toDigits 16 word.toNat
  "".pushn '0' (16 - digits.length) ++ String.ofList digits

def identifierFrom (seed number : Nat) : String :=
  let first := UInt64.ofNat (seed + 2 * number)
  hexWord (scattered (first * 0x9e3779b97f4a7c15)) ++
    hexWord (scattered ((first + 1) * 0x9e3779b97f4a7c15))

/-- What reading a file gives. A fault in opening names the path, a fault in reading what was
opened does not. -/
def readFile (path : String) : IO (Except StreamFault ByteArray) := do
  try
    return .ok (← IO.FS.readBinFile path)
  catch
    | .noFileOrDirectory .. => return .error .notFound
    | .permissionDenied .. => return .error .denied
    | .inappropriateType (some _) .. => return .error .notDirectory
    | .inappropriateType none .. => return .error .isDirectory
    | .invalidArgument _ _ "name too long" => return .error .nameTooLong
    | fault => return .error (.other (toString fault))

def surroundings : IO Surroundings := do
  let calendar := (← Std.Time.Timestamp.now).toNanosecondsSinceUnixEpoch.val.toNat
  let seed ← IO.rand 0 (twoTo 62)
  return {
    clock := ⟨calendar, 0⟩, threadName := some "main", threadId := "ThreadId(1)"
    callStack := ["main"], freshIds := identifierFrom seed }

def namedFile (args : List String) : IO (Except StreamFault ByteArray) :=
  match parse args with
  | .ok { configPath := some path, .. } => readFile path
  | _ => return .error .notFound

end SpanCapture.CommandLine

open SpanCapture.CommandLine in
def main (args : List String) : IO UInt32 := do
  let file ← namedFile args
  let report := run args (fun _ => file) (← surroundings)
  IO.print report.stdout
  IO.eprint report.stderr
  return report.exitCode.toUInt32
