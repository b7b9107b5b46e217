import SchemaMerge.CommandLine.Run
import Std.Time.DateTime

/-!
The program: runs a command on the files of the machine.
-/

namespace SchemaMerge.CommandLine

/-- At least so many digits of a number. -/
def padded (width n : Nat) : String :=
  let digits := toString n
  Json.zeros (width - digits.length) ++ digits

/-- A part of a second in nanoseconds as text: nothing for none of it, else thousandths, millionths
or nanoseconds, whichever is the first to be exact. -/
def fractionText (nanoseconds : Nat) : String :=
  if nanoseconds = 0 then ""
  else if nanoseconds % 1000000 = 0 then "." ++ padded 3 (nanoseconds / 1000000)
  else if nanoseconds % 1000 = 0 then "." ++ padded 6 (nanoseconds / 1000)
  else "." ++ padded 9 nanoseconds

/-- A time as text: the date, a `T`, the time of day and a `Z`. -/
def timeText (time : Std.Time.PlainDateTime) : String :=
  let day := [padded 4 time.date.year.toInt.toNat, padded 2 time.date.month.val.toNat,
    padded 2 time.date.day.val.toNat]
  let moment := [padded 2 time.time.hour.val.toNat, padded 2 time.time.minute.val.toNat,
    padded 2 time.time.second.val.toNat]
  Text.joined "-" day ++ "T" ++ Text.joined ":" moment ++
    fractionText time.time.nanosecond.val.toNat ++ "Z"

/-- The text of a file of the machine. -/
def readText (path : String) : IO (Option (Option String)) := do
  match ← (IO.FS.Handle.mk path .read).toBaseIO with
  | .error _ => return none
  | .ok handle =>
      match ← handle.readBinToEnd.toBaseIO with
      | .error _ => return some none
      | .ok bytes => return some (String.fromUTF8? bytes)

/-- Puts a text into a file of the machine. -/
def writeText (path text : String) : IO Bool := do
  return (← (IO.FS.writeFile path text).toBaseIO).isOk

/-- The files and streams of the machine. -/
def machine : System IO where
  read := readText
  write := writeText
  print text := do (← IO.getStdout).putStr text
  warn := IO.eprintln
  time := do
    let now ← Std.Time.Timestamp.now
    return timeText (.ofWallTime (.ofNanoseconds now.toNanosecondsSinceUnixEpoch))

end SchemaMerge.CommandLine

open SchemaMerge.CommandLine in
def main (arguments : List String) : IO UInt32 := do
  let (code, failure) ← run machine arguments
  match failure with
  | none => pure ()
  | some failure =>
      IO.eprintln ("Error: " ++ failure.context)
      if let some cause := failure.cause then
        IO.eprintln ("\nCaused by:\n    " ++ cause)
  return UInt32.ofNat code
