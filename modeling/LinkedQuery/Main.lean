import LinkedQuery.Command
import Std.Time

/-!
Contract: the command line program.

Owns:
- the environment, the clock, the files that are read and written, and the two
  streams of output.

Does not own: any decision on what is read, shown or written.
-/

namespace LinkedQuery.Program

open LinkedQuery.Command

/-- The environment variable that names the settings file. -/
def configVariable : String := "QUERYBRIDGE_CONFIG"

/-- The parts of the present time, each with a fixed number of digits. -/
structure Moment where
  year : String
  month : String
  day : String
  hour : String
  minute : String
  second : String

/-- The present time. -/
def Moment.now : IO Moment := do
  let present ← Std.Time.PlainDateTime.now
  let two (value : Int) : String := Date.padded 2 value.toNat
  return {
    year := Date.padded 4 present.date.year.toInt.toNat
    month := two present.date.month.val
    day := two present.date.day.val
    hour := two present.time.hour.val
    minute := two present.time.minute.val
    second := two present.time.second.val }

/-- The time as the names of files show it. -/
def Moment.stamps (moment : Moment) : Stamps where
  log := moment.month ++ moment.day ++ moment.hour ++ moment.minute ++ moment.second
  report :=
    moment.year ++ moment.month ++ moment.day ++ "_" ++ moment.hour ++ moment.minute ++
      moment.second

/-- The time as a line of the log shows it. -/
def Moment.lineStart (moment : Moment) : String :=
  moment.month ++ "-" ++ moment.day ++ " " ++ moment.hour ++ ":" ++ moment.minute ++ ":" ++
    moment.second ++ " "

/-- The number of an error, which may be given with either sign. -/
def errorNumber (code : UInt32) : Nat :=
  min code.toNat (UInt32.size - code.toNat)

/-- What stands at a path. -/
def stateOf (path : Text) : IO (Except PathFault FileState) := do
  let refused (problem : PathProblem) : Except PathFault FileState :=
    .error (.refused problem path)
  match FileTree.textFault? path, path.toString? with
  | some fault, _ => return .error fault
  | none, none => return refused .missing
  | none, some name =>
      if name.isEmpty then
        return refused .missing
      try
        return .ok (.file (← IO.FS.readBinFile name).toList)
      catch
        | .noFileOrDirectory _ _ _ => return refused .missing
        | .inappropriateType file code details =>
            if errorNumber code = PathProblem.notDirectory.code then
              return refused .notDirectory
            else if errorNumber code = PathProblem.isDirectory.code then
              return .ok .directory
            else
              throw (.inappropriateType file code details)
        | .invalidArgument file code details =>
            if errorNumber code = PathProblem.nameTooLong.code then
              return refused .nameTooLong
            else
              throw (.invalidArgument file code details)
        | other => throw other

/-- What stands at some paths; all others are taken as missing. -/
def treeOf (paths : List Text) : IO FileTree := do
  let states ← paths.mapM fun path => return (path, ← stateOf path)
  return fun path => (states.lookup path).getD (.error (.refused .missing path))

/-- A text as it is written out; surrogates are shown as escapes. -/
def shownString (text : Text) : String :=
  (Text.shown text).toString?.getD ""

/-- Write a file and the directories above it. -/
def save (path text : Text) : IO Unit := do
  IO.FS.createDirAll (shownString (PathName.parent path))
  IO.FS.writeFile (shownString path) (shownString text)

/-- The text of a record under a time. -/
def stamped (start : Text) (lines : List Text) : Text :=
  if lines.isEmpty then "" else start ++ Text.joinWith "\n" lines ++ "\n"

/-- Show a session and save what it leaves. -/
def present (start : Text) (session : Session) : IO Unit := do
  let stderr ← IO.getStderr
  for event in session.events do
    stderr.putStr (shownString (stamped start (session.logger.consoleLines event.record)))
  if let some path := session.logger.file then
    let lines := session.events.map fun event =>
      stamped start (session.logger.fileLines event.record)
    save path (Text.joinWith "" lines)
  for (path, text) in session.results do
    save path text
  if !session.succeeded then
    stderr.putStrLn (shownString Session.abortLine)

/-- The form of a command line. -/
def usage : String :=
  "usage: [--config FILE] dump [--root INDEX] FILES... | [--config FILE] debug FILES..."

/-- Carry out a command line: its exit code. -/
def run (words : List String) : IO UInt32 := do
  let words := words.map Text.ofString
  let environment := (← IO.getEnv configVariable).map Text.ofString
  let moment ← Moment.now
  let tree ← treeOf (Command.pathsOf environment words)
  let ending := Command.run tree environment moment.stamps words
  match ending with
  | .misused => IO.eprintln usage
  | .helped lines => IO.println (shownString (Text.joinWith "\n" lines))
  | .unconfigured fault => IO.eprintln (shownString fault.message)
  | .blocked fault => IO.eprintln (shownString fault.message)
  | .finished session => present moment.lineStart session
  return UInt32.ofNat ending.exitCode

end LinkedQuery.Program

/-- The program. -/
def main (words : List String) : IO UInt32 :=
  LinkedQuery.Program.run words
