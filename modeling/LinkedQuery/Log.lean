import LinkedQuery.Event
import LinkedQuery.FileTree
import LinkedQuery.Text.Case

/-!
Contract: log records and where they go.

Owns:
- levels by number and by name;
- the lines of a record;
- the logger: a console with a threshold and a file that takes every record.

Does not own: time stamps, which the outer layer puts in front of lines.
-/

namespace LinkedQuery

/-- A message with the number of its level. -/
structure Record where
  level : Int
  message : Text
deriving Repr, DecidableEq

/-- The record of an event. -/
def Event.record (event : Event) : Record :=
  ⟨event.severity.level, event.message⟩

namespace Record

/-- The name of a level. -/
def levelName (level : Int) : Text :=
  if level = 50 then
    "CRITICAL"
  else if level = 40 then
    "ERROR"
  else if level = 30 then
    "WARNING"
  else if level = 20 then
    "INFO"
  else if level = 10 then
    "DEBUG"
  else if level = 0 then
    "NOTSET"
  else
    "Level " ++ toString level

/-- The names of the levels. -/
def levelNames : List (Text × Int) :=
  [("CRITICAL", 50), ("FATAL", 50), ("ERROR", 40), ("WARNING", 30), ("WARN", 30), ("INFO", 20),
   ("DEBUG", 10), ("NOTSET", 0)]

/-- The level with a name. -/
def levelNamed? (name : Text) : Option Int :=
  levelNames.lookup name

/-- The four letters that stand for a level. -/
def abbreviation (level : Int) : Text :=
  if level = 10 then
    "DEBG"
  else if level = 20 then
    "INFO"
  else if level = 30 then
    "WARN"
  else if level = 40 || level = 50 then
    "ERRO"
  else
    Text.ofList ((levelName level).toList.take 4)

/-- A record with the name of its level. -/
def named (record : Record) : Text :=
  levelName record.level ++ " " ++ record.message

/-- The lines of a record; only the first shows the level. -/
def lines (record : Record) : List Text :=
  Text.cut '\n' ("[" ++ abbreviation record.level ++ "] " ++ record.message)

end Record

/-- A console with a threshold, if there is one, and a file by its path. -/
structure Logger where
  console : Option Int
  file : Option Text
deriving Repr, DecidableEq

namespace Logger

/-- The logger before it is configured. -/
def silent : Logger :=
  ⟨none, none⟩

/-- The least level that any record needs. -/
def leastLevel : Int := 10

/-- The threshold of a level name; an empty or unknown name counts as the
level for information. -/
def threshold (level : Text) : Int :=
  if level.isEmpty then 20 else (Record.levelNamed? (Text.upper level)).getD 20

/-- The directory of the log files of an action. -/
def fileDirectory (directory action : Text) : Text :=
  PathName.join (if directory.isEmpty then "log" else directory) action

/-- The path of the log file of an action. -/
def filePath (directory action stamp : Text) : Text :=
  PathName.join (fileDirectory directory action) (action ++ "_" ++ stamp ++ ".log")

/-- A logger with a console and, for a named action, a file, whose directory is
made if it can be. -/
def configure
    (tree : FileTree)
    (level action : Text)
    (toFile : Bool)
    (directory stamp : Text) :
    Except PathFault Logger :=
  if toFile && !action.isEmpty then
    match tree.directoryFault? (fileDirectory directory action) with
    | some fault => .error fault
    | none => .ok ⟨some (threshold level), some (filePath directory action stamp)⟩
  else
    .ok ⟨some (threshold level), none⟩

/-- The levels of the console and of the file. -/
def levels (logger : Logger) : List Int :=
  logger.console.toList ++ logger.file.toList.map fun _ => leastLevel

/-- Whether the console shows a record. -/
def shows (logger : Logger) (record : Record) : Bool :=
  match logger.console with
  | some threshold => decide (leastLevel ≤ record.level) && decide (threshold ≤ record.level)
  | none => false

/-- Whether the file takes a record. -/
def keeps (logger : Logger) (record : Record) : Bool :=
  logger.file.isSome && decide (leastLevel ≤ record.level)

/-- The lines that a record leaves on the console. -/
def consoleLines (logger : Logger) (record : Record) : List Text :=
  if logger.shows record then record.lines.map Text.shown else []

/-- The lines that a record leaves in the file: none if the message has no
bytes. -/
def fileLines (logger : Logger) (record : Record) : List Text :=
  if logger.keeps record && (Text.encodingFault? record.message).isNone then
    record.lines
  else
    []

end Logger

end LinkedQuery
