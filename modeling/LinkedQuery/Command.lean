import LinkedQuery.Command.Execution
import LinkedQuery.Command.Help
import LinkedQuery.Command.Invocation
import LinkedQuery.FileTree
import LinkedQuery.Log
import LinkedQuery.Settings.File

/-!
Contract: a command line carried out from its words to its end.

Owns:
- the order of the steps: options, action, settings, words of the action, work;
- how a command ends: with help, misused, with a text that is no path, without
  settings, without its log, or with a session that succeeded or was aborted;
- the lines on the console and the files that a session leaves.

Does not own: the disk, the clock and the environment.
-/

namespace LinkedQuery.Command

/-- The settings file when none is named, and the defaults under every other. -/
def defaultConfig : Text := "config/default.yml"

/-- How the present time is written into the names of files. -/
structure Stamps where
  log : Text
  report : Text
deriving Repr, DecidableEq

/-- The work of a command: its log, whether it succeeded, and the files of
results that it wrote. -/
structure Session where
  logger : Logger
  events : List Event
  succeeded : Bool
  results : List (Text × Text)

/-- How a command ends. -/
inductive Ending
  | misused
  | helped (lines : List Text)
  | unconfigured (fault : Settings.FileFault)
  | blocked (fault : PathFault)
  | finished (session : Session)

namespace Session

/-- The session of an action whose settings are known, if its log can be
opened. -/
def ofAction
    (settings : Settings)
    (action : Action)
    (root : Option Text)
    (tree : FileTree)
    (files : List QueryFile)
    (stamps : Stamps) :
    Except PathFault Session := do
  let log := settings.log
  let logger ←
    Logger.configure tree log.level action.name log.toFile log.directory stamps.log
  let traced := execute settings action root tree files stamps.report
  match traced.outcome with
  | .ok results => return ⟨logger, traced.events, true, results⟩
  | .error failure =>
      return ⟨logger, traced.events ++ [.failed action.name failure.message], false,
        failure.leftFiles⟩

/-- The line after a session that failed. -/
def abortLine : Text := "Aborted!"

/-- The lines on the console. -/
def consoleLines (session : Session) : List Text :=
  session.events.flatMap (fun event => session.logger.consoleLines event.record) ++
    (if session.succeeded then [] else [abortLine])

/-- The lines of the log file. -/
def logLines (session : Session) : List Text :=
  session.events.flatMap fun event => session.logger.fileLines event.record

/-- The lines of a file with a text. -/
def textLines (text : Text) : List Text :=
  if text.isEmpty then [] else Text.cut '\n' text

/-- The files that a session leaves below the current directory, by the places
they are at, with their lines. -/
def files (session : Session) : List (Text × List Text) :=
  let logs := session.logger.file.toList.map fun path => (path, session.logLines)
  let results := session.results.map fun (path, text) => (path, textLines text)
  ((logs ++ results).filter fun (path, _) => PathName.isInside path).map fun (path, lines) =>
    (Text.joinWith "/" (PathName.resolve path), lines)

end Session

/-- The exit code of an ending. -/
def Ending.exitCode : Ending → Nat
  | .misused => 2
  | .helped _ => 0
  | .unconfigured _ => 1
  | .blocked _ => 1
  | .finished session => if session.succeeded then 0 else 1

/-- The path of the settings file: an option counts before the environment, and
an empty variable does not count. -/
def configPath (option environment : Option Text) : Text :=
  match option, environment with
  | some path, _ => path
  | none, some path => if path.isEmpty then defaultConfig else path
  | none, none => defaultConfig

/-- The settings of a command: the named file over the defaults, if there are
any. -/
def loadSettings (files : FileTree) (path : Text) : Except Settings.FileFault Settings :=
  match files defaultConfig with
  | .ok _ => Settings.ofFiles files path defaultConfig
  | .error _ => Settings.ofFiles files path path

/-- The paths that a command line may lead to. -/
def pathsOf (environment : Option Text) (words : List Text) : List Text :=
  match Invocation.ofWords? words with
  | none => []
  | some invocation =>
      let config := configPath invocation.config environment
      let arguments := do invocation.arguments? (← invocation.action?)
      [defaultConfig, config, PathName.normalize config] ++ (arguments.map Arguments.files).getD []

/-- The query files at some paths, or the ending if one of them is no file. -/
def queryFiles (tree : FileTree) : List Text → Except Ending (List QueryFile)
  | [] => .ok []
  | path :: rest =>
      match tree path with
      | .ok (.file bytes) => (queryFiles tree rest).map (⟨path, bytes⟩ :: ·)
      | .ok .directory => .error .misused
      | .error fault => .error (if fault.isAboutText then .blocked fault else .misused)

/-- Carry out an action on files whose paths stand among its words. -/
def runAction
    (tree : FileTree)
    (stamps : Stamps)
    (settings : Settings)
    (action : Action)
    (invocation : Invocation) :
    Ending :=
  match invocation.arguments? action with
  | none => .misused
  | some arguments =>
      if arguments.asksForHelp then
        .helped action.help
      else
        match queryFiles tree arguments.files with
        | .error ending => ending
        | .ok files =>
            match Session.ofAction settings action arguments.root tree files stamps with
            | .error fault => .blocked fault
            | .ok session => .finished session

/-- Carry out an invocation with the settings file at a path. -/
def runInvocation (tree : FileTree) (stamps : Stamps) (invocation : Invocation) (path : Text) :
    Ending :=
  match invocation.action? with
  | none => .misused
  | some action =>
      match loadSettings tree path with
      | .error fault => .unconfigured fault
      | .ok settings => runAction tree stamps settings action invocation

/-- Carry out a command line. -/
def run
    (tree : FileTree)
    (environment : Option Text)
    (stamps : Stamps)
    (words : List Text) :
    Ending :=
  match Invocation.ofWords? words with
  | none => .misused
  | some invocation =>
      let path := configPath invocation.config environment
      if invocation.asksForHelp then
        .helped help
      else
        match tree path with
        | .ok .directory => .misused
        | .ok (.file _) => runInvocation tree stamps invocation path
        | .error fault =>
            if fault.isAboutText then
              .blocked fault
            else
              runInvocation tree stamps invocation path

end LinkedQuery.Command
