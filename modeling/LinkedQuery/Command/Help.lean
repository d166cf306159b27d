import LinkedQuery.Command.Invocation

/-!
Contract: the help on a command line.

Owns:
- the form of the whole command line and of each action, with what the options
  mean.

Does not own: when help is shown.
-/

namespace LinkedQuery.Command

/-- The name of the program in its help. -/
def programName : Text := "cli"

/-- What the help says of the help. -/
def helpOnHelp : Text := "Show this message and exit."

namespace Action

/-- What an action does, in a sentence. -/
def purpose : Action → Text
  | .dump => "Compile query documents and print pretty QueryDSL JSON."
  | .debug => "Print normalized query, used fields and syntax tree."

/-- The options of an action. -/
def optionLines : Action → List Text
  | .dump =>
      ["  --root TEXT  Qualified index to compile against (overrides compiler.root).",
        "  --help       " ++ helpOnHelp]
  | .debug => ["  --help  " ++ helpOnHelp]

/-- The help on an action. -/
def help (action : Action) : List Text :=
  ["Usage: " ++ programName ++ " " ++ action.name ++ " [OPTIONS] QUERY_FILES...",
    "",
    "  " ++ action.purpose,
    "",
    "Options:"] ++ action.optionLines

end Action

/-- The help on the command line as a whole. -/
def help : List Text :=
  ["Usage: " ++ programName ++ " [OPTIONS] COMMAND [ARGS]...",
    "",
    "  QueryBridge: compile query ASTs into search backend QueryDSL.",
    "",
    "Options:",
    "  --config FILE  Path to YAML config file, merged over config/default.yml when",
    "                 present.  [default: config/default.yml]",
    "  --help         " ++ helpOnHelp,
    "",
    "Commands:",
    "  debug  " ++ Action.purpose .debug,
    "  dump   " ++ Action.purpose .dump]

end LinkedQuery.Command
