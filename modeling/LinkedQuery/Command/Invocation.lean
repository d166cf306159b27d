import LinkedQuery.Text.Blank

/-!
Contract: the words of a command line.

Owns:
- the actions by name;
- the options in front of the action and those of an action, each either with
  its value as the next word or joined by an equals sign;
- the call for help in either place;
- which words are misused.

Does not own: whether files exist.
-/

namespace LinkedQuery.Command

/-- What a command line asks for. -/
inductive Action
  /-- Compile query files and show the backend's queries. -/
  | dump
  /-- Describe query files without compiling them. -/
  | debug
deriving Repr, DecidableEq

namespace Action

/-- The name of an action. -/
def name : Action → Text
  | .dump => "dump"
  | .debug => "debug"

/-- The action with a name. -/
def named? (name : Text) : Option Action :=
  if name = "dump" then
    some .dump
  else if name = "debug" then
    some .debug
  else
    none

/-- Whether an action takes a root. -/
def takesRoot : Action → Bool
  | .dump => true
  | .debug => false

end Action

/-- Whether a word looks like an option. -/
def isOption (word : Text) : Bool :=
  match word.toList with
  | .char '-' :: _ :: _ => true
  | _ => false

/-- The value that is joined to an option by an equals sign. -/
def joinedValue? (option word : Text) : Option Text :=
  let start := option.toList ++ [.char '=']
  if start.isPrefixOf word.toList then
    some (Text.ofList (word.toList.drop start.length))
  else
    none

/-- A command line up to its action: the settings file, the last one given
counting, whether help is asked for, and the words from the action on.  The
action and its own words are looked at later. -/
structure Invocation where
  config : Option Text
  asksForHelp : Bool
  words : List Text
deriving Repr, DecidableEq

/-- The words of an action: the root, the last one given counting, whether help
is asked for, and the files. -/
structure Arguments where
  root : Option Text
  asksForHelp : Bool
  files : List Text
deriving Repr, DecidableEq

/-- The words up to the action, after what is given so far. -/
def leadingWords (given : Invocation) : List Text → Option Invocation
  | [] => some { given with words := [] }
  | word :: rest =>
      if word = "--" then
        some { given with words := rest }
      else if word = "--help" then
        leadingWords { given with asksForHelp := true } rest
      else if word = "--config" then
        match rest with
        | [] => none
        | value :: more => leadingWords { given with config := some value } more
      else
        match joinedValue? "--config" word with
        | some value => leadingWords { given with config := some value } rest
        | none => if isOption word then none else some { given with words := word :: rest }

/-- The words of an action, after what is given so far; files may stand between
options. -/
def actionWords (action : Action) (given : Arguments) : List Text → Option Arguments
  | [] => some given
  | word :: rest =>
      if word = "--" then
        some { given with files := given.files ++ rest }
      else if !isOption word then
        actionWords action { given with files := given.files ++ [word] } rest
      else if word = "--help" then
        actionWords action { given with asksForHelp := true } rest
      else if !action.takesRoot then
        none
      else if word = "--root" then
        match rest with
        | [] => none
        | value :: more => actionWords action { given with root := some value } more
      else
        match joinedValue? "--root" word with
        | some value => actionWords action { given with root := some value } rest
        | none => none

namespace Invocation

/-- The invocation of a command line, if it has words and its options are
known. -/
def ofWords? (words : List Text) : Option Invocation :=
  if words.isEmpty then none else leadingWords ⟨none, false, []⟩ words

/-- The action of an invocation, if it names a known one. -/
def action? (invocation : Invocation) : Option Action :=
  invocation.words.head?.bind Action.named?

/-- What an action is given: without a call for help there is at least one
file. -/
def arguments? (invocation : Invocation) (action : Action) : Option Arguments := do
  let arguments ← actionWords action ⟨none, false, []⟩ invocation.words.tail
  if arguments.files.isEmpty && !arguments.asksForHelp then none else some arguments

end Invocation

end LinkedQuery.Command
