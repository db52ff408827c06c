import RouteDoc.Text.Split

/-!
# Arguments of commands

* `OptionSpec`: an option that a command knows.
* `Given.read`: the options and the arguments that a command is given.  A long option takes its
  value behind an equals sign or from the next argument, a short one from the rest of its argument
  or from the next one; behind two dashes, everything is an argument.
* `UsageFault`: why a command cannot be carried out as it is given.
-/

namespace RouteDoc.CommandLine

structure OptionSpec where
  /-- The name with two dashes, under which its value is found. -/
  long : String
  /-- The letter behind a single dash. -/
  short : Option Char := none
  /-- What stands for the value in explanations; missing for options without value. -/
  value : Option String := none
  help : String
  deriving DecidableEq, Inhabited

inductive UsageFault where
  | unknownOption (option : String)
  | missingValue (option : String)
  | unexpectedValue (option : String)
  | missingArgument (name : String)
  | unexpectedArgument (argument : String)
  | missingCommand
  | unknownCommand (name : String)
  | unknownLevel (value : String)
  | missingPath (path : String)
  | folderPath (path : String)
  deriving DecidableEq, Inhabited

def UsageFault.message : UsageFault → String
  | .unknownOption option => s!"No such option: {option}"
  | .missingValue option => s!"Option '{option}' requires an argument."
  | .unexpectedValue option => s!"Option '{option}' does not take a value."
  | .missingArgument name => s!"Missing argument '{name}'."
  | .unexpectedArgument argument => s!"Got unexpected extra argument ({argument})"
  | .missingCommand => "Missing command."
  | .unknownCommand name => s!"No such command '{name}'."
  | .unknownLevel value =>
    s!"Invalid value for '--log-level': '{value}' is not one of " ++
      "'debug', 'info', 'warning', 'error'."
  | .missingPath path => s!"Path '{path}' does not exist."
  | .folderPath path => s!"File '{path}' is a directory."

/-- The options of a command with their values, and its arguments.  Options without value have an
empty one. -/
structure Given where
  options : List (String × String) := []
  arguments : List String := []
  deriving DecidableEq, Inhabited

namespace Given

def has (g : Given) (long : String) : Bool := g.options.any (·.1 == long)

def value? (g : Given) (long : String) : Option String := g.options.reverse.lookup long

/-- The options of one argument: those without value, and one that takes a value, which is missing
if it is the next argument. -/
structure Cut where
  flags : List String := []
  last : Option (String × Option String) := none
  deriving DecidableEq, Inhabited

/-- Reads the letters behind a single dash. -/
def cutShort (specs : List OptionSpec) : List Char → Except UsageFault Cut
  | [] => .ok {}
  | c :: r =>
    match specs.find? (·.short == some c) with
    | none => .error (.unknownOption (String.ofList ['-', c]))
    | some s =>
      if s.value.isSome then
        .ok { last := some (s.long, if r = [] then none else some (String.ofList r)) }
      else (cutShort specs r).map fun cut => { cut with flags := s.long :: cut.flags }

/-- Reads an argument that begins with a dash. -/
def cut (specs : List OptionSpec) (argument : String) : Except UsageFault Cut :=
  let (name, value?) := match Chars.cutAt? '=' argument.toList with
    | some (name, value) => (String.ofList name, some (String.ofList value))
    | none => (argument, none)
  match specs.find? (·.long == name) with
  | some s =>
    if s.value.isSome then .ok { last := some (s.long, value?) }
    else if value?.isSome then .error (.unexpectedValue name)
    else .ok { flags := [s.long] }
  | none =>
    if Text.startsWith argument "--" then .error (.unknownOption name)
    else cutShort specs (argument.toList.drop 1)

def withOptions (flags : List String) (values : List (String × String)) (g : Given) : Given :=
  { g with options := flags.map (fun f => (f, "")) ++ values ++ g.options }

/-- Reads what a command is given.  If options have to come first, everything from the first
argument on is arguments. -/
def read (specs : List OptionSpec) (optionsFirst : Bool) : List String → Except UsageFault Given
  | [] => .ok {}
  | argument :: rest =>
    if argument = "--" then .ok { arguments := rest }
    else if Text.startsWith argument "-" && argument ≠ "-" then
      match cut specs argument with
      | .error fault => .error fault
      | .ok ⟨flags, none⟩ => (read specs optionsFirst rest).map (withOptions flags [])
      | .ok ⟨flags, some (name, some value)⟩ =>
        (read specs optionsFirst rest).map (withOptions flags [(name, value)])
      | .ok ⟨flags, some (name, none)⟩ =>
        match rest with
        | [] => .error (.missingValue name)
        | value :: rest => (read specs optionsFirst rest).map (withOptions flags [(name, value)])
    else if optionsFirst then .ok { arguments := argument :: rest }
    else (read specs optionsFirst rest).map fun g => { g with arguments := argument :: g.arguments }

end Given

end RouteDoc.CommandLine
