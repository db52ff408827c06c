import RouteDoc.CommandLine.Arguments
import RouteDoc.Notice
import RouteDoc.Text.Word
import RouteDoc.Workspace.Files

/-!
# Requests

What the program is asked for: a document, the tags of a file, or an explanation.

* `Request.ofArguments`: the request that the arguments of the program make, in a workspace where
  the files have to be.
* `Topic.text`: the explanation of the program, or of one of its commands.
-/

namespace RouteDoc.CommandLine

/-- What can be explained: the program, or one of its commands. -/
inductive Topic where
  | program
  | render
  | tags
  deriving DecidableEq, Inhabited

structure RenderRequest where
  sources : List Path
  config : Option Path := none
  title : Option String := none
  version : Option String := none
  baseUri : Option String := none
  /-- The folder for the document, unless it is printed. -/
  output : Path
  isPrinted : Bool := false
  deriving DecidableEq, Inhabited

inductive Command where
  | explain (topic : Topic)
  | render (r : RenderRequest)
  | tags (source : Path)
  deriving DecidableEq, Inhabited

structure Request where
  command : Command
  level : Level := .warning
  deriving DecidableEq, Inhabited

/-! ## Options -/

def helpOption : OptionSpec := { long := "--help", help := "Show this message and exit." }

def programOptions : List OptionSpec :=
  [{ long := "--log-level", value := some "[debug|info|warning|error]", help := "Logging level." },
   helpOption]

def renderOptions : List OptionSpec :=
  [{ long := "--output", short := some 'o', value := some "PATH"
     help := "Output directory for the RAML file." },
   { long := "--stdout", help := "Print the RAML document instead of writing it." },
   { long := "--config", short := some 'c', value := some "PATH"
     help := "YAML configuration file." },
   { long := "--title", value := some "TEXT", help := "API title." },
   { long := "--version", value := some "TEXT", help := "API version." },
   { long := "--base-uri", value := some "TEXT", help := "Base URI of the API." },
   helpOption]

/-! ## Explanations -/

namespace Topic

def programHelp : String := "doc2raml: generate RAML documentation from annotated handlers."

def renderHelp : String := "Generate a RAML document from annotated source files."
def tagsHelp : String := "Show the tags parsed from the annotation blocks of a source file."

def spelling (s : OptionSpec) : String :=
  let short := (s.short.map fun c => String.ofList ['-', c, ',', ' ']).getD ""
  short ++ s.long ++ (s.value.map (" " ++ ·)).getD ""

/-- The widest first column of a table. -/
def widest : Nat := 30

/-- Rows of two columns.  An entry that is too wide for the first column has a line for itself. -/
def table (rows : List (String × String)) : String :=
  let width := min ((rows.map (·.1.length)).foldl max 0) widest
  let blanks (n : Nat) : String := String.ofList (List.replicate n ' ')
  String.join (rows.map fun (left, right) =>
    let gap := if left.length ≤ width then blanks (width + 2 - left.length)
      else "\n" ++ blanks (width + 4)
    "  " ++ left ++ gap ++ right ++ "\n")

def page (usage help : String) (options : List OptionSpec) : String :=
  s!"Usage: {usage}\n\n  {help}\n\nOptions:\n" ++ table (options.map fun s => (spelling s, s.help))

def text (name : String) : Topic → String
  | .program =>
    page s!"{name} [OPTIONS] COMMAND [ARGS]..." programHelp programOptions ++ "\nCommands:\n" ++
      table [("render", renderHelp), ("tags", tagsHelp)]
  | .render => page s!"{name} render [OPTIONS] SOURCES..." renderHelp renderOptions
  | .tags => page s!"{name} tags [OPTIONS] SOURCE" tagsHelp [helpOption]

end Topic

/-! ## Requests -/

namespace Request

def levelOf (word : String) : Except UsageFault Level :=
  let capitals := String.ofList (word.toList.map Chars.asciiUpper)
  match [Level.debug, .info, .warning, .error].find? (·.word == capitals) with
  | some level => .ok level
  | none => .error (.unknownLevel word)

/-- Whether a text for a path leads to something.  Only a folder has a slash behind it. -/
def leadsSomewhere (w : Workspace) (path : String) : Bool :=
  let p := Path.ofString path
  let last := (Chars.splitAt '/' path.toList).getLast?
  path ≠ "" && w.has p && (!(last == some [] || last == some ['.']) || w.hasFolder p)

def pathOf (w : Workspace) (path : String) : Except UsageFault Path :=
  if leadsSomewhere w path then .ok (.ofString path) else .error (.missingPath path)

def renderOf (w : Workspace) (defaultOutput : Path) (arguments : List String) :
    Except UsageFault Command := do
  let given ← Given.read renderOptions false arguments
  if given.has "--help" then return .explain .render
  if given.arguments = [] then throw (.missingArgument "SOURCES...")
  return .render
    { sources := ← given.arguments.mapM (pathOf w)
      config := ← (given.value? "--config").mapM (pathOf w)
      title := given.value? "--title"
      version := given.value? "--version"
      baseUri := given.value? "--base-uri"
      output := ((given.value? "--output").map Path.ofString).getD defaultOutput
      isPrinted := given.has "--stdout" }

def tagsOf (w : Workspace) (arguments : List String) : Except UsageFault Command := do
  let given ← Given.read [helpOption] false arguments
  if given.has "--help" then return .explain .tags
  match given.arguments with
  | [] => throw (.missingArgument "SOURCE")
  | [source] =>
    let path ← pathOf w source
    if w.hasFolder path then throw (.folderPath source)
    return .tags path
  | _ :: extra :: _ => throw (.unexpectedArgument extra)

def ofArguments (w : Workspace) (defaultOutput : Path) (arguments : List String) :
    Except UsageFault Request := do
  let given ← Given.read programOptions true arguments
  if given.has "--help" then return { command := .explain .program }
  let level ← ((given.value? "--log-level").map levelOf).getD (.ok .warning)
  match given.arguments with
  | [] => throw .missingCommand
  | name :: rest =>
    let command ← (match name with
      | "render" => renderOf w defaultOutput rest
      | "tags" => tagsOf w rest
      | name => throw (.unknownCommand name))
    return { command := command, level := level }

end Request

end RouteDoc.CommandLine
