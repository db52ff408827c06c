import RouteDoc.CommandLine.Request
import RouteDoc.Config.File
import RouteDoc.Raml.Writer
import RouteDoc.Source.File

/-!
# Runs of the program

A run takes the workspace with all its files, and says what is printed, what is reported, and how
the workspace is afterwards.

* `Action.render`: makes a document from the annotation blocks of source files.  What a
  configuration imports is a parameter.
* `Action.tags`: prints the tags of a source file.
* `Outcome.ofArguments`: a run of the program with some arguments.
-/

namespace RouteDoc.CommandLine

inductive Event where
  /-- A text is printed. -/
  | printed (text : String)
  /-- A text is printed where notices are. -/
  | reported (text : String)
  | noticed (n : Notice)
  deriving DecidableEq, Inhabited

inductive Failure where
  | config (fault : ConfigFault)
  | file (fault : FileFault)
  | source (fault : SourceFault)
  | route (fault : RouteFault)
  deriving Inhabited

def Failure.message : Failure → String
  | .config fault => fault.message?.getD "the configuration is not valid"
  | .file .notFound => "there is no such file"
  | .file .alreadyThere => "there is a file in place of a folder"
  | .file .notFolder => "a file is no folder"
  | .file .isFolder => "a folder is no file"
  | .source .nullCharacter => "a script holds a null character"
  | .route fault => fault.message

structure Session where
  workspace : Workspace
  events : List Event := []
  deriving Inhabited

abbrev Action (α : Type) := ExceptT Failure (StateM Session) α

/-! ## Texts for terminals -/

/-- What follows a control sequence that colors text, if one begins here. -/
def afterColor? : List Char → Option (List Char)
  | '\x1b' :: '[' :: r =>
    match r.dropWhile fun c => Chars.isAsciiDigit c || c == ';' || c == '?' with
    | c :: rest => if Chars.isAsciiLetter c then some rest else none
    | [] => none
  | _ => none

/-- A text without control sequences that color it.  No more of them are dropped than there are
characters. -/
def dropColors : Nat → List Char → List Char
  | 0, s => s
  | _, [] => []
  | fuel + 1, c :: r =>
    match afterColor? (c :: r) with
    | some rest => dropColors fuel rest
    | none => c :: dropColors fuel r

def plain (text : String) : String := String.ofList (dropColors text.length text.toList)

namespace Event

def stdout (events : List Event) : String :=
  String.join (events.map fun
    | .printed text => plain text
    | _ => "")

/-- What is reported in the course of events: texts, and notices from some level on. -/
def stderr (level : Level) (events : List Event) : String :=
  String.join (events.map fun
    | .printed _ => ""
    | .reported text => plain text
    | .noticed n => if level.rank ≤ n.level.rank then n.line ++ "\n" else "")

end Event

namespace Action

def emit (e : Event) : Action Unit := modify fun s => { s with events := s.events ++ [e] }

def notice (ns : List Notice) : Action Unit := ns.forM fun n => emit (.noticed n)

def orFail {ε α : Type} (failure : ε → Failure) : Except ε α → Action α
  | .ok a => pure a
  | .error fault => throw (failure fault)

def textOf (p : Path) : Action String := do
  let w := (← get).workspace
  match w.file? p with
  | some text => return String.ofList (Chars.unifyBreaks text.toList)
  | none => throw (.file (if w.hasFolder p then .isFolder else .notFound))

/-! ## Documents -/

def configOf (p : Path) : Action Config := do
  orFail .config (Config.ofFile p.text (← textOf p))

def contextOf (imports : Imports) (config : Config) : Action Context := do
  let applied := config.apply imports {}
  notice applied.notices
  orFail .config applied.outcome
  return applied.context

/-- The settings of a configuration, less those that are given otherwise. -/
def settingsOf (r : RenderRequest) (s : Settings) : Settings :=
  { s with
    title := r.title.getD s.title
    version := r.version.getD s.version
    baseUri := r.baseUri.getD s.baseUri }

/-- The source files that a path stands for: itself, or all scripts in a folder. -/
def sourceFiles (w : Workspace) (p : Path) : List Path :=
  if w.hasFolder p then w.pathsBelow p ".py" else [p]

def blocksOf (p : Path) : Action (List SourceBlock) := do
  let file : SourceFile := ⟨p.text, ← textOf p⟩
  let (blocks, notices) ← orFail .source file.blocks
  notice notices
  return blocks

/-- Adds the routes of several blocks, and counts those that are unusable.  Any other fault ends the
run. -/
def addRoutes (d : Documentation) : List SourceBlock → Action (Documentation × Nat)
  | [] => return (d, 0)
  | b :: bs => do
    let added := d.addRoute b.text ∅ s!"{b.source}:{b.line}"
    notice added.notices
    match added.outcome with
    | .ok _ => addRoutes added.documentation bs
    | .error (.unusable _) =>
      let (d, skipped) ← addRoutes added.documentation bs
      return (d, skipped + 1)
    | .error fault => throw (.route fault)

def render (imports : Imports) (r : RenderRequest) : Action Unit := do
  let progress (text : String) : Action Unit :=
    emit (if r.isPrinted then .reported text else .printed text)
  let config ← (r.config.map configOf).getD (pure {})
  let context ← contextOf imports config
  let empty : Documentation := { context := context, settings := settingsOf r config.document }
  let files := r.sources.flatMap (sourceFiles (← get).workspace)
  progress s!"Reading {files.length} source files...\n"
  let blocks ← files.mapM blocksOf
  let (d, skipped) ← addRoutes empty blocks.flatten
  progress s!"Found {d.routes.size} routes ({skipped} skipped).\n"
  if d.collection.missing ≠ [] then
    let names := Text.joinWith ", " d.collection.missing
    emit (.reported s!"Undefined types: {names}\n")
  if r.isPrinted then emit (.printed d.build.render)
  else
    let saved ← orFail .file (d.build.save (← get).workspace r.output)
    modify fun s => { s with workspace := saved.workspace }
    notice [saved.notice]
    emit (.printed s!"RAML saved to {saved.path.text}\n")

/-! ## Tags -/

def tagTree (text : String) : Tree :=
  Tree.ofDict ((Block.parse text).mapValues fun _ groups =>
    .list (groups.map fun fields => .list (fields.map .text)))

def tags (source : Path) : Action Unit := do
  let blocks ← blocksOf source
  if blocks = [] then emit (.printed "No annotation blocks found.\n")
  else blocks.forM fun b => do
    let name := if b.name = "" then "<anonymous>" else b.name
    emit (.printed s!"# {name} (line {b.line})\n")
    emit (.printed ((({} : Yaml.Format)).write (tagTree b.text)))

def ofCommand (imports : Imports) (name : String) : Command → Action Unit
  | .explain topic => emit (.printed (topic.text name))
  | .render r => render imports r
  | .tags source => tags source

end Action

/-! ## Runs -/

structure Outcome where
  workspace : Workspace
  stdout : String := ""
  stderr : String := ""
  failure : Option Failure := none
  deriving Inhabited

namespace Outcome

def ofRequest (imports : Imports) (name : String) (w : Workspace) (r : Request) : Outcome :=
  let (result, session) := ((Action.ofCommand imports name r.command).run).run { workspace := w }
  { workspace := session.workspace
    stdout := Event.stdout session.events
    stderr := Event.stderr r.level session.events
    failure := match result with
      | .ok _ => none
      | .error failure => some failure }

def ofArguments (imports : Imports) (name : String) (w : Workspace) (arguments : List String) :
    Except UsageFault Outcome :=
  (Request.ofArguments w Document.defaultFolder arguments).map (ofRequest imports name w)

end Outcome

end RouteDoc.CommandLine
