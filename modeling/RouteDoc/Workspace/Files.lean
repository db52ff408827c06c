import RouteDoc.Dict
import RouteDoc.Workspace.Path

/-!
# Workspaces

A workspace is a folder with files in it and in folders below it.

* `Workspace.locate?`: where a path leads to.
* `Workspace.file?`, `Workspace.isFolder`: what is there.
* `Workspace.makeFolder`, `Workspace.write`: a new folder, with those on the way to it, and a new
  text for a file.
* `Workspace.pathsBelow`: what is in a folder and below it, in the order of the paths.
* `Workspace.changes`: the files with other texts than before.
-/

namespace RouteDoc

/-- The names from the workspace to something in it. -/
abbrev Location := List String

/-- Files with texts, and folders without files. -/
structure Workspace where
  files : Dict Location String := ∅
  folders : List Location := []
  deriving Inhabited

inductive FileFault where
  | notFound
  | alreadyThere
  | notFolder
  | isFolder
  deriving DecidableEq, Inhabited

namespace Workspace

def isBelow (outer inner : Location) : Bool := outer.isPrefixOf inner && outer.length < inner.length

def isFolder (w : Workspace) (here : Location) : Bool :=
  here.isEmpty || w.folders.any (fun f => here.isPrefixOf f) || w.files.keys.any (isBelow here ·)

/-- One step on the way of a path. -/
def step? (w : Workspace) (here : Location) (name : String) : Option Location :=
  if !w.isFolder here then none
  else if name = ".." then (if here = [] then none else some here.dropLast)
  else some (here ++ [name])

def locate? (w : Workspace) (p : Path) : Option Location :=
  if p.root = "" then p.names.foldlM w.step? [] else none

def file? (w : Workspace) (p : Path) : Option String :=
  (w.locate? p).bind w.files.get?

def hasFolder (w : Workspace) (p : Path) : Bool := (w.locate? p).any w.isFolder

def has (w : Workspace) (p : Path) : Bool := (w.file? p).isSome || w.hasFolder p

/-- The folder at a place after some names, made if it is not there. -/
def makeFrom (w : Workspace) (here : Location) : List String → Except FileFault Workspace
  | [] => if w.files.contains here then .error .alreadyThere else .ok w
  | name :: names =>
    if w.files.contains here then .error .notFolder
    else if name = ".." then makeFrom w here.dropLast names
    else
      let next := here ++ [name]
      if w.isFolder next || w.files.contains next then makeFrom w next names
      else makeFrom { w with folders := w.folders ++ [next] } next names

/-- The folder that a path leads to, made if it is not there, with the folders on the way. -/
def makeFolder (w : Workspace) (p : Path) : Except FileFault Workspace :=
  if p.root = "" then w.makeFrom [] p.names else .error .notFound

def write (w : Workspace) (p : Path) (text : String) : Except FileFault Workspace :=
  match w.locate? p with
  | none => .error .notFound
  | some here =>
    if w.isFolder here then .error .isFolder
    else .ok { w with files := w.files.put here text }

def wayTo (l : Location) : List Location := (List.range l.length).map fun i => l.take (i + 1)

def locations (w : Workspace) : List Location :=
  ((w.files.keys ++ w.folders).flatMap wayTo).eraseDups

/-- The files and folders below a folder whose names end in some way, in the order of their
paths. -/
def pathsBelow (w : Workspace) (folder : Path) (suffix : String) : List Path :=
  match w.locate? folder with
  | none => []
  | some here =>
    let inside := w.locations.filter fun l =>
      isBelow here l && (l.getLast?.any fun n => Text.endsWith n suffix)
    (inside.map fun l => folder.append { names := l.drop here.length }).mergeSort Path.le

/-- The files whose texts are other than before, in the order of their paths. -/
def changes (before after : Workspace) : List (Path × String) :=
  let changed := after.files.entries.filter fun e => before.files.get? e.1 != some e.2
  (changed.map fun e => ({ names := e.1 }, e.2)).mergeSort fun a b => Path.le a.1 b.1

end Workspace

end RouteDoc
