import RouteDoc.CommandLine.Run
import RouteDoc.Config.Bundled

/-!
# The program

Runs the command line in the current folder: all files there are read, and those that a run has
changed are written.
-/

namespace RouteDoc.Main

/-- Adds what is in a folder to a workspace.  Files that hold no text are left out, and links are
not followed. -/
partial def gather (here : Location) (entries : Array IO.FS.DirEntry) (w : Workspace) :
    IO Workspace :=
  entries.foldlM (fun w entry => do
    let location := here ++ [entry.fileName]
    match (← entry.path.symlinkMetadata).type with
    | .dir =>
      gather location (← entry.path.readDir) { w with folders := w.folders ++ [location] }
    | .file =>
      match ← (IO.FS.readFile entry.path).toBaseIO with
      | .ok text => return { w with files := w.files.put location text }
      | .error _ => return w
    | _ => return w) w

/-- Writes the files that have other texts than before. -/
def store (before after : Workspace) : IO Unit :=
  (before.changes after).forM fun (path, text) => do
    IO.FS.createDirAll path.parent.text
    IO.FS.writeFile path.text text

def printAll (stream : IO.FS.Stream) (text : String) : IO Unit := do
  stream.putStr text
  stream.flush

end RouteDoc.Main

open RouteDoc RouteDoc.Main in
/-- Runs the program.  The exit code is 2 for arguments that make no request, and 1 for a
failure. -/
def main (arguments : List String) : IO UInt32 := do
  let before ← gather [] (← (← IO.currentDir).readDir) {}
  match CommandLine.Outcome.ofArguments .bundled "doc2raml" before arguments with
  | .error fault =>
    printAll (← IO.getStderr) s!"Error: {fault.message}\n"
    return 2
  | .ok outcome =>
    printAll (← IO.getStderr) outcome.stderr
    printAll (← IO.getStdout) outcome.stdout
    store before outcome.workspace
    match outcome.failure with
    | none => return 0
    | some failure =>
      printAll (← IO.getStderr) s!"Error: {failure.message}\n"
      return 1
