import RouteDoc.Raml.Tree
import RouteDoc.Workspace.Files
import RouteDoc.Yaml.Writer

/-!
# Documents as text

* `Document.render`: the text of a document: the version of the language, and the tree as YAML.
* `Document.save`: writes it into a folder, under a name made of the title and the version.
-/

namespace RouteDoc

namespace Document

/-- The first line of a document: the language that it is written in. -/
def versionLine : String := "#%RAML 1.0"

/-- How documents are written: in long lines, and with texts of several lines as literal blocks. -/
def format : Yaml.Format := { width := 1000, blocks := true }

def render (d : Document) : String :=
  versionLine ++ "\n---\n" ++ format.write (Tree.ofDocument d)

/-- The folder for documents, unless another one is named. -/
def defaultFolder : Path := ⟨"", ["raml"]⟩

/-- A document that is written: the workspace with it, and the path of its file. -/
structure Saved where
  workspace : Workspace
  path : Path
  deriving Inhabited

/-- Writes a document into a folder, which is made if it is not there. -/
def save (d : Document) (w : Workspace) (folder : Path) : Except FileFault Saved := do
  let w ← w.makeFolder folder
  let path := folder.append (.ofString d.settings.filename)
  return ⟨← w.write path d.render, path⟩

def Saved.notice (s : Saved) : Notice := .documentWritten s.path.text

end Document

end RouteDoc
