import RouteDoc.Notice
import RouteDoc.Source.Comment
import RouteDoc.Source.Docstring
import RouteDoc.Script.Declaration

/-!
# Annotation blocks of source files

* `SourceBlock.isTagged`: whether a comment or docstring holds a tag.
* `SourceBlock.ofDocstrings?`: the docstrings of a script.
* `SourceFile.blocks`: the annotation blocks of a source file.  In a script, a docstring with a tag
  takes the place of the comment above its function.
-/

namespace RouteDoc

namespace SourceBlock

/-- A text without the comment marker in front of it: number signs, slashes, or the marks that open,
continue or close a longer comment. -/
def dropMarker : List Char → List Char
  | '#' :: r => r.dropWhile (· == '#')
  | '/' :: '/' :: r => r.dropWhile (· == '/')
  | '/' :: '*' :: '*' :: r => r
  | '/' :: '*' :: r => r
  | '*' :: '/' :: r => r
  | '*' :: r => r
  | s => s

/-- Whether a line holds a tag, behind a comment marker or without. -/
def isTagLine (line : List Char) : Bool :=
  (Line.cutTag?
    ((dropMarker (line.dropWhile Chars.isBlank)).dropWhile Chars.isBlank)).isSome

def hasTag (text : String) : Bool := (Chars.splitLines text.toList).any isTagLine

def isTagged (b : SourceBlock) : Bool := hasTag b.text

/-- The docstring of a function, if it has one that is not empty. -/
def ofDeclaration? (source : String) (d : Script.Declaration) : Option SourceBlock := do
  let text := Docstring.clean (String.ofList (← d.text))
  if text = "" then none
  else return { source := source, line := d.line, name := d.name, text := text }

/-- The docstrings of a script; missing if the text is no script. -/
def ofDocstrings? (source text : String) : Option (List SourceBlock) :=
  (Script.Declaration.ofScript? text.toList).map (·.filterMap (ofDeclaration? source))

/-- Blocks by the lines of their functions.  Of two blocks for one line the later one counts. -/
def byLine (blocks : List SourceBlock) : Dict Nat SourceBlock :=
  Dict.ofList (blocks.map fun b => (b.line, b))

end SourceBlock

inductive SourceFault where
  /-- A script holds a null character. -/
  | nullCharacter
  deriving DecidableEq, Inhabited

structure SourceFile where
  path : String
  text : String
  deriving DecidableEq, Inhabited

namespace SourceFile

/-- Whether a file is a script, of which docstrings are read. -/
def isScript (f : SourceFile) : Bool := Text.endsWith f.path ".py"

/-- The docstrings with tags in a file, and the notice about a script that cannot be read. -/
def docstrings (f : SourceFile) : Except SourceFault (List SourceBlock × List Notice) :=
  if f.isScript then
    if f.text.toList.any (·.toNat == 0) then .error .nullCharacter
    else match SourceBlock.ofDocstrings? f.path f.text with
      | some blocks => .ok (blocks.filter SourceBlock.isTagged, [])
      | none => .ok ([], [.docstringsUnreadable f.path])
  else .ok ([], [])

/-- The annotation blocks in a file with some docstrings, in the order of their lines. -/
def blocksWith (f : SourceFile) (docstrings : List SourceBlock) : List SourceBlock :=
  let all := (SourceBlock.byLine (SourceBlock.ofComments f.path f.text ++ docstrings)).values
  (all.mergeSort fun a b => a.line ≤ b.line).filter SourceBlock.isTagged

def blocks (f : SourceFile) : Except SourceFault (List SourceBlock × List Notice) :=
  f.docstrings.map fun (docstrings, notices) => (f.blocksWith docstrings, notices)

end SourceFile

end RouteDoc
