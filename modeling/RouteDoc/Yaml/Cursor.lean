import RouteDoc.Yaml.Style

/-!
# Positions in a text

* `Cursor.next`, `Cursor.skip`: one character further, and past all characters of a class.
* `Cursor.cutBreak?`: past a line break.
* `Cursor.atDocumentMark`: whether a line of three hyphens or points begins here.
-/

namespace RouteDoc.Yaml

structure Cursor where
  rest : List Char
  index : Nat := 0
  line : Nat := 0
  column : Nat := 0
  deriving DecidableEq, Inhabited

def endsLine (s : List Char) : Bool := s.head?.all isBreak

/-- Whether a line ends here, or a space follows. -/
def endsField (s : List Char) : Bool := s.head?.all fun c => isBreak c || c == ' '

namespace Cursor

def head? (c : Cursor) : Option Char := c.rest.head?

def isAt (c : Cursor) (ch : Char) : Bool := c.rest.head? == some ch

/-- One character further.  A mark of byte order takes no place on its line. -/
def next (c : Cursor) : Cursor :=
  match c.rest with
  | [] => c
  | ch :: r =>
    if isBreak ch then ⟨r, c.index + 1, c.line + 1, 0⟩
    else ⟨r, c.index + 1, c.line, if ch.toNat = 0xFEFF then c.column else c.column + 1⟩

def drop : Nat → Cursor → Cursor
  | 0, c => c
  | n + 1, c => drop n c.next

def skip (p : Char → Bool) (c : Cursor) : Cursor := c.drop (c.rest.takeWhile p).length

def run (p : Char → Bool) (c : Cursor) : List Char := c.rest.takeWhile p

def skipSpaces (c : Cursor) : Cursor := c.skip (· == ' ')

/-- Past spaces, as far as a column. -/
def skipTo (column : Nat) (c : Cursor) : Cursor :=
  c.drop ((c.rest.take (column - c.column)).takeWhile (· == ' ')).length

def skipComment (c : Cursor) : Cursor := if c.isAt '#' then c.skip (!isBreak ·) else c

/-- The line break here, and what follows it.  The next line control counts as a line feed. -/
def cutBreak? (c : Cursor) : Option (Char × Cursor) :=
  match c.rest with
  | ch :: _ =>
    if isBreak ch then some (if ch.toNat = 0x85 then '\n' else ch, c.next) else none
  | [] => none

def skipBreak (c : Cursor) : Cursor := if c.head?.any isBreak then c.next else c

/-- Whether three equal characters stand here as a word. -/
def isAtTriple (c : Cursor) (ch : Char) : Bool :=
  match c.rest with
  | x :: y :: z :: r => x == ch && y == ch && z == ch && Style.endsWord r
  | _ => false

/-- Whether the mark of the beginning or the end of a document stands here. -/
def atDocumentMark (c : Cursor) : Bool := c.isAtTriple '-' || c.isAtTriple '.'

/-- Past the rest of a line that holds a comment at most. -/
def finishLine? (c : Cursor) : Option Cursor :=
  let c := c.skipSpaces.skipComment
  if endsLine c.rest then some c.skipBreak else none

end Cursor

end RouteDoc.Yaml
