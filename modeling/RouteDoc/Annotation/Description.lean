import RouteDoc.Text.Split

/-!
# Descriptions

The lines of a description are joined to a text of paragraphs.  A blank line parts two paragraphs,
and a backslash at the end of a line breaks the line there.  If the first line stands alone, with a
blank line and then a further line after it, it is the title.

* `Description.read`: the text and the title.
-/

namespace RouteDoc

namespace Description

/-- The title, if the trimmed lines start with one, and the lines after it. -/
def cutTitle : List (List Char) → Option (List Char) × List (List Char)
  | t :: b :: l :: ls =>
    if t ≠ [] ∧ b = [] ∧ l ≠ [] then (some t, l :: ls) else (none, t :: b :: l :: ls)
  | ls => (none, ls)

def piece (line : List Char) : List Char :=
  match line.getLast? with
  | none => ['\n', '\n']
  | some '\\' => Chars.dropEnd Chars.isBlank line.dropLast ++ ['\n']
  | some _ => line

/-- Drops the blanks and tabulators on both sides of every line feed. -/
def tightenBreaks (s : List Char) : List Char :=
  Chars.joinWith ['\n'] ((Chars.splitAt '\n' s).map (Chars.trim Chars.isIndent))

/-- Shortens every run of line feeds to at most two. -/
def limitBreaks : List Char → List Char
  | '\n' :: '\n' :: '\n' :: r => limitBreaks ('\n' :: '\n' :: r)
  | c :: r => c :: limitBreaks r
  | [] => []
termination_by s => s.length

def text (lines : List (List Char)) : List Char :=
  Chars.strip (limitBreaks (tightenBreaks (Chars.joinWith [' '] (lines.map piece))))

def read (lines : List String) : String × Option String :=
  let (title, rest) := cutTitle (lines.map fun l => Chars.strip l.toList)
  (String.ofList (text rest), title.map String.ofList)

end Description

end RouteDoc
