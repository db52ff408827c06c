import RouteDoc.Text.Split

/-!
# Docstrings

The text of a docstring depends on where it stands in its source, and is put straight before it is
used.

* `Chars.expandTabs`: tabulators replaced by blanks up to the next multiple of eight columns.
* `Docstring.clean`: a docstring without the indentation that its lines share, the first line
  aside, and without empty lines at its ends.
-/

namespace RouteDoc

namespace Chars

/-- Replaces tabulators, when the text starts at the given column. -/
def expandTabsFrom (column : Nat) : List Char → List Char
  | [] => []
  | c :: r =>
    if c = '\t' then
      List.replicate (8 - column % 8) ' ' ++ expandTabsFrom (column + (8 - column % 8)) r
    else if c = '\n' ∨ c = '\r' then c :: expandTabsFrom 0 r
    else c :: expandTabsFrom (column + 1) r

/-- Replaces tabulators by blanks up to the next multiple of eight columns. -/
def expandTabs (s : List Char) : List Char := expandTabsFrom 0 s

end Chars

namespace Docstring

/-- The number of blanks in front of a line. -/
def indentation (line : List Char) : Nat := (line.takeWhile Chars.isBlank).length

def margin? (lines : List (List Char)) : Option Nat :=
  ((lines.filter fun l => !Chars.isBlankText l).map indentation).min?

/-- The lines without empty ones at the two ends. -/
def trimLines (lines : List (List Char)) : List (List Char) :=
  ((lines.dropWhile (· == [])).reverse.dropWhile (· == [])).reverse

/-- The lines of a docstring, put straight. -/
def cleanLines : List (List Char) → List (List Char)
  | [] => []
  | first :: rest =>
    trimLines (first.dropWhile Chars.isBlank :: rest.map (List.drop ((margin? rest).getD 0)))

def clean (doc : String) : String :=
  String.ofList
    (Chars.joinWith ['\n'] (cleanLines (Chars.splitAt '\n' (Chars.expandTabs doc.toList))))

end Docstring

end RouteDoc
