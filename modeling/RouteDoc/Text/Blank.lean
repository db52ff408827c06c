/-!
# Blanks and lines

Text is cut and trimmed at white space and at line breaks, in the wide sense of Unicode.

* `Chars.isBlank`, `Chars.isLineBreak`: the two classes of characters.
* `Chars.strip`: a text without the blanks at its two ends.
* `Chars.splitLines`: the lines of a text, without their breaks.  A carriage return followed by a
  line feed is one break, and a break at the very end opens no further line.
* `Chars.unifyBreaks`: a text whose lines all end in line feeds.
* `Chars.firstWord`: the text up to the first blank, and what follows the blanks after it.

`Text.strip` and `Text.splitLines` are the same on strings; `Text.words` cuts a table into its
entries.
-/

namespace RouteDoc

namespace Chars

/-- White space: the separators of Unicode and the control characters that move the cursor or
separate records. -/
def isBlank (c : Char) : Bool :=
  let n := c.toNat
  (0x09 ≤ n && n ≤ 0x0D) || (0x1C ≤ n && n ≤ 0x20) || n == 0x85 || n == 0xA0 || n == 0x1680 ||
    (0x2000 ≤ n && n ≤ 0x200A) || n == 0x2028 || n == 0x2029 || n == 0x202F || n == 0x205F ||
    n == 0x3000

/-- The characters that end a line. -/
def isLineBreak (c : Char) : Bool :=
  let n := c.toNat
  (0x0A ≤ n && n ≤ 0x0D) || (0x1C ≤ n && n ≤ 0x1E) || n == 0x85 || n == 0x2028 || n == 0x2029

/-- The two characters that indent a line. -/
def isIndent (c : Char) : Bool := c == ' ' || c == '\t'

def dropEnd (p : Char → Bool) (s : List Char) : List Char := (s.reverse.dropWhile p).reverse

/-- The text without the characters of the class `p` at its two ends. -/
def trim (p : Char → Bool) (s : List Char) : List Char := dropEnd p (s.dropWhile p)

def strip (s : List Char) : List Char := trim isBlank s

def isBlankText (s : List Char) : Bool := s.all isBlank

/-- Adds a character to the first of several pieces. -/
def consHead (c : Char) : List (List Char) → List (List Char)
  | [] => [[c]]
  | l :: ls => (c :: l) :: ls

def splitLines : List Char → List (List Char)
  | [] => []
  | '\r' :: '\n' :: r => [] :: splitLines r
  | c :: r => if isLineBreak c then [] :: splitLines r else consHead c (splitLines r)

/-- The text with a line feed in place of every carriage return, and of every carriage return with a
line feed behind it. -/
def unifyBreaks : List Char → List Char
  | [] => []
  | '\r' :: '\n' :: r => '\n' :: unifyBreaks r
  | c :: r => (if c = '\r' then '\n' else c) :: unifyBreaks r

/-- The text up to the first blank, and the text after the run of blanks found there. -/
def firstWord (s : List Char) : List Char × List Char :=
  (s.takeWhile (!isBlank ·), (s.dropWhile (!isBlank ·)).dropWhile isBlank)

end Chars

namespace Text

def strip (s : String) : String := String.ofList (Chars.strip s.toList)

@[simp] theorem toList_strip (s : String) : (strip s).toList = Chars.strip s.toList := by
  simp [strip]

def isBlankText (s : String) : Bool := Chars.isBlankText s.toList

def splitLines (s : String) : List String := (Chars.splitLines s.toList).map String.ofList

/-- The words of a string: what stands between spaces and line feeds. -/
def words (s : String) : List String :=
  ((s.splitOn "\n").flatMap fun l => l.splitOn " ").filter (· != "")

end Text

end RouteDoc
