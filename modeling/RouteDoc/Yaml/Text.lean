import RouteDoc.Yaml.Style

/-!
# Writing the text of a scalar

* `Page`: how wide lines are, and whether texts of several lines are literal blocks.
* `Page.plain`, `Page.single`, `Page.double`: a text in each style, from some column on.  Past the
  width of the page, a line is continued on the next one at a single space, or in double quotes at
  any place.
* `literal`: a text as a block of lines.
-/

namespace RouteDoc.Yaml

/-- Where lines are broken. -/
structure Page where
  /-- The column from which on a line is continued on the next one, if it ever is. -/
  width : Option Nat
  /-- The indentation of the lines that continue a scalar. -/
  indent : Nat := 0
  deriving DecidableEq, Inhabited

def spaces (n : Nat) : List Char := List.replicate n ' '

namespace Page

def isPast (p : Page) (column : Nat) : Bool := p.width.any (· < column)

def newLine (p : Page) : List Char := '\n' :: spaces p.indent

/-! ## Plain scalars and single quotes -/

/-- What has been read and not written yet. -/
inductive Gap where
  | none
  | blanks (n : Nat)
  | breaks
  deriving DecidableEq, Inhabited

/-- Spaces between two words, or a new line in place of a single one; with the column behind. -/
def writeBlanks (p : Page) (column n : Nat) : List Char × Nat :=
  if n = 1 ∧ p.isPast column = true then (p.newLine, p.indent) else (spaces n, column + n)

/-- The rest of a plain scalar, from a column on, with some spaces in front of it. -/
def plain (p : Page) : Nat → Nat → List Char → List Char
  | _, n, [] => spaces n
  | column, n, c :: r =>
    if c = ' ' then plain p column (n + 1) r
    else
      let (gap, column) := writeBlanks p column n
      gap ++ c :: plain p (column + 1) 0 r

/-- The gap in front of a word in single quotes, and the column behind it.  Spaces at the very
beginning are kept. -/
def writeGap (p : Page) (atStart : Bool) (column : Nat) : Gap → List Char × Nat
  | .none => ([], column)
  | .blanks n => if atStart then (spaces n, column + n) else writeBlanks p column n
  | .breaks => (spaces p.indent, p.indent)

/-- The rest of a text in single quotes, with the closing one.  A quote is written twice, and so is
the first line break of several. -/
def single (p : Page) : Bool → Nat → Gap → List Char → List Char
  | _, _, .none, [] => ['\'']
  | _, _, .blanks n, [] => spaces n ++ ['\'']
  | _, _, .breaks, [] => spaces p.indent ++ ['\'']
  | atStart, column, gap, c :: r =>
    if c = ' ' then
      match gap with
      | .none => single p atStart column (.blanks 1) r
      | .blanks n => single p atStart column (.blanks (n + 1)) r
      | .breaks => spaces p.indent ++ single p false p.indent (.blanks 1) r
    else if isBreak c then
      match gap with
      | .breaks => c :: single p false column .breaks r
      | .none => (if c = '\n' then ['\n', '\n'] else [c]) ++ single p false column .breaks r
      | .blanks n => spaces n ++ (if c = '\n' then ['\n', '\n'] else [c]) ++
          single p false column .breaks r
    else
      let (before, column) := writeGap p atStart column gap
      if c = '\'' then before ++ '\'' :: '\'' :: single p false (column + 2) .none r
      else before ++ c :: single p false (column + 1) .none r

/-! ## Double quotes -/

/-- The characters that have an escape of one letter. -/
def namedEscapes : List (Nat × Char) :=
  [(0x00, '0'), (0x07, 'a'), (0x08, 'b'), (0x09, 't'), (0x0A, 'n'), (0x0B, 'v'), (0x0C, 'f'),
   (0x0D, 'r'), (0x1B, 'e'), (0x22, '"'), (0x5C, '\\'), (0x85, 'N'), (0xA0, '_'), (0x2028, 'L'),
   (0x2029, 'P')]

def isEscaped (c : Char) : Bool :=
  let n := c.toNat
  c == '"' || c == '\\' || n == 0x2028 || n == 0x2029 || n == 0xFEFF ||
    !((0x20 ≤ n && n ≤ 0x7E) || (0xA0 ≤ n && n ≤ 0xFFFD))

def escape (c : Char) : List Char :=
  match namedEscapes.lookup c.toNat with
  | some d => ['\\', d]
  | none =>
    let (letter, digits) := Chars.codeEscape c
    '\\' :: letter :: digits.map Chars.asciiUpper

/-- The end of a line that is continued on the next one.  A space there needs a mark of its own. -/
def continued (p : Page) (next : Option Char) : List Char × Nat :=
  if next = some ' ' then ('\\' :: p.newLine ++ ['\\'], p.indent + 1)
  else ('\\' :: p.newLine, p.indent)

/-- The rest of a text in double quotes, with the closing one.  `column` counts what is written, and
`pending` what waits since the last escape or the last place where the line could be broken. -/
def double (p : Page) (atStart : Bool) (column pending : Nat) : List Char → List Char
  | [] => ['"']
  | c :: r =>
    let canBreak := !atStart && !r.isEmpty
    if isEscaped c then
      let out := escape c
      let column := column + pending + out.length
      if canBreak && p.isPast (column - 1) then
        let (turn, column) := continued p r.head?
        out ++ turn ++ double p false column 0 r
      else out ++ double p false column 0 r
    else if canBreak && (c == ' ' || pending == 0) && p.isPast (column + pending) then
      let (turn, column) := continued p (some c)
      turn ++ c :: double p false column 1 r
    else c :: double p false column (pending + 1) r

end Page

/-! ## Literal blocks -/

/-- The marks in the head of a literal block: the indentation if the text begins with a blank, and
what happens to the line breaks at its end. -/
def blockMarks (s : List Char) : List Char :=
  let start := if s.head?.any fun c => c == ' ' || isBreak c then ['2'] else []
  let tail := match s.reverse with
    | [] => []
    | [c] => if isBreak c then ['+'] else ['-']
    | c :: d :: _ => if isBreak c then (if isBreak d then ['+'] else []) else ['-']
  start ++ tail

def literalLines (indent : Nat) : Bool → List Char → List Char
  | atStart, [] => if atStart then [] else ['\n']
  | atStart, c :: r =>
    if isBreak c then c :: literalLines indent true r
    else (if atStart then spaces indent else []) ++ c :: literalLines indent false r

def literal (indent : Nat) (s : List Char) : List Char :=
  '|' :: blockMarks s ++ '\n' :: literalLines indent true s

end RouteDoc.Yaml
