import RouteDoc.Yaml.ScalarType

/-!
# Styles of scalars

A text is written without quotes if it reads back as itself, and in quotes otherwise.

* `Style.of`: the style of a text: plain, in single quotes, in double quotes, or as a literal block.
* `allowsPlain`, `allowsSingle`, `allowsLiteral`: what each style asks of the text.
-/

namespace RouteDoc.Yaml

/-- How a text is written. -/
inductive Style where
  | plain
  | single
  | double
  | literal
  deriving DecidableEq, Inhabited

def isBreak (c : Char) : Bool :=
  c == '\n' || c.toNat == 0x85 || c.toNat == 0x2028 || c.toNat == 0x2029

/-- The characters that separate words. -/
def isSeparator (c : Char) : Bool :=
  isBreak c || c == ' ' || c == '\t' || c == '\r' || c.toNat == 0

/-- The characters that stand for themselves outside double quotes. -/
def isOrdinary (c : Char) : Bool :=
  let n := c.toNat
  c == '\n' || (0x20 ≤ n && n ≤ 0x7E) || n == 0x85 || (0xA0 ≤ n && n ≤ 0xFFFD && n != 0xFEFF) ||
    (0x10000 ≤ n && n < 0x10FFFF)

namespace Style

/-- The characters that begin something else than a plain scalar. -/
def indicators : List Char := "#,[]\x7b\x7d&*!|>'\"%@`".toList

/-- The characters that do so if a separator follows. -/
def looseIndicators : List Char := ['?', ':', '-']

def endsWord (s : List Char) : Bool := s.head?.all isSeparator

/-- Whether the beginning of a text is an indicator. -/
def beginsWithIndicator : List Char → Bool
  | [] => false
  | c :: r =>
    indicators.contains c || (looseIndicators.contains c && endsWord r) ||
      Chars.startsWith (c :: r) "---".toList || Chars.startsWith (c :: r) "...".toList

/-- Whether a colon ends a word, or a number sign begins one. -/
def holdsIndicator : Bool → List Char → Bool
  | _, [] => false
  | atStart, c :: r =>
    (c == ':' && endsWord r) || (c == '#' && atStart) || holdsIndicator (isSeparator c) r

/-- Whether a character of one class stands right before one of another. -/
def holdsPair (p q : Char → Bool) : List Char → Bool
  | c :: d :: r => (p c && q d) || holdsPair p q (d :: r)
  | _ => false

def isSpace (c : Char) : Bool := c == ' '

/-- Whether a text has spaces at the end of a line, or characters that have to be escaped. -/
def needsEscape (s : List Char) : Bool := holdsPair isSpace isBreak s || !s.all isOrdinary

/-- Whether a text can be a literal block. -/
def allowsLiteral (s : List Char) : Bool := !needsEscape s && s.getLast? != some ' '

def allowsSingle (s : List Char) : Bool := !needsEscape s && !holdsPair isBreak isSpace s

def allowsPlain (s : List Char) : Bool :=
  ScalarType.ofPlain s = .text && !needsEscape s && !s.any isBreak && s.head? != some ' ' &&
    s.getLast? != some ' ' && !beginsWithIndicator s && !holdsIndicator true s

/-- The style of a text.  With `blocks`, a text of several lines is a literal block if it can be
one. -/
def of (blocks : Bool) (s : List Char) : Style :=
  if blocks && s.contains '\n' then (if allowsLiteral s then .literal else .double)
  else if allowsPlain s then .plain
  else if allowsSingle s then .single
  else .double

end Style

end RouteDoc.Yaml
