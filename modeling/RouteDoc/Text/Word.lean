import RouteDoc.Text.Ranges

/-!
# Word characters and letter case

* `Chars.isWord`: letters, numbers and the low line, of any script.
* `Chars.isDecimal`, `Chars.decimalValue?`: the decimal digits of any script, and what they count.
* `Chars.capital`: how a letter is spelled in ASCII capitals, for the letters that have such a
  spelling.
* `Chars.lower`: small letters for the letters of ASCII and for those of its two neighbours whose
  small form is an ASCII letter.
-/

namespace RouteDoc.Chars

def inRanges (ranges : List (Nat × Nat)) (n : Nat) : Bool :=
  ranges.any fun r => r.1 ≤ n && n ≤ r.2

def isAsciiUpper (c : Char) : Bool := 'A' ≤ c && c ≤ 'Z'

def isAsciiLower (c : Char) : Bool := 'a' ≤ c && c ≤ 'z'

def isAsciiDigit (c : Char) : Bool := '0' ≤ c && c ≤ '9'

def isAsciiLetter (c : Char) : Bool := isAsciiUpper c || isAsciiLower c

/-- Letters and numbers of any script, and the low line. -/
def isWord (c : Char) : Bool :=
  if c.toNat < 0x80 then isAsciiLetter c || isAsciiDigit c || c == '_'
  else inRanges wordRanges c.toNat

/-- The value of a decimal digit of any script.  The digits of a script follow each other from zero
to nine. -/
def decimalValue? (c : Char) : Option Nat :=
  if c.toNat < 0x80 then
    if isAsciiDigit c then some (c.toNat - 0x30) else none
  else (decimalRanges.find? fun r => r.1 ≤ c.toNat && c.toNat ≤ r.2).map
    fun r => (c.toNat - r.1) % 10

/-- Decimal digits of any script. -/
def isDecimal (c : Char) : Bool := (decimalValue? c).isSome

/-- The ASCII capital of an ASCII letter; other characters stay. -/
def asciiUpper (c : Char) : Char :=
  if isAsciiLower c then Char.ofNat (c.toNat - 0x20) else c

/-- The ASCII small letter of an ASCII letter; other characters stay. -/
def asciiLower (c : Char) : Char :=
  if isAsciiUpper c then Char.ofNat (c.toNat + 0x20) else c

/-- A letter in capitals.  Beside the letters of ASCII these are the long s, the dotless i and the
ligatures, whose capitals are letters of ASCII; every other character stays. -/
def capital (c : Char) : List Char :=
  match c.toNat with
  | 0x017F => ['S']
  | 0x0131 => ['I']
  | 0x00DF => ['S', 'S']
  | 0xFB00 => ['F', 'F']
  | 0xFB01 => ['F', 'I']
  | 0xFB02 => ['F', 'L']
  | 0xFB03 => ['F', 'F', 'I']
  | 0xFB04 => ['F', 'F', 'L']
  | 0xFB05 => ['S', 'T']
  | 0xFB06 => ['S', 'T']
  | _ => [asciiUpper c]

/-- A text in capitals, as far as its capitals are letters of ASCII. -/
def capitals (s : List Char) : List Char := s.flatMap capital

/-- A letter in small letters.  Beside the letters of ASCII these are the dotted capital i, which
keeps its dot as a mark, and the kelvin sign. -/
def lower (c : Char) : List Char :=
  match c.toNat with
  | 0x0130 => ['i', Char.ofNat 0x0307]
  | 0x212A => ['k']
  | _ => [asciiLower c]

/-- A text in small letters, as far as letters of ASCII are concerned. -/
def lowers (s : List Char) : List Char := s.flatMap lower

end RouteDoc.Chars
