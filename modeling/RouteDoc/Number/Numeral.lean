import RouteDoc.Number.Binary64
import RouteDoc.Text.Blank
import RouteDoc.Text.Digit

/-!
# Numerals

How numbers are spelled.

* `Numeral.readInt?`: a sign and decimal digits of any script, blanks around them.  Single low
  lines may stand between digits.
* `Numeral.readIntIn?`: the same in base two, eight or sixteen, whose digits may have a mark in
  front of them.
* `Numeral.readFloat?`: the same for decimal fractions with or without an exponent, and for the
  infinities and not-a-number.
* `FloatStyle.write`: the shortest digits of a number, written positionally within the bounds of
  the style and with an exponent outside them.
-/

namespace RouteDoc

namespace Numeral

def ofDigits (ds : List Nat) : Nat := ds.foldl (fun n d => 10 * n + d) 0

/-- The value of decimal digits of any script. -/
def ofDecimals (digits : List Char) : Nat := ofDigits (digits.filterMap Chars.decimalValue?)

/-- Every decimal digit as the ASCII digit of its value. -/
def asciiDigits (s : List Char) : List Char :=
  s.map fun c => match Chars.decimalValue? c with
    | some d => Char.ofNat (0x30 + d)
    | none => c

/-- Drops the low lines that stand between two digits; any other low line is a fault. -/
def dropSeparators? (s : List Char) : Option (List Char) :=
  go false s
where
  /-- `afterDigit` says whether the character before is a digit. -/
  go (afterDigit : Bool) : List Char → Option (List Char)
    | [] => some []
    | '_' :: c :: r =>
      if afterDigit && Chars.isAsciiDigit c then (go true r).map (c :: ·) else none
    | ['_'] => none
    | c :: r => (go (Chars.isAsciiDigit c) r).map (c :: ·)

def cutSign : List Char → Bool × List Char
  | '-' :: r => (true, r)
  | '+' :: r => (false, r)
  | s => (false, s)

/-- The value of a nonempty run of ASCII digits. -/
def readDigits? (s : List Char) : Option Nat :=
  if s ≠ [] ∧ s.all Chars.isAsciiDigit = true then
    some (ofDigits (s.map fun c => c.toNat - 0x30))
  else none

/-- The greatest number of digits of an integer in base ten that is read. -/
def mostDigits : Nat := 4300

def withSign (negative : Bool) (n : Nat) : Int := if negative then -(Int.ofNat n) else Int.ofNat n

def readInt? (s : List Char) : Option Int := do
  let (negative, digits) := cutSign (asciiDigits (Chars.strip s))
  let digits ← dropSeparators? digits
  if mostDigits < digits.length then none
  else (readDigits? digits).map (withSign negative)

/-! ## Other bases -/

/-- The letter that marks digits in a base. -/
def baseMark? : Nat → Option Char
  | 2 => some 'b'
  | 8 => some 'o'
  | 16 => some 'x'
  | _ => none

/-- The digits behind a zero and the mark of their base, if those are there. -/
def dropBaseMark (base : Nat) (s : List Char) : List Char :=
  match s with
  | '0' :: c :: r => if baseMark? base = some (Chars.asciiLower c) then r else s
  | _ => s

/-- Reads an integer in a base up to sixteen, without low lines. -/
def readIntIn? (base : Nat) (s : List Char) : Option Int :=
  let (negative, digits) := cutSign (asciiDigits (Chars.strip s))
  let ds := dropBaseMark base digits
  if ds ≠ [] ∧ ds.all (Chars.isDigitIn base) = true then
    some (withSign negative (Chars.ofDigitsIn base ds))
  else none

/-! ## Floating point numbers -/

def readExponent? : List Char → Option Int
  | [] => some 0
  | c :: r =>
    if c = 'e' ∨ c = 'E' then
      let (negative, digits) := cutSign r
      (readDigits? digits).map fun n => if negative then -(Int.ofNat n) else Int.ofNat n
    else none

/-- Reads digits with at most one point among them, and an exponent. -/
def readDecimal? (negative : Bool) (s : List Char) : Option Binary64 := do
  let whole := s.takeWhile Chars.isAsciiDigit
  let rest := s.dropWhile Chars.isAsciiDigit
  let (fraction, rest) := match rest with
    | '.' :: r => (r.takeWhile Chars.isAsciiDigit, r.dropWhile Chars.isAsciiDigit)
    | _ => ([], rest)
  let digits ← readDigits? (whole ++ fraction)
  let exponent ← readExponent? rest
  some (.ofDecimal negative digits (exponent - (fraction.length : Int)))

/-- Reads a floating point number. -/
def readFloat? (s : List Char) : Option Binary64 := do
  let (negative, body) := cutSign (← dropSeparators? (asciiDigits (Chars.strip s)))
  let word := body.map Chars.asciiLower
  if word = "inf".toList ∨ word = "infinity".toList then some (.infinite negative)
  else if word = "nan".toList then some .nan
  else readDecimal? negative body

end Numeral

structure FloatStyle where
  /-- The least power of ten of a leading digit that is written positionally. -/
  leastPositional : Int := -4
  /-- The least power of ten of a leading digit that is too large to be written positionally. -/
  leastExponential : Int := 16
  /-- Whether a single digit before an exponent is followed by a point and a zero. -/
  pointBeforeExponent : Bool := false
  infinity : String := "inf"
  nan : String := "nan"

namespace FloatStyle

def digits (n : Nat) : List Char := Nat.toDigits 10 n

/-- The sign and at least two digits of an exponent. -/
def writeExponent (k : Int) : List Char :=
  let ds := digits k.natAbs
  (if k < 0 then '-' else '+') :: (if ds.length < 2 then '0' :: ds else ds)

/-- Digits with the leading one at the power `lead` of ten, written without an exponent. -/
def writePositional (ds : List Char) (lead : Int) : List Char :=
  if lead < 0 then
    '0' :: '.' :: (List.replicate (-lead - 1).toNat '0' ++ ds)
  else
    let whole := lead.toNat + 1
    if ds.length ≤ whole then ds ++ List.replicate (whole - ds.length) '0' ++ ['.', '0']
    else ds.take whole ++ '.' :: ds.drop whole

/-- Digits with the leading one at the power `lead` of ten, written with an exponent. -/
def writeExponential (style : FloatStyle) (ds : List Char) (lead : Int) : List Char :=
  let mantissa := match ds with
    | [d] => if style.pointBeforeExponent then [d, '.', '0'] else [d]
    | d :: r => d :: '.' :: r
    | [] => []
  mantissa ++ 'e' :: writeExponent lead

/-- The text of a number above or equal to zero. -/
def writeMagnitude (style : FloatStyle) (m : Nat) (e : Int) : List Char :=
  if m = 0 then ['0', '.', '0']
  else
    let (n, k) := Binary64.shortest m e
    let ds := digits n
    let lead := k + (ds.length : Int) - 1
    if style.leastPositional ≤ lead ∧ lead < style.leastExponential then writePositional ds lead
    else style.writeExponential ds lead

def write (style : FloatStyle) : Binary64 → String
  | .nan => style.nan
  | .infinite negative => (if negative then "-" else "") ++ style.infinity
  | .finite negative m e =>
    (if negative then "-" else "") ++ String.ofList (style.writeMagnitude m e)

end FloatStyle

end RouteDoc
