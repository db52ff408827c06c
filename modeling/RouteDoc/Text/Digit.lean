import RouteDoc.Text.Word

/-!
# Digits in other bases

* `Chars.isOctalDigit`, `Chars.isHexDigit`: the digits of base eight and sixteen, in ASCII.
* `Chars.ofDigitsIn`: the number that digits in a base spell.
* `Chars.codeEscape`: what stands for a character that is given by its code.
-/

namespace RouteDoc.Chars

def isOctalDigit (c : Char) : Bool := '0' ≤ c && c ≤ '7'

def isHexDigit (c : Char) : Bool :=
  isAsciiDigit c || ('a' ≤ c && c ≤ 'f') || ('A' ≤ c && c ≤ 'F')

def hexValue (c : Char) : Nat :=
  if isAsciiDigit c then c.toNat - 0x30 else (asciiLower c).toNat - 0x57

def isDigitIn (base : Nat) (c : Char) : Bool := isHexDigit c && hexValue c < base

def ofDigitsIn (base : Nat) (ds : List Char) : Nat := ds.foldl (fun n d => base * n + hexValue d) 0

/-- The digits of a number in base sixteen, at least `width` of them. -/
def hexDigits (width n : Nat) : List Char :=
  let ds := Nat.toDigits 16 n
  List.replicate (width - ds.length) '0' ++ ds

/-- The escape of a character by its code: a letter for the number of digits, and the digits. -/
def codeEscape (c : Char) : Char × List Char :=
  if c.toNat ≤ 0xFF then ('x', hexDigits 2 c.toNat)
  else if c.toNat ≤ 0xFFFF then ('u', hexDigits 4 c.toNat)
  else ('U', hexDigits 8 c.toNat)

end RouteDoc.Chars
