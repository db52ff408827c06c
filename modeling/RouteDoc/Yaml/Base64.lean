import RouteDoc.Text.Word

/-!
# Bytes in base 64

* `Base64.decode?`: the bytes that a text spells.  Characters that are no digits count for nothing;
  the digits have to come to whole bytes, with equals signs in place of those that are left out.
-/

namespace RouteDoc.Yaml.Base64

def digit? (c : Char) : Option Nat :=
  if Chars.isAsciiUpper c then some (c.toNat - 0x41)
  else if Chars.isAsciiLower c then some (c.toNat - 0x47)
  else if Chars.isAsciiDigit c then some (c.toNat + 4)
  else if c = '+' then some 62
  else if c = '/' then some 63
  else none

/-- The bytes of a text, when `count` digits of the last group of four were read, the bits `left` of
the last one are not part of a byte yet, and `pads` equals signs came after it. -/
def decodeFrom? (count left pads : Nat) : List Char → Option (List UInt8)
  | [] => if count = 0 then some [] else none
  | c :: r =>
    if c = '=' then
      if 2 ≤ count then
        if 3 ≤ count + pads then some [] else decodeFrom? count left (pads + 1) r
      else decodeFrom? count left pads r
    else match digit? c with
      | none => decodeFrom? count left pads r
      | some d =>
        match count with
        | 0 => decodeFrom? 1 d 0 r
        | 1 => (decodeFrom? 2 (d % 16) 0 r).map (UInt8.ofNat (left * 4 + d / 16) :: ·)
        | 2 => (decodeFrom? 3 (d % 4) 0 r).map (UInt8.ofNat (left * 16 + d / 4) :: ·)
        | _ => (decodeFrom? 0 0 0 r).map (UInt8.ofNat (left * 64 + d) :: ·)

def decode? (s : List Char) : Option (List UInt8) := decodeFrom? 0 0 0 s

end RouteDoc.Yaml.Base64
