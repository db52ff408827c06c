import RouteDoc.Text.CharacterName
import RouteDoc.Text.Identifier

/-!
# Text literals of scripts

* `Literal`: a literal in quotes as it stands in a script: its marks and its body.
* `Literal.decode?`: the text that a body spells, escapes read.  Some escapes are faulty; an unknown
  one stands for itself.
-/

namespace RouteDoc.Script

structure Literal where
  isRaw : Bool := false
  isBytes : Bool := false
  /-- Whether expressions in braces are part of it. -/
  isFormatted : Bool := false
  body : List Char := []
  deriving DecidableEq, Inhabited

namespace Literal

def escapes : List (Char × Nat) :=
  [('\\', 0x5C), ('\'', 0x27), ('"', 0x22), ('a', 0x07), ('b', 0x08), ('f', 0x0C), ('n', 0x0A),
   ('r', 0x0D), ('t', 0x09), ('v', 0x0B)]

/-- The number of digits of the escapes that give a code. -/
def codeLength? : Char → Option Nat
  | 'x' => some 2
  | 'u' => some 4
  | 'U' => some 8
  | _ => none

/-- The character that is given by its name in braces, and the rest of the text. -/
def cutNamed? : List Char → Option (List Char × List Char)
  | '\x7b' :: r =>
    let name := r.takeWhile (· != '\x7d')
    match r.drop name.length with
    | _ :: r => (Chars.ofName? name).map fun c => ([c], r)
    | [] => none
  | _ => none

/-- The character whose code is given in two halves, the first of them by `code` and the second one
by an escape in front of the text; and the rest of that. -/
def cutSecondHalf? (code : Nat) : List Char → Option (List Char × List Char)
  | '\\' :: 'u' :: r =>
    let ds := r.take 4
    let second := Chars.ofDigitsIn 16 ds
    if 0xD800 ≤ code ∧ code < 0xDC00 ∧ 0xDC00 ≤ second ∧ second < 0xE000 ∧ ds.length = 4 ∧
        ds.all Chars.isHexDigit = true then
      some ([Char.ofNat (0x10000 + (code - 0xD800) * 0x400 + (second - 0xDC00))], r.drop 4)
    else none
  | _ => none

/-- What the escape behind a backslash stands for, and the rest of the text. -/
def cutEscape? (isBytes : Bool) : List Char → Option (List Char × List Char)
  | [] => none
  | c :: r =>
    match escapes.lookup c with
    | some n => some ([Char.ofNat n], r)
    | none =>
      if c = '\n' then some ([], r)
      else if Chars.isOctalDigit c then
        let ds := c :: (r.take 2).takeWhile Chars.isOctalDigit
        some ([Char.ofNat (Chars.ofDigitsIn 8 ds)], r.drop (ds.length - 1))
      else if isBytes && c != 'x' then some (['\\', c], r)
      else match codeLength? c with
        | some n =>
          let ds := r.take n
          let code := Chars.ofDigitsIn 16 ds
          if ds.length = n ∧ ds.all Chars.isHexDigit = true ∧ code < 0x110000 then
            some ((cutSecondHalf? code (r.drop n)).getD ([Char.ofNat code], r.drop n))
          else none
        | none =>
          if c = 'N' then cutNamed? r else some (['\\', c], r)

/-- The text that a body spells.  No more escapes than characters are read. -/
def decodeFrom? (isBytes : Bool) : Nat → List Char → Option (List Char)
  | _, [] => some []
  | 0, _ :: _ => none
  | fuel + 1, c :: r =>
    if c = '\\' then do
      let (s, r) ← cutEscape? isBytes r
      return s ++ (← decodeFrom? isBytes fuel r)
    else (decodeFrom? isBytes fuel r).map (c :: ·)

def decodeText? (isRaw isBytes : Bool) (body : List Char) : Option (List Char) :=
  if isRaw then some body else decodeFrom? isBytes body.length body

def decode? (l : Literal) : Option (List Char) :=
  if l.isBytes && l.body.any (0x80 ≤ ·.toNat) then none else decodeText? l.isRaw l.isBytes l.body

end Literal

end RouteDoc.Script
