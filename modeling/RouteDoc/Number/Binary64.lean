/-!
# Binary floating point numbers

A `Binary64` is a sign, a mantissa of at most 53 bits and a power of two, or an infinity, or not a
number.  All arithmetic is exact on natural numbers.

* `Binary64.ofRatio`: a fraction rounded to the nearest number, ties to the even mantissa.
* `Binary64.ofDecimal`: the same for digits times a power of ten.
* `Binary64.add`, `Binary64.scale`: sums, and products with integers, rounded likewise.
* `Binary64.shortest`: the fewest decimal digits that read back as the number, and of those the
  nearest.
-/

namespace RouteDoc

/-- A number of the form `± mantissa * 2 ^ exponent` with a mantissa below `2 ^ 53`, an infinity, or
not a number. -/
inductive Binary64 where
  | finite (negative : Bool) (mantissa : Nat) (exponent : Int)
  | infinite (negative : Bool)
  | nan
  deriving DecidableEq, Inhabited

/-- A quotient rounded to the nearest integer, a half to the even one. -/
def roundDiv (num den : Nat) : Nat :=
  let q := num / den
  let twice := 2 * (num % den)
  if twice < den then q else if den < twice then q + 1 else q + q % 2

/-- The number of decimal digits. -/
def decimalLength (n : Nat) : Nat := (Nat.toDigits 10 n).length

namespace Binary64

/-- The exponent of the smallest numbers. -/
def leastExponent : Int := -1074

/-- The exponent of the greatest numbers. -/
def greatestExponent : Int := 971

/-- The least mantissa of 53 bits. -/
def implicitBit : Nat := 0x10000000000000

def zero (negative : Bool) : Binary64 := .finite negative 0 leastExponent

/-- The binary exponent at which `num / den` has an integral part of 53 bits, or the least one. -/
def exponentFor (num den : Nat) : Int :=
  let e : Int := (num.log2 : Int) - (den.log2 : Int) - 52
  let e := if num * Nat.pow 2 (-e).toNat < implicitBit * den * Nat.pow 2 e.toNat then e - 1 else e
  max e leastExponent

/-- The number nearest to `num / den`; of two equally near ones the one with even mantissa. -/
def ofRatio (negative : Bool) (num den : Nat) : Binary64 :=
  if num = 0 then zero negative
  else
    let e := exponentFor num den
    let m := roundDiv (num * Nat.pow 2 (-e).toNat) (den * Nat.pow 2 e.toNat)
    let (m, e) := if m = 2 * implicitBit then (implicitBit, e + 1) else (m, e)
    if greatestExponent < e then .infinite negative else .finite negative m e

def ofDecimal (negative : Bool) (digits : Nat) (exponent : Int) : Binary64 :=
  if digits = 0 then zero negative
  else
    let magnitude := (decimalLength digits : Int) + exponent
    if 310 < magnitude then .infinite negative
    else if magnitude < -330 then zero negative
    else ofRatio negative (digits * Nat.pow 10 exponent.toNat) (Nat.pow 10 (-exponent).toNat)

/-- The integer that a number is, if it is one. -/
def toInt? : Binary64 → Option Int
  | .finite negative m e =>
    let num := m * Nat.pow 2 e.toNat
    let den := Nat.pow 2 (-e).toNat
    if num % den = 0 then
      some (if negative then -(Int.ofNat (num / den)) else Int.ofNat (num / den))
    else none
  | _ => none

/-! ## Arithmetic -/

/-- The number nearest to an integer times a power of two. -/
def ofDyadic (n e : Int) : Binary64 :=
  ofRatio (n < 0) (n.natAbs * Nat.pow 2 e.toNat) (Nat.pow 2 (-e).toNat)

/-- The signed mantissa of `± m * 2 ^ e`, written with the exponent `least`, which is at most
`e`. -/
def mantissaAt (least : Int) (negative : Bool) (m : Nat) (e : Int) : Int :=
  let n := m * Nat.pow 2 (e - least).toNat
  if negative then -(Int.ofNat n) else Int.ofNat n

def add : Binary64 → Binary64 → Binary64
  | .nan, _ | _, .nan => .nan
  | .infinite a, .infinite b => if a = b then .infinite a else .nan
  | .infinite a, _ => .infinite a
  | _, .infinite b => .infinite b
  | .finite a m e, .finite b n f =>
    let least := min e f
    let sum := mantissaAt least a m e + mantissaAt least b n f
    if sum = 0 then zero (a && b) else ofDyadic sum least

/-- The product of a number and a positive integer. -/
def scale (k : Nat) : Binary64 → Binary64
  | .finite a m e => ofRatio a (m * k * Nat.pow 2 e.toNat) (Nat.pow 2 (-e).toNat)
  | x => x

def neg : Binary64 → Binary64
  | .finite a m e => .finite (!a) m e
  | .infinite a => .infinite (!a)
  | .nan => .nan

/-! ## Shortest digits -/

/-- `m * 2 ^ e / 10 ^ k` as a fraction. -/
def scaled (m : Nat) (e k : Int) : Nat × Nat :=
  (m * Nat.pow 2 e.toNat * Nat.pow 10 (-k).toNat, Nat.pow 2 (-e).toNat * Nat.pow 10 k.toNat)

/-- The power of ten of the leading digit of `m * 2 ^ e`, for `m` above zero. -/
def leadingPower (m : Nat) (e : Int) : Int :=
  let estimate := ((m.log2 : Int) + e) * 30103 / 100000
  let reaches (k : Int) : Bool := let (num, den) := scaled m e k; den ≤ num
  if reaches (estimate + 1) then estimate + 1
  else if reaches estimate then estimate else estimate - 1

/-- The neighbour of `m * 2 ^ e` on the grid of multiples of `10 ^ k` that reads back as it; of two
the nearer, of two equally near the even one. -/
def onGrid? (m : Nat) (e k : Int) : Option Nat :=
  let (num, den) := scaled m e k
  let below := num / den
  let hits (n : Nat) : Bool := ofDecimal false n k == .finite false m e
  match hits below, hits (below + 1) with
  | true, true => some (roundDiv num den)
  | true, false => some below
  | false, true => some (below + 1)
  | false, false => none

/-- Digits without the zeros at their end, and the power of ten that goes with them. -/
def dropZeros : Nat → Nat → Int → Nat × Int
  | 0, n, k => (n, k)
  | fuel + 1, n, k => if n % 10 = 0 ∧ n ≠ 0 then dropZeros fuel (n / 10) (k + 1) else (n, k)

/-- The fewest digits `n`, with a power of ten `k`, such that `n * 10 ^ k` reads back as
`m * 2 ^ e`, and of those the nearest.  Seventeen digits always do. -/
def shortest (m : Nat) (e : Int) : Nat × Int :=
  let lead := leadingPower m e
  let grids := (List.range 17).map fun (i : Nat) => lead - (i : Int)
  match grids.findSome? fun k => (onGrid? m e k).map fun n => (n, k) with
  | some (n, k) => dropZeros (decimalLength n) n k
  | none => (m, e)

end Binary64

end RouteDoc
