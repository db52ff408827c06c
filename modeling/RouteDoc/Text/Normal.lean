import RouteDoc.Text.Blank
import RouteDoc.Text.Digit
import RouteDoc.Text.Part

/-!
# Normal forms of names

A name can be written in several ways that count as one: a letter with a mark or a letter and a mark
behind it, letters in the shapes of other fonts.

* `Chars.decompose`: a character taken apart.
* `Chars.putInOrder`: marks behind a letter, in the order of their classes.
* `Chars.compose`: letters put together with the marks behind them.
* `Chars.normalName`: the form that a name has for comparison.
-/

namespace RouteDoc.Chars

/-! ## The tables -/

/-- The parts of the characters of a run. -/
structure PartsEntry where
  first : Nat
  last : Nat
  /-- Whether the parts can be put together again. -/
  isComposed : Bool
  parts : List Nat
  deriving Inhabited

def readRun (s : List Char) : Nat × Nat :=
  let first := s.takeWhile (· != '-')
  let last := s.drop (first.length + 1)
  (ofDigitsIn 16 first, ofDigitsIn 16 (if last.isEmpty then first else last))

def PartsEntry.ofText (s : List Char) : PartsEntry :=
  let isSign (c : Char) : Bool := c == '=' || c == '!' || c == '~'
  let run := s.takeWhile fun c => !isSign c
  let rest := s.dropWhile fun c => !isSign c
  let (first, last) := readRun run
  { first, last, isComposed := rest.head? == some '='
    parts := ((String.ofList rest.tail).splitOn "+").map fun p => ofDigitsIn 16 p.toList }

def partsTable : List PartsEntry :=
  (Text.words partsText).map fun s => PartsEntry.ofText s.toList

/-- The classes of the marks of runs. -/
def markClasses : List ((Nat × Nat) × Nat) :=
  (Text.words markClassesText).map fun s =>
    let run := s.toList.takeWhile (· != ':')
    (readRun run, ofDigitsIn 10 (s.toList.drop (run.length + 1)))

/-- The class of a mark; zero for all else. -/
def markClass (c : Char) : Nat :=
  if c.toNat < 0x300 then 0
  else ((markClasses.find? fun e => e.1.1 ≤ c.toNat && c.toNat ≤ e.1.2).map Prod.snd).getD 0

/-! ## Syllables that are built by a rule -/

def syllableBase : Nat := 0xAC00
def leadBase : Nat := 0x1100
def vowelBase : Nat := 0x1161
def tailBase : Nat := 0x11A7

/-- The numbers of letters of each sort; one of the tails is none. -/
def leadCount : Nat := 19
def vowelCount : Nat := 21
def tailCount : Nat := 28

def syllableParts? (c : Char) : Option (List Char) :=
  let n := c.toNat - syllableBase
  if syllableBase ≤ c.toNat ∧ n < leadCount * vowelCount * tailCount then
    let tail := n % tailCount
    some (Char.ofNat (leadBase + n / (vowelCount * tailCount)) ::
      Char.ofNat (vowelBase + n % (vowelCount * tailCount) / tailCount) ::
      if tail = 0 then [] else [Char.ofNat (tailBase + tail)])
  else none

/-- The syllable of a letter, or of a syllable without a tail, and the letter behind it. -/
def syllable? (a b : Char) : Option Char :=
  let m := a.toNat
  let n := b.toNat
  if leadBase ≤ m ∧ m < leadBase + leadCount ∧ vowelBase ≤ n ∧ n < vowelBase + vowelCount then
    some (Char.ofNat (syllableBase +
      ((m - leadBase) * vowelCount + (n - vowelBase)) * tailCount))
  else if syllableBase ≤ m ∧ m < syllableBase + leadCount * vowelCount * tailCount ∧
      (m - syllableBase) % tailCount = 0 ∧ tailBase < n ∧ n < tailBase + tailCount then
    some (Char.ofNat (m + (n - tailBase)))
  else none

/-! ## Taking apart and putting together -/

def parts? (c : Char) : Option (List Char) :=
  (partsTable.find? fun e => e.first ≤ c.toNat && c.toNat ≤ e.last).map fun e =>
    match e.parts with
    | [p] => [Char.ofNat (p + (c.toNat - e.first))]
    | ps => ps.map Char.ofNat

/-- A character taken apart, its parts too, through at most `depth` steps. -/
def decomposeWithin : Nat → Char → List Char
  | 0, c => [c]
  | depth + 1, c =>
    if c.toNat < 0x80 then [c]
    else match syllableParts? c with
      | some cs => cs
      | none =>
        match parts? c with
        | some cs => cs.flatMap (decomposeWithin depth)
        | none => [c]

def decompose (c : Char) : List Char := decomposeWithin 20 c

/-- A mark put in front of the ones with greater classes at the end of a text, which is in
reverse. -/
def insertMark (c : Char) : List Char → List Char
  | [] => [c]
  | d :: ds => if markClass c < markClass d then d :: insertMark c ds else c :: d :: ds

/-- A text with the marks behind each letter in the order of their classes. -/
def putInOrder (s : List Char) : List Char :=
  (s.foldl (fun reversed c =>
    if markClass c = 0 then c :: reversed else insertMark c reversed) []).reverse

def composed? (a b : Char) : Option Char :=
  (syllable? a b).or ((partsTable.find? fun e =>
    e.isComposed && e.parts == [a.toNat, b.toNat]).map fun e => Char.ofNat e.first)

/-- A letter put together with the marks behind it, as far as they go; `marks` are those that stay
marks, in reverse. -/
def composeFrom (letter : Char) (marks : List Char) : List Char → List Char
  | [] => letter :: marks.reverse
  | c :: cs =>
    let isBlocked : Bool := match marks with
      | m :: _ => markClass c ≤ markClass m
      | [] => false
    match if isBlocked then none else composed? letter c with
    | some l => composeFrom l marks cs
    | none =>
      if markClass c = 0 then letter :: marks.reverse ++ composeFrom c [] cs
      else composeFrom letter (c :: marks) cs

/-- A text with its letters put together with the marks behind them. -/
def compose : List Char → List Char
  | [] => []
  | c :: cs => if markClass c = 0 then composeFrom c [] cs else c :: compose cs

/-- The form that a name has for comparison. -/
def normalName (s : List Char) : List Char :=
  if s.all (·.toNat < 0x80) then s else compose (putInOrder (s.flatMap decompose))

end RouteDoc.Chars
