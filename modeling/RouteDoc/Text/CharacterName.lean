import RouteDoc.Text.Blank
import RouteDoc.Text.Digit
import RouteDoc.Text.Name.Alphabets
import RouteDoc.Text.Name.Ancient
import RouteDoc.Text.Name.Forms
import RouteDoc.Text.Name.Others
import RouteDoc.Text.Name.Pictures
import RouteDoc.Text.Name.Signs
import RouteDoc.Text.Name.Syllabaries

/-!
# Characters by their names

A table of names goes from one character to the next.  An entry says what the name of a character
has in common with the name before it.

* `NameEntry`: an entry of such a table.
* `Chars.ofListedName?`: the character with a name that a table lists.
* `Chars.ofName?`: the character with a name.  The names of Hangul syllables and of unified
  ideographs follow rules and are listed nowhere.
-/

namespace RouteDoc

/-! ## Tables -/

/-- How the name of a character comes from the name before it. -/
inductive NameChange where
  /-- So many words stay at the start and at the end, and others come between them. -/
  | replaced (start : Nat) (words : List String) (final : Nat)
  /-- The number at the end moves on, and goes on to do so for this many characters. -/
  | counted (n : Nat)
  /-- A small letter for a capital one; the next name goes back to the one before. -/
  | small
  deriving DecidableEq, Inhabited

/-- An entry of a table of names: the character, if it is not the next one, and its name. -/
structure NameEntry where
  code : Option Nat
  change : NameChange
  deriving DecidableEq, Inhabited

namespace NameEntry

def wordsOf (s : List Char) : List String :=
  if s.isEmpty then [] else (String.ofList s).splitOn " "

/-- The change that a text spells: `~`, a number behind `+`, or the number of words to keep, a
letter for the number of those to keep at the end, and the words between them. -/
def readChange : List Char → NameChange
  | '+' :: s => .counted (Chars.ofDigitsIn 10 s)
  | '~' :: _ => .small
  | start :: c :: s =>
    if Chars.isAsciiLower c then
      .replaced (Chars.hexValue start) (wordsOf s) (c.toNat - 0x60)
    else .replaced (Chars.hexValue start) (wordsOf (c :: s)) 0
  | [start] => .replaced (Chars.hexValue start) [] 0
  | [] => .small

/-- The entry that a text spells: a code in base sixteen and `=`, which may be missing, and the
change. -/
def ofText (s : List Char) : NameEntry :=
  let code := s.takeWhile (· != '=')
  if code.length = s.length then ⟨none, readChange s⟩
  else ⟨some (Chars.ofDigitsIn 16 code), readChange (s.drop (code.length + 1))⟩

/-- The entries that a text spells, with semicolons between them. -/
def ofTable (s : String) : List NameEntry :=
  (s.splitOn ";").map fun e => ofText (e.toList.filter (· != '\n'))

end NameEntry

namespace Chars

/-- A word with the number at its end counted up by `n`, in no fewer digits. -/
def countUp (n : Nat) (word : String) : String :=
  let s := word.toList
  let stem := dropEnd isAsciiDigit s
  let digits := s.drop stem.length
  let sum := (toString (ofDigitsIn 10 digits + n)).toList
  String.ofList (stem ++ List.replicate (digits.length - sum.length) '0' ++ sum)

def changeLast (f : String → String) : List String → List String
  | [] => []
  | [w] => [f w]
  | w :: ws => w :: changeLast f ws

/-- The words of a name, in which the code of the character stands for `#` at the end. -/
def spelled (code : Nat) (words : List String) : List String :=
  changeLast (fun w =>
    if w.endsWith "#" then
      String.ofList (w.toList.dropLast ++ (hexDigits 4 code).map asciiUpper)
    else w) words

/-- The words of a name that counts up, `n` characters on. -/
def counted (n : Nat) (words : List String) : List String :=
  changeLast (fun w => if w.endsWith "#" then w else countUp n w) words

/-- The code of a character with a name, from an entry on.  The next character has the code `code`,
and the name before it has the words `last`. -/
def findName (wanted : List String) : List NameEntry → Nat → List String → Option Nat
  | [], _, _ => none
  | e :: es, code, last =>
    let code := e.code.getD code
    match e.change with
    | .replaced start words final =>
      let words := last.take start ++ words ++ last.drop (last.length - final)
      if spelled code words == wanted then some code else findName wanted es (code + 1) words
    | .counted n =>
      match (List.range n).find? fun i => spelled (code + i) (counted (i + 1) last) == wanted with
      | some i => some (code + i)
      | none => findName wanted es (code + n) (counted n last)
    | .small =>
      if last.map (fun w => if w = "CAPITAL" then "SMALL" else w) == wanted then some code
      else findName wanted es (code + 1) last

def nameTables : List String :=
  [alphabetNames, signNames, otherNames, pictureNames, syllabaryNames, formNames, ancientNames]

/-- The code of the character with a name that a table lists, in capitals. -/
def ofListedName? (name : List Char) : Option Nat :=
  let wanted := (String.ofList name).splitOn " "
  nameTables.findSome? fun t => findName wanted (NameEntry.ofTable t) 0 []

/-! ## Names by rule -/

/-- The names of the letters of syllables: those in front, the vowels, and those at the end, which
may be missing. -/
def leadNames : List String :=
  ["G", "GG", "N", "D", "DD", "R", "M", "B", "BB", "S", "SS", "", "J", "JJ", "C", "K", "T", "P",
   "H"]

def vowelNames : List String :=
  ["A", "AE", "YA", "YAE", "EO", "E", "YEO", "YE", "O", "WA", "WAE", "OE", "YO", "U", "WEO", "WE",
   "WI", "YU", "EU", "YI", "I"]

def tailNames : List String :=
  ["", "G", "GG", "GS", "N", "NJ", "NH", "D", "L", "LG", "LM", "LB", "LS", "LT", "LP", "LH", "M",
   "B", "BS", "S", "SS", "NG", "J", "C", "K", "T", "P", "H"]

/-- The place of the longest one of some names that a text starts with, and the rest of it. -/
def cutLongest? (names : List String) (s : List Char) : Option (Nat × List Char) :=
  names.zipIdx.foldl (fun best (name, i) =>
    let cs := name.toList
    let isLonger : Bool := match best with
      | some (_, rest) => s.length - rest.length < cs.length
      | none => true
    if cs.isPrefixOf s && isLonger then some (i, s.drop cs.length) else best) none

def ofSyllableName? (s : List Char) : Option Nat := do
  let (lead, s) ← cutLongest? leadNames s
  let (vowel, s) ← cutLongest? vowelNames s
  let (tail, s) ← cutLongest? tailNames s
  if s.isEmpty then
    return 0xAC00 + (lead * vowelNames.length + vowel) * tailNames.length + tail
  else none

/-- The code points of the unified ideographs. -/
def ideographRanges : List (Nat × Nat) :=
  [(0x3400, 0x4DBF), (0x4E00, 0x9FFF), (0x20000, 0x2A6DF), (0x2A700, 0x2B738),
   (0x2B740, 0x2B81D), (0x2B820, 0x2CEA1), (0x2CEB0, 0x2EBE0), (0x30000, 0x3134A)]

/-- The code of the unified ideograph that is named by its code, in four or five digits. -/
def ofIdeographName? (s : List Char) : Option Nat :=
  let isDigit (c : Char) : Bool := isHexDigit c && !isAsciiLower c
  let code := ofDigitsIn 16 s
  if (s.length = 4 ∨ s.length = 5) ∧ s.all isDigit = true ∧ inRanges ideographRanges code = true
  then some code else none

/-- The character with a name.  Small letters count as capitals, but not in what names by rule start
with. -/
def ofName? (name : List Char) : Option Char :=
  let syllable := "HANGUL SYLLABLE ".toList
  let ideograph := "CJK UNIFIED IDEOGRAPH-".toList
  let code :=
    if syllable.isPrefixOf name then ofSyllableName? (name.drop syllable.length)
    else if ideograph.isPrefixOf name then ofIdeographName? (name.drop ideograph.length)
    else ofListedName? (name.map asciiUpper)
  code.map Char.ofNat

end Chars

end RouteDoc
