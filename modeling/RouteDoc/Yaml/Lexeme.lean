import RouteDoc.Yaml.Cursor
import RouteDoc.Yaml.Fault

/-!
# Scalars in a text

What scalars say in each of their forms, and where they end.

* `Cursor.readPlain`: a scalar without quotes, over several lines if they are indented enough.
* `Cursor.readQuoted`: a scalar in quotes.
* `Cursor.readBlock`: a literal block, or one whose lines are joined.
-/

namespace RouteDoc.Yaml.Cursor

/-! ## Plain scalars -/

/-- The length of the part of a plain scalar without blanks that stands here. -/
def plainLength (inFlow : Bool) : List Char → Nat
  | [] => 0
  | c :: r =>
    let isFlowMark (c : Char) : Bool := [',', '[', ']', '\x7b', '\x7d'].contains c
    let ends := isSeparator c ||
      (c == ':' && (Style.endsWord r || (inFlow && r.head?.any isFlowMark))) ||
      (inFlow && (isFlowMark c || c == '?'))
    if ends then 0 else plainLength inFlow r + 1

/-- Line breaks and spaces up to the next word, and whether the mark of a document ends them. -/
def plainBreaks : Nat → Cursor → List Char × Cursor × Bool
  | 0, c => ([], c, false)
  | fuel + 1, c =>
    if c.isAt ' ' then plainBreaks fuel c.next
    else match c.cutBreak? with
      | none => ([], c, false)
      | some (b, c) =>
        if c.atDocumentMark then ([b], c, true)
        else
          let (bs, c, ended) := plainBreaks fuel c
          (b :: bs, c, ended)

/-- One line break is a space, and of several the first one does not count. -/
def joinBreaks (first : Char) (more : List Char) : List Char :=
  if first ≠ '\n' then first :: more else if more = [] then [' '] else more

/-- What stands for the blanks between two words of a plain scalar, what follows, and whether there
is a line break among them.  Nothing stands for them if no word can follow. -/
def plainGap (c : Cursor) : List Char × Cursor × Bool :=
  let blanks := c.run (· == ' ')
  let c := c.skipSpaces
  match c.cutBreak? with
  | none => (blanks, c, false)
  | some (b, c) =>
    if c.atDocumentMark then ([], c, true)
    else
      let (bs, c, ended) := plainBreaks c.rest.length c
      (if ended then [] else joinBreaks b bs, c, true)

/-- A plain scalar from here on, what follows it, and whether it is followed by a line break. -/
def readPlainFrom (inFlow : Bool) (indent : Nat) :
    Nat → List Char → Cursor → Bool → List Char × Cursor × Bool
  | 0, _, c, broken => ([], c, broken)
  | fuel + 1, gap, c, broken =>
    let n := if c.isAt '#' then 0 else plainLength inFlow c.rest
    if n = 0 then ([], c, broken)
    else
      let word := c.rest.take n
      let (next, c, broken) := plainGap (c.drop n)
      if next = [] ∨ c.isAt '#' = true ∨ (inFlow = false ∧ c.column < indent) then
        (gap ++ word, c, broken)
      else
        let (rest, c, broken) := readPlainFrom inFlow indent fuel next c broken
        (gap ++ word ++ rest, c, broken)

/-- The plain scalar here, what follows it, and whether a line break comes first. -/
def readPlain (inFlow : Bool) (indent : Nat) (c : Cursor) : List Char × Cursor × Bool :=
  readPlainFrom inFlow indent c.rest.length [] c false

/-! ## Quoted scalars -/

def escapes : List (Char × Nat) :=
  [('0', 0x00), ('a', 0x07), ('b', 0x08), ('t', 0x09), ('\t', 0x09), ('n', 0x0A), ('v', 0x0B),
   ('f', 0x0C), ('r', 0x0D), ('e', 0x1B), (' ', 0x20), ('"', 0x22), ('\\', 0x5C), ('/', 0x2F),
   ('N', 0x85), ('_', 0xA0), ('L', 0x2028), ('P', 0x2029)]

/-- The number of digits of the escapes that give a code. -/
def codeLength? : Char → Option Nat
  | 'x' => some 2
  | 'u' => some 4
  | 'U' => some 8
  | _ => none

def charOfCode (n : Nat) : Except Fault Char :=
  if n < 0x110000 then .ok (Char.ofNat n)
  else if n < 0x80000000 then .error .noSuchValue
  else .error .codeTooLarge

/-- The line breaks between the lines of a quoted scalar, and what follows the blanks after them. -/
def quotedBreaks : Nat → Cursor → Except Fault (List Char × Cursor)
  | 0, c => .ok ([], c)
  | fuel + 1, c =>
    if c.atDocumentMark then .error .malformed
    else
      let c := c.skip Chars.isIndent
      match c.cutBreak? with
      | none => .ok ([], c)
      | some (b, c) => (quotedBreaks fuel c).map fun (bs, c) => (b :: bs, c)

def readEscape (c : Cursor) : Except Fault (List Char × Cursor) :=
  match c.rest with
  | [] => .error .malformed
  | ch :: _ =>
    match escapes.lookup ch with
    | some n => .ok ([Char.ofNat n], c.next)
    | none =>
      match codeLength? ch with
      | some n =>
        let digits := c.next.rest.take n
        if digits.length = n ∧ digits.all Chars.isHexDigit = true then
          (charOfCode (Chars.ofDigitsIn 16 digits)).map fun ch => ([ch], c.next.drop n)
        else .error .malformed
      | none =>
        if isBreak ch then quotedBreaks c.rest.length c.next else .error .malformed

/-- What stands for the blanks here inside quotes, and what follows them. -/
def quotedGap (c : Cursor) : Except Fault (List Char × Cursor) :=
  let blanks := c.run Chars.isIndent
  let c := c.skip Chars.isIndent
  match c.cutBreak? with
  | none => .ok (blanks, c)
  | some (b, c) => (quotedBreaks c.rest.length c).map fun (bs, c) => (joinBreaks b bs, c)

def readQuotedFrom (double : Bool) : Nat → Cursor → Except Fault (List Char × Cursor)
  | 0, _ => .error .malformed
  | fuel + 1, c =>
    let go (part : List Char × Cursor) : Except Fault (List Char × Cursor) :=
      (readQuotedFrom double fuel part.2).map fun (s, c) => (part.1 ++ s, c)
    match c.rest with
    | [] => .error .malformed
    | ch :: r =>
      if double then
        if ch = '"' then .ok ([], c.next)
        else if ch = '\\' then readEscape c.next >>= go
        else if isSeparator ch then quotedGap c >>= go
        else go ([ch], c.next)
      else
        if ch = '\'' then
          if r.head? = some '\'' then go (['\''], c.next.next) else .ok ([], c.next)
        else if isSeparator ch then quotedGap c >>= go
        else go ([ch], c.next)

def readQuoted (double : Bool) (c : Cursor) : Except Fault (List Char × Cursor) :=
  readQuotedFrom double (c.rest.length + 1) c

/-! ## Blocks -/

/-- What happens to the line breaks at the end of a block. -/
inductive Chomping where
  | strip
  | clip
  | keep
  deriving DecidableEq, Inhabited

def readChomping? : Char → Option Chomping
  | '+' => some .keep
  | '-' => some .strip
  | _ => none

/-- The indentation that a digit gives, if it is not zero. -/
def readIncrement (c : Char) : Except Fault Nat :=
  if c = '0' then .error .malformed else .ok (c.toNat - 0x30)

/-- The marks in the head of a block, and what follows them. -/
def readBlockMarks (c : Cursor) : Except Fault (Chomping × Option Nat × Cursor) := do
  let (chomping, increment, c) ← (do
    match c.head?.bind readChomping? with
    | some chomping =>
      let c := c.next
      match c.head? with
      | some d =>
        if Chars.isAsciiDigit d then return (chomping, some (← readIncrement d), c.next)
        else return (chomping, none, c)
      | none => return (chomping, none, c)
    | none =>
      match c.head? with
      | some d =>
        if Chars.isAsciiDigit d then
          let increment ← readIncrement d
          let c := c.next
          match c.head?.bind readChomping? with
          | some chomping => return (chomping, some increment, c.next)
          | none => return (.clip, some increment, c)
        else return (.clip, none, c)
      | none => return (.clip, none, c))
  if endsField c.rest then
    match c.finishLine? with
    | some c => return (chomping, increment, c)
    | none => throw .malformed
  else throw .malformed

/-- The empty lines at the beginning of a block, the column of the deepest blank among them, and
what follows them. -/
def leadingBreaks : Nat → Nat → Cursor → List Char × Nat × Cursor
  | 0, deepest, c => ([], deepest, c)
  | fuel + 1, deepest, c =>
    if c.isAt ' ' then
      let c := c.next
      leadingBreaks fuel (max deepest c.column) c
    else match c.cutBreak? with
      | none => ([], deepest, c)
      | some (b, c) =>
        let (bs, deepest, c) := leadingBreaks fuel deepest c
        (b :: bs, deepest, c)

/-- The empty lines here, in a block with some indentation, and what follows them. -/
def blockBreaks (indent : Nat) : Nat → Cursor → List Char × Cursor
  | 0, c => ([], c)
  | fuel + 1, c =>
    let c := c.skipTo indent
    match c.cutBreak? with
    | none => ([], c)
    | some (b, c) =>
      let (bs, c) := blockBreaks indent fuel c
      (b :: bs, c)

/-- The line break behind a line of a block, as it counts between two lines. -/
def lineJoin (folded : Bool) (lineBreak : List Char) (first : Bool) (breaks : List Char)
    (second : Bool) : List Char :=
  if folded && lineBreak == ['\n'] && first && second then (if breaks.isEmpty then [' '] else [])
  else lineBreak

def beginsWithWord (c : Cursor) : Bool := !c.head?.any Chars.isIndent

/-- The lines of a block, with the empty lines before them; the line breaks at its end; and what
follows it. -/
def blockLines (folded : Bool) (indent : Nat) :
    Nat → List Char → Cursor → List Char × List Char × List Char × Cursor
  | 0, breaks, c => ([], [], breaks, c)
  | fuel + 1, breaks, c =>
    if c.column = indent ∧ c.rest ≠ [] then
      let first := beginsWithWord c
      let line := c.run (!isBreak ·)
      let c := c.skip (!isBreak ·)
      let (lineBreak, c) := match c.cutBreak? with
        | some (b, c) => ([b], c)
        | none => ([], c)
      let (after, c) := blockBreaks indent c.rest.length c
      if c.column = indent ∧ c.rest ≠ [] then
        let join := lineJoin folded lineBreak first after (beginsWithWord c)
        let (rest, last, trailing, c) := blockLines folded indent fuel after c
        (breaks ++ line ++ join ++ rest, last, trailing, c)
      else (breaks ++ line, lineBreak, after, c)
    else ([], [], breaks, c)

/-- The block behind its mark, inside a block of some indentation, and what follows it. -/
def readBlock (folded : Bool) (outer : Nat) (c : Cursor) : Except Fault (List Char × Cursor) := do
  let (chomping, increment, c) ← readBlockMarks c
  let least := max outer 1
  let (indent, breaks, c) := match increment with
    | some n =>
      let indent := least + n - 1
      let (breaks, c) := blockBreaks indent c.rest.length c
      (indent, breaks, c)
    | none =>
      let (breaks, deepest, c) := leadingBreaks c.rest.length 0 c
      (max least deepest, breaks, c)
  let (text, last, trailing, c) := blockLines folded indent (c.rest.length + 1) breaks c
  let tail := match chomping with
    | .strip => []
    | .clip => last
    | .keep => last ++ trailing
  return (text ++ tail, c)

end RouteDoc.Yaml.Cursor
