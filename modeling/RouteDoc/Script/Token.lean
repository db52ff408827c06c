import RouteDoc.Number.Numeral
import RouteDoc.Script.Expr
import RouteDoc.Script.Literal
import RouteDoc.Text.Blank

/-!
# Tokens of scripts

The text of a script is cut into words, numbers, literals and marks.  Line ends count unless
brackets are open; the indentation of a line is turned into tokens where it changes.

* `Token.scan?`: the tokens of a script; none if the text cannot be cut into tokens.
-/

namespace RouteDoc.Script

inductive TokenKind where
  | word (s : String)
  | number (n : Number)
  | literal (l : Literal)
  | mark (s : String)
  | lineEnd
  | indent
  | dedent
  deriving DecidableEq, Inhabited

structure Token where
  kind : TokenKind
  line : Nat
  deriving DecidableEq, Inhabited

/-! ## Numbers -/

namespace Numeral

/-- Whether a character can be part of a word, as far as the cut into tokens is concerned. -/
def continuesWord (c : Char) : Bool :=
  Chars.isAsciiLetter c || Chars.isAsciiDigit c || c == '_' || 0x80 ≤ c.toNat

/-- The words that may follow a number without a blank. -/
def followers : List (List Char) :=
  ["and".toList, "else".toList, "for".toList, "or".toList, "not".toList]

def canEnd (s : List Char) : Bool :=
  match s with
  | [] => true
  | c :: r =>
    !continuesWord c || (c == 'i' && r.head?.any fun d => d == 'f' || d == 'n' || d == 's') ||
      followers.any fun w => w.isPrefixOf s && !(s[w.length]?.any continuesWord)

/-- Past digits with single low lines between them, behind a digit. -/
def dropDigits? (isDigit : Char → Bool) : Bool → List Char → Option (List Char)
  | true, [] => none
  | false, [] => some []
  | true, c :: r => if isDigit c then dropDigits? isDigit false r else none
  | false, c :: r =>
    if isDigit c then dropDigits? isDigit false r
    else if c = '_' then dropDigits? isDigit true r
    else some (c :: r)

/-- The end of a number, with the mark of imaginary ones. -/
def finish? (s : List Char) : Option (Bool × List Char) :=
  match s with
  | c :: r =>
    if c = 'j' ∨ c = 'J' then (if canEnd r then some (true, r) else none)
    else if canEnd s then some (false, s) else none
  | [] => some (false, [])

def finishExponent? (s : List Char) : Option (Bool × List Char) :=
  match s with
  | c :: r =>
    if c = 'e' ∨ c = 'E' then
      match r with
      | d :: r' =>
        if d = '+' ∨ d = '-' then (dropDigits? Chars.isAsciiDigit true r').bind finish?
        else if Chars.isAsciiDigit d then (dropDigits? Chars.isAsciiDigit false r).bind finish?
        else if canEnd s then some (false, s) else none
      | [] => none
    else finish? s
  | [] => finish? s

/-- The digits behind a point, and the end of the number. -/
def finishFraction? (s : List Char) : Option (Bool × List Char) :=
  if s.head?.any Chars.isAsciiDigit then
    (dropDigits? Chars.isAsciiDigit false s).bind finishExponent?
  else finishExponent? s

/-- Digits in base two, eight or sixteen, and the end of the number. -/
def finishBase? (isDigit : Char → Bool) (s : List Char) : Option (Bool × List Char) := do
  let s ← (match s with
    | '_' :: r => dropDigits? isDigit true r
    | s => dropDigits? isDigit true s)
  if canEnd s then some (false, s) else none

/-- A number that begins with a digit: whether it is imaginary, and what follows it.  An integer in
base ten has no zeros in front. -/
def cut? (s : List Char) : Option (Bool × List Char) :=
  match s with
  | '0' :: c :: r =>
    if c = 'x' ∨ c = 'X' then finishBase? Chars.isHexDigit r
    else if c = 'o' ∨ c = 'O' then finishBase? Chars.isOctalDigit r
    else if c = 'b' ∨ c = 'B' then finishBase? (fun d => d == '0' || d == '1') r
    else decimal? s
  | s => decimal? s
where
  /-- A number in base ten. -/
  decimal? (s : List Char) : Option (Bool × List Char) := do
    let rest ← dropDigits? Chars.isAsciiDigit true s
    let digits := (s.take (s.length - rest.length)).filter (· != '_')
    match rest with
    | '.' :: r => finishFraction? r
    | c :: _ =>
      if c = 'e' ∨ c = 'E' ∨ c = 'j' ∨ c = 'J' then finishExponent? rest
      else integer? digits rest
    | [] => integer? digits rest
  /-- An integer in base ten. -/
  integer? (digits rest : List Char) : Option (Bool × List Char) :=
    let hasZeros := digits.head? == some '0' && digits.any (· != '0')
    if hasZeros || RouteDoc.Numeral.mostDigits < digits.length then none else finish? rest

/-- The number that characters spell, which are known to be one. -/
def value (isImaginary : Bool) (spelling : List Char) : Number :=
  let s := spelling.filter (· != '_')
  let fraction := fun s => (RouteDoc.Numeral.readFloat? s).getD .nan
  if isImaginary then .imaginary (fraction s.dropLast)
  else match s with
    | '0' :: c :: ds =>
      match ['b', 'o', 'x'].idxOf? (Chars.asciiLower c) with
      | some 0 => .int (Chars.ofDigitsIn 2 ds)
      | some 1 => .int (Chars.ofDigitsIn 8 ds)
      | some _ => .int (Chars.ofDigitsIn 16 ds)
      | none => decimal s fraction
    | s => decimal s fraction
where
  /-- A number in base ten. -/
  decimal (s : List Char) (fraction : List Char → Binary64) : Number :=
    if s.all Chars.isAsciiDigit then .int (Chars.ofDigitsIn 10 s) else .float (fraction s)

/-- The number in front of some text, which is known to be one. -/
def valueBefore (isImaginary : Bool) (s rest : List Char) : Number :=
  value isImaginary (s.take (s.length - rest.length))

end Numeral

/-! ## Literals -/

namespace Literal

/-- The marks in front of a literal, if these are marks and a quote follows: the literal without its
body, and the text from the quote on. -/
def cutMarks? (l : Literal) (hasUnicodeMark : Bool) : List Char → Option (Literal × List Char)
  | [] => none
  | c :: r =>
    let c' := Chars.asciiLower c
    if c = '"' ∨ c = '\'' then some (l, c :: r)
    else if c' = 'b' ∧ !(l.isBytes || hasUnicodeMark || l.isFormatted) then
      cutMarks? { l with isBytes := true } hasUnicodeMark r
    else if c' = 'u' ∧ !(l.isBytes || hasUnicodeMark || l.isRaw || l.isFormatted) then
      cutMarks? l true r
    else if c' = 'r' ∧ !(l.isRaw || hasUnicodeMark) then
      cutMarks? { l with isRaw := true } hasUnicodeMark r
    else if c' = 'f' ∧ !(l.isFormatted || l.isBytes || hasUnicodeMark) then
      cutMarks? { l with isFormatted := true } hasUnicodeMark r
    else none

/-- The body up to a closing quote, and what follows that.  A backslash keeps the next character
from closing it. -/
def cutBody? (isTriple : Bool) (quote : Char) : List Char → Option (List Char × List Char)
  | [] => none
  | '\\' :: c :: r => (cutBody? isTriple quote r).map fun (b, r) => ('\\' :: c :: b, r)
  | c :: r =>
    if c = quote ∧ (!isTriple || (r.take 2 == [quote, quote])) then
      some ([], if isTriple then r.drop 2 else r)
    else if c = '\n' ∧ !isTriple then none
    else (cutBody? isTriple quote r).map fun (b, r) => (c :: b, r)

def cut? (s : List Char) : Option (Literal × List Char) := do
  match ← cutMarks? {} false s with
  | (l, quote :: r) =>
    let isTriple := r.take 2 == [quote, quote]
    let (body, rest) ← cutBody? isTriple quote (if isTriple then r.drop 2 else r)
    return ({ l with body := body }, rest)
  | _ => none

/-- Whether a literal begins here. -/
def begins (s : List Char) : Bool := (cutMarks? {} false s).isSome

end Literal

/-! ## Lines -/

/-- The indentation of a line: its columns with tabulators of eight columns, and of one. -/
structure Indentation where
  wide : Nat := 0
  narrow : Nat := 0
  deriving DecidableEq, Inhabited

structure Scanner where
  rest : List Char
  line : Nat := 1
  /-- Whether a line begins here. -/
  atStart : Bool := true
  /-- The indentations of the blocks around, innermost first. -/
  indents : List Indentation := []
  /-- The brackets that are open, innermost first. -/
  brackets : List Char := []
  tokens : Array Token := #[]
  deriving Inhabited

namespace Scanner

/-- The deepest nesting of blocks, and of brackets. -/
def deepestBlock : Nat := 99
def deepestBracket : Nat := 200

def push (s : Scanner) (k : TokenKind) : Scanner := { s with tokens := s.tokens.push ⟨k, s.line⟩ }

/-- The next line, behind a backslash.  The script cannot end there. -/
def cutContinued? : List Char → Option (List Char)
  | '\n' :: c :: r => some (c :: r)
  | _ => none

/-- The indentation of the line here, the rest of the text, and the number of lines passed.  If the
line is continued, the indentation of the first line that has one counts. -/
def measure : Nat → Indentation → Option Indentation → Nat → List Char →
    Option (Indentation × List Char × Nat)
  | 0, _, _, _, _ => none
  | fuel + 1, i, first, lines, s =>
    match s with
    | c :: r =>
      if c = ' ' then measure fuel ⟨i.wide + 1, i.narrow + 1⟩ first lines r
      else if c = '\t' then measure fuel ⟨(i.wide / 8 + 1) * 8, i.narrow + 1⟩ first lines r
      else if c = '\x0c' then measure fuel {} first lines r
      else if c = '\\' then
        match cutContinued? r with
        | some r =>
          let first := first.or (if i.wide = 0 then none else some i)
          measure fuel i first (lines + 1) r
        | none => none
      else some (counted i first, s, lines)
    | [] => some (counted i first, [], lines)
where
  /-- The indentation that counts.  That of a continued line counts in columns. -/
  counted (i : Indentation) (first : Option Indentation) : Indentation :=
    match first with
    | some f => ⟨f.wide, f.wide⟩
    | none => i

/-- Compares the indentation of a line with those of the blocks around. -/
def align? (s : Scanner) (i : Indentation) : Option Scanner :=
  let top := s.indents.headD {}
  if i.wide = top.wide then (if i.narrow = top.narrow then some s else none)
  else if top.wide < i.wide then
    if s.indents.length < deepestBlock ∧ top.narrow < i.narrow then
      some { s.push .indent with indents := i :: s.indents }
    else none
  else
    let closed := s.indents.takeWhile (i.wide < ·.wide)
    let s := { s with indents := s.indents.drop closed.length }
    let top := s.indents.headD {}
    if i = top then some (closed.foldl (fun s _ => s.push .dedent) s) else none

/-- The beginning of a line.  Lines that are empty or hold a comment alone do not count. -/
def beginLine? (s : Scanner) : Option Scanner := do
  let (i, rest, lines) ← measure (s.rest.length + 1) {} none 0 s.rest
  let s := { s with rest := rest, line := s.line + lines, atStart := false }
  match rest with
  | c :: _ =>
    if c = '#' ∨ c = '\n' then
      return { s with
        rest := (rest.dropWhile (· != '\n')).drop 1, line := s.line + 1, atStart := true }
    else if s.brackets = [] then s.align? i
    else return s
  | [] => if s.brackets = [] then s.align? i else none

/-! ## Tokens -/

/-- The marks, longer ones first. -/
def marks : List (List Char) :=
  ["**=".toList, "//=".toList, ">>=".toList, "<<=".toList, "...".toList, "==".toList, "!=".toList,
   "<>".toList, "<=".toList, ">=".toList, "->".toList, "+=".toList, "-=".toList, "*=".toList,
   "/=".toList, "%=".toList, "@=".toList, "&=".toList, "|=".toList, "^=".toList, "**".toList,
   "//".toList, "<<".toList, ">>".toList, ":=".toList, "+".toList, "-".toList, "*".toList,
   "/".toList, "%".toList, "@".toList, "&".toList, "|".toList, "^".toList, "~".toList, "<".toList,
   ">".toList, "(".toList, ")".toList, "[".toList, "]".toList, "\x7b".toList, "\x7d".toList,
   ",".toList, ":".toList, ";".toList, ".".toList, "=".toList]

def closing? : Char → Option Char
  | '(' => some ')'
  | '[' => some ']'
  | '\x7b' => some '\x7d'
  | _ => none

def bracketsAfter? (opened : List Char) (m : List Char) : Option (List Char) :=
  match m with
  | [c] =>
    if (closing? c).isSome then
      if opened.length < deepestBracket then some (c :: opened) else none
    else if c = ')' ∨ c = ']' ∨ c = '\x7d' then
      match opened with
      | o :: os => if closing? o = some c then some os else none
      | [] => none
    else some opened
  | _ => some opened

def mark? (s : Scanner) : Option Scanner := do
  let m ← marks.find? fun m => m.isPrefixOf s.rest
  let brackets ← bracketsAfter? s.brackets m
  return { s.push (.mark (String.ofList m)) with
    rest := s.rest.drop m.length, brackets := brackets }

/-- A token with a line break at its end or within it. -/
def pushOver (s : Scanner) (k : TokenKind) (passed : List Char) (rest : List Char) : Scanner :=
  { s.push k with rest := rest, line := s.line + passed.count '\n' }

def pushNumber (s : Scanner) : Bool × List Char → Scanner := fun (isImaginary, rest) =>
  { s.push (.number (Numeral.valueBefore isImaginary s.rest rest)) with rest := rest }

def next? (s : Scanner) : Option Scanner :=
  match s.rest with
  | [] => none
  | c :: r =>
    if c = ' ' ∨ c = '\t' ∨ c = '\x0c' then some { s with rest := r }
    else if c = '#' then some { s with rest := s.rest.dropWhile (· != '\n') }
    else if c = '\n' then
      let s' := if s.brackets = [] then s.push .lineEnd else s
      some { s' with rest := r, line := s.line + 1, atStart := true }
    else if c = '\\' then
      (cutContinued? r).map fun r => { s with rest := r, line := s.line + 1 }
    else if Literal.begins s.rest then
      (Literal.cut? s.rest).map fun (l, rest) => s.pushOver (.literal l) l.body rest
    else if Chars.isAsciiDigit c then
      (Numeral.cut? s.rest).map (pushNumber s)
    else if c = '.' ∧ r.head?.any Chars.isAsciiDigit = true then
      (Numeral.finishFraction? r).map (pushNumber s)
    else if Numeral.continuesWord c then
      let w := s.rest.takeWhile Numeral.continuesWord
      if Chars.isIdentifier w then
        some { s.push (.word (String.ofList w)) with rest := s.rest.drop w.length }
      else none
    else s.mark?

/-- All tokens from here on.  Every step takes a character or ends the beginning of a line. -/
def run? : Nat → Scanner → Option Scanner
  | 0, _ => none
  | fuel + 1, s =>
    if s.atStart then do
      let s ← s.beginLine?
      if s.rest = [] then (if s.atStart then run? fuel s else some s) else run? fuel s
    else if s.rest = [] then (if s.brackets = [] then some s else none)
    else do run? fuel (← s.next?)

end Scanner

def Token.scan? (text : List Char) : Option (List Token) := do
  let text := Chars.unifyBreaks text
  if text.any (·.toNat == 0) then none
  let text := if text.getLast? = some '\n' then text else text ++ ['\n']
  let s ← Scanner.run? (2 * text.length + 4) { rest := text }
  return s.tokens.toList

end RouteDoc.Script
