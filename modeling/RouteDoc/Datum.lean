import RouteDoc.Number.Numeral
import RouteDoc.Text.Printable

/-!
# Plain data

Data without a type of its own: what a configuration file or a route definition holds before it is
checked.

* `Datum.get?`: the value under a text key of a mapping.
* `Datum.isEmpty`: whether a datum counts as absent.
* `Datum.text?`, `Datum.int?`: the texts, and what can be read as an integer.
* `Datum.display`: a datum as text.
-/

namespace RouteDoc

/-- A plain datum.  The keys of a mapping are pairwise different. -/
inductive Datum where
  | null
  | bool (b : Bool)
  | int (n : Int)
  | float (x : Binary64)
  | text (s : String)
  /-- Bytes, and the text that they spell, if they spell one. -/
  | bytes (text : Option String)
  | list (items : List Datum)
  | map (entries : List (Datum × Datum))
  /-- A date, a time or some other value that is never asked for; with its sort. -/
  | other (sort : String)
  deriving BEq, Inhabited

namespace Datum

def lookup? (key : String) : List (Datum × Datum) → Option Datum
  | [] => none
  | (.text k, v) :: es => if k = key then some v else lookup? key es
  | _ :: es => lookup? key es

def get? (d : Datum) (key : String) : Option Datum :=
  match d with
  | .map entries => lookup? key entries
  | _ => none

/-- Whether a datum counts as absent: nothing, false, zero, or empty. -/
def isEmpty : Datum → Bool
  | .null => true
  | .bool b => !b
  | .int n => n == 0
  | .float (.finite _ m _) => m == 0
  | .float _ => false
  | .text s => s == ""
  | .bytes s => s == some ""
  | .list items => items.isEmpty
  | .map entries => entries.isEmpty
  | .other _ => false

/-- The text that a datum is, or that its bytes spell. -/
def text? : Datum → Option String
  | .text s => some s
  | .bytes s => s
  | _ => none

/-- The least and the greatest integer that a floating point number is accepted for. -/
def intBound : Int := 0x8000000000000000

/-- The blanks around integers: white space without the characters that separate records. -/
def isOuterBlank (c : Char) : Bool := Chars.isBlank c && !(0x1C ≤ c.toNat && c.toNat ≤ 0x1F)

/-- The text behind a single plus sign. -/
def dropPlus : List Char → List Char
  | '+' :: r => if r.head?.any fun c => c == '-' || c == '+' then '+' :: r else r
  | s => s

/-- An integer without the zeros in front of it, among which low lines may stand; a minus sign may
follow them.  One zero stays if nothing else does. -/
def dropZeros? : List Char → Option (List Char)
  | '0' :: r =>
    match r.dropWhile fun c => c == '0' || c == '_' with
    | [] => some (if r.getLast? = some '_' then ['_'] else ['0'])
    | '.' :: rest => some ((if (r.takeWhile (· != '.')).getLast? = some '_' then '_' else '0') ::
        '.' :: rest)
    | c :: rest => if Chars.isAsciiDigit c || c == '-' then some (c :: rest) else none
  | c :: r => if Chars.isAsciiDigit c || c == '-' then some (c :: r) else none
  | [] => none

/-- An integer without the zeros behind its point. -/
def dropFraction (s : List Char) : List Char :=
  match s.dropWhile (· != '.') with
  | _ :: zeros => if zeros ≠ [] ∧ zeros.all (· == '0') = true then s.takeWhile (· != '.') else s
  | [] => s

/-- An integer without the low lines, if each is a single one inside it. -/
def dropSpacing (s : List Char) : List Char :=
  let isSpaced := s.head? != some '_' && s.getLast? != some '_' &&
    (s.zip s.tail).all fun (a, b) => !(a == '_' && b == '_')
  if isSpaced then s.filter (· != '_') else s

/-- The integer that a text spells: a sign, digits with single low lines between them, and perhaps
zeros behind a point; blanks around it. -/
def readInt? (s : List Char) : Option Int := do
  let s := dropSpacing (dropFraction (← dropZeros? (dropPlus (Chars.trim isOuterBlank s))))
  let (isNegative, digits) := Numeral.cutSign s
  if s.head? = some '+' ∨ Numeral.mostDigits < digits.length then none
  else (Numeral.readDigits? digits).map (Numeral.withSign isNegative)

/-- The integer that a datum is, or that can be read from it: a truth value counts as zero or one, a
floating point number or a text as the integer that it is. -/
def int? : Datum → Option Int
  | .int n => some n
  | .bool b => some (if b then 1 else 0)
  | .float x =>
    match x.toInt? with
    | some n => if -intBound < n ∧ n < intBound then some n else none
    | none => none
  | .text s => readInt? s.toList
  | .bytes s => s.bind fun s => readInt? s.toList
  | _ => none

/-- The style of floating point numbers in messages: positional below 10 ^ 16 and from 10 ^ -4
on. -/
def floatStyle : FloatStyle := {}

/-- What stands for a character in a text that is in quotes of some sort. -/
def quoteChar (mark c : Char) : List Char :=
  if c = mark ∨ c = '\\' then ['\\', c]
  else if c = '\n' then ['\\', 'n']
  else if c = '\r' then ['\\', 'r']
  else if c = '\t' then ['\\', 't']
  else if Chars.isPrintable c then [c]
  else
    let (letter, digits) := Chars.codeEscape c
    '\\' :: letter :: digits

/-- A text in quotes: single ones, or double ones if only single ones occur in the text. -/
def quote (s : String) : String :=
  let cs := s.toList
  let mark := if '\'' ∈ cs ∧ '"' ∉ cs then '"' else '\''
  String.ofList (mark :: cs.flatMap (quoteChar mark) ++ [mark])

mutual

def inner : Datum → String
  | .null => "None"
  | .bool true => "True"
  | .bool false => "False"
  | .int n => toString n
  | .float x => floatStyle.write x
  | .text s => quote s
  | .bytes s => "b" ++ quote (s.getD "")
  | .list items => "[" ++ ", ".intercalate (inners items) ++ "]"
  | .map entries => "\x7b" ++ ", ".intercalate (innerEntries entries) ++ "\x7d"
  | .other sort => sort

def inners : List Datum → List String
  | [] => []
  | d :: ds => inner d :: inners ds

def innerEntries : List (Datum × Datum) → List String
  | [] => []
  | (k, v) :: es => (inner k ++ ": " ++ inner v) :: innerEntries es

end

def display : Datum → String
  | .text s => s
  | d => inner d

end Datum

end RouteDoc
