import RouteDoc.Text.Digit
import RouteDoc.Text.Split
import RouteDoc.Yaml.Timestamp

/-!
# What a plain scalar stands for

A scalar without quotes is read as a truth value, a number or a date if it is spelled like one, and
as a text otherwise.

* `ScalarType.ofPlain`: what a plain scalar is.
* `isInt`, `isFloat`: the spellings of numbers: in base two, eight, ten, sixteen and sixty.
-/

namespace RouteDoc.Yaml

/-- What a scalar is. -/
inductive ScalarType where
  | null
  | bool
  | int
  | float
  | timestamp
  /-- The key `<<`, whose value is merged into the mapping. -/
  | merge
  /-- The key `=`. -/
  | value
  | text
  deriving DecidableEq, Inhabited

namespace ScalarType

/-- The words for truth, in each of three spellings. -/
def trueWords : List String := ["yes", "Yes", "YES", "true", "True", "TRUE", "on", "On", "ON"]

/-- The words for falsity, in each of three spellings. -/
def falseWords : List String := ["no", "No", "NO", "false", "False", "FALSE", "off", "Off", "OFF"]

def nullWords : List String := ["", "~", "null", "Null", "NULL"]

def dropSign : List Char → List Char
  | c :: r => if c = '-' ∨ c = '+' then r else c :: r
  | [] => []

/-- Whether a text consists of one or more characters of a class. -/
def isRunOf (p : Char → Bool) (s : List Char) : Bool := !s.isEmpty && s.all p

/-- Digits and low lines between them. -/
def isSpacedDigit (c : Char) : Bool := Chars.isAsciiDigit c || c == '_'

def isDigits : List Char → Bool
  | c :: r => Chars.isAsciiDigit c && r.all isSpacedDigit
  | [] => false

def isSpacedDigitIn (base : Nat) (c : Char) : Bool := Chars.isDigitIn base c || c == '_'

def isSexagesimalDigit : List Char → Bool
  | [c] => Chars.isAsciiDigit c
  | [c, d] => Chars.isDigitIn 6 c && Chars.isAsciiDigit d
  | _ => false

/-- Whether a text is the spelling of an integer, its sign apart. -/
def isNatural : List Char → Bool
  | ['0'] => true
  | '0' :: 'b' :: r => isRunOf (isSpacedDigitIn 2) r
  | '0' :: 'x' :: r => isRunOf (isSpacedDigitIn 16) r
  | '0' :: r => isRunOf (isSpacedDigitIn 8) r
  | s => match Chars.splitAt ':' s with
    | first :: rest => isDigits first && rest.all isSexagesimalDigit
    | [] => false

def isInt (s : List Char) : Bool := isNatural (dropSign s)

/-- Whether a text is empty or the spelling of an exponent: its sign is not left out. -/
def isExponent : List Char → Bool
  | [] => true
  | e :: sign :: r =>
    (e == 'e' || e == 'E') && (sign == '-' || sign == '+') && isRunOf Chars.isAsciiDigit r
  | [_] => false

/-- Whether a text is a fraction behind a point, perhaps with an exponent. -/
def isFraction (s : List Char) : Bool := isExponent (s.dropWhile isSpacedDigit)

/-- Whether a text is a fraction in base sixty: its last digit has a point behind it. -/
def isSexagesimalFraction (s : List Char) : Bool :=
  match Chars.cutAt? '.' s with
  | some (whole, fraction) =>
    match Chars.splitAt ':' whole with
    | first :: next :: rest =>
      isDigits first && (next :: rest).all isSexagesimalDigit && fraction.all isSpacedDigit
    | _ => false
  | none => false

/-- Whether a text is the spelling of a floating point number.  A number that begins with a point
has no sign. -/
def isFloat (s : List Char) : Bool :=
  let body := dropSign s
  let whole := body.takeWhile isSpacedDigit
  let decimal := match body.dropWhile isSpacedDigit with
    | '.' :: r => isDigits whole && isFraction r
    | _ => false
  let leadingPoint := match s with
    | '.' :: c :: r => Chars.isAsciiDigit c && isFraction r
    | _ => false
  decimal || leadingPoint || isSexagesimalFraction body ||
    String.ofList body ∈ [".inf", ".Inf", ".INF"] || String.ofList s ∈ [".nan", ".NaN", ".NAN"]

def ofPlain (s : List Char) : ScalarType :=
  let word := String.ofList s
  if word ∈ nullWords then .null
  else if word ∈ trueWords ∨ word ∈ falseWords then .bool
  else if isFloat s then .float
  else if isInt s then .int
  else if Timestamp.isSpelled s then .timestamp
  else if word = "<<" then .merge
  else if word = "=" then .value
  else .text

end ScalarType

end RouteDoc.Yaml
