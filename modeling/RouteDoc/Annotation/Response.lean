import RouteDoc.Annotation.TypeToken
import RouteDoc.Number.Numeral
import RouteDoc.Schema.Definition

/-!
# Responses

The definition of a response is its type, a status code of three digits and a description, all but
the type optional.

* `ResponseDraft.ofFields`: what the text says.
* `ResponseDraft.complete`: the response, once the type is known.
-/

namespace RouteDoc

structure Response where
  type : Descriptor
  description : String := ""
  code : Nat := 200
  deriving DecidableEq, Inhabited

structure ResponseDraft where
  expression : String
  description : String := ""
  code : Nat := 200
  deriving DecidableEq, Inhabited

namespace ResponseDraft

/-- The code that digits spell.  Three of them are never too many to be read. -/
def codeOf (digits : List Char) : Nat := Numeral.ofDecimals digits

/-- Reads a field of three digits, perhaps with a line feed behind them. -/
def readCode? (field : String) : Option Nat :=
  let digits := field.toList.take 3
  let rest := field.toList.drop 3
  if digits.length = 3 ∧ digits.all Chars.isDecimal = true ∧ (rest = [] ∨ rest = ['\n']) then
    some (codeOf digits)
  else none

/-- Three digits at the start of a text, with the end of the text or blanks behind them; and the
text behind the blanks. -/
def cutCode? (s : List Char) : Option (Nat × List Char) :=
  let digits := s.take 3
  let rest := s.drop 3
  if digits.length = 3 ∧ digits.all Chars.isDecimal = true ∧
      rest.head?.all Chars.isBlank = true then
    some (codeOf digits, rest.dropWhile Chars.isBlank)
  else none

/-- The code and the description, in the text behind the type. -/
def ofInline (expression : String) (text : String) : ResponseDraft :=
  let (code, rest) := (cutCode? text.toList).getD (200, text.toList)
  let rest := match rest with
    | '-' :: r => r
    | r => r
  ⟨expression, String.ofList (Chars.strip rest), code⟩

def ofFields (fields : List String) : Except FieldFault ResponseDraft := do
  let typed ← Typed.ofFields fields
  match typed.rest with
  | .inline text => .ok (ofInline typed.type text)
  | .fields [] => .ok { expression := typed.type }
  | .fields [one] =>
    match readCode? one with
    | some code => .ok { expression := typed.type, code := code }
    | none => .ok { expression := typed.type, description := stripDash one }
  | .fields [code, description] =>
    match readCode? code with
    | some n => .ok ⟨typed.type, stripDash description, n⟩
    | none => .error (.invalidResponseCode code)
  | .fields _ => .error .tooManyResponseFields

def complete (draft : ResponseDraft) (type : Descriptor) : Response :=
  ⟨type, draft.description, draft.code⟩

end ResponseDraft

end RouteDoc
