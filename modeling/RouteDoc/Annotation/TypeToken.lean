import RouteDoc.Annotation.Fault
import RouteDoc.Text.Split

/-!
# Type tokens

The definition of a parameter or of a response starts with its type.  The type stands in braces, or
it is a field of its own.

* `closeBrace?`: cuts a text behind the brace that closes its first one.
* `Typed.ofFields`: the type of a definition, and what follows it.
* `stripDash`: a description without the dash in front of it.
-/

namespace RouteDoc

/-- The text up to the brace that brings the depth back to zero, and the text behind it. -/
def closeBraceFrom? : Nat → List Char → Option (List Char × List Char)
  | _, [] => none
  | depth, '{' :: r => (closeBraceFrom? (depth + 1) r).map fun p => ('{' :: p.1, p.2)
  | depth, '}' :: r =>
    if depth = 1 then some ([], r)
    else (closeBraceFrom? (depth - 1) r).map fun p => ('}' :: p.1, p.2)
  | depth, c :: r => (closeBraceFrom? depth r).map fun p => (c :: p.1, p.2)

/-- For a text that starts with a brace: the text inside its braces, and the text behind them. -/
def closeBrace? : List Char → Option (List Char × List Char)
  | '{' :: r => closeBraceFrom? 1 r
  | _ => none

/-- What follows the type of a definition. -/
inductive Remainder where
  /-- The rest of the one field that holds the whole definition. -/
  | inline (text : String)
  /-- The fields behind the type. -/
  | fields (values : List String)
  deriving DecidableEq, Inhabited

structure Typed where
  type : String
  rest : Remainder
  deriving DecidableEq, Inhabited

/-- Cuts a definition behind its type.  In `{T} name` followed by a further field, the name is a
field of its own. -/
def Typed.ofFields : List String → Except FieldFault Typed
  | [] => .error .missingDefinition
  | field :: others =>
    let first := Chars.strip field.toList
    if first = [] then .error .missingDefinition
    else if first.head? ≠ some '{' then
      if others = [] then .error (.missingType (String.ofList first))
      else .ok ⟨String.ofList first, .fields others⟩
    else match closeBrace? first with
      | none => .error (.unbalancedBraces (String.ofList first))
      | some (type, remainder) =>
        let type := String.ofList (Chars.strip type)
        let remainder := Chars.strip remainder
        if others = [] then .ok ⟨type, .inline (String.ofList remainder)⟩
        else if remainder = [] then .ok ⟨type, .fields others⟩
        else .ok ⟨type, .fields (String.ofList remainder :: others)⟩

def stripDash (text : String) : String :=
  match Chars.strip text.toList with
  | '-' :: ' ' :: r => String.ofList (Chars.strip r)
  | ['-'] => ""
  | s => String.ofList s

end RouteDoc
