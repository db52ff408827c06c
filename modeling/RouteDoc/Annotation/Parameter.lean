import RouteDoc.Annotation.TypeToken
import RouteDoc.Number.Numeral
import RouteDoc.Schema.Resolve

/-!
# Parameters

The definition of a parameter is read in two steps.

* `ParameterDraft.ofFields`: what the text says: the type expression, the allowed values, the name
  and the description.
* `ParameterDraft.complete`: the parameter, once the type is known.  The allowed values are read as
  values of the base type; those that are none are dropped.

Values that may be combined are parted by commas.  No enumeration expresses them, so the first two
and their combination are given as examples.
-/

namespace RouteDoc

inductive EnumValue where
  | int (n : Int)
  | number (x : Binary64)
  | bool (b : Bool)
  | text (s : String)
  deriving DecidableEq, Inhabited

def EnumValue.read? (base value : String) : Option EnumValue :=
  if base = "integer" then (Numeral.readInt? value.toList).map .int
  else if base = "number" then (Numeral.readFloat? value.toList).map .number
  else if base = "boolean" then
    let word := value.toList.map Chars.asciiLower
    if word = "true".toList then some (.bool true)
    else if word = "false".toList then some (.bool false)
    else none
  else some (.text value)

structure Parameter where
  name : String
  type : Descriptor
  description : String := ""
  required : Bool := true
  allowed : Option (List EnumValue) := none
  examples : List String := []
  default : Option String := none
  deriving DecidableEq, Inhabited

/-- A name as a definition writes it: in brackets if it may be missing, with a default after an
equals sign. -/
structure NameToken where
  name : String
  required : Bool
  default : Option String
  deriving DecidableEq, Inhabited

namespace NameToken

/-- Word characters, points and hyphens. -/
def isNameChar (c : Char) : Bool := Chars.isWord c || c == '.' || c == '-'

/-- Whether a text is at its end, save for one line feed. -/
def atEnd (s : List Char) : Bool := s == [] || s == ['\n']

/-- Reads the name inside the brackets, if there are any, up to its end. -/
def readBody? (bracketed : Bool) (s : List Char) : Option NameToken :=
  let name := s.takeWhile isNameChar
  let (default, rest) := match s.dropWhile isNameChar with
    | '=' :: r => (some (r.takeWhile (· != ']')), r.dropWhile (· != ']'))
    | r => (none, r)
  let closed := if bracketed then
      match rest with
      | ']' :: r => atEnd r
      | _ => false
    else atEnd rest
  if name ≠ [] ∧ closed = true then
    some ⟨String.ofList name, !bracketed, default.map String.ofList⟩
  else none

def read? (s : List Char) : Option NameToken :=
  match s with
  | '[' :: r => readBody? true r
  | _ => readBody? false s

end NameToken

structure EnumToken where
  expression : String
  values : List String := []
  /-- Whether values may be combined. -/
  combinable : Bool := false
  deriving DecidableEq, Inhabited

namespace EnumToken

/-- A type, and a nonempty text in the parentheses at the end. -/
def cutParentheses? (s : List Char) : Option (List Char × List Char) :=
  let type := s.takeWhile fun c => c != '(' && c != ')'
  match s.dropWhile fun c => c != '(' && c != ')' with
  | '(' :: r =>
    let values := r.dropLast
    if type ≠ [] ∧ r.getLast? = some ')' ∧ values ≠ [] ∧ '\n' ∉ values then some (type, values)
    else none
  | _ => none

def ofValues (expression values : List Char) : EnumToken :=
  let combinable := '|' ∉ values ∧ ',' ∈ values
  let pieces := Chars.splitAt (if combinable then ',' else '|') values
  { expression := String.ofList (Chars.strip expression)
    values := ((pieces.map Chars.strip).filter (· ≠ [])).map String.ofList
    combinable := combinable }

/-- Reads a type with allowed values, `T(v|w)` or `T:v|w`. -/
def read (token : String) : EnumToken :=
  match cutParentheses? token.toList with
  | some (type, values) => ofValues type values
  | none =>
    match Chars.cutAt? ':' token.toList with
    | some (type, values) => ofValues type values
    | none => { expression := token }

end EnumToken

structure ParameterDraft where
  /-- The name as it is written; only a parameter of the body may be without one. -/
  name : Option String
  description : String
  type : EnumToken
  deriving DecidableEq, Inhabited

namespace ParameterDraft

/-- The name and the description, in the text behind the type.  In a definition of the body, text
that is no name followed by a dash is the description. -/
def cutInline (isBody : Bool) (text : String) : Option String × String :=
  let rest := Chars.strip text.toList
  if rest = [] then (none, "")
  else if rest.head? = some '-' then (none, stripDash text)
  else
    let (first, remainder) := Chars.firstWord rest
    let dashed := remainder = [] ∨ remainder.head? = some '-'
    if isBody = true ∧ ((NameToken.read? first).isNone = true ∨ ¬ dashed) then
      (none, String.ofList rest)
    else (some (String.ofList first), stripDash (String.ofList remainder))

def cutFields (isBody : Bool) : List String → Except FieldFault (Option String × String)
  | [] => if isBody then .ok (none, "") else .error .missingName
  | [one] => if isBody then .ok (none, stripDash one) else .ok (some one, "")
  | [name, description] => .ok (some name, stripDash description)
  | _ => .error .tooManyParameterFields

def ofFields (isBody : Bool) (fields : List String) : Except FieldFault ParameterDraft := do
  let typed ← Typed.ofFields fields
  let (name, description) ← match typed.rest with
    | .inline text =>
      let (name, description) := cutInline isBody text
      if name = none ∧ isBody = false then .error .missingName else .ok (name, description)
    | .fields values => cutFields isBody values
  .ok ⟨name, description, EnumToken.read typed.type⟩

/-- The name, whether it is required, and the default. -/
def nameToken (draft : ParameterDraft) (type : Descriptor) : Except FieldFault NameToken :=
  match draft.name with
  | none => .ok ⟨type.name, true, none⟩
  | some text =>
    match NameToken.read? text.toList with
    | some token => .ok token
    | none => .error (.invalidName text)

/-- The first two values and their combination. -/
def combinations : List String → List String
  | first :: second :: _ => [first, second, first ++ "," ++ second]
  | _ => []

def complete (draft : ParameterDraft) (type : Descriptor) (base : String) :
    Except FieldFault Parameter := do
  let token ← draft.nameToken type
  let values := draft.type.values
  .ok
    { name := token.name
      type := type
      description := draft.description
      required := token.required
      allowed := if values = [] then none else some (values.filterMap (EnumValue.read? base))
      examples := if draft.type.combinable then combinations values else []
      default := token.default }

def dropped (draft : ParameterDraft) (base : String) : List String :=
  draft.type.values.filter fun v => (EnumValue.read? base v).isNone

end ParameterDraft

end RouteDoc
