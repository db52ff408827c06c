import RouteDoc.Annotation.Fault
import RouteDoc.Number.Numeral
import RouteDoc.Text.Split

/-!
# Examples

The lines of an example are a description, perhaps the URI of a request, perhaps its body, and the
response, which a status code with a colon introduces.  The lines of the bodies are indented anew.

* `Example.read`: the example that the lines describe.  It fails only if there are no lines, or for
  a code that is zero or has more digits than are read.
* `Example.ignored`: the lines that belong to no part: those between a URI and what follows it.
-/

namespace RouteDoc

structure Example where
  description : String := ""
  uri : String := ""
  body : String := ""
  code : Option Nat := none
  response : String := ""
  deriving DecidableEq, Inhabited

namespace Example

inductive Part where
  | description
  | uri
  | body
  | response
  deriving DecidableEq, Inhabited

inductive Start where
  /-- The response; digits as they are written, and the rest of the line. -/
  | response (digits rest : List Char)
  | uri
  | body
  /-- Nothing: it goes on with the part before. -/
  | nothing
  deriving DecidableEq, Inhabited

/-- The digits of a status code with a colon behind them, and the text behind that, which blanks
separate from the colon and which has no line feed in it. -/
def cutCode? (line : List Char) : Option (List Char × List Char) :=
  let digits := line.takeWhile Chars.isDecimal
  match line.dropWhile Chars.isDecimal with
  | ':' :: r =>
    let rest := r.dropWhile Chars.isBlank
    if digits ≠ [] ∧ r.head?.all Chars.isBlank = true ∧ '\n' ∉ rest then some (digits, rest)
    else none
  | _ => none

/-- Whether a line starts with an opening brace or bracket. -/
def opensBody (line : List Char) : Bool :=
  line.head? == some '{' || line.head? == some '['

def Start.of (part : Part) (line : List Char) : Start :=
  match cutCode? line with
  | some (digits, rest) => .response digits rest
  | none =>
    if part = .description ∨ part = .uri then
      if line.head? = some '/' then .uri
      else if opensBody line then .body
      else .nothing
    else .nothing

/-- By how much a line indents those after it. -/
def opening (line : List Char) : Nat :=
  if line.getLast? = some '{' ∨ line.getLast? = some '[' then 1 else 0

/-- The lines that close a brace or bracket and hold nothing else. -/
def closings : List (List Char) := [['}'], [']'], ['}', ','], [']', ',']]

/-- A body being collected, and how deep its next line is indented. -/
structure Body where
  text : List Char := []
  depth : Nat := 0
  deriving DecidableEq, Inhabited

def Body.start (line : List Char) : Body := ⟨line, opening line⟩

/-- Adds a line to a body, two blanks for each level in front of it. -/
def Body.append (b : Body) (line : List Char) : Body :=
  let depth := if closings.contains line then b.depth - 1 else b.depth
  let indented := List.replicate (2 * depth) ' ' ++ line
  ⟨if b.text = [] then indented else b.text ++ '\n' :: indented, depth + opening line⟩

structure Draft where
  part : Part := .description
  description : List Char := []
  uri : List Char := []
  /-- The body of the request. -/
  request : Body := {}
  code : Option Nat := none
  /-- The body of the response. -/
  response : Body := {}
  ignored : List (List Char) := []
  deriving DecidableEq, Inhabited

namespace Draft

def extend (d : Draft) (line : List Char) : Draft :=
  match d.part with
  | .description =>
    { d with description := Chars.strip (d.description ++ ' ' :: line) }
  | .uri => { d with ignored := d.ignored ++ [line] }
  | .body => { d with request := d.request.append line }
  | .response => { d with response := d.response.append line }

def step (d : Draft) (line : List Char) : Except TagFault Draft :=
  match Start.of d.part line with
  | .response digits rest =>
    match Numeral.readInt? digits with
    | none => .error .overlongNumber
    | some code =>
      if code ≤ 0 then .error (.fields (.invalidExampleCode (String.ofList digits)))
      else .ok { d with part := .response, code := some code.toNat, response := .start rest }
  | .uri => .ok { d with part := .uri, uri := line }
  | .body => .ok { d with part := .body, request := .start line }
  | .nothing => .ok (d.extend line)

def steps (d : Draft) : List (List Char) → Draft × Except TagFault Unit
  | [] => (d, .ok ())
  | l :: ls =>
    match d.step l with
    | .ok d' => d'.steps ls
    | .error fault => (d, .error fault)

def finish (d : Draft) : Example where
  description := String.ofList d.description
  uri := String.ofList d.uri
  body := String.ofList d.request.text
  code := d.code
  response := String.ofList d.response.text

end Draft

/-- The lines of an example, trimmed, without the blank ones. -/
def content (lines : List String) : List (List Char) :=
  (lines.map fun l => Chars.strip l.toList).filter (· ≠ [])

/-- The draft that the lines come to, and whether one of them has a fault. -/
def draft (lines : List String) : Draft × Except TagFault Unit :=
  ({} : Draft).steps (content lines)

def read (lines : List String) : Except TagFault Example :=
  if lines = [] then .error (.fields .missingExample)
  else match draft lines with
    | (d, .ok _) => .ok d.finish
    | (_, .error fault) => .error fault

/-- The lines that belong to no part of the example. -/
def ignored (lines : List String) : List String := (draft lines).1.ignored.map String.ofList

end Example

end RouteDoc
