import RouteDoc.Schema.Class
import RouteDoc.Text.Split

/-!
# Type expressions for hints

* `Hint.expression`: the type expression for a hint.
* `Hint.unsupportedCount`: how many parts of a hint stand for no type of the document.
-/

namespace RouteDoc.Hint

mutual

def expression (t : ClassTable) (r : Registry) : Hint → String
  | .text s => s
  | .reference s => s
  | .of c => t.typeExpression r c
  | .generic c args =>
    let es := expressions t r args
    if c.isSequence then "[]" ++ es.headD "any"
    else if c = .dict then mapping es
    else "any"
  | .abstract a args =>
    let es := expressions t r args
    if a.isMapping then mapping es else "[]" ++ es.headD "any"
  | .union _ members =>
    match memberExpressions t r members with
    | [e] => "*" ++ e
    | es => Text.joinWith " | " es
  | .literal values =>
    match values with
    | d :: _ => t.typeExpression r (.builtin (classOfDatum d))
    | [] => "any"
  | .annotated inner _ => expression t r inner
  | _ => "any"
where
  /-- The type expression for a mapping, from those of its key and its value. -/
  mapping (es : List String) : String :=
    match es with
    | [key, value] => "map[" ++ key ++ "]" ++ value
    | _ => "map[" ++ t.typeExpression r (.builtin .str) ++ "]any"

def expressions (t : ClassTable) (r : Registry) : List Hint → List String
  | [] => []
  | h :: hs => expression t r h :: expressions t r hs

/-- The type expressions for the members of a union, less the absent value. -/
def memberExpressions (t : ClassTable) (r : Registry) : List Hint → List String
  | [] => []
  | h :: hs =>
    if h.isAbsent then memberExpressions t r hs
    else expression t r h :: memberExpressions t r hs

end

mutual

/-- How many parts of a hint stand for no type of the document, among those that its type
expression looks at. -/
def unsupportedCount : Hint → Nat
  | .any => 0
  | .text _ => 0
  | .reference _ => 0
  | .of _ => 0
  | .literal _ => 0
  | .generic c args =>
    let ns := unsupportedCounts args
    if c.isSequence then ns.headD 0
    else if c = .dict then ofMapping ns
    else 1
  | .abstract a args =>
    let ns := unsupportedCounts args
    if a.isMapping then ofMapping ns else ns.headD 0
  | .union _ members => (unsupportedCounts members).foldl (· + ·) 0
  | .annotated inner _ => unsupportedCount inner
  | _ => 1
where
  /-- The number in a mapping, from those in its key and its value. -/
  ofMapping (ns : List Nat) : Nat :=
    match ns with
    | [m, n] => m + n
    | _ => 0

def unsupportedCounts : List Hint → List Nat
  | [] => []
  | h :: hs => unsupportedCount h :: unsupportedCounts hs

end

end RouteDoc.Hint
