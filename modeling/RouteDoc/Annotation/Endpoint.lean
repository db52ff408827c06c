import RouteDoc.Annotation.Fault
import RouteDoc.Text.Blank
import RouteDoc.Text.Word

/-!
# Methods and resources

* `Endpoint.methods`: the methods a document knows, in the order in which it lists them.
* `Endpoint.readMethod`: a method in letters of either case.
* `Endpoint.readResource`: a resource, which starts with a slash, perhaps with a method in front.
-/

namespace RouteDoc

namespace Endpoint

/-- The methods that a document can describe, in the order in which it lists them. -/
def methods : List String := ["GET", "HEAD", "POST", "PUT", "DELETE", "PATCH", "OPTIONS"]

def readMethod (value : String) : Except FieldFault String :=
  let method := String.ofList (Chars.capitals (Chars.strip value.toList))
  if method ∈ methods then .ok method else .error (.unknownMethod value)

/-- Whether a character is a spelling of an ASCII capital, whatever its case.  The long s counts as
an S, and the i without a dot and the capital I with one count as an I. -/
def spells (capital c : Char) : Bool :=
  Chars.asciiUpper c == capital ||
    (capital == 'S' && c.toNat == 0x017F) ||
    (capital == 'I' && (c.toNat == 0x0130 || c.toNat == 0x0131))

/-- The text behind a word, if the text starts with a spelling of it; and that spelling. -/
def cutWord? : List Char → List Char → Option (List Char × List Char)
  | [], s => some ([], s)
  | w :: ws, c :: r =>
    if spells w c then (cutWord? ws r).map fun p => (c :: p.1, p.2) else none
  | _ :: _, [] => none

/-- The method in front of a resource, as it is spelled, and the resource.  Blanks stand between
them, and no line feed stands inside the resource. -/
def cutMethod? (value : List Char) : Option (List Char × List Char) :=
  methods.findSome? fun m =>
    match cutWord? m.toList value with
    | some (spelling, c :: r) =>
      let resource := (c :: r).dropWhile Chars.isBlank
      if Chars.isBlank c = true ∧ resource ≠ [] ∧ '\n' ∉ resource then some (spelling, resource)
      else none
    | _ => none

def readResource (value : String) : Except FieldFault (String × Option String) :=
  let text := Chars.strip value.toList
  if text = [] then .error .emptyResource
  else
    let (method, resource) := match cutMethod? text with
      | some (spelling, resource) => (some (String.ofList (Chars.capitals spelling)), resource)
      | none => (none, text)
    if resource.head? = some '/' then .ok (String.ofList resource, method)
    else .error (.unrootedResource (String.ofList resource))

end Endpoint

end RouteDoc
