import RouteDoc.Datum.Check
import RouteDoc.Schema.Definition

/-!
# Definitions from plain data

* `Definition.ofDatum?`: the definition that a mapping gives.  Unknown keys are passed over; what is
  missing takes its default, if it has one.
-/

namespace RouteDoc

def Kind.ofWord? (word : String) : Option Kind :=
  [Kind.scalar, .object, .array, .map, .any, .nil].find? fun k => k.word == word

def Descriptor.ofDatum? (d : Datum) : Option Descriptor := do
  let kind ← d.required? "kind" fun k => k.text?.bind Kind.ofWord?
  let name ← d.required? "name" Datum.text?
  let dependents ← d.fieldOr "dependents" (Datum.listOf? Datum.text?) []
  return ⟨kind, name, dependents⟩

def Primitive.ofDatum? (d : Datum) : Option Primitive := do
  let bound (key : String) : Option (Option Int) := d.fieldOr key (Datum.nullable? Datum.int?) none
  return {
    name := ← d.required? "name" Datum.text?
    base := ← d.required? "base" Datum.text?
    description := ← d.fieldOr "description" Datum.text? ""
    pattern := ← d.fieldOr "pattern" (Datum.nullable? Datum.text?) none
    minLength := ← bound "min_length"
    maxLength := ← bound "max_length" }

def MapType.ofDatum? (d : Datum) : Option MapType := do
  return {
    name := ← d.required? "name" Datum.text?
    key := ← d.required? "key" Descriptor.ofDatum?
    value := ← d.required? "value" Descriptor.ofDatum? }

def StructField.ofDatum? (d : Datum) : Option StructField := do
  return {
    name := ← d.required? "name" Datum.text?
    type := ← d.required? "type" Descriptor.ofDatum?
    optional := ← d.fieldOr "optional" Datum.bool? false }

def Struct.ofDatum? (d : Datum) : Option Struct := do
  return {
    name := ← d.required? "name" Datum.text?
    source := ← d.fieldOr "source" Datum.text? ""
    fields := ← d.fieldOr "fields" (Datum.listOf? StructField.ofDatum?) [] }

def Definition.ofDatum? (d : Datum) : Option Definition := do
  match ← d.required? "kind" Datum.text? with
  | "primitive" => (Primitive.ofDatum? d).map .primitive
  | "map" => (MapType.ofDatum? d).map .map
  | "struct" => (Struct.ofDatum? d).map .struct
  | _ => none

end RouteDoc
