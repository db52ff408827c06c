import RouteDoc.Schema.Evaluation
import RouteDoc.Schema.Registry

/-!
# Classes

The classes that are declared, in the order of their declarations.

* `ClassDecl`: what a class is declared with.
* `Class`: a class, with the fields that it has as a record or as a model.
* `ClassTable.place?`: the class that a name stands for.
* `ClassTable.attribute?`: an attribute of a class, its own or an inherited one.
* `ClassTable.typeExpression`: the type expression for a class.
-/

namespace RouteDoc

inductive ConstantSort where
  | text | integer | plain
  deriving DecidableEq, Inhabited

inductive ClassKind where
  /-- A record: its fields are listed in its constructor. -/
  | record
  /-- A model: a record that checks the values of its fields. -/
  | model
  /-- Any other class with hints for its attributes. -/
  | annotated
  /-- A closed set of constants. -/
  | enumeration (sort : ConstantSort)
  deriving DecidableEq, Inhabited

structure ClassField where
  name : String
  hint : Hint
  /-- The value that it has if none is given. -/
  default : Option Datum := none
  /-- Whether such a value is made anew each time. -/
  hasFactory : Bool := false
  /-- The name that the document uses instead. -/
  label : Option String := none
  /-- The type expression that the document uses instead of the hint. -/
  expression : Option String := none
  /-- The name under which a model reads the field. -/
  inputAlias : Option String := none
  /-- The name under which a model writes the field. -/
  outputAlias : Option String := none
  /-- Whether a model leaves the field out when it is written. -/
  excluded : Bool := false
  deriving Inhabited

structure ClassDecl where
  name : String
  /-- The name with the module and the classes around it. -/
  qualifiedName : String
  kind : ClassKind
  bases : List String := []
  fields : List ClassField := []
  /-- The constants of a closed set. -/
  members : List (String × Datum) := []
  deriving Inhabited

structure RecordField where
  name : String
  hint : Hint
  hasDefault : Bool := false
  label : Option String := none
  expression : Option String := none
  deriving Inhabited

/-- Whether a field belongs to the class and not to its instances. -/
def RecordField.isOfClass (f : RecordField) : Bool := f.hint.isClassVar

structure ModelField where
  name : String
  hint : Hint
  /-- Whether the texts in the hint have been read. -/
  isSettled : Bool := true
  hasDefault : Bool := false
  label : Option String := none
  expression : Option String := none
  inputAlias : Option String := none
  outputAlias : Option String := none
  excluded : Bool := false
  deriving Inhabited

structure Class where
  name : String
  qualifiedName : String
  kind : ClassKind
  /-- The places of the classes that it inherits from, nearest first. -/
  ancestors : List Nat := []
  /-- The hints that its declaration gives. -/
  hints : Dict String Hint := ∅
  /-- The attributes that its declaration gives. -/
  attributes : Dict String Hint := ∅
  /-- All its fields, if it is declared as a record. -/
  record : Option (Dict String RecordField) := none
  /-- All its fields, if it is a model. -/
  model : Option (Dict String ModelField) := none
  /-- Whether all texts in the hints of a model have been read. -/
  isComplete : Bool := true
  /-- The constants of a closed set. -/
  members : List (String × Datum) := []
  deriving Inhabited

abbrev ClassTable := List Class

inductive ClassFault where
  /-- The hint of a field is none, or comes to none. -/
  | hint (fault : HintFault)
  /-- A base comes twice, or the bases have no common order. -/
  | inconsistentBases
  /-- The class has no fields to be described by. -/
  | noFields
  /-- A field has a default and a factory. -/
  | twoDefaults (isModel : Bool)
  /-- A field of the class itself has a factory. -/
  | factoryOfClass
  /-- The default of a field of a record can change. -/
  | mutableDefault
  /-- A field without a default comes behind one with a default. -/
  | missingDefault
  /-- The constructor of a record cannot have a parameter of this name. -/
  | invalidName
  /-- A name that is read otherwise than it is written. -/
  | unstableName
  /-- A field of a model is private, or has the name of what all models have. -/
  | privateField
  | reservedField
  /-- There is no way to check values against the hint of a field of a model. -/
  | uncheckable
  /-- The hint of a field of a model lacks an argument. -/
  | missingArgument
  /-- The hint of a field of a model has arguments that it cannot have, or that have others. -/
  | invalidArgument
  | nestedArgument
  /-- The hint of a field of a model allows no value, or has to be a text to be faulty. -/
  | impossible
  /-- A constant comes twice. -/
  | repeatedConstant
  /-- The value of a constant is of the wrong sort, or cannot be read. -/
  | wrongConstant
  | unreadableConstant
  /-- An argument of a constructor is missing, or there is no parameter for it. -/
  | wrongArguments
  /-- A value of a model is missing, or does not pass the check. -/
  | invalidValue
  /-- A model is used although not all hints of its fields can be read. -/
  | incompleteModel
  deriving DecidableEq, Inhabited

namespace Hint

def classOfDatum : Datum → Builtin
  | .null => .nothing
  | .bool _ => .bool
  | .int _ => .int
  | .float _ => .float
  | .text _ => .str
  | .bytes _ => .bytes
  | .list _ => .list
  | .map _ => .dict
  | .other sort => .other sort

mutual

def ofDatum : Datum → Hint
  | .null => .nothing
  | .bool b => .truth b
  | .int n => .int n
  | .float x => .float x
  | .text s => .text s
  | .bytes s => .bytes (s.getD "").toList
  | .list ds => .items .list (ofData ds)
  | .map es => .table (ofKeys es) (ofValues es)
  | .other _ => .opaqueValue

def ofData : List Datum → List Hint
  | [] => []
  | d :: ds => ofDatum d :: ofData ds

def ofKeys : List (Datum × Datum) → List Hint
  | [] => []
  | (k, _) :: es => ofDatum k :: ofKeys es

def ofValues : List (Datum × Datum) → List Hint
  | [] => []
  | (_, v) :: es => ofDatum v :: ofValues es

end

end Hint

namespace ClassTable

def class? (t : ClassTable) (place : Nat) : Option Class := t[place]?

/-- The place of the last one of the first `known` classes with a name. -/
def placeAmong? (t : ClassTable) (known : Nat) (name : String) : Option Nat :=
  (List.range (min known t.length)).reverse.find? fun i =>
    (t.class? i).any fun c => c.name == name

def place? (t : ClassTable) (name : String) : Option Nat := t.placeAmong? t.length name

/-- A class and those it inherits from, nearest first. -/
def ancestry (t : ClassTable) (place : Nat) : List Nat :=
  match t.class? place with
  | some c => place :: c.ancestors
  | none => []

def lineage (t : ClassTable) (place : Nat) : List Class :=
  (t.ancestry place).filterMap t.class?

def isModel (t : ClassTable) (place : Nat) : Bool :=
  (t.lineage place).any fun c => c.kind == .model

/-- The fields of a class as a record, its own or else inherited ones. -/
def recordFields? (t : ClassTable) (place : Nat) : Option (Dict String RecordField) :=
  (t.lineage place).findSome? Class.record

def className (t : ClassTable) : ClassRef → String
  | .builtin b => b.name
  | .declared place => (t.class? place).elim "" Class.name

def moduleName : String := "app.models"

def display (t : ClassTable) (place : Nat) : String :=
  match t.class? place with
  | some c =>
    match c.kind with
    | .enumeration _ => s!"<enum '{c.name}'>"
    | _ => s!"<class '{c.qualifiedName}'>"
  | none => ""

def constantValue (sort : ConstantSort) (value : Datum) : Hint :=
  if sort = .text then .text value.display else .opaqueValue

def members? (t : ClassTable) (place : Nat) : Option (List (String × Hint)) :=
  match t.class? place with
  | some c =>
    match c.kind with
    | .enumeration sort => some (c.members.map fun m => (m.1, constantValue sort m.2))
    | _ => none
  | none => none

/-- An attribute that a declaration gives to a class or to one of those it inherits from. -/
def givenAttribute? (t : ClassTable) (place : Nat) (name : String) : Option Hint :=
  (t.lineage place).findSome? fun c => c.attributes.get? name

def modelAttributes : String :=
  "construct copy dict from_orm json model_computed_fields model_config model_construct model_copy
   model_dump model_dump_json model_extra model_fields model_fields_set model_json_schema
   model_parametrized_name model_post_init model_rebuild model_validate model_validate_json
   model_validate_strings parse_file parse_obj parse_raw register schema schema_json
   update_forward_refs validate"

def recordAttributes : String :=
  "__annotations__ __dataclass_fields__ __dataclass_params__ __match_args__ __weakref__"

def attribute? (t : ClassTable) (place : Nat) (name : String) : Option Hint :=
  match t.givenAttribute? place name with
  | some h => some h
  | none =>
    match (t.members? place).bind (·.lookup name) with
    | some h => some h
    | none =>
      if name = "__name__" then some (.text (t.className (.declared place)))
      else if name = "__module__" then some .opaqueValue
      else if Builtin.isAmong name recordAttributes then some .opaqueValue
      else if t.isModel place && Builtin.isAmong name modelAttributes then some .opaqueValue
      else Hint.classAttribute? .object name

/-- The type expression for a class: the name under which it is registered, or else what stands for
its values. -/
def typeExpression (t : ClassTable) (r : Registry) (c : ClassRef) : String :=
  match c, r.className? c with
  | .builtin .object, _ => unregistered
  | _, some name => if name = "" then unregistered else name
  | _, none => unregistered
where
  unregistered : String :=
    match c with
    | .builtin b => b.typeExpression
    | .declared place =>
      match (t.class? place).map Class.kind with
      | some (.enumeration .integer) => "int"
      | some (.enumeration _) => "string"
      | _ => t.className c

end ClassTable

end RouteDoc
