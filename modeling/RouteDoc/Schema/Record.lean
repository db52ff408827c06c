import RouteDoc.Schema.Ancestry
import RouteDoc.Text.Normal

/-!
# Records and annotated classes

* `Given.ofField`: what a declaration gives to the attribute of a field.
* `Class.asRecord`: a class with the fields that it has as a record.  Its constructor takes the
  fields of its ancestors first; a field that is declared again keeps its place.
* `Class.ofEnumeration`: a closed set of constants.
-/

namespace RouteDoc

/-- What a declaration gives to the attribute of a field: a value, or more than that. -/
inductive Given where
  | plain (h : Hint)
  | described (default : Option Hint) (hasFactory : Bool) (label expression : Option String)
  deriving Inhabited

namespace Given

/-- What the attribute has as its value. -/
def value? : Given → Option Hint
  | .plain h => some h
  | .described default _ _ _ => default

/-- What the field of a record gives to its attribute, if it does. -/
def ofField (f : ClassField) : Option Given :=
  let default := f.default.map Hint.ofDatum
  if f.hasFactory || f.label.isSome || f.expression.isSome then
    some (.described default f.hasFactory f.label f.expression)
  else default.map .plain

/-- What the field of any other class gives to its attribute: a value, if it has one. -/
def ofPlainField (f : ClassField) : Option Given :=
  match f.default with
  | some d => some (.plain (Hint.ofDatum d))
  | none => if f.hasFactory then some (.plain (.items .list [])) else none

end Given

/-- What a declaration gives to its fields, in their order. -/
structure GivenFields where
  hints : Dict String Hint := ∅
  given : Dict String Given := ∅
  deriving Inhabited

/-- What a declaration gives to its fields, if it gives to each as said. -/
def GivenFields.of (give : ClassField → Option Given) (fields : List ClassField) : GivenFields :=
  fields.foldl (fun g f =>
    { hints := g.hints.put f.name f.hint
      given := match give f with
        | some v => g.given.put f.name v
        | none => g.given }) {}

def GivenFields.attributes (g : GivenFields) : Dict String Hint :=
  Dict.ofList (g.given.entries.filterMap fun e => e.2.value?.map fun h => (e.1, h))

def Hint.isMutable : Hint → Bool
  | .items c _ => c == .list || c == .set
  | .table .. => true
  | _ => false

namespace Class

/-- The attribute that every class has, and whose name is not private. -/
def order : String := "mro"

/-- The attributes that classes have by their own class, which no declaration replaces. -/
def fixedAttributes : String :=
  "__base__ __bases__ __basicsize__ __dictoffset__ __flags__ __itemsize__ __mro__ __name__
   __qualname__ __weakrefoffset__"

variable (t : ClassTable) (c : Class)

def inherited? (name : String) : Option Hint :=
  match (c.ancestors.filterMap t.class?).findSome? fun b => b.attributes.get? name with
  | some h => some h
  | none => (Hint.classAttribute? .object name).map fun _ => .opaqueValue

def recordField (g : GivenFields) (name : String) (hint : Hint) :
    Except ClassFault RecordField :=
  let given :=
    if Builtin.isAmong name fixedAttributes then some (.plain .opaqueValue)
    else (g.given.get? name).or ((c.inherited? t name).map .plain)
  let field : RecordField :=
    match given with
    | some (.described default hasFactory label expression) =>
      { name, hint, hasDefault := default.isSome || hasFactory, label, expression }
    | v => { name, hint, hasDefault := v.isSome }
  match given with
  | some (.described _ true _ _) => if field.isOfClass then .error .factoryOfClass else .ok field
  | some v =>
    if !field.isOfClass && v.value?.any Hint.isMutable then .error .mutableDefault else .ok field
  | none => .ok field

/-- Whether a field without a default comes behind one with a default. -/
def lacksDefault : Bool → List RecordField → Bool
  | _, [] => false
  | seen, f :: fs =>
    if f.isOfClass then lacksDefault seen fs
    else if f.hasDefault then lacksDefault true fs
    else seen || lacksDefault seen fs

def isParameterName (name : String) : Bool :=
  Chars.isIdentifier name.toList && !Script.Parse.keywords.contains name &&
    name != Script.Expr.reservedName

/-- The fields of a record: those of its ancestors, and its own. -/
def recordFields (g : GivenFields) : Except ClassFault (Dict String RecordField) := do
  let inherited := c.ancestors.reverse.foldl (fun fields place =>
    match t.recordFields? place with
    | some d => d.values.foldl (fun fields (f : RecordField) => fields.put f.name f) fields
    | none => fields) (∅ : Dict String RecordField)
  let own ← g.hints.entries.mapM fun e => c.recordField t g e.1 e.2
  let fields := own.foldl (fun fields f => fields.put f.name f) inherited
  let names := (fields.values.filter fun f => !f.isOfClass).map RecordField.name
  if lacksDefault false fields.values then .error .missingDefault
  else if !names.all isParameterName then .error .invalidName
  else if names.any fun n => Chars.normalName n.toList != n.toList then .error .unstableName
  else .ok fields

def asRecord (g : GivenFields) : Except ClassFault Class :=
  (c.recordFields t g).map fun fields => { c with record := some fields }

end Class

/-! ## Closed sets of constants -/

def checkConstant (sort : ConstantSort) (value : Datum) : Except ClassFault Unit :=
  match sort, value with
  | .integer, .text s =>
    if (Numeral.readInt? s.toList).isSome then .ok () else .error .unreadableConstant
  | .integer, .int _ | .integer, .bool _ => .ok ()
  | .integer, .float x =>
    match x with
    | .finite .. => .ok ()
    | _ => .error .unreadableConstant
  | .integer, _ => .error .wrongConstant
  | _, _ => .ok ()

def Class.ofEnumeration (c : Class) (sort : ConstantSort) (members : List (String × Datum)) :
    Except ClassFault Class := do
  let names := members.map Prod.fst
  if names.eraseDups.length != names.length then .error .repeatedConstant
  else if names.contains Class.order then .error .unreadableConstant
  else
    let _ ← members.mapM fun m => checkConstant sort m.2
    return { c with members }

end RouteDoc
