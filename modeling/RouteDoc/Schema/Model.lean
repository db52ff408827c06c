import RouteDoc.Schema.Record
import RouteDoc.Schema.Settling
import RouteDoc.Text.Split

/-!
# Models

A model reads the hints of its fields as soon as it is declared, as far as the names in them are
known, and builds from them a check for the values of the fields.

* `ClassTable.checkHint`: whether values can be checked against a hint.
* `Class.asModel`: a class with the fields that it has as a model.
-/

namespace RouteDoc

/-! ## Hints that values can be checked against -/

/-- Whether values can be checked for being of a class that is always there. -/
def Builtin.isChecked : Builtin → Bool
  | .other _ => false
  | _ => true

namespace ClassTable

/-- Whether values can be checked against a hint: not yet, if a name in it is not known.  The
classes whose checks are being built are given. -/
abbrev Check := List Nat → Hint → Except ClassFault Bool

def checkEach {α : Type} (check : α → Except ClassFault Bool) : List α → Except ClassFault Bool
  | [] => .ok true
  | a :: as => do if ← check a then checkEach check as else return false

variable (t : ClassTable)

/-- Reads the hint of a field; missing if a name in it is not known.  What is no text must not come
to something that is no hint. -/
def settleIn? (env : Environment) (h : Hint) : Except ClassFault (Option Hint) :=
  match env.settleField h with
  | .ok h => .ok (some h)
  | .error (.unknownName _) => .ok none
  | .error .illTyped =>
    match h with
    | .text _ | .reference _ => .error (.hint .illTyped)
    | _ => .error .impossible
  | .error fault => .error (.hint fault)

def isClassVarOrText (h : Hint) : Bool :=
  let isText (s : String) : Bool :=
    let behindModule (cs : List Char) : List Char :=
      match cs.takeWhile Chars.isWord, cs.dropWhile Chars.isWord with
      | _ :: _, '.' :: r => r
      | _, _ => cs
    let starts (w : String) (cs : List Char) : Bool :=
      w.toList.isPrefixOf cs || w.toList.isPrefixOf (behindModule cs)
    let behindMark (cs : List Char) : List Char :=
      let mark := "Annotated[".toList
      if mark.isPrefixOf cs then cs.drop mark.length
      else if mark.isPrefixOf (behindModule cs) then (behindModule cs).drop mark.length
      else cs
    starts "ClassVar[" s.toList || starts "ClassVar[" (behindMark s.toList)
  match h with
  | .text s | .reference s => isText s
  | .annotated inner _ => inner.isClassVar
  | h => h.isClassVar

def checkClassHint : Hint → Except ClassFault Bool
  | .any | .variable | .of _ | .nothing => .ok true
  | .generic .. => .error .nestedArgument
  | .annotated (.any) _ | .annotated .variable _ | .annotated (.of _) _ => .ok true
  | .union _ members => checkEach (fun
    | .any | .variable | .of _ | .nothing => .ok true
    | .generic .. => .error .nestedArgument
    | _ => .error .missingArgument) members
  | _ => .error .missingArgument

def checkArguments (check : Hint → Except ClassFault Bool) (b : Builtin) (args : List Hint) :
    Except ClassFault Bool :=
  match b, args with
  | .type, h :: _ => checkClassHint h
  | .type, [] => .ok true
  | .dict, [] => .ok true
  | .dict, [_] => .error .missingArgument
  | .dict, k :: v :: _ => checkEach check [k, v]
  | .tuple, args =>
    match args, args.getLast? with
    | [h, .ellipsis], _ => check h
    | _, some .ellipsis => .error .invalidArgument
    | [.items .tuple []], _ => .ok true
    | args, _ => checkEach check args
  | .list, args | .set, args | .frozenset, args => checkEach check (args.take 1)
  | _, _ => .error .uncheckable

/-- Whether values can be checked for being of a class.  The hints of its fields are read again, if
they have not been read, when the module holds the first `known` classes. -/
def checkClass (known outermost : Nat) (check : Check) (visiting : List Nat) (place : Nat) :
    Except ClassFault Bool :=
  let field (place : Nat) (h : Hint) : Except ClassFault Bool := do
    match ← settleIn? (t.modelEnvironment known place outermost) h with
    | some h => check (place :: visiting) h
    | none => return false
  match t.class? place with
  | none => .ok true
  | some c =>
    if visiting.contains place then .ok true
    else match c.model, t.recordFields? place, c.kind with
      | some fields, _, _ =>
        if c.isComplete then .ok true
        else checkEach (fun (f : ModelField) =>
          if f.isSettled then check (place :: visiting) f.hint else field place f.hint)
          fields.values
      | none, some _, _ =>
        let own := (t.ancestry place).reverse.flatMap fun p =>
          if (t.recordFields? p).isSome then
            ((t.class? p).elim [] fun c => c.hints.values).map fun h => (p, h)
          else []
        checkEach (fun (p, h) => if isClassVarOrText h then .ok true else field p h) own
      | none, none, .enumeration _ => .ok true
      | none, none, _ => .error .uncheckable

/-- Whether values can be checked against a hint, with its parts one depth of nesting below. -/
def nextCheck (known outermost : Nat) (check : Check) : Check := fun visiting h =>
  match h with
  | .any | .variable | .nothing | .function none => .ok true
  | .of (.builtin b) => if b.isChecked then .ok true else .error .uncheckable
  | .of (.declared place) => t.checkClass known outermost check visiting place
  | .generic b args => checkArguments (check visiting) b args
  | .abstract _ args => checkEach (check visiting) args
  | .union _ members => checkEach (check visiting) members
  | .literal values => if values.isEmpty then .error .impossible else .ok true
  | .annotated inner _ => check visiting inner
  | .text _ | .reference _ => .ok false
  | _ => .error .uncheckable

/-- Whether values can be checked against a hint of the class `outermost`. -/
def checkHint (known outermost : Nat) (h : Hint) : Except ClassFault Bool :=
  Nat.repeat (t.nextCheck known outermost) Environment.deepest (fun _ _ => .ok true) [outermost] h

end ClassTable

/-! ## The fields of a model -/

/-- What the field of a model gives to its attribute, if it does: all of the field but its hint. -/
def ModelField.given? (f : ClassField) : Option ModelField :=
  let hasDefault := f.default.isSome || f.hasFactory
  let isGiven := hasDefault || f.label.isSome || f.expression.isSome || f.inputAlias.isSome ||
    f.outputAlias.isSome || f.excluded
  if isGiven then
    some { name := f.name, hint := f.hint, hasDefault, label := f.label, expression := f.expression
           inputAlias := f.inputAlias, outputAlias := f.outputAlias, excluded := f.excluded }
  else none

def isPrivateName (name : String) : Bool := Text.startsWith name "_"

namespace Class

variable (t : ClassTable) (place : Nat) (c : Class)

/-- The hints of a model and its ancestors, the farthest ones first, read as far as the names in
them are known; and whether they have been read. -/
def modelHints (known : Nat) : Except ClassFault (Dict String (Hint × Bool)) :=
  (t.ancestry place).reverse.foldlM (fun (d : Dict String (Hint × Bool)) p =>
    match t.class? p with
    | none => .ok d
    | some b => b.hints.entries.foldlM (fun d (name, h) => do
      match ← ClassTable.settleIn? (t.modelEnvironment known p p) h with
      | some settled => return d.put name (settled, true)
      | none =>
        let raw := match h with
          | .text s => .reference s
          | h => h
        return d.put name (raw, false)) d) ∅

/-- The beginnings of names that are kept for what all models do. -/
def reservedStarts : List String := ["model_validate", "model_dump"]

/-- Whether a name is that of what all models do, and no field of a base. -/
def isReserved (bases : List Nat) (name : String) : Bool :=
  reservedStarts.any (Text.startsWith name) && Builtin.isAmong name ClassTable.modelAttributes &&
    !bases.any fun b => ((t.class? b).bind Class.model).any fun fields => fields.contains name

/-- A field of a model; missing if the hint is not that of a field. -/
def modelField (bases : List Nat) (given : Dict String ModelField) (name : String)
    (hint : Hint × Bool) : Option ModelField :=
  if ClassTable.isClassVarOrText hint.1 || isPrivateName name then none
  else
    let plain : ModelField := { name, hint := hint.1, isSettled := hint.2 }
    match given.get? name with
    | some f => some { f with hint := hint.1, isSettled := hint.2 }
    | none =>
      let isInherited := ((c.inherited? t name).isSome ||
        Builtin.isAmong name ClassTable.modelAttributes) && name != ""
      if isInherited then some { plain with hasDefault := true }
      else if c.hints.contains name then some plain
      else
        let ofBase? := bases.findSome? fun b =>
          ((t.class? b).bind Class.model).bind fun fields => fields.get? name
        some (ofBase?.getD plain)

/-- A class with the fields that it has as a model.  The table holds the class at its place, without
these. -/
def asModel (bases : List Nat) (given : Dict String ModelField) : Except ClassFault Class := do
  let hints ← modelHints t place place
  let names := hints.entries.filter fun e => e.1 != "model_config"
  if names.any fun e => isReserved t bases e.1 then .error .reservedField
  else
    let fields := names.filterMap fun e => c.modelField t bases given e.1 e.2
    let isSettled := fields.all ModelField.isSettled
    let isComplete ← if isSettled then
      ClassTable.checkEach (fun (f : ModelField) => t.checkHint place place f.hint) fields
      else .ok false
    let kept := c.attributes.entries.filter fun e =>
      !isPrivateName e.1 && !fields.any fun f => f.name == e.1
    return { c with
      model := some (Dict.ofList (fields.map fun f => (f.name, f)))
      attributes := Dict.ofList kept
      isComplete }

/-- Checks of the private attributes of a model, which come before all others.  Their hints are read
where the model itself is not known. -/
def checkPrivate (hints : Dict String Hint) (given : Dict String ModelField) :
    Except ClassFault Unit := do
  if given.keys.any isPrivateName then .error .privateField
  let env : Environment := ⟨fun _ => Builtin.value?, fun _ _ => none, fun _ => none, fun _ => ""⟩
  for (name, h) in hints.entries do
    if isPrivateName name && !ClassTable.isClassVarOrText h then
      match h with
      | .text _ =>
        match env.settleField h with
        | .ok _ | .error (.unknownName _) | .error .illTyped => pure ()
        | .error fault => .error (.hint fault)
      | _ => pure ()

end Class

end RouteDoc
