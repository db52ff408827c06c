import RouteDoc.Datum.Check
import RouteDoc.Schema.Declaration

/-!
# Instances of classes

* `ClassTable.accepts`: whether a value passes the check that a hint stands for.
* `ClassTable.instantiate`: the table after an instance of a class is made.  A model whose hints
  have not all been read reads them then.
-/

namespace RouteDoc

/-! ## Texts that spell values -/

def isDateText (s : List Char) : Bool :=
  match s with
  | [a, b, c, d, '-', e, f, '-', g, h] =>
    [a, b, c, d, e, f, g, h].all Chars.isAsciiDigit &&
      (1 ≤ Chars.ofDigitsIn 10 [e, f] && Chars.ofDigitsIn 10 [e, f] ≤ 12) &&
      (1 ≤ Chars.ofDigitsIn 10 [g, h] && Chars.ofDigitsIn 10 [g, h] ≤ 31)
  | _ => false

/-- Whether a text spells a time of the day, with or without seconds and a zone. -/
def isTimeText (s : List Char) : Bool :=
  match s with
  | a :: b :: ':' :: c :: d :: rest =>
    [a, b, c, d].all Chars.isAsciiDigit && Chars.ofDigitsIn 10 [a, b] < 24 &&
      Chars.ofDigitsIn 10 [c, d] < 60 &&
      rest.all fun c => Chars.isAsciiDigit c || [':', '.', '+', '-', 'Z', 'z'].contains c
  | _ => false

def isMomentText (s : List Char) : Bool :=
  isDateText (s.take 10) && match s.drop 10 with
    | [] => true
    | c :: rest => ['T', 't', ' ', '_'].contains c && isTimeText rest

/-- Whether a text spells a number of sixteen bytes in base sixteen. -/
def isUuidText (s : List Char) : Bool :=
  let digits := s.filter (· != '-')
  digits.length == 32 && digits.all Chars.isHexDigit

def isNumberText (s : String) : Bool := (Numeral.readFloat? s.toList).isSome

/-! ## Checks of values -/

namespace Builtin

def isNumeric : Datum → Bool
  | .int _ | .float _ | .bool _ => true
  | .text s => isNumberText s
  | _ => false

def isNumberOr (p : List Char → Bool) : Datum → Bool
  | .int _ | .float _ => true
  | .text s => p s.toList || isNumberText s
  | _ => false

/-- Whether a datum is accepted for a value of a class. -/
def accepts (b : Builtin) (d : Datum) : Bool :=
  match b with
  | .object => true
  | .str => match d with
    | .text _ => true
    | _ => false
  | .bytes => match d with
    | .text _ | .bytes _ => true
    | _ => false
  | .int => d.int?.isSome
  | .float | .decimal | .complex => isNumeric d
  | .bool => d.bool?.isSome
  | .nothing => match d with
    | .null => true
    | _ => false
  | .datetime => isNumberOr isMomentText d
  | .date => isNumberOr isMomentText d
  | .time => isNumberOr isTimeText d
  | .uuid => match d with
    | .text s => isUuidText s.toList
    | _ => false
  | .list | .tuple | .set | .frozenset => match d with
    | .list _ => true
    | _ => false
  | .dict => match d with
    | .map _ => true
    | _ => false
  | .type | .other _ => false

end Builtin

namespace ClassTable

abbrev Accepts := Hint → Datum → Bool

variable (t : ClassTable)

def argumentFor? (f : ModelField) (arguments : List (Datum × Datum)) : Option Datum :=
  Datum.lookup? (f.inputAlias.getD f.name) arguments

def acceptsFields (accepts : Accepts) (fields : List ModelField)
    (arguments : List (Datum × Datum)) : Bool :=
  fields.all fun f =>
    match argumentFor? f arguments with
    | some d => accepts f.hint d
    | none => f.hasDefault

def acceptsRecord (accepts : Accepts) (fields : List RecordField)
    (arguments : List (Datum × Datum)) : Bool :=
  fields.all fun f =>
    f.isOfClass || match Datum.lookup? f.name arguments with
      | some d => accepts f.hint d
      | none => f.hasDefault

def acceptsClass (accepts : Accepts) (place : Nat) (d : Datum) : Bool :=
  match t.class? place, d with
  | none, _ => false
  | some c, d =>
    match c.model, t.recordFields? place, c.kind, d with
    | some fields, _, _, .map es => acceptsFields accepts fields.values es
    | none, some fields, _, .map es => acceptsRecord accepts fields.values es
    | _, _, .enumeration _, d => c.members.any fun m => m.2 == d
    | _, _, _, _ => false

def acceptsItems (accepts : Accepts) (b : Builtin) (args : List Hint) (d : Datum) : Bool :=
  match b, args, d with
  | .dict, k :: v :: _, .map es => es.all fun e => accepts k e.1 && accepts v e.2
  | .tuple, [h, .ellipsis], .list ds => ds.all (accepts h)
  | .tuple, args, .list ds =>
    ds.length == args.length && (args.zip ds).all fun (h, d) => accepts h d
  | b, h :: _, .list ds => b.isSequence && ds.all (accepts h)
  | b, _, d => b.accepts d

/-- Whether a value passes the check that a hint stands for, with its parts one depth of nesting
below. -/
def nextAccepts (accepts : Accepts) : Accepts := fun h d =>
  match h with
  | .any | .variable => true
  | .nothing => Builtin.accepts .nothing d
  | .of (.builtin b) => b.accepts d
  | .of (.declared place) => t.acceptsClass accepts place d
  | .generic b args => acceptsItems accepts b args d
  | .abstract a args =>
    if a.isMapping then acceptsItems accepts .dict args d
    else match a, d with
      | .iterable, .text _ | .iterable, .map _ => true
      | _, d => acceptsItems accepts .list args d
  | .union _ members => members.any fun m => accepts m d
  | .literal values => values.contains d
  | .annotated inner _ => accepts inner d
  | .reference _ | .text _ => true
  | _ => false

def accepts (h : Hint) (d : Datum) : Bool :=
  Nat.repeat t.nextAccepts Environment.deepest (fun _ _ => true) h d

/-! ## Instances -/

/-- The table with the hints of a model read, as far as they have not been. -/
def complete (place : Nat) : Except ClassFault ClassTable := do
  match t.class? place with
  | none => return t
  | some c =>
    match c.model with
    | none => return t
    | some fields =>
      if c.isComplete then return t
      else
        let settled ← fields.values.mapM fun f => do
          if f.isSettled then return f
          else match ← settleIn? (t.modelEnvironment t.length place place) f.hint with
            | some hint => return { f with hint, isSettled := true }
            | none => .error .incompleteModel
        let c := { c with
          model := some (Dict.ofList (settled.map fun f => (f.name, f))), isComplete := true }
        let t : ClassTable := t.set place c
        let isChecked ←
          checkEach (fun (f : ModelField) => t.checkHint t.length place f.hint) settled
        if isChecked then return t else .error .incompleteModel

/-- The table after an instance of a class is made from arguments with names. -/
def instantiate (place : Nat) (arguments : List (Datum × Datum)) :
    Except ClassFault ClassTable := do
  let t ← t.complete place
  match t.class? place with
  | none => return t
  | some c =>
    match c.model, t.recordFields? place with
    | some fields, _ =>
      if acceptsFields t.accepts fields.values arguments then return t else .error .invalidValue
    | none, some fields =>
      let parameters := fields.values.filter fun f => !f.isOfClass
      let isKnown (d : Datum) : Bool := parameters.any fun f => d.text? == some f.name
      let isGiven (f : RecordField) : Bool :=
        f.hasDefault || (Datum.lookup? f.name arguments).isSome
      if arguments.all (fun e => isKnown e.1) && parameters.all isGiven then return t
      else .error .wrongArguments
    | none, none =>
      let isConstructed := c.kind == .annotated && arguments.isEmpty
      if isConstructed then return t else .error .wrongArguments

end ClassTable

end RouteDoc
