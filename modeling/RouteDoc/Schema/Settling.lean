import RouteDoc.Schema.Class

/-!
# Hints with their texts read

* `ClassTable.environment`, `ClassTable.modelEnvironment`: what the names in the hints of a class
  stand for.
* `Environment.settle`: a hint with every text inside it read.
* `Hint.stripped`: a hint without marks.
-/

namespace RouteDoc

/-! ## Names -/

def Builtin.functions : String :=
  "__build_class__ __import__ abs aiter all anext any ascii bin breakpoint callable chr compile
   delattr dir divmod eval exec format getattr globals hasattr hash hex id input isinstance
   issubclass iter len locals max min next oct open ord pow print repr round setattr sorted sum
   vars"

/-- Other values that are always there, and of which nothing is known. -/
def Builtin.others : String :=
  "NotImplemented __doc__ __package__ __loader__ __spec__ copyright credits exit help license quit
   __builtins__"

/-- What a name stands for if nothing else is given for it. -/
def Builtin.value? (name : String) : Option Hint :=
  match Builtin.ofName? name with
  | some b => some (.of (.builtin b))
  | none =>
    if Builtin.isAmong name Builtin.functions then some (.function name)
    else if Builtin.isAmong name Builtin.others then some .opaqueValue
    else if name = "Ellipsis" then some .ellipsis
    else if name = "None" then some .nothing
    else if name = "True" ∨ name = "__debug__" then some (.truth true)
    else if name = "False" then some (.truth false)
    else none

namespace ClassTable

variable (t : ClassTable)

/-- What a name stands for in the module, as long as it holds the first `known` classes. -/
def moduleValue? (known : Nat) (name : String) : Option Hint :=
  match t.placeAmong? known name with
  | some place => some (.of (.declared place))
  | none =>
    if name = "__name__" then some (.text moduleName)
    else if name = "__doc__" ∨ name = "__package__" ∨ name = "__loader__" ∨ name = "__spec__" then
      some .nothing
    else none

/-- What a name stands for in a class: an attribute that its declaration gives. -/
def ownValue? (place : Nat) (name : String) : Option Hint :=
  match (t.class? place).bind fun c => c.attributes.get? name with
  | some h => some h
  | none =>
    if name = "__module__" then some (.text moduleName)
    else if Builtin.isAmong name recordAttributes || name == "__dict__" then some .opaqueValue
    else none

/-- What names stand for in the hints of a class: what the module holds comes before the attributes
of the class. -/
def environment (place : Nat) : Environment where
  name? isNested name :=
    (if isNested then none else t.moduleValue? t.length name).or
      ((t.ownValue? place name).or (Builtin.value? name))
  attribute? := t.attribute?
  members? := t.members?
  display := t.display

/-- What names stand for in the hints of a model, when the module holds the first `known` classes:
the model itself comes first, then its attributes, then what the module holds.  While the model
`outermost` is made, its name is known as well. -/
def modelEnvironment (known place outermost : Nat) : Environment where
  name? isNested name :=
    let isNameOf (place : Nat) : Bool := (t.class? place).any fun c => c.name == name
    let own : Option Hint :=
      if isNameOf place then some (.of (.declared place))
      else match t.ownValue? place name with
        | some h => some h
        | none => if isNameOf outermost then some (.of (.declared outermost)) else none
    (if isNested then none else own).or ((t.moduleValue? known name).or (Builtin.value? name))
  attribute? := t.attribute?
  members? := t.members?
  display := t.display

end ClassTable

/-! ## Reading -/

namespace Environment

/-- Reads the texts in a hint, or something less.  A text within itself is not read again. -/
abbrev Settle := List String → Hint → Except HintFault Hint

variable (env : Environment)

def readText (s : String) : Except HintFault Hint := do
  match Hint.textExpr? s with
  | some e => Hint.ofValue? (← env.evaluate (s.length + 5) e)
  | none => .error .malformed

/-- Reads the texts in a hint, with its parts read one depth of nesting below. -/
def nextSettle (settle : Settle) : Settle := fun within h => do
  match h with
  | .reference s =>
    if within.contains s then return h else settle (s :: within) (← env.readText s)
  | .generic c args =>
    let args ← args.mapM fun
      | .text s => Hint.reference? s
      | h => .ok h
    return .generic c (← args.mapM (settle within))
  | .unpacked h => return .unpacked (← settle within h)
  | .abstract a args => return .abstract a (← args.mapM (settle within))
  | .union isPlain members =>
    let members ← members.mapM (settle within)
    if isPlain then Hint.joinBars members else Hint.union? members
  | .annotated inner n =>
    match ← settle within inner with
    | .annotated inner m => return .annotated inner (m + n)
    | inner => return .annotated inner n
  | .classVar inner => return .classVar (← settle within inner)
  | h => return h

def deepest : Nat := 400

def settle (h : Hint) : Except HintFault Hint :=
  Nat.repeat env.nextSettle deepest (fun _ h => .ok h) [] h

/-- The hint of a field with every text inside it read: the hint may itself be a text. -/
def settleField (h : Hint) : Except HintFault Hint :=
  match h with
  | .text s => Hint.reference? s >>= env.settle
  | .nothing => .ok .absent
  | h => env.settle h

end Environment

namespace Hint

mutual

/-- A hint without marks.  Members of a union that differ in their marks alone become one. -/
def stripped : Hint → Except HintFault Hint
  | .annotated inner _ => stripped inner
  | .generic c args => (allStripped args).map (.generic c)
  | .unpacked h => (stripped h).map .unpacked
  | .abstract a args => (allStripped args).map (.abstract a)
  | .union isPlain members => do
    let members ← allStripped members
    if isPlain then joinBars members else union? members
  | .classVar inner => (stripped inner).map .classVar
  | h => .ok h

def allStripped : List Hint → Except HintFault (List Hint)
  | [] => .ok []
  | h :: hs => do
    let h ← stripped h
    return h :: (← allStripped hs)

end

end Hint

end RouteDoc
