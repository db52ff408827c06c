import RouteDoc.Schema.Attribute
import RouteDoc.Schema.Operation

/-!
# What expressions come to

A text that stands for a hint is an expression, and comes to a hint or to some other value.

* `Environment`: what names stand for.
* `Environment.evaluate`: what an expression comes to.  Functions are not looked into, so that what
  most calls give is not known.
-/

namespace RouteDoc

open Script (Expr Constant CollectionKind Comparison)

structure Environment where
  /-- What a name stands for; within functions and within collections that are built from others,
  not all names are known that are known outside. -/
  name? (isNested : Bool) (name : String) : Option Hint
  /-- The attribute of a declared class. -/
  attribute? (place : Nat) (name : String) : Option Hint
  /-- The members of a declared class, if it is a closed set of constants. -/
  members? (place : Nat) : Option (List (String × Hint))
  /-- How a declared class is shown in a text. -/
  display (place : Nat) : String

structure Scope where
  isNested : Bool := false
  /-- The names that are bound by the expressions around. -/
  bound : List (String × Hint) := []
  deriving Inhabited

namespace Environment

abbrev Evaluate := Scope → Expr → Except HintFault Hint

variable (env : Environment)

/-! ## Names, attributes and parts -/

/-- What a name stands for. -/
def lookUp (scope : Scope) (s : String) : Except HintFault Hint :=
  match (scope.bound.lookup s).or (env.name? scope.isNested s) with
  | some h => .ok h
  | none => .error (.unknownName s)

def attributeOf (h : Hint) (name : String) : Except HintFault Hint :=
  match h with
  | .of (.declared place) =>
    match env.attribute? place name with
    | some a => .ok a
    | none => .error .missingAttribute
  | h => h.attribute? name

def itemOf (h index : Hint) : Except HintFault Hint :=
  match h with
  | .of (.declared place) =>
    match env.members? place, index with
    | some ms, .text s =>
      match ms.lookup s with
      | some m => .ok m
      | none => .error .missingKey
    | some _, h => .error (if h.isStable then .missingKey else .illTyped)
    | none, _ => .error .illTyped
  | h => h.item? index

def itemsOf (h : Hint) : Except HintFault (List Hint) :=
  match h with
  | .of (.declared place) =>
    match env.members? place with
    | some ms => .ok (ms.map Prod.snd)
    | none => .error .illTyped
  | h => h.iterate?

/-! ## Constants and texts -/

def constant : Constant → Hint
  | .nothing => .nothing
  | .truth b => .truth b
  | .number (.int n) => .int n
  | .number (.float x) => .float x
  | .number (.imaginary _) => .opaqueValue
  | .text s => .text (String.ofList s)
  | .bytes s => .bytes s
  | .ellipsis => .ellipsis

def display? : Hint → Option String
  | .text s => some s
  | .nothing => some "None"
  | .truth b => some (if b then "True" else "False")
  | .int n => some (toString n)
  | .float x => some (({} : FloatStyle).write x)
  | .ellipsis => some "Ellipsis"
  | .of (.builtin b) => some s!"<class '{b.name}'>"
  | .of (.declared place) => some (env.display place)
  | .function (some name) => some s!"<built-in function {name}>"
  | _ => none

variable (ev : Evaluate)

/-- A text with placeholders; missing if the text of a value is not known. -/
def formatted (scope : Scope) : List Expr → Except HintFault (Option String)
  | [] => .ok (some "")
  | .placeholder e isPlain format :: parts => do
    let value ← ev scope e
    let formatText ← formatted' scope format
    let rest ← formatted scope parts
    return do
      if !isPlain || formatText != some "" then none
      else return (← env.display? value) ++ (← rest)
  | e :: parts => do
    let value ← ev scope e
    let rest ← formatted scope parts
    return do return (← env.display? value) ++ (← rest)
where
  /-- The format of a placeholder. -/
  formatted' (scope : Scope) : List Expr → Except HintFault (Option String)
    | [] => .ok (some "")
    | .placeholder e _ _ :: parts => do
      let _ ← ev scope e
      let _ ← formatted' scope parts
      return none
    | _ :: parts => do
      let _ ← formatted' scope parts
      return none

/-! ## Collections -/

/-- Items, some of which may have a star and stand for the items of a collection. -/
def items (scope : Scope) : List Expr → Except HintFault (List Hint)
  | [] => .ok []
  | .starred e :: es => do
    let hs ← env.itemsOf (← ev scope e)
    return hs ++ (← items scope es)
  | e :: es => do
    let h ← ev scope e
    return h :: (← items scope es)

def set? (hs : List Hint) : Except HintFault Hint :=
  if Hint.areStable hs then .ok (.items .set (Hint.distinct hs)) else .error .illTyped

def entries (scope : Scope) : List Expr → Except HintFault (List Hint × List Hint)
  | [] => .ok ([], [])
  | .entry k v :: es => do
    let key ← ev scope k
    let value ← ev scope v
    if key.isStable then
      let (ks, vs) ← entries scope es
      return (key :: ks, value :: vs)
    else .error .illTyped
  | .spread e :: es => do
    match ← ev scope e with
    | .table ks vs =>
      let (ls, ws) ← entries scope es
      return (ks ++ ls, vs ++ ws)
    | .opaqueValue => entries scope es
    | _ => .error .illTyped
  | _ :: es => entries scope es

/-! ## Collections built from others -/

/-- What is bound by an assignment to some target, in front of what is bound already. -/
def assign (target : Expr) (h : Hint) (bound : List (String × Hint)) :
    Except HintFault (List (String × Hint)) :=
  match target with
  | .name s => .ok ((s, h) :: bound)
  | .tuple ts => unpack ts
  | .list ts => unpack ts
  | _ => .ok bound
where
  /-- The same for several targets.  Nested ones are bound to what is not known. -/
  unpack (ts : List Expr) : Except HintFault (List (String × Hint)) := do
    if h.isOpaque then return (Expr.allBoundNames ts).map (fun s => (s, .opaqueValue)) ++ bound
    else
      let hs ← env.itemsOf h
      let isStarred := ts.any Expr.isStarred
      if hs.length + 1 < ts.length || (!isStarred && hs.length != ts.length) then
        .error .badValue
      else if isStarred then
        return (Expr.allBoundNames ts).map (fun s => (s, .opaqueValue)) ++ bound
      else return ((ts.zip hs).flatMap fun
        | (.name s, h) => [(s, h)]
        | (t, _) => t.boundNames.map fun s => (s, .opaqueValue)) ++ bound

/-- What clauses give for each round: `finish` is evaluated in the end of each.  The source of the
first clause has been evaluated. -/
def rounds (finish : Scope → Except HintFault Hint) :
    List Expr → Option Hint → Scope → Except HintFault (List Hint)
  | [], _, scope => (finish scope).map fun h => [h]
  | .loop _ target source :: cs, first?, scope => do
    let value ← (match first? with
      | some h => .ok h
      | none => ev scope source)
    let hs ← env.itemsOf value
    let found ← hs.mapM fun h => do
      let bound ← env.assign target h scope.bound
      rounds finish cs none { scope with bound }
    return found.flatten
  | .guard test :: cs, _, scope => do
    if (← ev scope test).isTrue then rounds finish cs none scope else return []
  | _ :: cs, _, scope => rounds finish cs none scope

/-- A collection that is built from others.  A generator is asked for no item. -/
def comprehension (scope : Scope) (k : CollectionKind) (item : Expr) (clauses : List Expr) :
    Except HintFault Hint := do
  match clauses with
  | .loop _ _ source :: _ =>
    let first ← ev scope source
    let inner := { scope with isNested := true }
    let found := rounds env ev (fun scope => ev scope item) clauses (some first) inner
    match k with
    | .generator => (env.itemsOf first).map fun _ => .opaqueValue
    | .list => found.map (.items .list)
    | .set => found >>= set?
    | .mapping =>
      let pairs ← rounds env ev (fun scope => (entries ev scope [item]).map fun (ks, vs) =>
        .items .tuple (ks ++ vs)) clauses (some first) inner
      let entries := pairs.filterMap fun
        | .items _ [k, v] => some (k, v)
        | _ => none
      return .table (entries.map Prod.fst) (entries.map Prod.snd)
  | _ => return .opaqueValue

/-! ## Calls -/

/-- What a class gives when it is called with some values. -/
def construct (b : Builtin) (args : List Hint) : Except HintFault Hint :=
  match b, args with
  | .type, [h] =>
    match h.builtinOf? with
    | some b => .ok (.of (.builtin b))
    | none => .ok .opaqueValue
  | .type, [] => .error .illTyped
  | .bool, [] => .ok (.truth false)
  | .bool, [h] => .ok (.truth h.isTrue)
  | .int, [] => .ok (.int 0)
  | .int, [.text s] =>
    match Numeral.readInt? s.toList with
    | some n => .ok (.int n)
    | none => .error .badValue
  | .int, [h] =>
    match h.real? with
    | some _ => .ok (match h.int? with
      | some n => .int n
      | none => .opaqueValue)
    | none => if h.isOpaque then .ok .opaqueValue else .error .illTyped
  | .float, [] => .ok (.float (.zero false))
  | .str, [] => .ok (.text "")
  | .str, [h] =>
    match env.display? h with
    | some s => .ok (.text s)
    | none => .ok .opaqueValue
  | .list, [] => .ok (.items .list [])
  | .tuple, [] => .ok (.items .tuple [])
  | .set, [] => .ok (.items .set [])
  | .frozenset, [] => .ok (.items .frozenset [])
  | .dict, [] => .ok (.table [] [])
  | .bytes, [] => .ok (.bytes [])
  | .list, [h] => (env.itemsOf h).map (.items .list)
  | .tuple, [h] => (env.itemsOf h).map (.items .tuple)
  | .set, [h] => env.itemsOf h >>= set?
  | .nothing, _ :: _ => .error .illTyped
  | .other "ellipsis", _ => .error .illTyped
  | .object, _ :: _ => .error .illTyped
  | .other name, [] =>
    if Builtin.isAmong name Builtin.needingArguments then .error .illTyped else .ok .opaqueValue
  | _, _ => .ok .opaqueValue

def call (f : Hint) (args : List Hint) : Except HintFault Hint :=
  match f with
  | .of (.builtin b) => env.construct b args
  | .generic b _ => env.construct b args
  | .function (some "print") => .ok .nothing
  | .function (some "len") =>
    match args with
    | [h] => if h.isOpaque then .ok .opaqueValue else
      (env.itemsOf h).map fun hs => .int hs.length
    | _ => .error .illTyped
  | .of (.declared place) =>
    if (env.members? place).isSome && args.isEmpty then .error .illTyped else .ok .opaqueValue
  | .function _ | .opaqueValue => .ok .opaqueValue
  | _ => .error .illTyped

/-- The values of arguments without names; those with names are evaluated too. -/
def arguments (scope : Scope) : List Expr → Except HintFault (List Hint × Bool)
  | [] => .ok ([], false)
  | .keyword _ e :: es => do
    let _ ← ev scope e
    let (hs, _) ← arguments scope es
    return (hs, true)
  | .spread e :: es => do
    let _ ← ev scope e
    let (hs, _) ← arguments scope es
    return (hs, true)
  | .starred e :: es => do
    let hs ← env.itemsOf (← ev scope e)
    let (others, hasNames) ← arguments scope es
    return (hs ++ others, hasNames)
  | e :: es => do
    let h ← ev scope e
    let (hs, hasNames) ← arguments scope es
    return (h :: hs, hasNames)

/-! ## Expressions -/

/-- A chain of comparisons; it ends with the first one that fails. -/
def comparisons (scope : Scope) : Hint → List Comparison → List Expr → Except HintFault Hint
  | left, op :: ops, e :: es => do
    let right ← ev scope e
    let outcome ← left.compare? op right
    if ops.isEmpty || !outcome.isTrue then return outcome
    else comparisons scope right ops es
  | left, _, _ => .ok left

/-- Evaluates an expression, with its parts evaluated one depth of nesting below. -/
def next : Evaluate := fun scope e => do
  match e with
  | .constant c => return constant c
  | .name s => env.lookUp scope s
  | .formatted parts =>
    match ← formatted env ev scope parts with
    | some s => return .text s
    | none => return .opaqueValue
  | .attribute e name => env.attributeOf (← ev scope e) name
  | .subscript e (.slice lower upper step) =>
    let h ← ev scope e
    let a ← ev scope lower
    let b ← ev scope upper
    let c ← ev scope step
    match h with
    | .of (.declared place) => env.itemOf (.of (.declared place)) .opaqueValue
    | h => h.range? a b c
  | .subscript e index =>
    let h ← ev scope e
    env.itemOf h (← ev scope index)
  | .slice lower upper step =>
    let _ ← ev scope lower
    let _ ← ev scope upper
    let _ ← ev scope step
    return .opaqueValue
  | .call (.lambda names true _ body) args =>
    let (hs, hasNames) ← arguments env ev scope args
    if hasNames then return .opaqueValue
    else if hs.length = names.length then
      ev { isNested := true, bound := names.zip hs ++ scope.bound } body
    else .error .illTyped
  | .call f args =>
    let h ← ev scope f
    let (hs, hasNames) ← arguments env ev scope args
    if hasNames then (env.call h hs).map fun _ => .opaqueValue else env.call h hs
  | .tuple es => return .items .tuple (← items env ev scope es)
  | .list es => return .items .list (← items env ev scope es)
  | .set es => set? (← items env ev scope es)
  | .mapping es =>
    let (ks, vs) ← entries ev scope es
    return .table ks vs
  | .unary op e => (← ev scope e).unary? op
  | .binary op a b =>
    let left ← ev scope a
    left.binary? op (← ev scope b)
  | .conjunction a b =>
    let left ← ev scope a
    if left.isTrue then ev scope b else return left
  | .disjunction a b =>
    let left ← ev scope a
    if left.isTrue then return left else ev scope b
  | .compare e ops es => comparisons ev scope (← ev scope e) ops es
  | .conditional test yes no =>
    if (← ev scope test).isTrue then ev scope yes else ev scope no
  | .lambda _ _ defaults _ =>
    let _ ← items env ev scope defaults
    return .function none
  | .comprehension k item clauses => comprehension env ev scope k item clauses
  | .named _ e => ev scope e
  | _ => return .opaqueValue

/-- What an expression comes to, if it is nested no deeper than some depth. -/
def evaluateWithin (depth : Nat) : Evaluate :=
  Nat.repeat env.next depth fun _ _ => .ok .opaqueValue

/-- What an expression comes to. -/
def evaluate (depth : Nat) (e : Expr) : Except HintFault Hint := env.evaluateWithin depth {} e

end Environment

end RouteDoc
