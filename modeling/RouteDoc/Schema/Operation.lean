import RouteDoc.Schema.Hint
import RouteDoc.Text.Split

/-!
# Operations on hints and values

* `Hint.isTrue`: the truth of a value.
* `Hint.unary?`, `Hint.binary?`, `Hint.compare?`: what operators come to.
* `Hint.iterate?`: the items of a collection.
* `Hint.item?`: what stands at an index or under a key; a class takes its arguments like this.

What comes of a value that is not known is not known either.
-/

namespace RouteDoc

open Script (UnaryOp BinaryOp Comparison)

namespace Hint

/-- Whether nothing is known of a value. -/
def isOpaque : Hint → Bool
  | .opaqueValue => true
  | _ => false

/-- The truth of a value: all but nothing, zeros and empty collections are true. -/
def isTrue : Hint → Bool
  | .nothing => false
  | .truth b => b
  | .int n => n != 0
  | .float (.finite _ m _) => m != 0
  | .text s => s != ""
  | .bytes s => !s.isEmpty
  | .items _ ms => !ms.isEmpty
  | .table ks _ => !ks.isEmpty
  | _ => true

def int? : Hint → Option Int
  | .truth b => some (if b then 1 else 0)
  | .int n => some n
  | _ => none

def real? : Hint → Option Binary64
  | .float x => some x
  | h => h.int?.map fun n => .ofDyadic n 0

/-! ## Numbers -/

/-- The greatest number of bits, or of items, that is worked out. -/
def mostWorkedOut : Nat := 10000

def unary? (op : UnaryOp) (h : Hint) : Except HintFault Hint :=
  match op, h with
  | .negate, h => .ok (.truth (!h.isTrue))
  | _, .opaqueValue => .ok .opaqueValue
  | .plus, .float x => .ok (.float x)
  | .minus, .float x => .ok (.float x.neg)
  | op, h =>
    match op, h.int? with
    | .plus, some n => .ok (.int n)
    | .minus, some n => .ok (.int (-n))
    | .invert, some n => .ok (.int (-n - 1))
    | _, _ => .error .illTyped

/-- Digits of two numbers put together, each in the form of its remainder by a power of two. -/
def bitwise (f : Nat → Nat → Nat) (a b : Int) : Int :=
  let width := max a.natAbs.log2 b.natAbs.log2 + 2
  let modulus := Nat.pow 2 width
  let n := f (a % modulus).toNat (b % modulus).toNat % modulus
  if 2 * n < modulus then n else (n : Int) - modulus

/-- A power of an integer, or something that is not known if that is no integer. -/
def power (a b : Int) : Except HintFault Hint :=
  if b < 0 then (if a = 0 then .error .zeroDivision else .ok .opaqueValue)
  else if b.toNat * (a.natAbs.log2 + 1) ≤ mostWorkedOut then .ok (.int (a.pow b.toNat))
  else .ok .opaqueValue

def integers (op : BinaryOp) (a b : Int) : Except HintFault Hint :=
  match op with
  | .add => .ok (.int (a + b))
  | .subtract => .ok (.int (a - b))
  | .multiply => .ok (.int (a * b))
  | .divide =>
    if b = 0 then .error .zeroDivision
    else .ok (.float (.ofRatio ((a < 0) != (b < 0)) a.natAbs b.natAbs))
  | .floorDivide => if b = 0 then .error .zeroDivision else .ok (.int (a.fdiv b))
  | .modulo => if b = 0 then .error .zeroDivision else .ok (.int (a.fmod b))
  | .power => power a b
  | .shiftLeft =>
    if b < 0 then .error .badValue
    else if b.toNat ≤ mostWorkedOut then .ok (.int (a * Int.ofNat (Nat.pow 2 b.toNat)))
    else .ok .opaqueValue
  | .shiftRight =>
    if b < 0 then .error .badValue
    else if b.toNat ≤ mostWorkedOut then .ok (.int (a.fdiv (Int.ofNat (Nat.pow 2 b.toNat))))
    else .ok (.int (if a < 0 then -1 else 0))
  | .bitAnd => .ok (.int (bitwise Nat.land a b))
  | .bitOr => .ok (.int (bitwise Nat.lor a b))
  | .bitXor => .ok (.int (bitwise Nat.xor a b))
  | .matrixMultiply => .error .illTyped

def fractions (op : BinaryOp) (a b : Binary64) : Except HintFault Hint :=
  let isZero : Bool := match b with
    | .finite _ m _ => m == 0
    | _ => false
  match op with
  | .add => .ok (.float (a.add b))
  | .subtract => .ok (.float (a.add b.neg))
  | .multiply | .power => .ok .opaqueValue
  | .divide | .floorDivide | .modulo => if isZero then .error .zeroDivision else .ok .opaqueValue
  | _ => .error .illTyped

/-! ## Collections -/

/-- A collection with its items several times. -/
def repeated (n : Int) (length : Nat) (build : Nat → Hint) : Except HintFault Hint :=
  if n.toNat * length ≤ mostWorkedOut then .ok (build n.toNat) else .ok .opaqueValue

/-- The members of two sets put together. -/
def sets (op : BinaryOp) (as bs : List Hint) : Option (List Hint) :=
  let isIn (hs : List Hint) (h : Hint) : Bool := hs.any h.same
  match op with
  | .bitOr => some (distinct (as ++ bs))
  | .bitAnd => some (as.filter (isIn bs))
  | .subtract => some (as.filter fun a => !isIn bs a)
  | .bitXor => some ((as.filter fun a => !isIn bs a) ++ bs.filter fun b => !isIn as b)
  | _ => none

/-- An operator on collections of one sort. -/
def collections (op : BinaryOp) (a b : Hint) : Except HintFault Hint :=
  match a, b with
  | .text s, .text t => if op = .add then .ok (.text (s ++ t)) else illTypedUnlessFormat
  | .text _, _ => illTypedUnlessFormat
  | .bytes s, .bytes t => if op = .add then .ok (.bytes (s ++ t)) else illTypedUnlessFormat
  | .bytes _, _ => illTypedUnlessFormat
  | .items c as, .items d bs =>
    if c = d ∧ op = .add ∧ !c.isSet then .ok (.items c (as ++ bs))
    else if c.isSet ∧ d.isSet then
      match sets op as bs with
      | some ms => .ok (.items c ms)
      | none => .error .illTyped
    else .error .illTyped
  | .table ks vs, .table ls ws =>
    if op = .bitOr then .ok (.table (ks ++ ls) (vs ++ ws)) else .error .illTyped
  | _, _ => .error .illTyped
where
  /-- A text can be the format of any value. -/
  illTypedUnlessFormat : Except HintFault Hint :=
    if op = .modulo then .ok .opaqueValue else .error .illTyped

/-- A collection a number of times, if one operand is such. -/
def product? (a b : Hint) : Option (Except HintFault Hint) :=
  match a, b.int? with
  | .text s, some n => some (repeated n s.length fun k =>
      .text (String.ofList (List.replicate k s.toList).flatten))
  | .bytes s, some n => some (repeated n s.length fun k => .bytes (List.replicate k s).flatten)
  | .items c ms, some n =>
    if c.isSet then none
    else some (repeated n ms.length fun k => .items c (List.replicate k ms).flatten)
  | _, _ => none

def binary? (op : BinaryOp) (a b : Hint) : Except HintFault Hint :=
  let joined? := if op = .bitOr then bar? a b else none
  match joined? with
  | some outcome => outcome
  | none =>
    if a.isOpaque || b.isOpaque then .ok .opaqueValue
    else match a, b with
      | .truth p, .truth q =>
        match op with
        | .bitOr => .ok (.truth (p || q))
        | .bitAnd => .ok (.truth (p && q))
        | .bitXor => .ok (.truth (p != q))
        | op => integers op (if p then 1 else 0) (if q then 1 else 0)
      | a, b =>
        match a.int?, b.int? with
        | some m, some n => integers op m n
        | _, _ =>
          match a.real?, b.real? with
          | some x, some y => fractions op x y
          | _, _ =>
            let product := if op = .multiply then (product? a b).or (product? b a) else none
            match product with
            | some outcome => outcome
            | none => collections op a b

def iterate? : Hint → Except HintFault (List Hint)
  | .items _ ms => .ok ms
  | .table ks _ => .ok ks
  | .text s => .ok (s.toList.map fun c => .text (String.ofList [c]))
  | .bytes s => .ok (s.map fun c => .int c.toNat)
  | .generic c args => .ok [.unpacked (.generic c args)]
  | .opaqueValue => .ok []
  | _ => .error .illTyped

/-! ## Comparisons -/

def comesBefore : List Char → List Char → Bool
  | _, [] => false
  | [], _ :: _ => true
  | a :: as, b :: bs => a < b || (a == b && comesBefore as bs)

/-- Whether one value is less than another; missing if they have no order that is worked out. -/
def less? (a b : Hint) : Option Bool :=
  match a, b with
  | .text s, .text t => some (comesBefore s.toList t.toList)
  | .bytes s, .bytes t => some (comesBefore s t)
  | a, b =>
    match a.int?, b.int? with
    | some m, some n => some (m < n)
    | _, _ =>
      match a.real?, b.real? with
      | some x, some y =>
        match x.add y.neg with
        | .finite negative m _ => some (negative && m != 0)
        | .infinite negative => some negative
        | .nan => some false
      | _, _ => none

def haveOrder (a b : Hint) : Bool :=
  match a, b with
  | .items c _, .items d _ => c == d || (c.isSet && d.isSet)
  | a, b => a.isOpaque || b.isOpaque

/-- Whether a value occurs in a collection. -/
def within? (a b : Hint) : Except HintFault Bool :=
  match a, b with
  | .text s, .text t => .ok (Chars.occursIn s.toList t.toList)
  | _, .text _ => .error .illTyped
  | a, b => b.iterate?.map fun hs => hs.any a.same

def compare? (op : Comparison) (a b : Hint) : Except HintFault Hint :=
  let ordered (isLess : Option Bool) (f : Bool → Bool) : Except HintFault Hint :=
    match isLess with
    | some l => .ok (.truth (f l))
    | none => if haveOrder a b then .ok .opaqueValue else .error .illTyped
  match op with
  | .equal | .same => .ok (.truth (a.same b))
  | .unequal | .different => .ok (.truth (!a.same b))
  | .less => ordered (less? a b) id
  | .greater => ordered (less? b a) id
  | .lessEqual => ordered (less? b a) not
  | .greaterEqual => ordered (less? a b) not
  | .within => (within? a b).map .truth
  | .without => (within? a b).map fun l => .truth (!l)

/-! ## Items -/

def bound? : Hint → Except HintFault (Option Int)
  | .nothing => .ok none
  | h =>
    match h.int? with
    | some n => .ok (some n)
    | none => .error .illTyped

/-- A place in a list, counted from its end if it is negative, within some bounds. -/
def placeWithin (length least greatest : Int) (n : Int) : Int :=
  max least (min greatest (if n < 0 then n + length else n))

def sliced {α : Type} (xs : List α) (lower upper step : Option Int) : Except HintFault (List α) :=
  let length : Int := xs.length
  let step := step.getD 1
  if step = 0 then .error .badValue
  else if 0 < step then
    let first := (lower.map (placeWithin length 0 length)).getD 0
    let last := (upper.map (placeWithin length 0 length)).getD length
    .ok (pick first step ((last - first + step - 1).fdiv step))
  else
    let first := (lower.map (placeWithin length (-1) (length - 1))).getD (length - 1)
    let last := (upper.map (placeWithin length (-1) (length - 1))).getD (-1)
    .ok (pick first step ((first - last - step - 1).fdiv (-step)))
where
  /-- A number of items, from a place on. -/
  pick (first step count : Int) : List α :=
    (List.range count.toNat).filterMap fun (i : Nat) => xs[(first + step * (i : Int)).toNat]?

def place? {α : Type} (xs : List α) (n : Int) : Except HintFault α :=
  let k := if n < 0 then n + xs.length else n
  match if k < 0 then none else xs[k.toNat]? with
  | some a => .ok a
  | none => .error .outOfRange

/-- The value under a key; of several ones the last. -/
def valueUnder? (key : Hint) (keys values : List Hint) : Except HintFault Hint :=
  if !key.isStable then .error .illTyped
  else match ((keys.zip values).reverse.find? fun e => e.1.same key) with
    | some (_, v) => .ok v
    | none => .error .missingKey

def arguments : Hint → List Hint
  | .items .tuple hs => hs
  | h => [h]

/-- What stands at an index or under a key of what is no declared class. -/
def item? (h index : Hint) : Except HintFault Hint :=
  let at? {α : Type} (xs : List α) (build : α → Hint) : Except HintFault Hint :=
    match index.int? with
    | some n => (place? xs n).map build
    | none => if index.isOpaque then .ok .opaqueValue else .error .illTyped
  match h with
  | .of (.builtin b) =>
    if b.takesArguments then .ok (.generic b index.arguments) else .error .illTyped
  | .items c ms => if c.isSet then .error .illTyped else at? ms id
  | .text s => at? s.toList fun c => .text (String.ofList [c])
  | .bytes s => at? s fun c => .int c.toNat
  | .table ks vs => valueUnder? index ks vs
  | .opaqueValue => .ok .opaqueValue
  | _ => .error .illTyped

def range? (h lower upper step : Hint) : Except HintFault Hint :=
  let of? {α : Type} (xs : List α) (build : List α → Hint) : Except HintFault Hint := do
    return build (← sliced xs (← lower.bound?) (← upper.bound?) (← step.bound?))
  match h with
  | .items c ms => if c.isSet then .error .illTyped else of? ms (.items c)
  | .text s => of? s.toList fun cs => .text (String.ofList cs)
  | .bytes s => of? s .bytes
  | h => h.item? .opaqueValue

end Hint

end RouteDoc
