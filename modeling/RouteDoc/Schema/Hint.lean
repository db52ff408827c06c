import RouteDoc.Datum
import RouteDoc.Schema.Builtin
import RouteDoc.Script.Expression

/-!
# Type hints

The fields of a class carry hints: classes, containers of hints, unions, a few marks around them,
and texts that spell a hint.  Anything that a text can come to may stand in the place of a hint.

* `Hint.same`: whether two hints count as one.
* `Hint.reference?`: the hint that is spelled by a text; its text is an expression.
* `Hint.argument?`: a hint as an argument of another one.
* `Hint.union?`, `Hint.optional?`: the union of hints, flat and without repetitions; a union of one
  hint is that hint.
* `Hint.bar?`: the union of two hints with a bar between them, which not every hint allows.
* `Hint.joinBars`: the same for several hints.
* `Hint.abstract?`, `Hint.annotated?`, `Hint.classVar?`: hints with others as arguments.
-/

namespace RouteDoc

/-- A class: one that is always there, or one of those that are declared, by its place. -/
inductive ClassRef where
  | builtin (b : Builtin)
  | declared (place : Nat)
  deriving DecidableEq, Inhabited

/-- Containers of which only the use is known, and the bare names of two others. -/
inductive Abstract where
  | sequence | iterable | mapping | bareList | bareDict
  deriving DecidableEq, Inhabited

namespace Abstract

/-- Whether a container goes from keys to values. -/
def isMapping : Abstract → Bool
  | .mapping | .bareDict => true
  | _ => false

/-- The number of its arguments. -/
def arity : Abstract → Nat
  | .sequence | .iterable => 1
  | .mapping => 2
  | .bareList | .bareDict => 0

end Abstract

inductive Collection where
  | tuple | list | set | frozenset
  deriving DecidableEq, Inhabited

def Collection.isSet : Collection → Bool
  | .set | .frozenset => true
  | .tuple | .list => false

/-- A type hint, or a value that stands in the place of one. -/
inductive Hint where
  /-- No restriction. -/
  | any
  | of (c : ClassRef)
  /-- A text as it stands. -/
  | text (s : String)
  /-- A text that is known to be an expression, and that stands for what that comes to. -/
  | reference (s : String)
  /-- A class with arguments, which may be anything. -/
  | generic (c : Builtin) (args : List Hint)
  /-- The arguments of a class, put into the place of an argument. -/
  | unpacked (h : Hint)
  | abstract (a : Abstract) (args : List Hint)
  /-- One of several hints; `isPlain` says that they are classes with bars between them. -/
  | union (isPlain : Bool) (members : List Hint)
  /-- One of several constants. -/
  | literal (values : List Datum)
  /-- A hint with some marks that say nothing about its type. -/
  | annotated (inner : Hint) (marks : Nat)
  /-- A mark that makes a field belong to the class and not to its instances. -/
  | classVar (inner : Hint)
  /-- A hint that stands for any other; no two of them are the same. -/
  | variable
  | nothing
  | truth (b : Bool)
  | int (n : Int)
  | float (x : Binary64)
  | bytes (s : List Char)
  | ellipsis
  | items (c : Collection) (members : List Hint)
  | table (keys values : List Hint)
  /-- A function that is always there, by its name, or one that is written in place. -/
  | function (name : Option String)
  /-- Some other value. -/
  | opaqueValue
  deriving Inhabited

/-- Why something is no hint, or a text comes to none. -/
inductive HintFault where
  | unknownName (name : String)
  /-- The text is no expression. -/
  | malformed
  /-- Something does not take part in what it is used for. -/
  | illTyped
  /-- A text is empty, or there is no item at a place. -/
  | outOfRange
  | missingKey
  | missingAttribute
  | zeroDivision
  /-- A value is of the right sort and yet not allowed; a text with a null character is none. -/
  | badValue
  deriving DecidableEq, Inhabited

namespace Hint

def absent : Hint := .of (.builtin .nothing)

def isAbsent : Hint → Bool
  | .of (.builtin .nothing) => true
  | _ => false

def isClassVar : Hint → Bool
  | .classVar _ => true
  | _ => false

/-! ## Equality -/

def number? : Hint → Option Binary64
  | .truth b => some (.ofDyadic (if b then 1 else 0) 0)
  | .int n => if n.natAbs < 2 * Binary64.implicitBit then some (.ofDyadic n 0) else none
  | .float x => if x = .nan then none else some x
  | _ => none

/-- Whether two texts or values that are no collections are the same. -/
def sameValue : Hint → Hint → Bool
  | .any, .any => true
  | .of a, .of b => a == b
  | .text a, .text b => a == b
  | .reference a, .reference b => a == b
  | .literal a, .literal b => a.all b.contains && b.all a.contains
  | .nothing, .nothing => true
  | .int a, .int b => a == b
  | .bytes a, .bytes b => a == b
  | .ellipsis, .ellipsis => true
  | a, b =>
    match a.number?, b.number? with
    | some x, some y => x == y
    | _, _ => false

mutual

/-- Whether two hints count as one.  The order of the members of a union does not matter. -/
def same : Hint → Hint → Bool
  | .generic c as, .generic d bs => c == d && sameAll as bs
  | .unpacked a, .unpacked b => same a b
  | .abstract a as, .abstract b bs => a == b && sameAll as bs
  | .union _ as, .union _ bs => as.length == bs.length && eachWithin as bs
  | .annotated a m, .annotated b n => m == n && same a b
  | .classVar a, .classVar b => same a b
  | .items c as, .items d bs =>
    if c.isSet then d.isSet && as.length == bs.length && eachWithin as bs
    else c == d && sameAll as bs
  | .table ks vs, .table ls ws => sameAll ks ls && sameAll vs ws
  | a, b => sameValue a b

def sameAll : List Hint → List Hint → Bool
  | [], [] => true
  | a :: as, b :: bs => same a b && sameAll as bs
  | _, _ => false

def eachWithin : List Hint → List Hint → Bool
  | [], _ => true
  | a :: as, bs => bs.any (fun b => same a b) && eachWithin as bs

end

def distinct (hs : List Hint) : List Hint :=
  hs.foldl (fun seen h => if seen.any h.same then seen else seen ++ [h]) []

mutual

/-- Whether a hint can be told from others by a table: no part of it can change. -/
def isStable : Hint → Bool
  | .generic _ as => areStable as
  | .unpacked a => isStable a
  | .abstract _ as => areStable as
  | .union _ ms => areStable ms
  | .literal ds => ds.all fun
    | .list _ | .map _ => false
    | _ => true
  | .annotated a _ => isStable a
  | .classVar a => isStable a
  | .items c ms => c != .list && c != .set && areStable ms
  | .table _ _ => false
  | _ => true

def areStable : List Hint → Bool
  | [] => true
  | h :: hs => isStable h && areStable hs

end

/-! ## Texts -/

/-- The expression that a text spells.  A star in front takes the first item of what follows. -/
def textExpr? (s : String) : Option Script.Expr :=
  match s.toList with
  | '*' :: _ => Script.Expr.ofText? ('(' :: s.toList ++ [',', ')', '[', '0', ']'])
  | cs => Script.Expr.ofText? cs

/-- The hint that a text spells. -/
def reference? (s : String) : Except HintFault Hint :=
  if s = "" then .error .outOfRange
  else if s.toList.any fun c => c.toNat == 0 then .error .badValue
  else if (textExpr? s).isSome then .ok (.reference s)
  else .error .malformed

/-! ## Hints with arguments -/

/-- A hint, with texts taken as what they spell; collections in a row are none. -/
def ofValue? : Hint → Except HintFault Hint
  | .text s => reference? s
  | .nothing => .ok absent
  | .items .tuple _ => .error .illTyped
  | h => .ok h

def argument? (h : Hint) : Except HintFault Hint :=
  if h.isClassVar then .error .illTyped else ofValue? h

/-- The members of a union, or the hint itself. -/
def members : Hint → List Hint
  | .union _ ms => ms
  | h => [h]

/-- The union of hints that are different. -/
def ofMembers (isPlain : Bool) : List Hint → Hint
  | [h] => h
  | ms => .union isPlain ms

def union? (hs : List Hint) : Except HintFault Hint := do
  if hs.isEmpty then .error .illTyped
  else
    let flat := (← hs.mapM argument?).flatMap members
    if areStable flat then .ok (ofMembers false (distinct flat)) else .error .illTyped

def optional? (h : Hint) : Except HintFault Hint := union? [h, absent]

/-- A container of which only the use is known, with its arguments. -/
def abstract? (a : Abstract) (args : List Hint) : Except HintFault Hint := do
  let args ← args.mapM argument?
  if args.length = a.arity then .ok (.abstract a args) else .error .illTyped

def annotated? (h : Hint) : Except HintFault Hint := do
  match ← ofValue? h with
  | .annotated inner n => .ok (.annotated inner (n + 1))
  | h => .ok (.annotated h 1)

/-- A hint that stands for the class itself. -/
def classVar? (h : Hint) : Except HintFault Hint := (argument? h).map .classVar

/-! ## Bars -/

/-- Whether a hint can stand beside any other with a bar between them. -/
def isFlexible : Hint → Bool
  | .reference _ | .abstract .. | .union false _ | .literal _ | .annotated .. | .classVar _
  | .variable => true
  | _ => false

/-- Whether a hint is a class, a class with arguments, or several of them. -/
def isPlain : Hint → Bool
  | .any | .of _ | .generic .. | .unpacked _ | .union true _ => true
  | _ => false

/-- Whether two members of a union of classes are the same: classes with arguments are compared. -/
def samePlain : Hint → Hint → Bool
  | .generic c as, .generic d bs => same (.generic c as) (.generic d bs)
  | .unpacked a, .unpacked b => same a b
  | .any, .any => true
  | .of a, .of b => a == b
  | _, _ => false

/-- The union of two hints with a bar between them; missing if neither allows one. -/
def bar? (left right : Hint) : Option (Except HintFault Hint) :=
  if left.isFlexible || right.isFlexible then some (union? [left, right])
  else
    let canJoin (h : Hint) : Bool := h.isPlain || h matches .nothing
    if canJoin left && canJoin right && (left.isPlain || right.isPlain) then
      let all := [left, right].flatMap fun
        | .nothing => [absent]
        | h => h.members
      let distinct := all.foldl (fun seen h =>
        if seen.any (samePlain h) then seen else seen ++ [h]) []
      some (.ok (ofMembers true distinct))
    else none

def joinBars : List Hint → Except HintFault Hint
  | [] => .error .illTyped
  | h :: hs => hs.foldlM (fun left right => (left.bar? right).getD (.error .illTyped)) h

end Hint

end RouteDoc
