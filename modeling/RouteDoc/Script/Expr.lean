import RouteDoc.Number.Binary64

/-!
# Expressions of scripts

* `Expr`: an expression as it is built, with the order of operators resolved.
* `Expr.isTarget`: whether a value can be assigned to an expression.
* `Expr.isDeletable`: whether what it names can be deleted.
-/

namespace RouteDoc.Script

/-- A number as a script writes it: without a sign. -/
inductive Number where
  | int (n : Nat)
  | float (x : Binary64)
  | imaginary (x : Binary64)
  deriving DecidableEq, Inhabited

def Number.isImaginary : Number → Bool
  | .imaginary _ => true
  | _ => false

inductive Constant where
  | nothing
  | truth (b : Bool)
  | number (n : Number)
  | text (s : List Char)
  | bytes (s : List Char)
  | ellipsis
  deriving DecidableEq, Inhabited

inductive UnaryOp where
  | plus | minus | invert | negate
  deriving DecidableEq, Inhabited

/-- An operator with two operands that are both looked at. -/
inductive BinaryOp where
  | bitOr | bitXor | bitAnd | shiftLeft | shiftRight | add | subtract
  | multiply | divide | floorDivide | modulo | matrixMultiply | power
  deriving DecidableEq, Inhabited

inductive Comparison where
  | equal | unequal | less | lessEqual | greater | greaterEqual | within | without | same
  | different
  deriving DecidableEq, Inhabited

/-- The collections that are built by writing out their items, or by a clause. -/
inductive CollectionKind where
  | list | set | mapping | generator
  deriving DecidableEq, Inhabited

/-- An expression, or a part of one that is none by itself: an item with a star, an argument with a
name, an entry of a mapping, a placeholder, a clause. -/
inductive Expr where
  | constant (c : Constant)
  | name (s : String)
  /-- A text with placeholders; its other parts are texts. -/
  | formatted (parts : List Expr)
  /-- A value within a text; `isPlain` says that it is inserted as it is. -/
  | placeholder (value : Expr) (isPlain : Bool) (format : List Expr)
  | attribute (e : Expr) (name : String)
  | subscript (e index : Expr)
  /-- The two bounds and the step of a range of items, each of which may be nothing. -/
  | slice (lower upper step : Expr)
  | call (function : Expr) (arguments : List Expr)
  /-- An argument with a name. -/
  | keyword (name : String) (value : Expr)
  | starred (e : Expr)
  /-- The entries of a mapping, as arguments or as entries of another one. -/
  | spread (e : Expr)
  | tuple (items : List Expr)
  | list (items : List Expr)
  | set (items : List Expr)
  | mapping (entries : List Expr)
  | entry (key value : Expr)
  | unary (op : UnaryOp) (e : Expr)
  | binary (op : BinaryOp) (left right : Expr)
  | conjunction (left right : Expr)
  | disjunction (left right : Expr)
  /-- A chain of comparisons: each right side is the left side of the next one. -/
  | compare (first : Expr) (ops : List Comparison) (others : List Expr)
  | conditional (test yes no : Expr)
  /-- A function without a name; `isPlain` says that each parameter takes one argument by its
  place. -/
  | lambda (parameters : List String) (isPlain : Bool) (defaults : List Expr) (body : Expr)
  /-- A collection that is built from others: the item or entry, and the clauses. -/
  | comprehension (kind : CollectionKind) (item : Expr) (clauses : List Expr)
  /-- A clause that runs over the items of a source. -/
  | loop (isAsync : Bool) (target source : Expr)
  /-- A clause that lets the items through for which a test holds. -/
  | guard (test : Expr)
  | named (name : String) (value : Expr)
  /-- What a generator gives: a value, or none. -/
  | yield (values : List Expr)
  /-- What a generator gives: the values of another one. -/
  | yieldFrom (source : Expr)
  | await (e : Expr)
  deriving Inhabited

namespace Expr

def nothing : Expr := .constant .nothing

def text? : Expr → Option (List Char)
  | .constant (.text s) => some s
  | _ => none

/-- Whether a value can be assigned to something that is no collection. -/
def isSingleTarget : Expr → Bool
  | .name _ | .attribute .. | .subscript .. => true
  | _ => false

def isStarred : Expr → Bool
  | .starred _ => true
  | _ => false

mutual

def isTarget : Expr → Bool
  | .starred e => !e.isStarred && isTarget e
  | .tuple es => areTargets es
  | .list es => areTargets es
  | .name _ | .attribute .. | .subscript .. => true
  | _ => false

def areTargets : List Expr → Bool
  | [] => true
  | e :: es => isTarget e && areTargets es

end

mutual

def isDeletable : Expr → Bool
  | .tuple es => areDeletable es
  | .list es => areDeletable es
  | .name _ | .attribute .. | .subscript .. => true
  | _ => false

def areDeletable : List Expr → Bool
  | [] => true
  | e :: es => isDeletable e && areDeletable es

end

end Expr

end RouteDoc.Script
