import RouteDoc.Script.Expr

/-!
# Sound expressions

Not everything that is built like an expression has a meaning.

* `Expr.isSound`: whether an expression that stands alone has one.  Generators give values only
  within functions, names are bound once, and a star stands only among other items.
-/

namespace RouteDoc.Script

inductive Site where
  | outermost
  | function
  | comprehension
  deriving DecidableEq, Inhabited

/-- What is known of the surroundings of an expression. -/
structure Surroundings where
  innermost : Site := .outermost
  /-- Whether it belongs to the source of a clause. -/
  inSource : Bool := false
  /-- The names that the clauses around run over. -/
  loopNames : List String := []
  deriving Inhabited

namespace Expr

/-- The name that no expression binds. -/
def reservedName : String := "__debug__"

mutual

def boundNames : Expr → List String
  | .name s => [s]
  | .starred e => boundNames e
  | .tuple es => allBoundNames es
  | .list es => allBoundNames es
  | _ => []

def allBoundNames : List Expr → List String
  | [] => []
  | e :: es => boundNames e ++ allBoundNames es

end

mutual

/-- Whether the stars among the targets of an assignment are sound: one at most in a collection. -/
def hasSoundStars : Expr → Bool
  | .tuple es => es.countP isStarred ≤ 1 && haveSoundStars es
  | .list es => es.countP isStarred ≤ 1 && haveSoundStars es
  | .starred e => hasSoundStars e
  | _ => true

/-- The same for each of several targets. -/
def haveSoundStars : List Expr → Bool
  | [] => true
  | e :: es => hasSoundStars e && haveSoundStars es

end

def isSoundTarget (e : Expr) : Bool :=
  !e.isStarred && e.hasSoundStars && !e.boundNames.contains reservedName

mutual

/-- The names in the target of a clause, also where an attribute or an item is the target. -/
def targetNames : Expr → List String
  | .name s => [s]
  | .starred e => targetNames e
  | .tuple es => allTargetNames es
  | .list es => allTargetNames es
  | .attribute e _ => targetNames e
  | .subscript e i => targetNames e ++ targetNames i
  | _ => []

def allTargetNames : List Expr → List String
  | [] => []
  | e :: es => targetNames e ++ allTargetNames es

end

def loopNames (clauses : List Expr) : List String :=
  clauses.flatMap fun
    | .loop _ target _ => target.targetNames
    | _ => []

def keywordNames (arguments : List Expr) : List String :=
  arguments.filterMap fun
    | .keyword w _ => some w
    | _ => none

/-- Whether no name comes twice, and none is reserved. -/
def areSoundNames (names : List String) : Bool :=
  !names.contains reservedName && names.eraseDups.length == names.length

mutual

/-- Whether an expression waits for something, apart from what is put off.  The item and the
conditions of a collection that is built at once count, and so do its waiting clauses. -/
def waits : Expr → Bool
  | .await _ => true
  | .attribute e _ => waits e
  | .subscript e i => waits e || waits i
  | .slice a b c => waits a || waits b || waits c
  | .call f es => waits f || anyWaits es
  | .keyword _ e => waits e
  | .starred e => waits e
  | .spread e => waits e
  | .tuple es => anyWaits es
  | .list es => anyWaits es
  | .set es => anyWaits es
  | .mapping es => anyWaits es
  | .entry k v => waits k || waits v
  | .unary _ e => waits e
  | .binary _ a b => waits a || waits b
  | .conjunction a b => waits a || waits b
  | .disjunction a b => waits a || waits b
  | .compare e _ es => waits e || anyWaits es
  | .conditional a b c => waits a || waits b || waits c
  | .lambda _ _ ds _ => anyWaits ds
  | .comprehension .generator _ cs => firstWaits cs
  | .comprehension _ e cs => waits e || anyWaits cs
  | .loop isAsync target source => isAsync || waits target || waits source
  | .guard e => waits e
  | .named _ e => waits e
  | .yield es => anyWaits es
  | .yieldFrom e => waits e
  | .formatted es => anyWaits es
  | .placeholder e _ es => waits e || anyWaits es
  | .constant _ => false
  | .name _ => false

def anyWaits : List Expr → Bool
  | [] => false
  | e :: es => waits e || anyWaits es

def firstWaits : List Expr → Bool
  | .loop _ _ source :: _ => waits source
  | _ => false

end

mutual

def isSoundIn (c : Surroundings) : Expr → Bool
  | .constant _ => true
  | .name _ => true
  | .formatted es => areSoundIn c es
  | .placeholder e _ es => !e.isStarred && isSoundIn c e && areSoundIn c es
  | .attribute e _ => isSoundIn c e
  | .subscript e i => isSoundIn c e && isSoundIn c i
  | .slice x y z => isSoundIn c x && isSoundIn c y && isSoundIn c z
  | .call f es => isSoundIn c f && areSoundIn c es && areSoundNames (keywordNames es)
  | .keyword _ e => isSoundIn c e
  | .starred e => !e.isStarred && isSoundIn c e
  | .spread e => isSoundIn c e
  | .tuple es => areSoundIn c es
  | .list es => areSoundIn c es
  | .set es => areSoundIn c es
  | .mapping es => areSoundIn c es
  | .entry k v => isSoundIn c k && isSoundIn c v
  | .unary _ e => isSoundIn c e
  | .binary _ a b => isSoundIn c a && isSoundIn c b
  | .conjunction a b => isSoundIn c a && isSoundIn c b
  | .disjunction a b => isSoundIn c a && isSoundIn c b
  | .compare e _ es => isSoundIn c e && areSoundIn c es
  | .conditional x y z => isSoundIn c x && isSoundIn c y && isSoundIn c z
  | .lambda ps _ ds body =>
    areSoundNames ps && areSoundIn c ds &&
      isSoundIn { c with innermost := .function, loopNames := [] } body
  | .comprehension k item cs =>
    let inner : Surroundings :=
      { c with innermost := .comprehension, loopNames := loopNames cs ++ c.loopNames }
    (k == .generator || c.innermost == .comprehension || !(waits item || anyWaits cs)) &&
      isSoundIn inner item && areSoundClauses c inner cs
  | .loop _ target source =>
    isSoundTarget target && isSoundIn c target && isSoundIn { c with inSource := true } source
  | .guard e => isSoundIn c e
  | .named w e =>
    !c.inSource && !c.loopNames.contains w && w != reservedName && isSoundIn c e
  | .yield es => c.innermost == .function && !es.any isStarred && areSoundIn c es
  | .yieldFrom e => c.innermost == .function && isSoundIn c e
  | .await e => c.innermost == .comprehension && isSoundIn c e

def areSoundIn (c : Surroundings) : List Expr → Bool
  | [] => true
  | e :: es => isSoundIn c e && areSoundIn c es

/-- Whether clauses are sound.  The source of the first one belongs to what is outside. -/
def areSoundClauses (outer inner : Surroundings) : List Expr → Bool
  | .loop _ target source :: cs =>
    isSoundTarget target && isSoundIn inner target &&
      isSoundIn { outer with inSource := true } source && areSoundIn inner cs
  | cs => areSoundIn inner cs

end

def isSound (e : Expr) : Bool := !e.isStarred && e.isSoundIn {}

end Expr

end RouteDoc.Script
