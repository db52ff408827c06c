import RouteDoc.Script.Rules

/-!
# Statements of scripts

Whether tokens spell statements that hold no others.

* `Rules.statement`: one statement; it is a text if it consists of a literal alone.
* `Rules.line`: the statements of a line.
-/

namespace RouteDoc.Script

open Parse

namespace Rules

variable (r : Rules)

/-! ## Assignments -/

/-- The marks of assignments that change what a name stands for. -/
def updates : List String :=
  ["+=", "-=", "*=", "@=", "/=", "%=", "&=", "|=", "^=", "<<=", ">>=", "**=", "//="]

/-- What is assigned to an expression, one or more times; nothing if no assignment follows. -/
def assigned : Nat → Expr → Parse Unit
  | 0, _, _ => none
  | fuel + 1, e, ts =>
    if isMark "=" ts then do
      if !e.isTarget then none
      if isWord "yield" ts.tail then
        let (_, ts) ← r.yieldExpr ts.tail
        return ((), ts)
      else
        let (e, ts) ← r.starExpressions ts.tail
        assigned fuel e ts
    else some ((), ts)

def hinted : Parse Unit := fun ts => do
  let (_, ts) ← r.expression ts
  if isMark "=" ts then
    let (_, ts) ← r.yieldOrStar ts.tail
    return ((), ts)
  else return ((), ts)

def assignment : Parse (Option (List Char)) := fun ts => do
  let (e, ts) ← r.yieldOrStar ts
  if isMark ":" ts then
    if !e.isSingleTarget then none
    let (_, ts) ← r.hinted ts.tail
    return (none, ts)
  else if isMark "=" ts then
    let (_, ts) ← r.assigned (ts.length + 1) e ts
    return (none, ts)
  else if isOneOf updates ts then
    if !e.isSingleTarget then none
    let (_, ts) ← r.yieldOrStar ts.tail
    return (none, ts)
  else return (e.text?, ts)

/-! ## Statements that begin with a keyword -/

def renamed : Parse Unit := fun ts =>
  if isWord "as" ts then (name ts.tail).map fun (_, ts) => ((), ts) else some ((), ts)

def importedModule : Parse Unit := fun ts => do
  let (_, ts) ← list name "." false ts
  renamed ts

def importedName : Parse Unit := fun ts => do
  let (_, ts) ← name ts
  renamed ts

def importedNames : Parse Unit := fun ts =>
  if isMark "*" ts then some ((), ts.tail)
  else if isMark "(" ts then do
    let (_, ts) ← list importedName "," true ts.tail
    mark ")" ts
  else (list importedName "," false ts).map fun (_, ts) => ((), ts)

/-- A module and what is taken out of it, behind `from`.  The points in front of it stand for the
places where it is. -/
def importFrom : Parse Unit := fun ts => do
  let rest := ts.dropWhile fun t => t.kind == .mark "." || t.kind == .mark "..."
  let (_, ts) ← if isWord "import" rest && rest.length < ts.length then some ([], rest)
    else (list name "." false rest).map fun ((names, _), ts) => (names, ts)
  let (_, ts) ← word "import" ts
  importedNames ts

/-- An expression with another one behind a keyword or a mark, or without. -/
def pair (isBetween : List Token → Bool) : Parse Unit := fun ts => do
  let (_, ts) ← r.expression ts
  if isBetween ts then r.expression ts.tail |>.map fun (_, ts) => ((), ts) else return ((), ts)

def isEnd : List Token → Bool
  | ⟨.lineEnd, _⟩ :: _ => true
  | ts => isMark ";" ts

/-- What follows the keyword of a statement; missing if this is no keyword of one. -/
def afterKeyword? (w : String) : Option (Parse Unit) :=
  match w with
  | "pass" | "break" | "continue" => some fun ts => some ((), ts)
  | "return" => some fun ts =>
    if isEnd ts then some ((), ts) else (r.starExpressions ts).map fun (_, ts) => ((), ts)
  | "raise" => some fun ts => if isEnd ts then some ((), ts) else r.pair (isWord "from") ts
  | "assert" => some (r.pair (isMark ","))
  | "global" | "nonlocal" => some fun ts =>
    (list name "," false ts).map fun (_, ts) => ((), ts)
  | "del" => some fun ts => do
    let (e, ts) ← r.starExpressions ts
    if e.isDeletable then return ((), ts) else none
  | "import" => some fun ts => (list importedModule "," false ts).map fun (_, ts) => ((), ts)
  | "from" => some importFrom
  | _ => none

def statement : Parse (Option (List Char)) := fun ts =>
  match ts with
  | ⟨.word w, _⟩ :: rest =>
    match r.afterKeyword? w with
    | some p => (p rest).map fun (_, ts) => (none, ts)
    | none => r.assignment ts
  | _ => r.assignment ts

/-- The statements of a line, to its end: the text that the first one is. -/
def line : Parse (Option (List Char)) := fun ts => do
  let (text, ts) ← r.statement ts
  let (_, ts) ← listRest r.statement ";" true ts.length ts
  let (_, ts) ← kind .lineEnd ts
  return (text, ts)

end Rules

end RouteDoc.Script
