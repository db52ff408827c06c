import RouteDoc.Script.Rules

/-!
# Patterns of scripts

Whether tokens spell a pattern, as it stands in the cases of a `match` statement.

* `Pattern.ofDepth`: patterns up to some depth of nesting.
* `Pattern.outermost`: what stands behind `case`; a sequence needs no brackets there.
-/

namespace RouteDoc.Script

open Parse

namespace Pattern

def capture : Parse Unit := fun ts => do
  let (w, ts) ← name ts
  if w = "_" || isOneOf [".", "(", "="] ts then none else return ((), ts)

/-- A number: a real one, an imaginary one, or the sum or difference of both. -/
def number : Parse Unit := fun ts =>
  match if isMark "-" ts then ts.tail else ts with
  | ⟨.number n, _⟩ :: ts =>
    if isOneOf ["+", "-"] ts then
      match ts.tail with
      | ⟨.number m, _⟩ :: ts => if m.isImaginary && !n.isImaginary then some ((), ts) else none
      | _ => none
    else some ((), ts)
  | _ => none

def literal (r : Rules) : Parse Unit := fun ts =>
  match ts with
  | ⟨.literal _, _⟩ :: _ => (r.joined ts).map fun (_, ts) => ((), ts)
  | ⟨.word w, _⟩ :: rest => if ["None", "True", "False"].contains w then some ((), rest) else none
  | _ => number ts

def attributes : Nat → Parse Unit
  | 0, ts => some ((), ts)
  | fuel + 1, ts =>
    if isMark "." ts then do
      let (_, ts) ← name ts.tail
      attributes fuel ts
    else some ((), ts)

/-- The key of an entry: a value that is written out, or an attribute. -/
def key (r : Rules) : Parse Unit := orElse (literal r) fun ts => do
  let (_, ts) ← name ts
  if isMark "." ts then attributes ts.length ts else none

variable (r : Rules) (pattern : Parse Unit)

/-- An item of a sequence, and whether it takes all items that are left. -/
def item : Parse Bool := fun ts =>
  if isMark "*" ts then
    if isWord "_" ts.tail then some (true, ts.tail.tail)
    else (capture ts.tail).map fun (_, ts) => (true, ts)
  else (pattern ts).map fun (_, ts) => (false, ts)

/-- A pattern, or a sequence without brackets. -/
def outermost : Parse Unit := fun ts => do
  let (isStarred, ts) ← item pattern ts
  if isMark "," ts then
    let (_, ts) ← listRest (item pattern) "," true ts.length ts
    return ((), ts)
  else if isStarred then none
  else return ((), ts)

def entries : Nat → Parse Unit
  | 0, _ => none
  | fuel + 1, ts =>
    if isMark "\x7d" ts then some ((), ts.tail)
    else if isMark "**" ts then do
      let (_, ts) ← capture ts.tail
      mark "\x7d" (if isMark "," ts then ts.tail else ts)
    else do
      let (_, ts) ← key r ts
      let (_, ts) ← mark ":" ts
      let (_, ts) ← pattern ts
      if isMark "\x7d" ts then return ((), ts.tail)
      let (_, ts) ← mark "," ts
      entries fuel ts

/-- The parts of an object up to the closing parenthesis, with that.  Those with a name come
last. -/
def parts (hasName : Bool) : Nat → Parse Unit
  | 0, _ => none
  | fuel + 1, ts =>
    let go (hasName : Bool) : Parse Unit := fun ts => do
      let (_, ts) ← pattern ts
      if isMark ")" ts then return ((), ts.tail)
      let (_, ts) ← mark "," ts
      parts hasName fuel ts
    if isMark ")" ts then some ((), ts.tail)
    else if (name ts).any fun (_, ts) => isMark "=" ts then go true (ts.drop 2)
    else if hasName then none
    else go false ts

/-- What begins with a name: a name that is bound, the name of a value, or an object with its
parts. -/
def namedPattern : Parse Unit := fun ts => do
  let (w, ts) ← name ts
  if w = "_" then return ((), ts)
  let (_, ts) ← attributes ts.length ts
  if isMark "(" ts then parts pattern false (ts.length + 1) ts.tail
  else if isMark "=" ts then none
  else return ((), ts)

/-- A pattern with nothing looser than brackets. -/
def closed : Parse Unit := fun ts =>
  if isMark "(" ts then
    if isMark ")" ts.tail then some ((), ts.tail.tail)
    else do
      let (_, ts) ← outermost pattern ts.tail
      mark ")" ts
  else if isMark "[" ts then
    if isMark "]" ts.tail then some ((), ts.tail.tail)
    else do
      let (_, ts) ← list (item pattern) "," true ts.tail
      mark "]" ts
  else if isMark "\x7b" ts then entries r pattern (ts.length + 1) ts.tail
  else orElse (literal r) (namedPattern pattern) ts

/-- A pattern for one more depth of nesting: alternatives, and a name for what matches. -/
def next : Parse Unit := fun ts => do
  let (_, ts) ← list (closed r pattern) "|" false ts
  if isWord "as" ts then capture ts.tail else return ((), ts)

def ofDepth (n : Nat) : Parse Unit := Nat.repeat (next r) n fun _ => none

end Pattern

end RouteDoc.Script
