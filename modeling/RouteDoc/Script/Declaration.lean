import RouteDoc.Script.Pattern
import RouteDoc.Script.Statement

/-!
# Functions declared in scripts

The functions that a script declares, wherever it does so, with the texts that stand first in their
bodies.

* `Block`: what is kept of a block of statements.
* `Rules.block`: blocks up to some depth of nesting.
* `Declaration.ofScript?`: the functions of a script; none if its text is no script.
-/

namespace RouteDoc.Script

open Parse

/-- A function that a script declares: its name, the line on which its declaration begins, and the
text that stands first in its body. -/
structure Declaration where
  name : String
  line : Nat
  text : Option (List Char)
  deriving DecidableEq, Inhabited

/-- What is kept of a block of statements: the text that stands first in it, and the functions that
are declared in it. -/
structure Block where
  text : Option (List Char) := none
  functions : List Declaration := []
  deriving DecidableEq, Inhabited

namespace Rules

/-- Something read behind something else, with the functions of both. -/
def also (ds : List Declaration) (p : Parse (List Declaration)) : Parse (List Declaration) :=
  fun ts => (p ts).map fun (ds', ts) => (ds ++ ds', ts)

variable (r : Rules) (block : Parse Block)

def body : Parse (List Declaration) := fun ts => do
  let (_, ts) ← mark ":" ts
  let (b, ts) ← block ts
  return (b.functions, ts)

def bodyAfter (w : String) : Parse (List Declaration) := fun ts =>
  if isWord w ts then body block ts.tail else some ([], ts)

/-- The blocks of a choice, behind its keyword. -/
def choice : Nat → Parse (List Declaration)
  | 0, _ => none
  | fuel + 1, ts => do
    let (_, ts) ← r.named ts
    let (ds, ts) ← body block ts
    if isWord "elif" ts then also ds (choice fuel) ts.tail
    else also ds (bodyAfter block "else") ts

def loop : Parse (List Declaration) := fun ts => do
  let (ds, ts) ← body block ts
  also ds (bodyAfter block "else") ts

def forLoop : Parse (List Declaration) := fun ts => do
  let (_, ts) ← r.targets ts
  let (_, ts) ← word "in" ts
  let (_, ts) ← r.starExpressions ts
  loop block ts

def heldItem : Parse Unit := fun ts => do
  let (_, ts) ← r.expression ts
  if isWord "as" ts then
    let (e, ts) ← r.starOr r.sum ts.tail
    if e.isTarget && isOneOf [",", ")", ":"] ts then return ((), ts) else none
  else return ((), ts)

def heldItems : Parse Unit :=
  orElse
    (fun ts => do
      let (_, ts) ← mark "(" ts
      let (_, ts) ← list r.heldItem "," true ts
      let (_, ts) ← mark ")" ts
      if isMark ":" ts then return ((), ts) else none)
    (fun ts => (list r.heldItem "," false ts).map fun (_, ts) => ((), ts))

def held : Parse (List Declaration) := fun ts => do
  let (_, ts) ← r.heldItems ts
  body block ts

/-! ## Failures -/

/-- What is caught, behind the keyword.  Members of groups need a type. -/
def caught (isGroup : Bool) : Parse Unit := fun ts => do
  if isMark ":" ts && !isGroup then return ((), ts)
  let (_, ts) ← if isGroup then mark "*" ts else some ((), ts)
  let (_, ts) ← r.expression ts
  renamed ts

def handlers (isGroup : Bool) : Nat → Parse (List Declaration)
  | 0, ts => some ([], ts)
  | fuel + 1, ts =>
    if isWord "except" ts then do
      let (_, ts) ← r.caught isGroup ts.tail
      let (ds, ts) ← body block ts
      also ds (handlers isGroup fuel) ts
    else some ([], ts)

/-- The blocks of an attempt, behind its keyword: one for failures, or one for its end, at least. -/
def guarded : Parse (List Declaration) := fun ts => do
  let (ds, ts) ← body block ts
  if isWord "except" ts then
    let (ds', ts) ← r.handlers block (isMark "*" ts.tail) ts.length ts
    let (ds'', ts) ← bodyAfter block "else" ts
    also (ds ++ ds' ++ ds'') (bodyAfter block "finally") ts
  else if isWord "finally" ts then also ds (body block) ts.tail
  else none

/-! ## Declarations -/

def function (line : Nat) : Parse (List Declaration) := fun ts => do
  let (name, ts) ← Parse.name ts
  let (_, ts) ← mark "(" ts
  let (_, ts) ← r.parameters true ")" (ts.length + 1) {} ts
  let (_, ts) ← if isMark "->" ts then r.expression ts.tail else some (.nothing, ts)
  let (_, ts) ← mark ":" ts
  let (b, ts) ← block ts
  return (⟨name, line, b.text⟩ :: b.functions, ts)

def classBlock : Parse (List Declaration) := fun ts => do
  let (_, ts) ← name ts
  let (_, ts) ← if isMark "(" ts then r.arguments false ts.tail else some ([], ts)
  body block ts

def decorated : Parse (List Declaration) := fun ts =>
  match ts with
  | ⟨.word "def", line⟩ :: ts => r.function block line ts
  | ⟨.word "async", line⟩ :: ⟨.word "def", _⟩ :: ts => r.function block line ts
  | ⟨.word "class", _⟩ :: ts => r.classBlock block ts
  | _ => none

def decorators : Nat → Parse (List Declaration)
  | 0, _ => none
  | fuel + 1, ts =>
    if isMark "@" ts then do
      let (_, ts) ← r.named ts.tail
      let (_, ts) ← kind .lineEnd ts
      decorators fuel ts
    else r.decorated block ts

/-! ## Cases -/

def subject : Parse Unit := fun ts => do
  let (e, ts) ← r.starOr r.named ts
  if isMark "," ts then
    let (_, ts) ← listRest (r.starOr r.named) "," true ts.length ts
    return ((), ts)
  else if e.isStarred then none
  else return ((), ts)

def cases (pattern : Parse Unit) : Nat → Parse (List Declaration)
  | 0, ts => some ([], ts)
  | fuel + 1, ts =>
    if isWord "case" ts then do
      let (_, ts) ← Pattern.outermost pattern ts.tail
      let (_, ts) ← if isWord "if" ts then r.named ts.tail else some (.nothing, ts)
      let (ds, ts) ← body block ts
      also ds (cases pattern fuel) ts
    else some ([], ts)

/-- The cases for a subject, behind the word `match`. -/
def matchBlock : Parse (List Declaration) := fun ts => do
  let (_, ts) ← r.subject ts
  let (_, ts) ← mark ":" ts
  let (_, ts) ← kind .lineEnd ts
  let (_, ts) ← kind .indent ts
  if !isWord "case" ts then none
  let (ds, ts) ← r.cases block (Pattern.ofDepth r ts.length) ts.length ts
  let (_, ts) ← kind .dedent ts
  return (ds, ts)

/-! ## Blocks -/

/-- A statement that holds others; missing if none begins here. -/
def compound? (ts : List Token) : Option (Option (List Declaration × List Token)) :=
  match ts with
  | ⟨.word "if", _⟩ :: ts => some (r.choice block ts.length ts)
  | ⟨.word "while", _⟩ :: ts => some do
    let (_, ts) ← r.named ts
    loop block ts
  | ⟨.word "for", _⟩ :: ts => some (r.forLoop block ts)
  | ⟨.word "with", _⟩ :: ts => some (r.held block ts)
  | ⟨.word "try", _⟩ :: ts => some (r.guarded block ts)
  | ⟨.word "async", _⟩ :: ⟨.word "for", _⟩ :: ts => some (r.forLoop block ts)
  | ⟨.word "async", _⟩ :: ⟨.word "with", _⟩ :: ts => some (r.held block ts)
  | ⟨.word w, _⟩ :: _ =>
    if ["def", "class", "async"].contains w then some (r.decorated block ts) else none
  | ⟨.mark "@", _⟩ :: _ => some (r.decorators block ts.length ts)
  | _ => none

/-- A statement, or the statements of a line.  The word `match` can be a name as well. -/
def step : Parse Block := fun ts =>
  match r.compound? block ts with
  | some result => result.map fun (ds, ts) => (⟨none, ds⟩, ts)
  | none =>
    let cases? := if isWord "match" ts then r.matchBlock block ts.tail else none
    match cases? with
    | some (ds, ts) => some (⟨none, ds⟩, ts)
    | none => (r.line ts).map fun (text, ts) => (⟨text, []⟩, ts)

/-- Statements up to the end of their block. -/
def steps : Nat → Parse Block
  | 0, ts => some ({}, ts)
  | fuel + 1, ts =>
    if ts.isEmpty || (kind .dedent ts).isSome then some ({}, ts)
    else do
      let (b, ts) ← r.step block ts
      let (b', ts) ← steps fuel ts
      return (⟨b.text, b.functions ++ b'.functions⟩, ts)

/-- A block for one more depth of nesting: lines of their own, or the rest of a line. -/
def nextBlock : Parse Block := fun ts =>
  match kind .lineEnd ts with
  | some (_, ts) => do
    let (_, ts) ← kind .indent ts
    let (b, ts) ← r.steps block ts.length ts
    let (_, ts) ← kind .dedent ts
    return (b, ts)
  | none => (r.line ts).map fun (text, ts) => (⟨text, []⟩, ts)

def blockOfDepth (n : Nat) : Parse Block := Nat.repeat r.nextBlock n fun _ => none

end Rules

/-- The functions of a script.  Expressions nest no deeper than the text has characters. -/
def Declaration.ofScript? (text : List Char) : Option (List Declaration) := do
  let ts ← Token.scan? text
  let r := Rules.ofDepth (text.length + 1)
  let (b, rest) ← r.steps (r.blockOfDepth (Scanner.deepestBlock + 1)) ts.length ts
  if rest.isEmpty then return b.functions else none

end RouteDoc.Script
