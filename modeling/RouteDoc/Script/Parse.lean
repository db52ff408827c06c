import RouteDoc.Script.Token
import RouteDoc.Text.Normal

/-!
# Reading tokens

What stands at the front of tokens is read by a `Parse`: it gives what it has read and the tokens
that are left.

* `Parse.mark`, `Parse.word`, `Parse.name`: single tokens.
* `Parse.list`: items with separators between them.
-/

namespace RouteDoc.Script

/-- Reads something from the front of tokens, if it is there. -/
abbrev Parse (α : Type) := List Token → Option (α × List Token)

namespace Parse

def keywords : List String :=
  ["False", "None", "True", "and", "as", "assert", "async", "await", "break", "class", "continue",
   "def", "del", "elif", "else", "except", "finally", "for", "from", "global", "if", "import", "in",
   "is", "lambda", "nonlocal", "not", "or", "pass", "raise", "return", "try", "while", "with",
   "yield"]

def isMark (m : String) (ts : List Token) : Bool :=
  match ts with
  | t :: _ => t.kind == .mark m
  | [] => false

def isWord (w : String) (ts : List Token) : Bool :=
  match ts with
  | t :: _ => t.kind == .word w
  | [] => false

def mark (m : String) : Parse Unit := fun ts => if isMark m ts then some ((), ts.tail) else none

def word (w : String) : Parse Unit := fun ts => if isWord w ts then some ((), ts.tail) else none

def kind (k : TokenKind) : Parse Unit := fun
  | t :: ts => if t.kind = k then some ((), ts) else none
  | [] => none

/-- A name, in the form in which it is compared. -/
def name : Parse String := fun
  | ⟨.word w, _⟩ :: ts =>
    if w ∈ keywords then none else some (String.ofList (Chars.normalName w.toList), ts)
  | _ => none

def orElse {α : Type} (p q : Parse α) : Parse α := fun ts => (p ts).orElse fun _ => q ts

/-- The rest of a list with separators, behind an item; a separator at the end is passed over only
if it is allowed. -/
def listRest {α : Type} (item : Parse α) (separator : String) (trailing : Bool) :
    Nat → Parse (List α)
  | 0, ts => some ([], ts)
  | fuel + 1, ts =>
    if isMark separator ts then
      match item ts.tail with
      | some (a, ts') =>
        (listRest item separator trailing fuel ts').map fun (as, ts) => (a :: as, ts)
      | none => some ([], if trailing then ts.tail else ts)
    else some ([], ts)

/-- A list with one item or more, and whether a separator occurs in it. -/
def list {α : Type} (item : Parse α) (separator : String) (trailing : Bool) :
    Parse (List α × Bool) :=
  fun ts => do
    let (a, ts) ← item ts
    let (as, ts') ← listRest item separator trailing ts.length ts
    return ((a :: as, isMark separator ts && (trailing || !as.isEmpty)), ts')

def isOneOf (ms : List String) : List Token → Bool
  | ⟨.mark m, _⟩ :: _ => ms.contains m
  | _ => false

def oneOf {α : Type} (ms : List (String × α)) : Parse α := fun
  | ⟨.mark m, _⟩ :: ts => (ms.lookup m).map fun a => (a, ts)
  | _ => none

end Parse

end RouteDoc.Script
