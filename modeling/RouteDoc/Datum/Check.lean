import RouteDoc.Datum
import RouteDoc.Dict

/-!
# Checks of plain data

What is asked of the parts of a datum: that they are there, and of some sort.

* `Datum.fieldOr`, `Datum.required?`: the checked value under a key.
* `Datum.dict?`, `Datum.listOf?`: mappings and lists whose values pass a check.
* `Datum.bool?`: what can be read as a truth value.
-/

namespace RouteDoc.Datum

def mapping? : Datum → Option (List (Datum × Datum))
  | .map es => some es
  | _ => none

/-- A mapping from texts to values that pass a check. -/
def dict? {α : Type} (check : Datum → Option α) (d : Datum) : Option (Dict String α) := do
  (← d.mapping?).foldlM (fun r e => do return r.put (← e.1.text?) (← check e.2)) ∅

def listOf? {α : Type} (check : Datum → Option α) : Datum → Option (List α)
  | .list ds => ds.mapM check
  | _ => none

def required? {α : Type} (d : Datum) (key : String) (check : Datum → Option α) : Option α :=
  (d.get? key).bind check

def fieldOr {α : Type} (d : Datum) (key : String) (check : Datum → Option α) (default : α) :
    Option α :=
  match d.get? key with
  | some v => check v
  | none => some default

/-- A checked value, or nothing. -/
def nullable? {α : Type} (check : Datum → Option α) : Datum → Option (Option α)
  | .null => some none
  | d => (check d).map some

/-- The value under the first of two keys that is there. -/
def getEither? (d : Datum) (first second : String) : Option Datum :=
  (d.get? first).orElse fun _ => d.get? second

/-- The words for truth and for falsity, in small letters. -/
def trueWords : List String := ["1", "t", "y", "on", "yes", "true"]
def falseWords : List String := ["0", "f", "n", "no", "off", "false"]

/-- The truth value that a datum is, or that can be read from it: one and zero count as well, and
the words for them. -/
def bool? (d : Datum) : Option Bool :=
  match d with
  | .bool b => some b
  | .int n => if n = 1 then some true else if n = 0 then some false else none
  | .float x =>
    if x.toInt? = some 1 then some true else if x.toInt? = some 0 then some false else none
  | _ => d.text?.bind fun s =>
    let word := String.ofList (s.toList.map Chars.asciiLower)
    if trueWords.contains word then some true
    else if falseWords.contains word then some false else none

end RouteDoc.Datum
