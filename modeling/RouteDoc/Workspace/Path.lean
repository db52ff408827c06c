import RouteDoc.Text.Split

/-!
# Paths

Where a file or a folder lies: names from a folder on, or from the root of all folders.

* `Path.ofString`, `Path.text`: a path is written with slashes; empty names and single dots do not
  count.
* `Path.append`: a path continued by another one.
* `Path.le`: the order of paths, name by name.
-/

namespace RouteDoc

/-- Names on the way to a file or a folder. -/
structure Path where
  /-- The slashes at the beginning of a path from the root. -/
  root : String := ""
  names : List String := []
  deriving DecidableEq, Inhabited

namespace Path

/-- The slashes that stand for several at the beginning of a path.  Exactly two are kept. -/
def rootOf (slashes : Nat) : String :=
  match slashes with
  | 0 => ""
  | 2 => "//"
  | _ => "/"

def ofString (s : String) : Path where
  root := rootOf (s.toList.takeWhile (· == '/')).length
  names := ((Chars.splitAt '/' s.toList).map String.ofList).filter fun n => n ≠ "" ∧ n ≠ "."

def text (p : Path) : String :=
  let s := p.root ++ Text.joinWith "/" p.names
  if s = "" then "." else s

def append (p q : Path) : Path := if q.root = "" then ⟨p.root, p.names ++ q.names⟩ else q

def parent (p : Path) : Path := { p with names := p.names.dropLast }

def namesLe : List String → List String → Bool
  | [], _ => true
  | _ :: _, [] => false
  | a :: as, b :: bs => if a = b then namesLe as bs else decide (a < b)

def le (p q : Path) : Bool :=
  if p.root = q.root then namesLe p.names q.names else decide (p.root < q.root)

end Path

end RouteDoc
