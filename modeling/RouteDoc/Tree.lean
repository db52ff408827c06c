import RouteDoc.Dict
import RouteDoc.Number.Binary64

/-!
# Trees

Documents are written from trees of mappings, lists and scalars.

* `Tree.object`, `Tree.ofDict`: mappings with texts as keys.
* `Tree.textEntry`, `Tree.optionEntry`: entries that are left out if there is nothing to say.
-/

namespace RouteDoc

inductive Tree.Key where
  | text (s : String)
  | int (n : Int)
  deriving DecidableEq, Inhabited

inductive Tree where
  | text (s : String)
  | bool (b : Bool)
  | int (n : Int)
  | number (x : Binary64)
  | list (items : List Tree)
  | map (entries : List (Tree.Key × Tree))
  deriving Inhabited

namespace Tree

def ofDict (d : Dict String Tree) : Tree := .map (d.entries.map fun e => (.text e.1, e.2))

def object (entries : List (String × Tree)) : Tree :=
  .map (entries.map fun e => (.text e.1, e.2))

def textEntry (key value : String) : List (String × Tree) :=
  if value = "" then [] else [(key, .text value)]

def optionEntry {α : Type} (key : String) (f : α → Tree) (value : Option α) :
    List (String × Tree) :=
  (value.map fun v => (key, f v)).toList

end Tree

end RouteDoc
