import RouteDoc.Schema.Class

/-!
# The order of ancestors

A class inherits from its bases and from what these inherit from.  All of them are put into one
order that keeps the order of the bases and the orders of their own ancestors.

* `mergeOrders?`: the common order of several lists, if there is one.
* `ClassTable.ancestorsOf?`: the ancestors of a class, nearest first.
-/

namespace RouteDoc

/-- The first member of some lists that stands behind no other member of any of them. -/
def nextInOrder? (ls : List (List Nat)) : Option Nat :=
  ls.findSome? fun
    | n :: _ => if ls.all fun l => !l.tail.contains n then some n else none
    | [] => none

/-- The common order of several lists: at most `fuel` members. -/
def mergeOrdersWithin : Nat → List (List Nat) → Option (List Nat)
  | 0, ls => if ls.all List.isEmpty then some [] else none
  | fuel + 1, ls =>
    if ls.all List.isEmpty then some []
    else do
      let n ← nextInOrder? ls
      let rest ← mergeOrdersWithin fuel (ls.map fun l => if l.head? == some n then l.tail else l)
      return n :: rest

/-- The common order of several lists; of the members that can come next, the one from the first
list does. -/
def mergeOrders? (ls : List (List Nat)) : Option (List Nat) :=
  mergeOrdersWithin ls.flatten.length ls

/-- The ancestors of a class with some bases, nearest first. -/
def ClassTable.ancestorsOf? (t : ClassTable) (bases : List String) :
    Except ClassFault (List Nat) :=
  let places := bases.filterMap t.place?
  if places.eraseDups.length != places.length then .error .inconsistentBases
  else match mergeOrders? (places.map t.ancestry ++ [places]) with
    | some order => .ok order
    | none => .error .inconsistentBases

end RouteDoc
