import RouteDoc.Schema.Form

/-!
# Resolution of type expressions

An expression is read in a registry: aliases are replaced, the forms around a type are turned into
its printed name, and every map met on the way is given a type of its own.

* `Reading`: what reading comes to, together with the map types met, in the order in which they are
  complete.  A fault stops the reading and keeps the maps met before it.
* `Registry.read`: reads an expression.  It looks at aliases and narrowed built-in types only, and
  changes nothing.
* `Registry.resolve`: reads an expression, then registers its map types.

Reading ends, because an alias is followed only if it was not followed before on the same path, and
all else makes the expression shorter.
-/

namespace RouteDoc

/-- The outcome of reading, and the map types met. -/
structure Reading (α : Type) where
  maps : List MapType := []
  outcome : Except TypeFault α

namespace Reading

variable {α β : Type}

protected def pure (a : α) : Reading α := ⟨[], .ok a⟩

/-- Goes on reading, unless there is a fault. -/
protected def bind (x : Reading α) (f : α → Reading β) : Reading β :=
  match x.outcome with
  | .ok a => ⟨x.maps ++ (f a).maps, (f a).outcome⟩
  | .error fault => ⟨x.maps, .error fault⟩

instance : Monad Reading where
  pure := Reading.pure
  bind := Reading.bind

def fault (f : TypeFault) : Reading α := ⟨[], .error f⟩

def meet (m : MapType) : Reading Unit := ⟨[m], .ok ()⟩

def all : List (Reading α) → Reading (List α)
  | [] => .pure []
  | x :: xs => x.bind fun a => (all xs).bind fun as => .pure (a :: as)

end Reading

def mergeInto (names : List String) : List String → List String
  | [] => names
  | n :: ns => mergeInto (if n ∈ names then names else names ++ [n]) ns

/-- The names of several lists, each once, in the order of their first occurrence. -/
def mergeNames (lists : List (List String)) : List String := mergeInto [] lists.flatten

namespace Chars

/-- A name with the marks of arrays and unions spelled out and all other marks left out. -/
def spellOut : List Char → List Char
  | '[' :: ']' :: r => "Array".toList ++ spellOut r
  | ' ' :: '|' :: ' ' :: r => "Or".toList ++ spellOut r
  | c :: r => if isWord c then c :: spellOut r else spellOut r
  | [] => []

end Chars

def MapType.nameFor (key value : String) : String :=
  "map_" ++ String.ofList (Chars.spellOut key.toList) ++ "_" ++
    String.ofList (Chars.spellOut value.toList)

def MapType.ofParts (key value : Descriptor) : MapType :=
  ⟨MapType.nameFor key.name value.name, key, value⟩

namespace Descriptor

def nothing : Descriptor := ⟨.nil, "nil", []⟩

def anything : Descriptor := ⟨.any, "any", []⟩

def arrayOf (item : Descriptor) : Descriptor := ⟨.array, item.name ++ "[]", item.dependents⟩

/-- An object that the document declares as a map type. -/
def ofMap (m : MapType) : Descriptor :=
  ⟨.object, m.name, mergeNames [[m.name], m.key.dependents, m.value.dependents]⟩

/-- A union.  Its kind is that of its members if they agree. -/
def union (members : List Descriptor) : Descriptor where
  kind := match members with
    | [] => .any
    | d :: ds => if ds.all (·.kind == d.kind) then d.kind else .any
  name := Text.joinWith " | " (members.map Descriptor.name)
  dependents := mergeNames (members.map Descriptor.dependents)

end Descriptor

namespace Registry

/-- The aliases that were not followed yet. -/
def unseen (r : Registry) (seen : List String) : List String :=
  r.aliases.keys.filter fun a => a ∉ seen

theorem length_unseen_lt {r : Registry} {seen : List String} {a : String}
    (ha : a ∈ r.aliases.keys) (hs : a ∉ seen) :
    (r.unseen (a :: seen)).length < (r.unseen seen).length := by
  have hsub : ((r.aliases.keys.filter fun b => b ∉ seen).filter fun b => b != a).Sublist
      (r.aliases.keys.filter fun b => b ∉ seen) := List.filter_sublist
  have heq : r.unseen (a :: seen) =
      (r.aliases.keys.filter fun b => b ∉ seen).filter fun b => b != a := by
    rw [unseen, List.filter_filter]
    congr 1
    funext b
    by_cases h : b = a <;> simp [h]
  have hmem : a ∈ r.aliases.keys.filter fun b => b ∉ seen := by simp [ha, hs]
  rw [heq]
  refine Nat.lt_of_le_of_ne hsub.length_le fun hlen => ?_
  have := hsub.eq_of_length hlen
  rw [← this] at hmem
  simp at hmem

/-- The length of the longest alias target. -/
def longestTarget (r : Registry) : Nat :=
  r.aliases.values.foldr (fun t n => max t.length n) 0

theorem length_le_longestTarget {r : Registry} {target : String}
    (ht : target ∈ r.aliases.values) : target.length ≤ r.longestTarget := by
  unfold longestTarget
  generalize r.aliases.values = ts at ht
  induction ts with
  | nil => simp at ht
  | cons t ts ih =>
    simp only [List.foldr_cons]
    rcases List.mem_cons.1 ht with rfl | ht
    · exact Nat.le_max_left _ _
    · exact Nat.le_trans (ih ht) (Nat.le_max_right _ _)

/-- A bound for the depth of reading: following an alias spends one that is unseen, any other step
shortens the expression. -/
def depthBound (r : Registry) (seen : List String) (e : String) : Nat :=
  (r.unseen seen).length * (r.longestTarget + 1) + e.length

theorem depthBound_alias_lt {r : Registry} {seen : List String} {e name target : String}
    (h : Form.of r e = .aliasOf name target) (hs : name ∉ seen) :
    r.depthBound (name :: seen) target < r.depthBound seen e := by
  have hlt := length_unseen_lt (Form.mem_aliases h).2 hs
  have hlen : target.length ≤ r.longestTarget := by
    obtain ⟨t, ht, rfl⟩ := Form.exists_target h
    have h1 := Chars.length_strip_le t.toList
    have h2 := length_le_longestTarget ht
    simp only [← String.length_toList, Text.toList_strip] at h1 h2 ⊢
    omega
  have hmul := Nat.mul_le_mul_right (r.longestTarget + 1) (Nat.succ_le_of_lt hlt)
  simp only [Nat.succ_mul] at hmul
  simp only [depthBound]
  omega

theorem depthBound_part_lt {r : Registry} {e p : String} (seen : List String)
    (hp : p ∈ (Form.of r e).parts) : r.depthBound seen p < r.depthBound seen e :=
  Nat.add_lt_add_left (Form.length_lt hp) _

/-- Reads the trimmed expression `e`, when the aliases `seen` were followed to get to it. -/
def readFrom (r : Registry) (seen : List String) (e : String) : Reading Descriptor :=
  match h : Form.of r e with
  | .union parts =>
    (Reading.all (parts.attach.map fun ⟨p, hp⟩ =>
      have := depthBound_part_lt (r := r) (e := e) (p := p) seen (h ▸ hp)
      r.readFrom seen p)).bind fun members => .pure (.union members)
  | .nothing => .pure .nothing
  | .anything => .pure .anything
  | .primitive name => .pure ⟨.scalar, name, [name]⟩
  | .aliasOf name target =>
    if hs : name ∈ seen ∨ target = name then .fault (.aliasCycle name)
    else
      have := depthBound_alias_lt h (fun hn => hs (.inl hn))
      r.readFrom (name :: seen) target
  | .pointer inner =>
    have := depthBound_part_lt (r := r) (e := e) (p := inner) seen (h ▸ List.mem_singleton.2 rfl)
    r.readFrom seen inner
  | .array item =>
    have := depthBound_part_lt (r := r) (e := e) (p := item) seen (h ▸ List.mem_singleton.2 rfl)
    (r.readFrom seen item).bind fun d => .pure (.arrayOf d)
  | .map key value =>
    have := depthBound_part_lt (r := r) (e := e) (p := key) seen (h ▸ List.mem_cons_self)
    have := depthBound_part_lt (r := r) (e := e) (p := value) seen
      (h ▸ List.mem_cons_of_mem _ (List.mem_singleton.2 rfl))
    (r.readFrom seen key).bind fun k =>
      (r.readFrom seen value).bind fun v =>
        (Reading.meet (.ofParts k v)).bind fun _ => .pure (.ofMap (.ofParts k v))
  | .malformedMap => .fault (.malformedMap e)
  | .scalar name => .pure ⟨.scalar, name, []⟩
  | .named name => .pure ⟨.object, name, [name]⟩
  | .invalid => .fault (.invalidExpression e)
termination_by r.depthBound seen e

def read (r : Registry) (e : String) : Reading Descriptor := r.readFrom [] (Text.strip e)

/-- Reads a type expression and registers the map types met, up to the first that conflicts. -/
def resolve (r : Registry) (e : String) : Registry × Except TypeFault Descriptor :=
  let reading := r.read e
  match r.register reading.maps with
  | (r', .ok _) => (r', reading.outcome)
  | (r', .error fault) => (r', .error fault)

/-- The type from which a resolved type takes its values: for a narrowed built-in type the one that
it narrows, else the type itself. -/
def baseOf (r : Registry) (d : Descriptor) : String :=
  if d.kind = .scalar then
    match r.primitive? d.name with
    | some p => p.base
    | none => d.name
  else d.name

end Registry

end RouteDoc
