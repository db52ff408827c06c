import RouteDoc.Datum
import RouteDoc.Yaml.Base64
import RouteDoc.Yaml.Node

/-!
# The data of a YAML text

* `Datum.ofYaml`: the datum that a text stands for.
* `Builder.run`: gives every node its value, level by level, so that of two faults the outer one
  counts.  The entries of a merged mapping come before the others.
* `Unfolding.datum`: the datum of a node.  Of equal keys the last one counts, at the place of the
  first.
-/

namespace RouteDoc

namespace Yaml

/-! ## Numbers -/

/-- The integer with these digits as the ones of base sixty, or an ordinary one. -/
def readSexagesimal? (s : List Char) : Option Int :=
  (Chars.splitAt ':' s).foldlM (fun n part => do return 60 * n + (← Numeral.readInt? part)) 0

/-- The text without low lines. -/
def withoutSpacing (s : List Char) : List Char := s.filter (· != '_')

/-- The value of an integer behind its sign. -/
def magnitude? (s : List Char) : Option Int :=
  match s with
  | ['0'] => some 0
  | '0' :: 'b' :: r => Numeral.readIntIn? 2 r
  | '0' :: 'x' :: r => Numeral.readIntIn? 16 r
  | '0' :: _ => Numeral.readIntIn? 8 s
  | _ => readSexagesimal? s

def readInt (s : List Char) : Except Fault Int :=
  let s := withoutSpacing s
  let digits := ScalarType.dropSign s
  if digits = [] then .error .emptyNumber
  else match magnitude? digits with
    | some n => .ok (if s.head? = some '-' then -n else n)
    | none => .error .noSuchValue

/-- The value of parts, the last one first, of which each counts sixty times the one before. -/
def sumSexagesimal (unit : Nat) (sum : Binary64) : List Binary64 → Binary64
  | [] => sum
  | x :: xs => sumSexagesimal (60 * unit) (sum.add (x.scale unit)) xs

def magnitudeOfFloat? (s : List Char) : Option Binary64 :=
  if s = ".inf".toList then some (.infinite false)
  else if s = ".nan".toList then some .nan
  else if s.contains ':' then do
    let parts ← (Chars.splitAt ':' s).mapM Numeral.readFloat?
    return sumSexagesimal 1 (.zero false) parts.reverse
  else Numeral.readFloat? s

def readFloat (s : List Char) : Except Fault Binary64 :=
  let s := (withoutSpacing s).map Chars.asciiLower
  if s = [] then .error .emptyNumber
  else match magnitudeOfFloat? (ScalarType.dropSign s) with
    | some x => .ok (if s.head? = some '-' then x.neg else x)
    | none => .error .noSuchValue

/-! ## Scalars -/

/-- The truth value that a word stands for, in capitals or not. -/
def readBool (s : List Char) : Except Fault Bool :=
  let word := String.ofList (s.map Chars.asciiLower)
  if word ∈ ScalarType.trueWords then .ok true
  else if word ∈ ScalarType.falseWords then .ok false
  else .error .noTruthValue

/-- Checks a timestamp, which may have a line break behind it. -/
def checkTimestamp (s : List Char) : Except Fault Unit :=
  match Timestamp.read? (if s.getLast? = some '\n' then s.dropLast else s) with
  | none => .error .noTimestamp
  | some t => if t.isValid then .ok () else .error .noSuchValue

def readBytes (s : List Char) : Except Fault Datum :=
  if s.all (·.toNat < 0x80) then
    match Base64.decode? s with
    | some bytes => .ok (.bytes (String.fromUTF8? ⟨bytes.toArray⟩))
    | none => .error .malformed
  else .error .malformed

def scalarDatum (t : ScalarType) (s : List Char) : Except Fault Datum :=
  match t with
  | .null => .ok .null
  | .bool => (readBool s).map .bool
  | .int => (readInt s).map .int
  | .float => (readFloat s).map .float
  | .timestamp => (checkTimestamp s).map fun _ => .other "timestamp"
  | .text => .ok (.text (String.ofList s))
  | .merge | .value => .error .malformed

/-! ## Collections -/

/-- Stores a value under a key: at the place of an equal key, or behind all entries. -/
def putDatum (k v : Datum) : List (Datum × Datum) → List (Datum × Datum)
  | [] => [(k, v)]
  | e :: es => if e.1 == k then (e.1, v) :: es else e :: putDatum k v es

/-- The mapping of some entries, of which the later ones win. -/
def mapping (entries : List (Datum × Datum)) : Datum :=
  .map (entries.foldl (fun es e => putDatum e.1 e.2 es) [])

/-- The value of a node, whose parts are the numbers of nodes. -/
inductive Shape where
  | datum (d : Datum)
  | list (items : List Nat)
  | map (entries : List (Nat × Nat))
  | set (keys : List Nat)
  | pairs (entries : List (Nat × Nat))
  deriving Inhabited

/-- The nodes of a document, the values found so far, and the collections whose parts come next. -/
structure Builder where
  nodes : Array Node
  shapes : Array (Option Shape)
  waiting : List Nat := []
  deriving Inhabited

namespace Builder

/-- The nodes of a document before anything is known about them. -/
def ofGraph (g : Graph) : Builder := ⟨g.nodes, g.nodes.map fun _ => none, []⟩

def node (b : Builder) (id : Nat) : Node := (b.nodes[id]?).getD .nothing

/-- Whether a node is a key with a certain meaning. -/
def isKey (b : Builder) (t : ScalarType) (id : Nat) : Bool := (b.node id).tag == .scalar t

def setNode (b : Builder) (id : Nat) (n : Node) : Builder :=
  { b with nodes := b.nodes.setIfInBounds id n }

def setShape (b : Builder) (id : Nat) (s : Shape) : Builder :=
  { b with shapes := b.shapes.setIfInBounds id (some s) }

/-- The text of a scalar.  A mapping that has a value under the key `=` stands for that. -/
def scalarText (b : Builder) : Nat → Nat → Except Fault (List Char)
  | 0, _ => .error .endless
  | fuel + 1, id =>
    match b.node id with
    | .scalar _ s => .ok s
    | .map _ es =>
      match es.find? fun e => b.isKey .value e.1 with
      | some e => b.scalarText fuel e.2
      | none => .error .malformed
    | .list _ _ => .error .malformed

def readScalar (b : Builder) (t : ScalarType) (id : Nat) : Except Fault Datum := do
  let s ← b.scalarText (b.nodes.size + 1) id
  match t, b.node id with
  | .timestamp, .map _ _ => throw .noText
  | _, _ => scalarDatum t s

/-- Takes up a node: a scalar gets its value, the parts of a collection come later. -/
def visit (b : Builder) (id : Nat) : Except Fault Builder :=
  match b.shapes[id]? with
  | some (some _) => .ok b
  | _ =>
    match (b.node id).tag with
    | .scalar .merge | .scalar .value | .unknown => .error .malformed
    | .scalar t => (b.readScalar t id).map fun d => b.setShape id (.datum d)
    | .binary => do
      return b.setShape id (.datum (← readBytes (← b.scalarText (b.nodes.size + 1) id)))
    | .list | .map | .set | .pairs =>
      .ok { b.setShape id (.list []) with waiting := b.waiting ++ [id] }

def visitAll (b : Builder) (ids : List Nat) : Except Fault Builder := ids.foldlM visit b

/-- The first merged entry of a mapping, and the entries without it. -/
def cutMerge (b : Builder) : List (Nat × Nat) → Option (Nat × List (Nat × Nat))
  | [] => none
  | e :: es =>
    if b.isKey .merge e.1 then some (e.2, es)
    else (cutMerge b es).map fun (v, rest) => (v, e :: rest)

def entries (b : Builder) (id : Nat) : List (Nat × Nat) :=
  match b.node id with
  | .map _ es => es
  | _ => []

/-- Replaces the entries of a mapping. -/
def setEntries (b : Builder) (id : Nat) (es : List (Nat × Nat)) : Builder :=
  match b.node id with
  | .map t _ => b.setNode id (.map t es)
  | _ => b

/-- The key `=` stands for itself, where it is the key of an entry. -/
def plainKeys (b : Builder) (id : Nat) : Builder :=
  (b.entries id).foldl (fun b e =>
    match b.node e.1 with
    | .scalar (.scalar .value) s => b.setNode e.1 (.scalar (.scalar .text) s)
    | _ => b) b

mutual

/-- Puts the entries that are merged into a mapping in front of its own ones.  A key that merges is
removed before the mapping behind it is looked at, so this ends, and a mapping that merges itself
adds nothing. -/
def flatten : Nat → Nat → Builder → Except Fault Builder
  | 0, _, b => .ok b
  | fuel + 1, id, b => do
    let (merged, b) ← flattenMerges fuel id b
    return (b.setEntries id (merged ++ b.entries id)).plainKeys id

/-- The entries that are merged into a mapping, whose merging keys are removed. -/
def flattenMerges : Nat → Nat → Builder → Except Fault (List (Nat × Nat) × Builder)
  | 0, _, b => .ok ([], b)
  | fuel + 1, id, b =>
    match b.cutMerge (b.entries id) with
    | none => .ok ([], b)
    | some (v, rest) => do
      let (first, b) ← mergedEntries fuel v (b.setEntries id rest)
      let (others, b) ← flattenMerges fuel id b
      return (first ++ others, b)

/-- The entries of a mapping, or of a list of mappings, of which the first ones win. -/
def mergedEntries : Nat → Nat → Builder → Except Fault (List (Nat × Nat) × Builder)
  | 0, _, b => .ok ([], b)
  | fuel + 1, v, b =>
    match b.node v with
    | .map _ _ => do
      let b ← flatten fuel v b
      return (b.entries v, b)
    | .list _ items => mergedItems fuel items b
    | .scalar _ _ => .error .malformed

/-- The entries of several mappings, those of the last one first. -/
def mergedItems : Nat → List Nat → Builder → Except Fault (List (Nat × Nat) × Builder)
  | 0, _, b => .ok ([], b)
  | _ + 1, [], b => .ok ([], b)
  | fuel + 1, id :: ids, b =>
    match b.node id with
    | .map _ _ => do
      let b ← flatten fuel id b
      let own := b.entries id
      let (others, b) ← mergedItems fuel ids b
      return (others ++ own, b)
    | _ => .error .malformed

end

/-- The number of all parts of all nodes. -/
def size (b : Builder) : Nat :=
  b.nodes.foldl (fun n node => n + match node with
    | .scalar _ _ => 1
    | .list _ items => items.length + 1
    | .map _ es => es.length + 1) 0

/-- Whether a node is a collection, which is no key. -/
def isCollection (b : Builder) (id : Nat) : Bool :=
  match (b.node id).tag with
  | .list | .map | .set | .pairs => true
  | _ => false

def visitEntries : Builder → List (Nat × Nat) → Except Fault Builder
  | b, [] => .ok b
  | b, (k, v) :: es => do
    let b ← b.visit k
    if b.isCollection k then throw .malformed
    visitEntries (← b.visit v) es

/-- The entries of a mapping whose parts are taken up. -/
def fillMap (b : Builder) (id : Nat) : Except Fault (List (Nat × Nat) × Builder) :=
  match b.node id with
  | .map _ _ => do
    let b ← flatten (4 * b.size + 4) id b
    return (b.entries id, ← visitEntries b (b.entries id))
  | _ => .error .malformed

/-- The single entries of mappings, one by one. -/
def fillPairs : Builder → List Nat → Except Fault (List (Nat × Nat) × Builder)
  | b, [] => .ok ([], b)
  | b, id :: ids =>
    match b.node id with
    | .map _ [(k, v)] => do
      let b ← b.visitAll [k, v]
      let (es, b) ← fillPairs b ids
      return ((k, v) :: es, b)
    | _ => .error .malformed

def fill (b : Builder) (id : Nat) : Except Fault Builder :=
  match (b.node id).tag, b.node id with
  | .list, .list _ items => (b.visitAll items).map (·.setShape id (.list items))
  | .pairs, .list _ items => (fillPairs b items).map fun (es, b) => b.setShape id (.pairs es)
  | .map, _ => (b.fillMap id).map fun (es, b) => b.setShape id (.map es)
  | .set, _ => (b.fillMap id).map fun (es, b) => b.setShape id (.set (es.map Prod.fst))
  | _, _ => .error .malformed

/-- Takes up the parts of all collections, in the order in which these were taken up. -/
def run : Nat → Builder → Except Fault Builder
  | 0, b => .ok b
  | fuel + 1, b =>
    match b.waiting with
    | [] => .ok b
    | id :: ids => do run fuel (← fill { b with waiting := ids } id)

end Builder

/-! ## Data -/

/-- The data of the nodes that are not part of themselves, as far as they were asked for. -/
structure Unfolding where
  shapes : Array (Option Shape)
  known : Array (Option Datum)
  deriving Inhabited

namespace Unfolding

/-- How often a node that is part of itself is followed on one path. -/
def mostTurns : Nat := 4

mutual

/-- The datum of a node inside other ones, and whether it is complete.  No fewer steps are left than
the path can get longer. -/
def datum : Nat → List Nat → Nat → Unfolding → (Datum × Bool) × Unfolding
  | 0, _, _, u => ((.other "cycle", false), u)
  | fuel + 1, path, id, u =>
    match u.known[id]?, u.shapes[id]? with
    | some (some d), _ => ((d, true), u)
    | _, some (some shape) =>
      if mostTurns ≤ path.count id then ((.other "cycle", false), u)
      else
        let ((d, isComplete), u) := ofShape fuel (id :: path) shape u
        ((d, isComplete),
          if isComplete then { u with known := u.known.setIfInBounds id (some d) } else u)
    | _, _ => ((.null, true), u)

def ofShape : Nat → List Nat → Shape → Unfolding → (Datum × Bool) × Unfolding
  | 0, _, _, u => ((.other "cycle", false), u)
  | _ + 1, _, .datum d, u => ((d, true), u)
  | fuel + 1, path, .list items, u =>
    let ((ds, isComplete), u) := data fuel path items u
    ((.list ds, isComplete), u)
  | fuel + 1, path, .set keys, u =>
    let ((ds, isComplete), u) := data fuel path keys u
    ((.list ds, isComplete), u)
  | fuel + 1, path, .map es, u =>
    let ((ds, isComplete), u) := entryData fuel path es u
    ((mapping ds, isComplete), u)
  | fuel + 1, path, .pairs es, u =>
    let ((ds, isComplete), u) := entryData fuel path es u
    ((.list (ds.map fun e => .list [e.1, e.2]), isComplete), u)

def data : Nat → List Nat → List Nat → Unfolding → (List Datum × Bool) × Unfolding
  | _, _, [], u => (([], true), u)
  | 0, _, _ :: _, u => (([], false), u)
  | fuel + 1, path, id :: ids, u =>
    let ((d, isComplete), u) := datum fuel path id u
    let ((ds, areComplete), u) := data fuel path ids u
    ((d :: ds, isComplete && areComplete), u)

def entryData : Nat → List Nat → List (Nat × Nat) → Unfolding →
    (List (Datum × Datum) × Bool) × Unfolding
  | _, _, [], u => (([], true), u)
  | 0, _, _ :: _, u => (([], false), u)
  | fuel + 1, path, (k, v) :: es, u =>
    let ((key, isKeyComplete), u) := datum fuel path k u
    let ((value, isComplete), u) := datum fuel path v u
    let ((ds, areComplete), u) := entryData fuel path es u
    (((key, value) :: ds, isKeyComplete && isComplete && areComplete), u)

end

end Unfolding

def Graph.toDatum (g : Graph) : Except Fault Datum := do
  let b ← (Builder.ofGraph g).visit g.root
  let b ← Builder.run (g.nodes.size + 1) b
  let fuel := Unfolding.mostTurns * (3 * b.nodes.size + b.size + 3)
  return (Unfolding.datum fuel [] g.root ⟨b.shapes, b.shapes.map fun _ => none⟩).1.1

end Yaml

/-- The datum that a YAML text stands for; nothing if it holds no document. -/
def Datum.ofYaml (text : List Char) : Except Yaml.Fault Datum := do
  match ← Yaml.Graph.ofText? text with
  | some g => g.toDatum
  | none => return .null

end RouteDoc
