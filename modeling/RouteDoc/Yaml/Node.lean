import RouteDoc.Dict
import RouteDoc.Yaml.Token

/-!
# Nodes of YAML

A document consists of nodes: scalars, lists and mappings, each with a tag that says what it stands
for.  Nodes refer to each other by their numbers, because an alias shares the node with its anchor,
which may be one that the alias is part of.

* `Graph.ofText?`: the single document of a text, if there is one.
* `Graph.ofTokens`: the document that some tokens begin with.
-/

namespace RouteDoc.Yaml

/-- What a node stands for. -/
inductive Tag where
  | scalar (t : ScalarType)
  | binary
  | list
  | map
  | set
  /-- A list of pairs. -/
  | pairs
  | unknown
  deriving DecidableEq, Inhabited

def Tag.ofName (name : List Char) : Tag :=
  let start := "tag:yaml.org,2002:".toList
  if !start.isPrefixOf name then .unknown
  else match String.ofList (name.drop start.length) with
    | "null" => .scalar .null
    | "bool" => .scalar .bool
    | "int" => .scalar .int
    | "float" => .scalar .float
    | "timestamp" => .scalar .timestamp
    | "str" => .scalar .text
    | "merge" => .scalar .merge
    | "value" => .scalar .value
    | "binary" => .binary
    | "seq" => .list
    | "map" => .map
    | "set" => .set
    | "omap" => .pairs
    | "pairs" => .pairs
    | _ => .unknown

/-- A node, whose parts are the numbers of nodes. -/
inductive Node where
  | scalar (tag : Tag) (text : List Char)
  | list (tag : Tag) (items : List Nat)
  | map (tag : Tag) (entries : List (Nat × Nat))
  deriving DecidableEq, Inhabited

namespace Node

def tag : Node → Tag
  | .scalar t _ => t
  | .list t _ => t
  | .map t _ => t

/-- The scalar that stands where nothing is written. -/
def nothing : Node := .scalar (.scalar .null) []

end Node

/-- The nodes of a document, and the number of the one that holds all others. -/
structure Graph where
  nodes : Array Node
  root : Nat
  deriving Inhabited

namespace Graph

abbrev Handles := Dict (List Char) (List Char)

/-- The handles that need no directive. -/
def defaultHandles : Handles :=
  (∅ : Handles).put ['!'] ['!'] |>.put ['!', '!'] "tag:yaml.org,2002:".toList

/-- The rest of the tokens, the nodes so far, and those with anchors. -/
structure Reader where
  tokens : List Token
  handles : Handles := defaultHandles
  nodes : Array Node := #[]
  anchors : Dict (List Char) Nat := ∅
  deriving Inhabited

namespace Reader

def peek (r : Reader) : Except Fault (Option Token) :=
  match r.tokens with
  | .broken fault :: _ => .error fault
  | ts => .ok ts.head?

def next (r : Reader) : Reader := { r with tokens := r.tokens.tail }

def isAt (r : Reader) (t : Token) : Except Fault Bool := r.peek.map (· == some t)

def expect (r : Reader) (t : Token) : Except Fault Reader := do
  if ← r.isAt t then return r.next else throw .malformed

def add (r : Reader) (n : Node) : Nat × Reader := (r.nodes.size, { r with nodes := r.nodes.push n })

def complete (r : Reader) (id : Nat) (n : Node) : Reader :=
  { r with nodes := r.nodes.setIfInBounds id n }

end Reader

/-- What is said about a node before it begins. -/
structure Properties where
  anchor : Option (List Char) := none
  tag : Option (List Char) := none
  deriving DecidableEq, Inhabited

def tagName (r : Reader) (t : TagText) : Except Fault (List Char) :=
  match t.handle with
  | none => .ok t.suffix
  | some h =>
    match r.handles.get? h with
    | some start => .ok (start ++ t.suffix)
    | none => .error .malformed

/-- The anchor and the tag here, in either order. -/
def readProperties (r : Reader) : Except Fault (Properties × Reader) := do
  match ← r.peek with
  | some (.anchor a) =>
    match ← r.next.peek with
    | some (.tag t) => return (⟨some a, some (← tagName r t)⟩, r.next.next)
    | _ => return (⟨some a, none⟩, r.next)
  | some (.tag t) =>
    match ← r.next.peek with
    | some (.anchor a) => return (⟨some a, some (← tagName r t)⟩, r.next.next)
    | _ => return (⟨none, some (← tagName r t)⟩, r.next)
  | _ => return ({}, r)

/-- The tag of a collection: its own one, unless it is left open. -/
def collectionTag (own : Tag) (tag : Option (List Char)) : Tag :=
  match tag with
  | none => own
  | some ['!'] => own
  | some name => .ofName name

/-- What a scalar is whose tag is left open: what it is spelled like, a break at its end apart.  The
marks of anchors, aliases and tags are nothing. -/
def openTag (text : List Char) : Tag :=
  let word := if text.getLast? = some '\n' ∧ 1 < text.length then text.dropLast else text
  if word = ['!'] ∨ word = ['&'] ∨ word = ['*'] then .unknown else .scalar (.ofPlain word)

/-- The tag of a scalar.  A plain one without a tag, or any with an open tag, is what it is spelled
like. -/
def scalarTag (isPlain : Bool) (tag : Option (List Char)) (text : List Char) : Tag :=
  match tag with
  | some ['!'] => openTag text
  | some name => .ofName name
  | none => .scalar (if isPlain then .ofPlain text else .text)

/-- The tag of a scalar that is not written. -/
def missingTag (tag : Option (List Char)) : Tag :=
  match tag with
  | some ['!'] => .scalar .null
  | some name => .ofName name
  | none => .scalar .null

/-- The node here if nothing is written; that needs a tag or an anchor. -/
def Properties.missing (p : Properties) (r : Reader) : Except Fault (Node × Reader) :=
  if p = {} then .error .malformed else .ok (.scalar (missingTag p.tag) [], r)

/-- Where a node stands: in brackets, in a block, or in a mapping, where the items of a list need no
indentation. -/
inductive Position where
  | flow
  | block
  | entry
  deriving DecidableEq, Inhabited

mutual

def read : Nat → Position → Reader → Except Fault (Nat × Reader)
  | 0, _, _ => .error .malformed
  | fuel + 1, position, r => do
    match ← r.peek with
    | some (.reference name) =>
      match r.anchors.get? name with
      | some id => return (id, r.next)
      | none => throw .malformed
    | _ =>
      let (p, r) ← readProperties r
      let (id, r) := r.add .nothing
      let r ← (match p.anchor with
        | none => .ok r
        | some a =>
          if r.anchors.contains a then .error .malformed
          else .ok { r with anchors := r.anchors.put a id })
      let (n, r) ← readContent fuel position p r
      return (id, r.complete id n)

def readContent : Nat → Position → Properties → Reader → Except Fault (Node × Reader)
  | 0, _, _, _ => .error .malformed
  | fuel + 1, position, p, r => do
    let list (items : List Nat) : Node := .list (collectionTag .list p.tag) items
    let map (entries : List (Nat × Nat)) : Node := .map (collectionTag .map p.tag) entries
    let inBlock := position ≠ .flow
    match ← r.peek with
    | some .item =>
      if position = .entry then
        let (ns, r) ← readItems fuel true r
        return (list ns, r)
      else p.missing r
    | some (.scalar isPlain text) => return (.scalar (scalarTag isPlain p.tag text) text, r.next)
    | some .openBracket =>
      let (ns, r) ← readFlowItems fuel true r.next
      return (list ns, r)
    | some .openBrace =>
      let (es, r) ← readFlowEntries fuel true r.next
      return (map es, r)
    | some .sequenceStart =>
      if inBlock then
        let (ns, r) ← readItems fuel false r.next
        return (list ns, ← r.expect .blockEnd)
      else p.missing r
    | some .mappingStart =>
      if inBlock then
        let (es, r) ← readEntries fuel r.next
        return (map es, ← r.expect .blockEnd)
      else p.missing r
    | _ => p.missing r

/-- The node here, or nothing if one of some tokens comes. -/
def readUnless : Nat → List Token → Position → Reader → Except Fault (Nat × Reader)
  | 0, _, _, _ => .error .malformed
  | fuel + 1, ends, position, r => do
    if (← r.peek).any ends.contains then return r.add .nothing else read fuel position r

/-- The items of a list in a block.  Without indentation of its own, the list ends at the next key
or value as well. -/
def readItems : Nat → Bool → Reader → Except Fault (List Nat × Reader)
  | 0, _, _ => .error .malformed
  | fuel + 1, inEntry, r => do
    if ← r.isAt .item then
      let ends := if inEntry then [.item, .key, .value, .blockEnd] else [.item, .blockEnd]
      let (n, r) ← readUnless fuel ends .block r.next
      let (ns, r) ← readItems fuel inEntry r
      return (n :: ns, r)
    else return ([], r)

def readEntries : Nat → Reader → Except Fault (List (Nat × Nat) × Reader)
  | 0, _ => .error .malformed
  | fuel + 1, r => do
    let ends := [Token.key, .value, .blockEnd]
    if ← r.isAt .key then
      let (k, r) ← readUnless fuel ends .entry r.next
      let (v, r) ← if ← r.isAt .value then readUnless fuel ends .entry r.next
        else pure (r.add .nothing)
      let (es, r) ← readEntries fuel r
      return ((k, v) :: es, r)
    else return ([], r)

def readFlowValue : Nat → Token → Reader → Except Fault (Nat × Reader)
  | 0, _, _ => .error .malformed
  | fuel + 1, close, r => do
    if ← r.isAt .value then readUnless fuel [.comma, close] .flow r.next
    else return r.add .nothing

/-- The items of a list in brackets, with the closing one.  An item with a mark of a key is a
mapping with one entry. -/
def readFlowItems : Nat → Bool → Reader → Except Fault (List Nat × Reader)
  | 0, _, _ => .error .malformed
  | fuel + 1, isFirst, r => do
    if ← r.isAt .closeBracket then return ([], r.next)
    let r ← (if isFirst then .ok r else r.expect .comma)
    if ← r.isAt .closeBracket then return ([], r.next)
    if ← r.isAt .key then
      let (k, r) ← readUnless fuel [.value, .comma, .closeBracket] .flow r.next
      let (v, r) ← readFlowValue fuel .closeBracket r
      let (n, r) := r.add (.map .map [(k, v)])
      let (ns, r) ← readFlowItems fuel false r
      return (n :: ns, r)
    else
      let (n, r) ← read fuel .flow r
      let (ns, r) ← readFlowItems fuel false r
      return (n :: ns, r)

def readFlowEntries : Nat → Bool → Reader → Except Fault (List (Nat × Nat) × Reader)
  | 0, _, _ => .error .malformed
  | fuel + 1, isFirst, r => do
    if ← r.isAt .closeBrace then return ([], r.next)
    let r ← (if isFirst then .ok r else r.expect .comma)
    if ← r.isAt .closeBrace then return ([], r.next)
    if ← r.isAt .key then
      let (k, r) ← readUnless fuel [.value, .comma, .closeBrace] .flow r.next
      let (v, r) ← readFlowValue fuel .closeBrace r
      let (es, r) ← readFlowEntries fuel false r
      return ((k, v) :: es, r)
    else
      let (k, r) ← read fuel .flow r
      let (v, r) := r.add .nothing
      let (es, r) ← readFlowEntries fuel false r
      return ((k, v) :: es, r)

end

/-! ## Documents -/

/-- The handles after some directives, and what follows them.  No directive may be repeated, and the
version has to be one that is known. -/
def readDirectives : Bool → Handles → Dict (List Char) (List Char) → List Token →
    Except Fault (Handles × List Token)
  | hasVersion, handles, own, .directive d :: ts =>
    match d with
    | .version major =>
      if hasVersion || major != 1 then .error .malformed
      else readDirectives true handles own ts
    | .tag handle start =>
      if own.contains handle then .error .malformed
      else readDirectives hasVersion (handles.put handle start) (own.put handle start) ts
    | .unknown => readDirectives hasVersion handles own ts
  | _, handles, _, ts => .ok (handles, ts)

def readRoot (handles : Handles) (ts : List Token) : Except Fault (Graph × List Token) :=
  (read (4 * ts.length + 4) .block { tokens := ts, handles := handles }).map
    fun (id, r) => (⟨r.nodes, id⟩, r.tokens)

def ofMarked (handles : Handles) (ts : List Token) : Except Fault (Graph × List Token) :=
  let isOver := match ts with
    | [] => true
    | .directive _ :: _ | .documentStart :: _ | .documentEnd :: _ => true
    | _ => false
  if isOver then .ok (⟨#[.nothing], 0⟩, ts) else readRoot handles ts

def ofTokens (ts : List Token) : Except Fault (Option Graph × List Token) :=
  match ts with
  | .directive _ :: _ | .documentStart :: _ =>
    match readDirectives false defaultHandles ∅ ts with
    | .error fault => .error fault
    | .ok (handles, .documentStart :: ts) =>
      (ofMarked handles ts).map fun (d, ts) => (some d, ts)
    | .ok (_, .broken fault :: _) => .error fault
    | .ok _ => .error .malformed
  | [] => .ok (none, [])
  | ts => (readRoot defaultHandles ts).map fun (d, ts) => (some d, ts)

/-- Fails if anything but the end of the document follows. -/
def checkEnd : List Token → Except Fault Unit
  | [] => .ok ()
  | .documentEnd :: ts => checkEnd ts
  | .broken fault :: _ => .error fault
  | _ => .error .malformed

def ofText? (text : List Char) : Except Fault (Option Graph) := do
  let (d, rest) ← ofTokens (Token.scan text)
  checkEnd rest
  return d

end Graph

end RouteDoc.Yaml
