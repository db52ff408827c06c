import RouteDoc.Script.Expr
import RouteDoc.Script.Parse

/-!
# Reading expressions

* `Rules`: how expressions are read, for one depth of nesting.  The rules for a depth refer to those
  of the depth below (`Rules.next`), so that reading comes to an end.
* `Rules.ofDepth`: the rules for some depth.
-/

namespace RouteDoc.Script

open Parse

structure Rules where
  /-- An expression with nothing looser than the operators on numbers. -/
  sum : Parse Expr
  /-- An expression with nothing looser than the operators on truth values. -/
  disjunction : Parse Expr
  expression : Parse Expr
  deriving Inhabited

namespace Rules

variable (r : Rules)

/-- Whether a name is given a value within an expression here. -/
def isWalrus (ts : List Token) : Bool := (name ts).any fun (_, ts) => isMark ":=" ts

def named : Parse Expr := fun ts =>
  if isWalrus ts then do
    let (w, ts) ← name ts
    let (e, ts) ← r.expression ts.tail
    return (.named w e, ts)
  else match r.expression ts with
    | some (e, ts) => if isMark ":=" ts then none else some (e, ts)
    | none => none

/-- An expression, or a star with the items of a collection. -/
def starOr (p : Parse Expr) : Parse Expr := fun ts =>
  if isMark "*" ts then (r.sum ts.tail).map fun (e, ts) => (.starred e, ts) else p ts

/-- Expressions with commas between them: a single one stands for itself. -/
def commaList (item : Parse Expr) : Parse Expr := fun ts => do
  let ((es, hasComma), ts) ← list item "," true ts
  return (match es, hasComma with
    | [e], false => e
    | es, _ => .tuple es, ts)

/-- Expressions, with stars or not. -/
def starExpressions : Parse Expr := commaList (r.starOr r.expression)

def yieldExpr : Parse Expr := fun ts => do
  let (_, ts) ← word "yield" ts
  if isWord "from" ts then
    let (e, ts) ← r.expression ts.tail
    return (.yieldFrom e, ts)
  else match r.starExpressions ts with
    | some (e, ts) => return (.yield [e], ts)
    | none => return (.yield [], ts)

def yieldOrStar : Parse Expr := fun ts =>
  if isWord "yield" ts then r.yieldExpr ts else r.starExpressions ts

def targets : Parse Expr := fun ts => do
  let (e, ts) ← commaList (r.starOr r.sum) ts
  if e.isTarget then return (e, ts) else none

/-! ## Collections built from others -/

def conditions : Nat → Parse (List Expr)
  | 0, ts => some ([], ts)
  | fuel + 1, ts =>
    if isWord "if" ts then do
      let (e, ts) ← r.disjunction ts.tail
      let (es, ts) ← conditions fuel ts
      return (.guard e :: es, ts)
    else some ([], ts)

/-- Whether a clause begins here. -/
def isClause (ts : List Token) : Bool :=
  isWord "for" ts || (isWord "async" ts && isWord "for" ts.tail)

def clauses : Nat → Parse (List Expr)
  | 0, ts => some ([], ts)
  | fuel + 1, ts =>
    if isClause ts then do
      let isAsync := isWord "async" ts
      let (target, ts) ← r.targets (if isAsync then ts.tail.tail else ts.tail)
      let (_, ts) ← word "in" ts
      let (source, ts) ← r.disjunction ts
      let (tests, ts) ← r.conditions ts.length ts
      let (others, ts) ← clauses fuel ts
      return (.loop isAsync target source :: (tests ++ others), ts)
    else some ([], ts)

def comprehension (k : CollectionKind) (close : String) (item : Expr) : Parse Expr := fun ts => do
  if item.isStarred || !isClause ts then none
  let (cs, ts) ← r.clauses ts.length ts
  let (_, ts) ← mark close ts
  return (.comprehension k item cs, ts)

/-- What follows the first item of a collection, with the closing bracket: clauses, or more
items. -/
def displayRest (k : CollectionKind) (close : String) (build : List Expr → Expr) (e : Expr) :
    Parse Expr := fun ts =>
  if isClause ts then r.comprehension k close e ts
  else do
    let (es, ts) ← listRest (r.starOr r.named) "," true ts.length ts
    let (_, ts) ← mark close ts
    return (build (e :: es), ts)

/-- The items of a collection behind its bracket, with the closing one; or an item with clauses. -/
def display (k : CollectionKind) (close : String) (build : List Expr → Expr) : Parse Expr :=
  fun ts =>
  if isMark close ts then some (build [], ts.tail)
  else do
    let (e, ts) ← r.starOr r.named ts
    r.displayRest k close build e ts

/-- An expression in parentheses, or the items of a tuple, behind the opening one. -/
def parenthesized : Parse Expr := fun ts =>
  if isMark ")" ts then some (.tuple [], ts.tail)
  else if isWord "yield" ts then do
    let (e, ts) ← r.yieldExpr ts
    let (_, ts) ← mark ")" ts
    return (e, ts)
  else do
    let item := r.starOr r.named
    let (e, ts) ← item ts
    if isClause ts then r.comprehension .generator ")" e ts
    else if isMark "," ts then
      let (es, ts) ← listRest item "," true ts.length ts
      let (_, ts) ← mark ")" ts
      return (.tuple (e :: es), ts)
    else
      if e.isStarred then none
      let (_, ts) ← mark ")" ts
      return (e, ts)

/-- An entry of a mapping, or the entries of another one. -/
def entry : Parse Expr := fun ts =>
  if isMark "**" ts then (r.sum ts.tail).map fun (e, ts) => (.spread e, ts)
  else do
    let (key, ts) ← r.expression ts
    let (_, ts) ← mark ":" ts
    let (value, ts) ← r.expression ts
    return (.entry key value, ts)

def entriesRest (first : Expr) : Parse Expr := fun ts => do
  let (es, ts) ← listRest r.entry "," true ts.length ts
  let (_, ts) ← mark "\x7d" ts
  return (.mapping (first :: es), ts)

/-- The entries of a mapping, or the items of a set, behind the opening brace. -/
def braces : Parse Expr := fun ts =>
  if isMark "\x7d" ts then some (.mapping [], ts.tail)
  else if isMark "**" ts then do
    let (e, ts) ← r.sum ts.tail
    r.entriesRest (.spread e) ts
  else if isMark "*" ts || isWalrus ts then r.display .set "\x7d" .set ts
  else do
    let (e, ts) ← r.expression ts
    if isMark ":" ts then
      let (value, ts) ← r.expression ts.tail
      if isClause ts then r.comprehension .mapping "\x7d" (.entry e value) ts
      else r.entriesRest (.entry e value) ts
    else if isMark ":=" ts then none
    else r.displayRest .set "\x7d" .set e ts

/-! ## Calls and parts -/

def argument : Parse Expr := fun ts =>
  if isMark "*" ts then (r.expression ts.tail).map fun (e, ts) => (.starred e, ts)
  else if isMark "**" ts then (r.expression ts.tail).map fun (e, ts) => (.spread e, ts)
  else match name ts with
    | some (w, ts') =>
      if isMark "=" ts' then (r.expression ts'.tail).map fun (e, ts) => (.keyword w e, ts)
      else r.named ts
    | none => r.named ts

/-- Whether an argument is an item with a star, one with a name, or the entries of a mapping. -/
def isMarked : Expr → Bool
  | .starred _ | .keyword .. | .spread _ => true
  | _ => false

/-- Whether arguments come in an order that is allowed: none without a name behind one with a name,
and none with a single star behind one with two. -/
def areOrdered : List Expr → Bool
  | [] => true
  | .keyword .. :: es => es.all isMarked && areOrdered es
  | .spread _ :: es => es.all (fun e => isMarked e && !e.isStarred) && areOrdered es
  | _ :: es => areOrdered es

/-- The arguments of a call behind the opening parenthesis, with the closing one. -/
def arguments (allowsGenerator : Bool) : Parse (List Expr) := fun ts =>
  if isMark ")" ts then some ([], ts.tail)
  else do
    let (e, ts) ← r.argument ts
    if isClause ts then
      if !allowsGenerator || isMarked e then none
      let (e, ts) ← r.comprehension .generator ")" e ts
      return ([e], ts)
    else
      let (es, ts) ← listRest r.argument "," true ts.length ts
      let (_, ts) ← mark ")" ts
      if areOrdered (e :: es) then return (e :: es, ts) else none

def orNothing : Parse Expr := fun ts =>
  match r.expression ts with
  | some (e, ts) => some (e, ts)
  | none => some (.nothing, ts)

/-- What follows the first bound of a part of a subscript: another one or two, behind colons. -/
def bounds (lower : Expr) : Parse Expr := fun ts => do
  let (_, ts) ← mark ":" ts
  let (upper, ts) ← r.orNothing ts
  if isMark ":" ts then
    let (step, ts) ← r.orNothing ts.tail
    return (.slice lower upper step, ts)
  else return (.slice lower upper .nothing, ts)

/-- A part of a subscript: an expression, or bounds with colons between them. -/
def part : Parse Expr := fun ts =>
  if isMark "*" ts then (r.expression ts.tail).map fun (e, ts) => (.starred e, ts)
  else if isWalrus ts then r.named ts
  else match r.expression ts with
    | some (e, ts) =>
      if isMark ":" ts then r.bounds e ts else if isMark ":=" ts then none else some (e, ts)
    | none => r.bounds .nothing ts

/-- The parts of a subscript behind the opening bracket, with the closing one. -/
def parts : Parse Expr := fun ts => do
  let ((es, hasComma), ts) ← list r.part "," true ts
  let (_, ts) ← mark "]" ts
  return (match es with
    | [e] => if hasComma || e.isStarred then .tuple [e] else e
    | es => .tuple es, ts)

/-- What follows an expression directly: calls, parts and attributes. -/
def trailers : Nat → Expr → Parse Expr
  | 0, e, ts => some (e, ts)
  | fuel + 1, e, ts =>
    if isMark "." ts then do
      let (w, ts) ← name ts.tail
      trailers fuel (.attribute e w) ts
    else if isMark "(" ts then do
      let (es, ts) ← r.arguments true ts.tail
      trailers fuel (.call e es) ts
    else if isMark "[" ts then do
      let (index, ts) ← r.parts ts.tail
      trailers fuel (.subscript e index) ts
    else some (e, ts)

/-! ## Literals -/

/-- What an expression inside a formatted literal can end with. -/
inductive Inside where
  | none
  | single (quote : Char)
  | triple (quote : Char)
  deriving DecidableEq, Inhabited

/-- The expression behind a brace of a formatted literal, and what follows it. -/
def cutInner? : Inside → List Char → List Char → Option (List Char × List Char)
  | _, _, [] => none
  | state, opened, c :: rest =>
    let go (state : Inside) (opened : List Char) : Option (List Char × List Char) :=
      (cutInner? state opened rest).map fun (e, s) => (c :: e, s)
    if c = '\\' then none
    else match state with
      | .single q => go (if c = q then .none else state) opened
      | .triple q =>
        match rest with
        | d :: e :: rest' =>
          if c = q ∧ d = q ∧ e = q then
            (cutInner? .none opened rest').map fun (x, s) => (c :: d :: e :: x, s)
          else go state opened
        | _ => none
      | .none =>
        if c = '"' ∨ c = '\'' then
          match rest with
          | d :: e :: rest' =>
            if d = c ∧ e = c then
              (cutInner? (.triple c) opened rest').map fun (x, s) => (c :: d :: e :: x, s)
            else go (.single c) opened
          | _ => go (.single c) opened
        else if (Scanner.closing? c).isSome then go .none (c :: opened)
        else if c = '#' then none
        else if opened = [] ∧ ['!', ':', '\x7d', '=', '>', '<'].contains c = true then
          match rest with
          | '=' :: rest' =>
            if ['!', '=', '<', '>'].contains c then
              (cutInner? .none opened rest').map fun (x, s) => (c :: '=' :: x, s)
            else some ([], c :: rest)
          | _ => if c = '>' ∨ c = '<' then go .none opened else some ([], c :: rest)
        else if c = ')' ∨ c = ']' ∨ c = '\x7d' then
          match opened with
          | o :: os => if Scanner.closing? o = some c then go .none os else none
          | [] => none
        else go .none opened

def inner? (e : List Char) : Option Expr :=
  if e.all fun c => c == ' ' || ('\t' ≤ c && c ≤ '\r') then none
  else do
    let ts ← Token.scan? ('(' :: e ++ [')'])
    let (e, _) ← r.starExpressions ts
    return e

/-- Whether a value is inserted as it is, and what follows the signs that say so: an equals sign,
and a conversion. -/
def dropConversion? (s : List Char) : Option (Bool × List Char) :=
  let (isBare, s) := match s with
    | '=' :: r => (false, r.dropWhile fun c => c == ' ' || ('\t' ≤ c && c ≤ '\r'))
    | s => (true, s)
  match s with
  | '!' :: c :: r => if ['s', 'r', 'a'].contains c then some (isBare && c == 's', r) else none
  | ['!'] => none
  | s => some (isBare, s)

/-- Past the braces that belong to a name of a character. -/
def dropName : List Char → List Char
  | '\x7b' :: r => (r.dropWhile (· != '\x7d')).drop 1
  | _ :: r => r
  | [] => []

/-- The text between two placeholders, from its characters in reverse. -/
def plainPart? (isRaw : Bool) (before : List Char) : Option (List Expr) :=
  (Literal.decodeText? isRaw false before.reverse).map fun s =>
    if s = [] then [] else [.constant (.text s)]

/-- The parts of a formatted literal, up to its end or, within a format, up to its closing brace;
and what follows. -/
def formatted? (isRaw : Bool) :
    Nat → Nat → List Char → List Char → Option (List Expr × List Char)
  | 0, _, _, _ => none
  | fuel + 1, depth, before, s =>
    let read := plainPart? isRaw before
    match s with
    | [] => if depth = 0 then read.map fun p => (p, []) else none
    | c :: rest =>
      if c = '\\' ∧ !isRaw then
        match rest with
        | [] => none
        | d :: rest' =>
          if d = 'N' then
            let after := dropName rest'
            let passed := rest'.take (rest'.length - after.length)
            formatted? isRaw fuel depth (passed.reverse ++ 'N' :: '\\' :: before) after
          else if d = '\x7b' ∨ d = '\x7d' then
            formatted? isRaw fuel depth ('\\' :: '\\' :: before) rest
          else formatted? isRaw fuel depth (d :: '\\' :: before) rest'
      else if c = '\x7b' ∨ c = '\x7d' then
        if depth = 0 ∧ rest.head? = some c then do
          let text ← plainPart? isRaw (c :: before)
          let (parts, rest) ← formatted? isRaw fuel depth [] rest.tail
          return (text ++ parts, rest)
        else do
          let text ← read
          if c = '\x7d' then (if depth = 0 then none else return (text, s))
          else if 2 ≤ depth then none
          else
            let (e, rest) ← cutInner? .none [] rest
            let value ← r.inner? e
            let (isPlain, rest) ← dropConversion? rest
            let (format, rest) ← (match rest with
              | ':' :: rest => formatted? isRaw fuel (depth + 1) [] rest
              | rest => some ([], rest))
            match rest with
            | '\x7d' :: rest =>
              let (parts, rest) ← formatted? isRaw fuel depth [] rest
              return (text ++ .placeholder value isPlain format :: parts, rest)
            | _ => none
      else formatted? isRaw fuel depth (c :: before) rest

/-- The parts of a literal; missing if the literal is faulty. -/
def literalParts? (l : Literal) : Option (List Expr) :=
  if l.isFormatted then
    (r.formatted? l.isRaw (2 * l.body.length + 2) 0 [] l.body).map Prod.fst
  else l.decode?.map fun s => [.constant (.text s)]

def literals : List Token → List Literal × List Token
  | ⟨.literal l, _⟩ :: ts => let (ls, ts) := literals ts; (l :: ls, ts)
  | ts => ([], ts)

/-- Literals one after the other, which are one.  Bytes and texts do not mix. -/
def joined : Parse Expr := fun ts => do
  let (ls, ts) := literals ts
  let isBytes := ls.any Literal.isBytes
  if isBytes && !ls.all Literal.isBytes then none
  let parts := (← ls.mapM r.literalParts?).flatten
  let text := (parts.filterMap Expr.text?).flatten
  return (if ls.any Literal.isFormatted then .formatted parts
    else .constant (if isBytes then .bytes text else .text text), ts)

/-! ## Operands and operators -/

def constants : List (String × Constant) :=
  [("None", .nothing), ("True", .truth true), ("False", .truth false)]

def atom : Parse Expr := fun ts =>
  match ts with
  | ⟨.word w, _⟩ :: rest =>
    match constants.lookup w with
    | some c => some (.constant c, rest)
    | none => (name ts).map fun (w, ts) => (.name w, ts)
  | ⟨.number n, _⟩ :: rest => some (.constant (.number n), rest)
  | ⟨.literal _, _⟩ :: _ => r.joined ts
  | ⟨.mark m, _⟩ :: rest =>
    if m = "(" then r.parenthesized rest
    else if m = "[" then r.display .list "]" .list rest
    else if m = "\x7b" then r.braces rest
    else if m = "..." then some (.constant .ellipsis, rest)
    else none
  | _ => none

/-- An atom with what follows it directly; it may be waited for. -/
def primary : Parse Expr := fun ts =>
  let read : Parse Expr := fun ts => do
    let (e, ts) ← r.atom ts
    r.trailers ts.length e ts
  if isWord "await" ts then (read ts.tail).map fun (e, ts) => (.await e, ts) else read ts

def signs : List (String × UnaryOp) := [("+", .plus), ("-", .minus), ("~", .invert)]

/-- An operand with the signs in front of it, and a power behind it. -/
def operand : Nat → Parse Expr
  | 0, _ => none
  | fuel + 1, ts =>
    match oneOf signs ts with
    | some (op, ts) => (operand fuel ts).map fun (e, ts) => (.unary op e, ts)
    | none => do
      let (e, ts) ← r.primary ts
      if isMark "**" ts then
        let (power, ts) ← operand fuel ts.tail
        return (.binary .power e power, ts)
      else return (e, ts)

/-- Operands with operators between them, behind the first one; the left ones belong together. -/
def chain {α : Type} (operator : Parse α) (item : Parse Expr) (build : α → Expr → Expr → Expr) :
    Nat → Expr → Parse Expr
  | 0, e, ts => some (e, ts)
  | fuel + 1, e, ts =>
    match operator ts with
    | some (op, ts) => do
      let (other, ts) ← item ts
      chain operator item build fuel (build op e other) ts
    | none => some (e, ts)

/-- The operators with two operands, looser ones first. -/
def operators : List (List (String × BinaryOp)) :=
  [[("|", .bitOr)], [("^", .bitXor)], [("&", .bitAnd)],
   [("<<", .shiftLeft), (">>", .shiftRight)], [("+", .add), ("-", .subtract)],
   [("*", .multiply), ("/", .divide), ("//", .floorDivide), ("%", .modulo),
    ("@", .matrixMultiply)]]

/-- Operands with operators of several levels between them. -/
def binary (operand : Parse Expr) : List (List (String × BinaryOp)) → Parse Expr
  | [] => operand
  | ops :: tighter => fun ts => do
    let item := binary operand tighter
    let (e, ts) ← item ts
    chain (oneOf ops) item .binary ts.length e ts

/-- An expression with nothing looser than the operators on numbers. -/
def sumOf : Parse Expr := binary (fun ts => r.operand (ts.length + 1) ts) operators

def comparison : Parse Comparison := fun ts =>
  match oneOf [("==", .equal), ("!=", .unequal), ("<", .less), ("<=", .lessEqual),
      (">", .greater), (">=", .greaterEqual)] ts with
  | some result => some result
  | none =>
    if isWord "in" ts then some (.within, ts.tail)
    else if isWord "not" ts && isWord "in" ts.tail then some (.without, ts.tail.tail)
    else if isWord "is" ts then
      if isWord "not" ts.tail then some (.different, ts.tail.tail) else some (.same, ts.tail)
    else none

def comparisons : Nat → Parse (List Comparison × List Expr)
  | 0, ts => some (([], []), ts)
  | fuel + 1, ts =>
    match comparison ts with
    | some (op, ts) => do
      let (e, ts) ← r.sumOf ts
      let ((ops, es), ts) ← comparisons fuel ts
      return ((op :: ops, e :: es), ts)
    | none => some (([], []), ts)

/-- A comparison, with negations in front of it. -/
def negation : Nat → Parse Expr
  | 0, _ => none
  | fuel + 1, ts =>
    if isWord "not" ts then (negation fuel ts.tail).map fun (e, ts) => (.unary .negate e, ts)
    else do
      let (e, ts) ← r.sumOf ts
      let ((ops, es), ts) ← r.comparisons ts.length ts
      return (if ops.isEmpty then e else .compare e ops es, ts)

/-- An expression with nothing looser than the operators on truth values. -/
def disjunctionOf : Parse Expr :=
  let joinedBy (w : String) (build : Expr → Expr → Expr) (item : Parse Expr) : Parse Expr :=
    fun ts => do
      let (e, ts) ← item ts
      chain (word w) item (fun _ => build) ts.length e ts
  joinedBy "or" .disjunction (joinedBy "and" .conjunction fun ts => r.negation (ts.length + 1) ts)

/-! ## Parameters -/

/-- What has been seen of some parameters. -/
structure Seen where
  any : Bool := false
  slash : Bool := false
  default : Bool := false
  star : Bool := false
  /-- Whether a star without a name was the last thing. -/
  bareStar : Bool := false
  deriving Inhabited

structure Parameters where
  names : List String := []
  defaults : List Expr := []
  /-- Whether each of them takes one argument by its place. -/
  isPlain : Bool := true
  deriving Inhabited

def Parameters.cons (name : String) (default : List Expr) (p : Parameters) : Parameters :=
  { p with names := name :: p.names, defaults := default ++ p.defaults }

def hint (hasHints allowsStar : Bool) : Parse Unit := fun ts =>
  if hasHints && isMark ":" ts then
    if allowsStar && isMark "*" ts.tail then (r.sum ts.tail.tail).map fun (_, ts) => ((), ts)
    else (r.expression ts.tail).map fun (_, ts) => ((), ts)
  else some ((), ts)

def parameters (hasHints : Bool) (close : String) : Nat → Seen → Parse Parameters
  | 0, _, _ => none
  | fuel + 1, seen, ts =>
    let finish : Parse Parameters := fun ts =>
      if seen.bareStar then none else (mark close ts).map fun (_, ts) => ({}, ts)
    let go (seen : Seen) : Parse Parameters := fun ts =>
      if isMark close ts then (if seen.bareStar then none else some ({}, ts.tail))
      else do
        let (_, ts) ← mark "," ts
        parameters hasHints close fuel seen ts
    if isMark close ts then finish ts
    else if isMark "/" ts then
      if !seen.any || seen.slash || seen.star then none else go { seen with slash := true } ts.tail
    else if isMark "**" ts then do
      if seen.bareStar then none
      let (w, ts) ← name ts.tail
      let (_, ts) ← r.hint hasHints false ts
      let (_, ts) ← mark close (if isMark "," ts then ts.tail else ts)
      return (⟨[w], [], false⟩, ts)
    else if isMark "*" ts then
      if seen.star then none
      else if isMark "," ts.tail then do
        let (ps, ts) ← go { seen with star := true, bareStar := true } ts.tail
        return ({ ps with isPlain := false }, ts)
      else do
        let (w, ts) ← name ts.tail
        let (_, ts) ← r.hint hasHints true ts
        let (ps, ts) ← go { seen with star := true } ts
        return ({ ps.cons w [] with isPlain := false }, ts)
    else do
      let (w, ts) ← name ts
      let (_, ts) ← r.hint hasHints false ts
      let seen := { seen with any := true, bareStar := false }
      if isMark "=" ts then
        let (e, ts) ← r.expression ts.tail
        let (ps, ts) ← go { seen with default := true } ts
        return (ps.cons w [e], ts)
      else if seen.default && !seen.star then none
      else
        let (ps, ts) ← go seen ts
        return (ps.cons w [], ts)

def lambda : Parse Expr := fun ts => do
  let (_, ts) ← word "lambda" ts
  let (ps, ts) ← r.parameters false ":" (ts.length + 1) {} ts
  let (body, ts) ← r.expression ts
  return (.lambda ps.names (ps.isPlain && ps.defaults.isEmpty) ps.defaults body, ts)

def expressionOf : Parse Expr := fun ts =>
  if isWord "lambda" ts then r.lambda ts
  else do
    let (e, ts) ← r.disjunctionOf ts
    if isWord "if" ts then
      let conditional : Option (Expr × List Token) := do
        let (test, ts) ← r.disjunction ts.tail
        let (_, ts) ← word "else" ts
        let (other, ts) ← r.expression ts
        return (.conditional test e other, ts)
      conditional.orElse fun _ => some (e, ts)
    else return (e, ts)

def next : Rules := ⟨r.sumOf, r.disjunctionOf, r.expressionOf⟩

def ofDepth (n : Nat) : Rules :=
  Nat.repeat next n ⟨fun _ => none, fun _ => none, fun _ => none⟩

end Rules

end RouteDoc.Script
