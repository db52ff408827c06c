import RouteDoc.Yaml.Lexeme

/-!
# Tokens of YAML

A text is cut into marks, names and scalars.  Indentation is turned into tokens for the beginning
and the end of blocks, and a key is marked once the colon behind it is found.

* `Token.scan`: the tokens of a text, up to its first fault.
* `Scanner.step`: the next token, with those that come with it.
-/

namespace RouteDoc.Yaml

/-- A tag as it is written: a handle that stands for the beginning of its name, and the rest. -/
structure TagText where
  handle : Option (List Char)
  suffix : List Char
  deriving DecidableEq, Inhabited

inductive Directive where
  | version (major : Nat)
  | tag (handle start : List Char)
  | unknown
  deriving DecidableEq, Inhabited

inductive Token where
  | directive (d : Directive)
  | documentStart
  | documentEnd
  | sequenceStart
  | mappingStart
  /-- The end of a block. -/
  | blockEnd
  | openBracket
  | closeBracket
  | openBrace
  | closeBrace
  /-- The mark of an item of a block. -/
  | item
  | comma
  | key
  | value
  | reference (name : List Char)
  | anchor (name : List Char)
  | tag (t : TagText)
  | scalar (isPlain : Bool) (text : List Char)
  /-- Where the text cannot be cut any further. -/
  | broken (fault : Fault)
  deriving DecidableEq, Inhabited

/-! ## Names and tags -/

namespace Cursor

def isNameChar (c : Char) : Bool :=
  Chars.isAsciiLetter c || Chars.isAsciiDigit c || c == '-' || c == '_'

def isTagChar (c : Char) : Bool :=
  Chars.isAsciiLetter c || Chars.isAsciiDigit c || "-;/?:@&=+$,_.!~*'()[]%".toList.contains c

def readName (c : Cursor) : Except Fault (List Char × Cursor) :=
  let name := c.run isNameChar
  let c := c.skip isNameChar
  if name = [] then .error .malformed else .ok (name, c)

def readAnchor (c : Cursor) : Except Fault (List Char × Cursor) := do
  let (name, c) ← c.readName
  if c.head?.all fun ch => isSeparator ch || "?:,]\x7d%@`".toList.contains ch then return (name, c)
  else throw .malformed

def readHandle (c : Cursor) : Except Fault (List Char × Cursor) :=
  match c.rest with
  | '!' :: r =>
    if r.head? = some ' ' then .ok (['!'], c.next)
    else
      let name := r.takeWhile isNameChar
      if r[name.length]? = some '!' then .ok ('!' :: name ++ ['!'], c.drop (name.length + 2))
      else .error .malformed
  | _ => .error .malformed

def percentBytes : List Char → Option (List UInt8 × List Char)
  | '%' :: a :: b :: r =>
    if Chars.isHexDigit a && Chars.isHexDigit b then
      (percentBytes r).map fun (bs, r) => (UInt8.ofNat (Chars.ofDigitsIn 16 [a, b]) :: bs, r)
    else none
  | '%' :: _ => none
  | s => some ([], s)

/-- The text of a tag with the percent signs read. -/
def decodeTag : Nat → List Char → Except Fault (List Char)
  | 0, s => .ok s
  | _ + 1, [] => .ok []
  | fuel + 1, c :: r =>
    if c = '%' then
      match percentBytes (c :: r) with
      | none => .error .malformed
      | some (bytes, rest) =>
        match String.fromUTF8? ⟨bytes.toArray⟩ with
        | some s => (decodeTag fuel rest).map (s.toList ++ ·)
        | none => .error .malformed
    else (decodeTag fuel r).map (c :: ·)

def readTagUri (c : Cursor) : Except Fault (List Char × Cursor) := do
  let text := c.run isTagChar
  if text = [] then throw .malformed
  return (← decodeTag text.length text, c.skip isTagChar)

def readTag (c : Cursor) : Except Fault (TagText × Cursor) := do
  let (t, c) ← (do
    match c.rest.tail.head? with
    | some '<' =>
      let (suffix, c) ← (c.drop 2).readTagUri
      if c.isAt '>' then return (⟨none, suffix⟩, c.next) else throw .malformed
    | _ =>
      if Style.endsWord c.rest.tail then return (⟨none, ['!']⟩, c.next)
      else
        let word := c.rest.tail.takeWhile fun ch => !isBreak ch && ch != ' '
        if word.contains '!' then
          let (handle, c) ← c.readHandle
          let (suffix, c) ← c.readTagUri
          return (⟨some handle, suffix⟩, c)
        else
          let (suffix, c) ← c.next.readTagUri
          return (⟨some ['!'], suffix⟩, c))
  if endsField c.rest then return (t, c) else throw .malformed

/-! ## Directives -/

def readVersionNumber (c : Cursor) : Except Fault (Nat × Cursor) :=
  let ds := c.run Chars.isAsciiDigit
  if ds = [] then .error .malformed
  else .ok (ds.foldl (fun n d => 10 * n + (d.toNat - 0x30)) 0, c.skip Chars.isAsciiDigit)

def readDirective (c : Cursor) : Except Fault (Directive × Cursor) := do
  let (name, c) ← c.readName
  if !endsField c.rest then throw .malformed
  let (d, c) ← (do
    if name = "YAML".toList then
      let (major, c) ← c.skipSpaces.readVersionNumber
      if !c.isAt '.' then throw .malformed
      let (_, c) ← c.next.readVersionNumber
      if endsField c.rest then return (Directive.version major, c) else throw .malformed
    else if name = "TAG".toList then
      let (handle, c) ← c.skipSpaces.readHandle
      if !c.isAt ' ' then throw .malformed
      let (start, c) ← c.skipSpaces.readTagUri
      if endsField c.rest then return (Directive.tag handle start, c) else throw .malformed
    else return (Directive.unknown, c.skip (!isBreak ·)))
  match c.finishLine? with
  | some c => return (d, c)
  | none => throw .malformed

end Cursor

/-! ## Keys -/

structure PendingKey where
  /-- The number of tokens before it. -/
  token : Nat
  index : Nat
  line : Nat
  column : Nat
  /-- Whether the text is faulty if it turns out to be no key. -/
  required : Bool
  deriving DecidableEq, Inhabited

/-- A text in the course of being cut into tokens. -/
structure Scanner where
  cursor : Cursor
  /-- The indentations of the blocks around, innermost first. -/
  indents : List Nat := []
  /-- What may be a key in each of the collections in brackets around, innermost first. -/
  keys : List (Option PendingKey) := [none]
  /-- Whether a key without a mark may begin here. -/
  allowsKey : Bool := true
  tokens : Array Token := #[]
  deriving Inhabited

namespace Scanner

/-- Whether there are brackets around. -/
def inFlow (s : Scanner) : Bool := 1 < s.keys.length

/-- The least indentation of what belongs to the innermost block. -/
def inside (s : Scanner) : Nat :=
  match s.indents with
  | i :: _ => i + 1
  | [] => 0

def push (s : Scanner) (t : Token) : Scanner := { s with tokens := s.tokens.push t }

def moveTo (s : Scanner) (c : Cursor) : Scanner := { s with cursor := c }

def unwind (s : Scanner) (closes : Nat → Bool) : Scanner :=
  if s.inFlow then s
  else
    let closed := s.indents.takeWhile closes
    { s with
      indents := s.indents.dropWhile closes
      tokens := s.tokens ++ (closed.map fun _ => Token.blockEnd) }

/-- Forgets the keys that began on another line, or too long ago. -/
def dropStale (s : Scanner) : Except Fault Scanner :=
  let isStale (k : PendingKey) : Bool := k.line != s.cursor.line || 1024 < s.cursor.index - k.index
  if s.keys.any fun k => k.any fun k => isStale k && k.required then .error .malformed
  else .ok { s with keys := s.keys.map fun k => k.filter (!isStale ·) }

def setKey (s : Scanner) (k : Option PendingKey) : Scanner := { s with keys := k :: s.keys.tail }

/-- What may be a key in the innermost collection. -/
def key? (s : Scanner) : Option PendingKey := s.keys.head?.join

def dropKey (s : Scanner) : Except Fault Scanner :=
  if s.key?.any PendingKey.required then .error .malformed else .ok (s.setKey none)

/-- Notes that a key may begin here. -/
def saveKey (s : Scanner) : Except Fault Scanner :=
  if s.allowsKey then do
    let s' ← s.dropKey
    return s'.setKey (some
      { token := s.tokens.size
        index := s.cursor.index
        line := s.cursor.line
        column := s.cursor.column
        required := !s.inFlow && s.indents.head? == some s.cursor.column })
  else .ok s

def isDeeper (s : Scanner) (column : Nat) : Bool := s.inside ≤ column

/-! ## Steps -/

/-- Goes to the next token, past blanks and comments. -/
def skipBlanks : Nat → Scanner → Scanner
  | 0, s => s
  | fuel + 1, s =>
    let c := s.cursor.skipSpaces.skipComment
    if c.head?.any isBreak then
      skipBlanks fuel { s with cursor := c.next, allowsKey := s.allowsKey || !s.inFlow }
    else s.moveTo c

/-- The beginning or the end of a document, or a directive: it closes all blocks. -/
def closeAll (s : Scanner) : Except Fault Scanner := do
  let s ← (s.unwind fun _ => true).dropKey
  return { s with allowsKey := false }

def openFlow (s : Scanner) (t : Token) : Except Fault Scanner := do
  let s ← s.saveKey
  return { (s.push t).moveTo s.cursor.next with keys := none :: s.keys, allowsKey := true }

def closeFlow (s : Scanner) (t : Token) : Except Fault Scanner := do
  let s ← s.dropKey
  if s.inFlow then
    return { (s.push t).moveTo s.cursor.next with keys := s.keys.tail, allowsKey := false }
  else throw .malformed

def beginBlock (s : Scanner) (t : Token) : Except Fault Scanner :=
  if s.inFlow then .ok s
  else if !s.allowsKey then .error .malformed
  else if s.isDeeper s.cursor.column then
    .ok { s.push t with indents := s.cursor.column :: s.indents }
  else .ok s

def itemMark (s : Scanner) : Except Fault Scanner := do
  let s ← s.beginBlock .sequenceStart
  let s ← { s with allowsKey := true }.dropKey
  return (s.push .item).moveTo s.cursor.next

def keyMark (s : Scanner) : Except Fault Scanner := do
  let s ← s.beginBlock .mappingStart
  let s ← { s with allowsKey := !s.inFlow }.dropKey
  return (s.push .key).moveTo s.cursor.next

/-- The mark of a value.  If a key may have begun before, it is marked now. -/
def valueMark (s : Scanner) : Except Fault Scanner := do
  match s.key? with
  | some k =>
    let s := s.setKey none
    let begins := !s.inFlow && s.isDeeper k.column
    let marks := if begins then #[Token.mappingStart, .key] else #[.key]
    let tokens := s.tokens.extract 0 k.token ++ marks ++ s.tokens.extract k.token s.tokens.size
    let s := { s with
      tokens := tokens
      indents := if begins then k.column :: s.indents else s.indents
      allowsKey := false }
    return (s.push .value).moveTo s.cursor.next
  | none =>
    let s ← s.beginBlock .mappingStart
    let s ← { s with allowsKey := !s.inFlow }.dropKey
    return (s.push .value).moveTo s.cursor.next

def keyPart (s : Scanner) (read : Cursor → Except Fault (Token × Cursor)) :
    Except Fault Scanner := do
  let s ← s.saveKey
  let (t, c) ← read s.cursor
  return { (s.push t).moveTo c with allowsKey := false }

def quoted (double : Bool) (c : Cursor) : Except Fault (Token × Cursor) :=
  (c.next.readQuoted double).map fun (text, c) => (.scalar false text, c)

def block (s : Scanner) (folded : Bool) : Except Fault Scanner := do
  let s ← { s with allowsKey := true }.dropKey
  let (text, c) ← s.cursor.next.readBlock folded s.inside
  return (s.push (.scalar false text)).moveTo c

def plain (s : Scanner) : Except Fault Scanner := do
  let s ← s.saveKey
  let (text, c, broken) := s.cursor.readPlain s.inFlow s.inside
  return { (s.push (.scalar true text)).moveTo c with allowsKey := broken }

def beginsPlain (s : Scanner) : Bool :=
  match s.cursor.rest with
  | [] => false
  | c :: r =>
    !(isSeparator c || "-?:,[]\x7b\x7d#&*!|>'\"%@`".toList.contains c) ||
      (!Style.endsWord r && (c == '-' || (!s.inFlow && (c == '?' || c == ':'))))

/-- Whether a mark counts here: in brackets, or in front of a blank. -/
def isMark (s : Scanner) : Bool := s.inFlow || Style.endsWord s.cursor.rest.tail

def documentMark (s : Scanner) (t : Token) : Except Fault Scanner := do
  let s ← s.closeAll
  return (s.push t).moveTo (s.cursor.drop 3)

/-- The next token, with those that come with it; nothing at the end of the text. -/
def step (s : Scanner) : Except Fault (Option Scanner) := do
  let s ← (skipBlanks (s.cursor.rest.length + 1) s).dropStale
  let c := s.cursor
  let s := s.unwind (c.column < ·)
  match c.head? with
  | none => return none
  | some ch =>
    let onMargin := c.column == 0
    if ch = '%' ∧ onMargin = true then
      let s ← s.closeAll
      let (d, c) ← s.cursor.next.readDirective
      return some ((s.push (.directive d)).moveTo c)
    else if onMargin ∧ c.isAtTriple '-' = true then some <$> s.documentMark .documentStart
    else if onMargin ∧ c.isAtTriple '.' = true then some <$> s.documentMark .documentEnd
    else if ch = '[' then some <$> s.openFlow .openBracket
    else if ch = '\x7b' then some <$> s.openFlow .openBrace
    else if ch = ']' then some <$> s.closeFlow .closeBracket
    else if ch = '\x7d' then some <$> s.closeFlow .closeBrace
    else if ch = ',' then
      let s ← { s with allowsKey := true }.dropKey
      return some ((s.push .comma).moveTo c.next)
    else if ch = '-' ∧ Style.endsWord c.rest.tail = true then some <$> s.itemMark
    else if ch = '?' ∧ s.isMark = true then some <$> s.keyMark
    else if ch = ':' ∧ s.isMark = true then some <$> s.valueMark
    else if ch = '*' then
      some <$> s.keyPart fun c => c.next.readAnchor.map fun (n, c) => (.reference n, c)
    else if ch = '&' then
      some <$> s.keyPart fun c => c.next.readAnchor.map fun (n, c) => (.anchor n, c)
    else if ch = '!' then some <$> s.keyPart fun c => c.readTag.map fun (t, c) => (.tag t, c)
    else if ch = '|' ∧ s.inFlow = false then some <$> s.block false
    else if ch = '>' ∧ s.inFlow = false then some <$> s.block true
    else if ch = '\'' then some <$> s.keyPart (quoted false)
    else if ch = '"' then some <$> s.keyPart (quoted true)
    else if s.beginsPlain then some <$> s.plain
    else throw .malformed

/-- All tokens from here on, up to the first fault.  Every step takes at least one character. -/
def run : Nat → Scanner → Scanner
  | 0, s => s
  | fuel + 1, s =>
    match s.step with
    | .ok (some s) => run fuel s
    | .ok none =>
      match (skipBlanks (s.cursor.rest.length + 1) s).closeAll with
      | .ok s => s
      | .error fault => s.push (.broken fault)
    | .error fault => s.push (.broken fault)

end Scanner

/-- Whether a character can stand in a text at all. -/
def isPrintable (c : Char) : Bool :=
  let n := c.toNat
  n == 0x09 || n == 0x0A || n == 0x0D || (0x20 ≤ n && n ≤ 0x7E) || n == 0x85 ||
    (0xA0 ≤ n && n ≤ 0xFFFD) || 0x10000 ≤ n

/-- Past a mark of byte order. -/
def Cursor.ofText (text : List Char) : Cursor :=
  let c : Cursor := { rest := text }
  if c.head?.any (·.toNat == 0xFEFF) then c.next else c

def Token.scan (text : List Char) : List Token :=
  if text.all isPrintable then
    (Scanner.run (text.length + 1) { cursor := .ofText text }).tokens.toList
  else [.broken .malformed]

end RouteDoc.Yaml
