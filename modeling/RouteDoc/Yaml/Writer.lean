import RouteDoc.Number.Numeral
import RouteDoc.Tree
import RouteDoc.Yaml.Text

/-!
# Writing trees as YAML

Mappings and lists are written as blocks, one entry a line, in the order of the tree.

* `Format`: the width of lines, and whether texts of several lines are literal blocks.
* `Format.write`: the text of a tree.
* `Format.entries`, `Format.items`: the lines of a mapping and of a list.  The items of a list are
  not indented below their key.
-/

namespace RouteDoc.Yaml

/-- How a tree is written. -/
structure Format where
  width : Nat := 80
  /-- Whether texts of several lines are literal blocks. -/
  blocks : Bool := false
  deriving DecidableEq, Inhabited

namespace Format

def numberStyle : FloatStyle :=
  { pointBeforeExponent := true, infinity := ".inf", nan := ".nan" }

def intText (n : Int) : List Char := (toString n).toList

/-! ## Scalars -/

/-- A text behind a mark, with the line break at its end.  `indent` is the indentation of the block
that it belongs to, `column` the column behind the mark. -/
def text (f : Format) (indent column : Nat) (s : List Char) : List Char :=
  let page : Page := ⟨some f.width, indent + 2⟩
  match Style.of f.blocks s with
  | .plain => ' ' :: page.plain (column + 1) 0 s ++ ['\n']
  | .single => ' ' :: '\'' :: page.single true (column + 2) .none s ++ ['\n']
  | .double => ' ' :: '"' :: page.double true (column + 2) 0 s ++ ['\n']
  | .literal => ' ' :: literal (indent + 2) s

/-- The text of a key that stands on the line of its value. -/
def keyText (f : Format) : Tree.Key → List Char
  | .int n => intText n
  | .text s =>
    let s := s.toList
    let page : Page := ⟨none, 0⟩
    match Style.of f.blocks s with
    | .single => '\'' :: page.single true 1 .none s
    | .double => '"' :: page.double true 1 0 s
    | _ => s

/-- The longest key that can stand on the line of its value. -/
def longestKey : Nat := 122

/-- Whether a key can stand on the line of its value: it is not empty, not too long, and has no line
break. -/
def isSimple : Tree.Key → Bool
  | .int n => (intText n).length ≤ longestKey
  | .text s => s ≠ "" && s.length ≤ longestKey && !s.toList.any isBreak

/-- A key behind a question mark. -/
def markedKey (f : Format) (indent : Nat) : Tree.Key → List Char
  | .int n => ' ' :: intText n ++ ['\n']
  | .text s => f.text indent (indent + 1) s.toList

/-! ## Blocks -/

/-- The beginning of the first entry of a block: on the line of the mark before it, or on a line of
its own. -/
def lead (onLine : Bool) (indent : Nat) : List Char :=
  if onLine then [' '] else spaces indent

mutual

/-- A value behind the mark of its block: a colon, a hyphen or a question mark.  With `onLine`, the
first entry of a mapping or a list follows on the line of the mark. -/
def value (f : Format) (onLine : Bool) (indent column : Nat) : Tree → List Char
  | .text s => f.text indent column s.toList
  | .bool b => (if b then " true\n" else " false\n").toList
  | .int n => ' ' :: intText n ++ ['\n']
  | .number x => ' ' :: (numberStyle.write x).toList ++ ['\n']
  | .list [] => " []\n".toList
  | .list (t :: ts) =>
    if onLine then items f true (indent + 2) (t :: ts)
    else '\n' :: items f false indent (t :: ts)
  | .map [] => " \x7b\x7d\n".toList
  | .map (e :: es) =>
    if onLine then entries f true (indent + 2) (e :: es)
    else '\n' :: entries f false (indent + 2) (e :: es)

def items (f : Format) (onLine : Bool) (indent : Nat) : List Tree → List Char
  | [] => []
  | t :: ts =>
    lead onLine indent ++ '-' :: value f true indent (indent + 1) t ++ items f false indent ts

def entries (f : Format) (onLine : Bool) (indent : Nat) : List (Tree.Key × Tree) → List Char
  | [] => []
  | (k, v) :: es =>
    lead onLine indent ++
      (if isSimple k then
        let key := f.keyText k
        key ++ ':' :: value f false indent (indent + key.length + 1) v
      else
        '?' :: f.markedKey indent k ++ spaces indent ++
          ':' :: value f true indent (indent + 1) v) ++
      entries f false indent es

end

mutual

/-- Whether the line breaks at the end of a tree are part of its last text, so that the end of the
document has to be marked. -/
def isOpenEnded (f : Format) : Tree → Bool
  | .text s =>
    Style.of f.blocks s.toList = .literal && (blockMarks s.toList).getLast? == some '+'
  | .list ts => isOpenEndedList f ts
  | .map es => isOpenEndedEntries f es
  | _ => false

/-- The same for the last of several trees. -/
def isOpenEndedList (f : Format) : List Tree → Bool
  | [] => false
  | t :: ts => if ts.isEmpty then isOpenEnded f t else isOpenEndedList f ts

/-- The same for the last of several entries. -/
def isOpenEndedEntries (f : Format) : List (Tree.Key × Tree) → Bool
  | [] => false
  | (_, t) :: es => if es.isEmpty then isOpenEnded f t else isOpenEndedEntries f es

end

def lines (f : Format) : Tree → List Char
  | .map (e :: es) => f.entries false 0 (e :: es)
  | .list (t :: ts) => f.items false 0 (t :: ts)
  | t => (f.value false 0 0 t).drop 1

def write (f : Format) (t : Tree) : String :=
  String.ofList (f.lines t ++ if f.isOpenEnded t then "...\n".toList else [])

end Format

end RouteDoc.Yaml
