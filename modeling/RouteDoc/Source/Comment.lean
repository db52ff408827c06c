import RouteDoc.Annotation.Block

/-!
# Comments above functions

Source files of several languages mark comments and functions in similar ways, so a line tells by
its beginning what it is.

* `LineKind.of`: what a line is: a comment, a decorator, the head of a function, or something else.
* `SourceBlock.ofComments`: the comments that stand right above functions.  Decorators may stand
  between a comment and its function; any other line parts them.
-/

namespace RouteDoc

/-- A comment or a docstring that belongs to a function: the file and the line of the function, its
name, and the text. -/
structure SourceBlock where
  source : String
  line : Nat
  name : String
  text : String
  deriving DecidableEq, Inhabited

inductive LineKind where
  | comment
  | decorator
  | function
  | other
  deriving DecidableEq, Inhabited

namespace LineKind

/-- Whether a text begins with the marker of a comment, or with an asterisk that goes on with
one. -/
def isComment : List Char → Bool
  | '#' :: _ | '*' :: _ | '/' :: '/' :: _ | '/' :: '*' :: _ => true
  | _ => false

/-- Whether a text is a decorator: a name with points, and arguments that may go on in the next
line. -/
def isDecorator : List Char → Bool
  | '@' :: r =>
    let isNamePart (c : Char) : Bool := Chars.isWord c || c == '.'
    let rest := (r.dropWhile isNamePart).dropWhile Chars.isBlank
    r.head?.any isNamePart && (rest.isEmpty || rest.head? == some '(')
  | _ => false

def functionWords : List (List Char) := ["def".toList, "func".toList, "function".toList]

/-- The text behind a word and the blanks after it; missing if the text does not begin so. -/
def afterWord? (word s : List Char) : Option (List Char) :=
  if word.isPrefixOf s && (s[word.length]?.any Chars.isBlank) then
    some ((s.drop word.length).dropWhile Chars.isBlank)
  else none

def isFunction (s : List Char) : Bool :=
  (functionWords.any fun w => (afterWord? w s).isSome) ||
    (afterWord? "async".toList s).any fun r => (afterWord? "def".toList r).isSome

/-- What a line of a source file is.  Indentation does not count. -/
def of (line : List Char) : LineKind :=
  let s := line.dropWhile Chars.isBlank
  if isComment s then .comment
  else if isDecorator s then .decorator
  else if isFunction s then .function
  else .other

/-- The name at the front of a text, behind a word that declares functions. -/
def declaredName? (s : List Char) : Option (List Char) :=
  (functionWords.findSome? fun w => (afterWord? w s).map (·.takeWhile Chars.isWord)).filter (· ≠ [])

/-- The first name in a text behind a word that declares functions; empty if there is none. -/
def functionName : List Char → List Char
  | [] => []
  | c :: r => (declaredName? (c :: r)).getD (functionName r)

end LineKind

namespace SourceBlock

/-- The comments above functions from here on, when the comment lines `run` stand right above and
`number` is the number of the next line. -/
def ofLines (source : String) (run : List (List Char)) (number : Nat) :
    List (List Char) → List SourceBlock
  | [] => []
  | l :: ls =>
    match LineKind.of l with
    | .comment => ofLines source (run ++ [l]) (number + 1) ls
    | .decorator => ofLines source run (number + 1) ls
    | .function =>
      let blocks := ofLines source [] (number + 1) ls
      if run = [] then blocks
      else
        { source := source
          line := number
          name := String.ofList (LineKind.functionName l)
          text := String.ofList (Chars.joinWith ['\n'] run) } :: blocks
    | .other => ofLines source [] (number + 1) ls

/-- The comments above functions, in the order of their lines.  Lines are numbered from one. -/
def ofComments (source text : String) : List SourceBlock :=
  ofLines source [] 1 (Chars.splitLines text.toList)

end SourceBlock

end RouteDoc
