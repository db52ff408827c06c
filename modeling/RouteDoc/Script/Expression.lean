import RouteDoc.Script.Rules
import RouteDoc.Script.Soundness

/-!
# Expressions that stand alone

* `Expr.ofText?`: the expression that a text is, if it is one and has a meaning.
-/

namespace RouteDoc.Script

/-- Whether a text ends in the midst of a line that holds nothing but an indentation. -/
def endsInBlanks (text : List Char) : Bool :=
  let last := text.reverse.takeWhile (· != '\n')
  let isContinued := (text.reverse.drop (last.length + 1)).head? == some '\\'
  !isContinued && last.head?.any (· != '\x0c') &&
    last.all fun c => c == ' ' || c == '\t' || c == '\x0c'

/-- The expression that a text is.  Expressions nest no deeper than the text has characters. -/
def Expr.ofText? (text : List Char) : Option Expr := do
  if endsInBlanks (Chars.unifyBreaks text) then none
  let ts ← Token.scan? text
  let r := Rules.ofDepth (text.length + 1)
  let (e, rest) ← Rules.commaList r.expression ts
  if rest.all (·.kind == .lineEnd) && e.isSound then return e else none

end RouteDoc.Script
