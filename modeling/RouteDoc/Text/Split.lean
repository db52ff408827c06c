import RouteDoc.Text.Blank

/-!
# Cutting and joining text

* `Chars.splitAt`: the pieces between the occurrences of one character.
* `Chars.cutAt?`: the text before and after the first occurrence of one character.
* `Chars.joinWith`: pieces joined by a separator.  It undoes `splitAt`: `joinWith_splitAt`.
* `Chars.startsWith`, `Chars.endsWith`: the ends of a text.
* `Chars.occursIn`: whether a text occurs in another one.
-/

namespace RouteDoc

namespace Chars

def splitAt (sep : Char) : List Char → List (List Char)
  | [] => [[]]
  | c :: r => if c = sep then [] :: splitAt sep r else consHead c (splitAt sep r)

/-- The text before the first `sep` and the text after it. -/
def cutAt? (sep : Char) : List Char → Option (List Char × List Char)
  | [] => none
  | c :: r => if c = sep then some ([], r) else (cutAt? sep r).map fun p => (c :: p.1, p.2)

def joinWith (sep : List Char) : List (List Char) → List Char
  | [] => []
  | [l] => l
  | l :: ls => l ++ sep ++ joinWith sep ls

def startsWith (s start : List Char) : Bool := start.isPrefixOf s

def endsWith (s tail : List Char) : Bool := tail.isSuffixOf s

def occursIn (s : List Char) : List Char → Bool
  | [] => s.isEmpty
  | c :: r => startsWith (c :: r) s || occursIn s r

theorem splitAt_ne_nil (sep : Char) (s : List Char) : splitAt sep s ≠ [] := by
  cases s with
  | nil => simp [splitAt]
  | cons c r =>
    simp only [splitAt]
    split
    · simp
    · cases splitAt sep r <;> simp [consHead]

theorem joinWith_cons {sep l : List Char} {ls : List (List Char)} (h : ls ≠ []) :
    joinWith sep (l :: ls) = l ++ sep ++ joinWith sep ls := by
  cases ls with
  | nil => exact absurd rfl h
  | cons m ms => rfl

theorem joinWith_consHead (sep : List Char) (c : Char) {ls : List (List Char)} (h : ls ≠ []) :
    joinWith sep (consHead c ls) = c :: joinWith sep ls := by
  match ls with
  | [l] => rfl
  | l :: m :: ms => simp [consHead, joinWith]

/-- Joining the pieces gives the text back. -/
theorem joinWith_splitAt (sep : Char) (s : List Char) : joinWith [sep] (splitAt sep s) = s := by
  induction s with
  | nil => rfl
  | cons c r ih =>
    simp only [splitAt]
    split
    · rename_i h
      simp [joinWith_cons (splitAt_ne_nil sep r), ih, h]
    · rw [joinWith_consHead _ _ (splitAt_ne_nil sep r), ih]

end Chars

namespace Text

def startsWith (s start : String) : Bool := Chars.startsWith s.toList start.toList

def endsWith (s tail : String) : Bool := Chars.endsWith s.toList tail.toList

/-- The strings joined by a separator. -/
def joinWith (sep : String) (ls : List String) : String :=
  String.ofList (Chars.joinWith sep.toList (ls.map String.toList))

end Text

end RouteDoc
