import RouteDoc.Schema.Registry
import RouteDoc.Text.Split
import RouteDoc.Text.Word

/-!
# Forms of type expressions

`Form.of r e` says how the expression `e` reads in the registry `r`, one level deep.  The first of
these that applies counts:

* a union, its members separated by a bar between blanks;
* a word for the absent value, or for any value;
* the name of a narrowed built-in type, or an alias;
* a pointer `*T`, an array `[]T` or `T[]`, a map `map[K]V`;
* a word for a built-in type;
* the name of a type.

`Form.length_lt`: the expressions inside a form are shorter than the one it is the form of.
-/

namespace RouteDoc

namespace Chars

/-- The pieces between bars with a blank on either side. -/
def splitUnion : List Char → List (List Char)
  | [] => [[]]
  | ' ' :: '|' :: ' ' :: r => [] :: splitUnion r
  | c :: r => consHead c (splitUnion r)

theorem splitUnion_ne_nil (s : List Char) : splitUnion s ≠ [] := by
  fun_cases splitUnion s
  · simp
  · simp
  · rename_i c r _
    cases splitUnion r <;> simp [consHead]

/-- The pieces of a text with a bar in it are shorter than the text. -/
theorem length_lt_of_mem_splitUnion {s p : List Char} (hs : 1 < (splitUnion s).length)
    (hp : p ∈ splitUnion s) : p.length < s.length := by
  have key : ∀ s : List Char, ∀ p ∈ splitUnion s,
      p.length ≤ s.length ∧ (1 < (splitUnion s).length → p.length < s.length) := by
    intro s
    fun_induction splitUnion s with
    | case1 => simp
    | case2 r ih =>
      intro p hp
      rcases List.mem_cons.1 hp with rfl | hp
      · simp
      · have := (ih p hp).1
        simp only [List.length_cons]
        omega
    | case3 c r _ ih =>
      intro p hp
      cases hr : splitUnion r with
      | nil => exact absurd hr (splitUnion_ne_nil r)
      | cons l ls =>
        rw [hr] at ih hp
        simp only [consHead, List.mem_cons, List.length_cons] at hp ih ⊢
        rcases hp with rfl | hp
        · have := ih l (Or.inl rfl)
          simp only [List.length_cons]
          omega
        · have := ih p (Or.inr hp)
          omega
  exact (key s p hp).2 hs

theorem length_dropWhile_le (p : Char → Bool) (s : List Char) :
    (s.dropWhile p).length ≤ s.length :=
  (List.dropWhile_sublist p).length_le

theorem length_strip_le (s : List Char) : (strip s).length ≤ s.length := by
  have h := length_dropWhile_le isBlank (s.dropWhile isBlank).reverse
  have h' := length_dropWhile_le isBlank s
  simp only [strip, trim, dropEnd, List.length_reverse] at h ⊢
  omega

end Chars

/-- How a type expression reads, one level deep. -/
inductive Form where
  | union (parts : List String)
  | nothing
  | anything
  | primitive (name : String)
  | aliasOf (name target : String)
  | pointer (inner : String)
  | array (item : String)
  | map (key value : String)
  | malformedMap
  | scalar (name : String)
  | named (name : String)
  | invalid
  deriving DecidableEq, Inhabited

namespace Form

def nothingWords : List String := ["", "nil", "None", "null"]

/-- The words for any value. -/
def anythingWords : List String := ["any", "Any", "interface\x7b\x7d", "object"]

/-- The words for built-in types, and the names that the document prints for them. -/
def scalarWords : List (String × String) :=
  [("bool", "boolean"), ("boolean", "boolean"), ("int", "integer"), ("int8", "integer"),
   ("int16", "integer"), ("int32", "integer"), ("int64", "integer"), ("uint", "integer"),
   ("uint8", "integer"), ("uint16", "integer"), ("uint32", "integer"), ("uint64", "integer"),
   ("integer", "integer"), ("float", "number"), ("float32", "number"), ("float64", "number"),
   ("decimal", "number"), ("number", "number"), ("str", "string"), ("string", "string"),
   ("datetime", "datetime"), ("datetime.datetime", "datetime"), ("time.Time", "datetime"),
   ("date", "date-only"), ("datetime.date", "date-only"), ("date-only", "date-only"),
   ("time", "time-only"), ("datetime.time", "time-only"), ("time-only", "time-only"),
   ("file", "file"), ("bytes", "file"), ("multipart.FileHeader", "file")]

def scalarName? (word : String) : Option String := scalarWords.lookup word

/-- A letter or the low line, then word characters and points. -/
def isIdentifier : List Char → Bool
  | [] => false
  | c :: r => (Chars.isAsciiLetter c || c == '_') && r.all fun d => Chars.isWord d || d == '.'

/-- The key and the value of a map, from the text behind `map[`: the key has no bracket in it, the
value no line feed, and neither is blank. -/
def mapParts? (s : List Char) : Option (List Char × List Char) :=
  let key := s.takeWhile fun c => c != '[' && c != ']'
  match s.dropWhile fun c => c != '[' && c != ']' with
  | ']' :: value =>
    if Chars.isBlankText key || Chars.isBlankText value || value.contains '\n' then none
    else some (Chars.strip key, Chars.strip value)
  | _ => none

/-- The form of an expression that is neither a union nor registered. -/
def ofShape (e : String) : Form :=
  let s := e.toList
  if 1 < s.length && Chars.startsWith s ['*'] then
    .pointer (String.ofList (Chars.strip (s.drop 1)))
  else if 2 < s.length && Chars.startsWith s ['[', ']'] then
    .array (String.ofList (Chars.strip (s.drop 2)))
  else if 2 < s.length && Chars.endsWith s ['[', ']'] then
    .array (String.ofList (Chars.strip (s.take (s.length - 2))))
  else if Chars.startsWith s ['m', 'a', 'p', '['] then
    match mapParts? (s.drop 4) with
    | some (key, value) => .map (String.ofList key) (String.ofList value)
    | none => .malformedMap
  else match scalarName? e with
    | some name => .scalar name
    | none => if isIdentifier s then .named e else .invalid

def of (r : Registry) (e : String) : Form :=
  let parts := Chars.splitUnion e.toList
  if 1 < parts.length then .union (parts.map fun p => String.ofList (Chars.strip p))
  else if e ∈ nothingWords then .nothing
  else if e ∈ anythingWords then .anything
  else if (r.primitive? e).isSome then .primitive e
  else match r.target? e with
    | some target => .aliasOf e (Text.strip target)
    | none => ofShape e

/-- The expressions inside a form, aliases aside. -/
def parts : Form → List String
  | .union ps => ps
  | .pointer inner => [inner]
  | .array item => [item]
  | .map key value => [key, value]
  | _ => []

theorem length_mapParts {s k v : List Char} (h : mapParts? s = some (k, v)) :
    k.length ≤ s.length ∧ v.length ≤ s.length := by
  simp only [mapParts?] at h
  split at h
  · rename_i value hd
    have hv : value.length + 1 ≤ s.length := by
      have := Chars.length_dropWhile_le (fun c => c != '[' && c != ']') s
      rw [hd] at this
      simpa using this
    have hk : (s.takeWhile fun c => c != '[' && c != ']').length ≤ s.length :=
      (List.takeWhile_sublist _).length_le
    split at h
    · exact absurd h (by simp)
    · obtain ⟨rfl, rfl⟩ := Prod.mk.injEq .. ▸ Option.some.inj h
      have h1 := Chars.length_strip_le (s.takeWhile fun c => c != '[' && c != ']')
      have h2 := Chars.length_strip_le value
      omega
  · exact absurd h (by simp)

theorem length_lt_of_ofShape {e p : String} (hp : p ∈ (ofShape e).parts) :
    p.length < e.length := by
  simp only [ofShape] at hp
  simp only [← String.length_toList (s := e)]
  split at hp
  · rename_i h
    simp only [parts, List.mem_singleton] at hp
    subst hp
    have := Chars.length_strip_le (e.toList.drop 1)
    simp only [Bool.and_eq_true, decide_eq_true_eq, List.length_drop] at h this
    simp only [String.length_ofList]
    omega
  split at hp
  · rename_i h
    simp only [parts, List.mem_singleton] at hp
    subst hp
    have := Chars.length_strip_le (e.toList.drop 2)
    simp only [Bool.and_eq_true, decide_eq_true_eq, List.length_drop] at h this
    simp only [String.length_ofList]
    omega
  split at hp
  · rename_i h
    simp only [parts, List.mem_singleton] at hp
    subst hp
    have := Chars.length_strip_le (e.toList.take (e.toList.length - 2))
    simp only [Bool.and_eq_true, decide_eq_true_eq, List.length_take] at h this
    simp only [String.length_ofList]
    omega
  split at hp
  · rename_i h
    split at hp
    · rename_i key value hm
      obtain ⟨hk, hv⟩ := length_mapParts hm
      have hlen : 4 ≤ e.toList.length := by
        have : ['m', 'a', 'p', '['].isPrefixOf e.toList = true := h
        exact (List.isPrefixOf_iff_prefix.1 this).length_le
      simp only [List.length_drop] at hk hv
      simp only [parts, List.mem_cons, List.not_mem_nil, or_false] at hp
      rcases hp with rfl | rfl <;> simp only [String.length_ofList] <;> omega
    · simp [parts] at hp
  split at hp
  · simp [parts] at hp
  · split at hp <;> simp [parts] at hp

/-- The expressions inside a form are shorter than the one it is the form of. -/
theorem length_lt {r : Registry} {e p : String} (hp : p ∈ (of r e).parts) :
    p.length < e.length := by
  simp only [of] at hp
  split at hp
  · rename_i h
    simp only [parts, List.mem_map] at hp
    obtain ⟨q, hq, rfl⟩ := hp
    have h1 := Chars.length_lt_of_mem_splitUnion h hq
    have h2 := Chars.length_strip_le q
    simp only [String.length_ofList, ← String.length_toList (s := e)]
    omega
  split at hp
  · simp [parts] at hp
  split at hp
  · simp [parts] at hp
  split at hp
  · simp [parts] at hp
  split at hp
  · simp [parts] at hp
  · exact length_lt_of_ofShape hp

/-- An alias form names an alias of the registry. -/
theorem mem_aliases {r : Registry} {e name target : String} (h : of r e = .aliasOf name target) :
    name = e ∧ name ∈ r.aliases.keys := by
  simp only [of] at h
  split at h
  · exact absurd h (by simp)
  split at h
  · exact absurd h (by simp)
  split at h
  · exact absurd h (by simp)
  split at h
  · exact absurd h (by simp)
  split at h
  · rename_i t ht
    obtain ⟨rfl, rfl⟩ := Form.aliasOf.injEq .. ▸ h
    simp only [Registry.target?] at ht
    exact ⟨rfl, Dict.contains_iff.1 (by simp [Dict.contains, ht])⟩
  · simp only [ofShape] at h
    repeat' split at h
    all_goals exact absurd h (by simp)

/-- The target of an alias form is trimmed. -/
theorem exists_target {r : Registry} {e name target : String} (h : of r e = .aliasOf name target) :
    ∃ t ∈ r.aliases.values, target = Text.strip t := by
  simp only [of] at h
  split at h
  · exact absurd h (by simp)
  split at h
  · exact absurd h (by simp)
  split at h
  · exact absurd h (by simp)
  split at h
  · exact absurd h (by simp)
  split at h
  · rename_i t ht
    obtain ⟨-, rfl⟩ := Form.aliasOf.injEq .. ▸ h
    exact ⟨t, List.mem_map.2 ⟨(e, t), Dict.get?_eq_some_iff.1 ht, rfl⟩, rfl⟩
  · simp only [ofShape] at h
    repeat' split at h
    all_goals exact absurd h (by simp)

end Form

end RouteDoc
