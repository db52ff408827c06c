import RouteDoc.Proofs.Annotation.Spelling
import RouteDoc.Proofs.Text.Split

/-!
# Types with allowed values

The values that a parameter is allowed to have stand behind its type, after a colon or in
parentheses.

* `EnumToken.cutParentheses?_eq_some_iff`: what is cut at its parentheses.
* `EnumToken.Encloses`: values that end in parentheses of their own.  Behind a colon, these are
  taken for the parentheses around all values.
* `EnumToken.read_colon_eq_iff`: the two spellings are read alike, unless the values end so.
* `Context.readParameter_colon`: **the two spellings define the same parameter or have the same
  fault, unless the values end in parentheses of their own.**
-/

namespace RouteDoc

namespace EnumToken

open Chars

/-! ## Parentheses -/

/-- What is cut at its parentheses: a text without any, and then a text in parentheses to the very
end. -/
theorem cutParentheses?_eq_some_iff {s type values : List Char} :
    cutParentheses? s = some (type, values) ↔
      s = type ++ '(' :: (values ++ [')']) ∧ type ≠ [] ∧ values ≠ [] ∧
        (∀ c ∈ type, c ≠ '(' ∧ c ≠ ')') ∧ '\n' ∉ values := by
  constructor
  · intro h
    unfold cutParentheses? at h
    simp only at h
    split at h
    · rename_i r hdrop
      split at h
      · rename_i hcond
        obtain ⟨htype, hlast, hvalues, hnewline⟩ := hcond
        obtain ⟨rfl, rfl⟩ := Prod.mk.inj (Option.some.inj h)
        refine ⟨?_, htype, hvalues, fun c hc => ?_, hnewline⟩
        · rw [List.dropLast_append_getLast? _ hlast, ← hdrop, List.takeWhile_append_dropWhile]
        · simpa using List.mem_takeWhile_imp hc
      · exact absurd h (by simp)
    · exact absurd h (by simp)
  · rintro ⟨rfl, htype, hvalues, hplain, hnewline⟩
    have hp : ∀ c ∈ type, (c != '(' && c != ')') = true := fun c hc => by simpa using hplain c hc
    unfold cutParentheses?
    simp only [takeWhile_append_cons hp (c := '(') rfl, dropWhile_append_cons hp (c := '(') rfl,
      List.dropLast_concat, List.getLast?_concat]
    rw [if_pos ⟨htype, trivial, hvalues, hnewline⟩]

/-- Text without parentheses in front belongs to the type. -/
theorem cutParentheses?_append {front : List Char} (hfront : ∀ c ∈ front, c ≠ '(' ∧ c ≠ ')')
    {c : Char} (hc : c ≠ '(' ∧ c ≠ ')') (s : List Char) :
    cutParentheses? (front ++ c :: s) =
      (cutParentheses? (c :: s)).map fun p => (front ++ p.1, p.2) := by
  have hp : ∀ d ∈ front, (d != '(' && d != ')') = true := fun d hd => by simpa using hfront d hd
  have hpc : (c != '(' && c != ')') = true := by simpa using hc
  unfold cutParentheses?
  simp only [List.takeWhile_append_of_pos hp, List.dropWhile_append_of_pos hp,
    List.takeWhile_cons_of_pos (p := fun d => d != '(' && d != ')') hpc]
  split
  · split
    · rename_i hcond
      rw [if_pos ⟨by simp, hcond.2⟩, Option.map_some]
    · rename_i hcond
      rw [if_neg fun h => hcond ⟨by simp, h.2⟩, Option.map_none]
  · rfl

/-! ## Values -/

/-- Blanks in front of a type do not count. -/
theorem ofValues_dropWhile (type values : List Char) :
    ofValues (type.dropWhile isBlank) values = ofValues type values := by
  unfold ofValues
  rw [strip_dropWhile fun _ => id]

/-- Blanks behind the last value do not count. -/
theorem ofValues_dropEnd (type values : List Char) :
    ofValues type (dropEnd isBlank values) = ofValues type values := by
  obtain ⟨t, ht, hvalues⟩ := exists_dropEnd_append isBlank values
  have hnot : ∀ c, isBlank c = false → c ∉ t := fun c hc hmem => by
    rw [ht c hmem] at hc
    exact absurd hc (by simp)
  have hmem : ∀ c, isBlank c = false → (c ∈ dropEnd isBlank values ↔ c ∈ values) := by
    intro c hc
    conv_rhs => rw [hvalues, List.mem_append, or_iff_left (hnot c hc)]
  have hpieces : ∀ sep, isBlank sep = false →
      (splitAt sep (dropEnd isBlank values)).map strip = (splitAt sep values).map strip := by
    intro sep hsep
    obtain ⟨init, last, hfront, hall⟩ :=
      exists_splitAt_append (hnot sep hsep) (dropEnd isBlank values)
    conv_rhs => rw [hvalues, hall]
    rw [hfront, List.map_append, List.map_append, List.map_singleton, List.map_singleton,
      strip_append_of_pos last ht]
  unfold ofValues
  simp only [hmem '|' (by decide), hmem ',' (by decide)]
  split
  · rw [hpieces ',' (by decide)]
  · rw [hpieces '|' (by decide)]

/-! ## Spellings -/

def colon (type values : String) : String := type ++ ":" ++ values

def parenthesized (type values : String) : String := type ++ "(" ++ values ++ ")"

/-- A type and values that both spellings have room for. -/
structure Spellable (type values : String) : Prop where
  type_not_blank : ¬ ∀ c ∈ type.toList, isBlank c = true
  type_plain : ∀ c ∈ type.toList, c ∉ ['(', ')', ':', '{', '}']
  values_not_blank : ¬ ∀ c ∈ values.toList, isBlank c = true
  values_plain : ∀ c ∈ values.toList, c ∉ ['\n', '{', '}']

instance (type values : String) : Decidable (Spellable type values) :=
  decidable_of_iff
    ((¬ type.toList.all isBlank = true) ∧ type.toList.all (· ∉ ['(', ')', ':', '{', '}']) = true ∧
      (¬ values.toList.all isBlank = true) ∧ values.toList.all (· ∉ ['\n', '{', '}']) = true)
    (by
      simp only [List.all_eq_true, decide_eq_true_eq]
      exact ⟨fun h => ⟨h.1, h.2.1, h.2.2.1, h.2.2.2⟩,
        fun h => ⟨h.type_not_blank, h.type_plain, h.values_not_blank, h.values_plain⟩⟩)

/-- Values that end in parentheses of their own, with some text inside. -/
structure Encloses (values front inner : List Char) : Prop where
  eq : dropEnd isBlank values = front ++ '(' :: (inner ++ [')'])
  front_plain : ∀ c ∈ front, c ≠ '(' ∧ c ≠ ')'
  inner_ne_nil : inner ≠ []

theorem encloses_iff {values front inner : List Char} (h : '\n' ∉ values) :
    Encloses values front inner ↔
      cutParentheses? (':' :: dropEnd isBlank values) = some (':' :: front, inner) := by
  rw [cutParentheses?_eq_some_iff, List.cons_append, List.cons.injEq, List.forall_mem_cons]
  constructor
  · rintro ⟨heq, hfront, hinner⟩
    have hnewline : '\n' ∉ inner := fun hmem => h <|
      (dropEnd_isPrefix isBlank values).subset (by simp [heq, hmem])
    exact ⟨⟨rfl, heq⟩, by simp, hinner, ⟨by decide, hfront⟩, hnewline⟩
  · rintro ⟨⟨-, heq⟩, -, hinner, ⟨-, hfront⟩, -⟩
    exact ⟨heq, hfront, hinner⟩

namespace Spellable

variable {type values : String} (h : Spellable type values)

include h

theorem dropWhile_type_ne_nil : type.toList.dropWhile isBlank ≠ [] := fun hnil =>
  h.type_not_blank (List.dropWhile_eq_nil_iff.1 hnil)

theorem dropEnd_values_ne_nil : dropEnd isBlank values.toList ≠ [] := fun hnil =>
  h.values_not_blank (dropEnd_eq_nil_iff.1 hnil)

theorem newline_not_mem : '\n' ∉ values.toList := fun hmem =>
  h.values_plain '\n' hmem (by decide)

theorem plain_of_mem_dropWhile {c : Char} (hc : c ∈ type.toList.dropWhile isBlank) :
    c ∉ ['(', ')', ':', '{', '}'] :=
  h.type_plain c ((List.dropWhile_suffix isBlank).subset hc)

theorem no_parenthesis_of_mem_dropWhile {c : Char} (hc : c ∈ type.toList.dropWhile isBlank) :
    c ≠ '(' ∧ c ≠ ')' := by
  have hplain := h.plain_of_mem_dropWhile hc
  simp only [List.mem_cons, not_or] at hplain
  exact ⟨hplain.1, hplain.2.1⟩

theorem strip_colon : (Text.strip (colon type values)).toList =
    type.toList.dropWhile isBlank ++ ':' :: dropEnd isBlank values.toList := by
  rw [Text.toList_strip, ← strip_append_cons h.dropWhile_type_ne_nil (by decide)]
  simp [colon]

theorem strip_parenthesized : (Text.strip (parenthesized type values)).toList =
    type.toList.dropWhile isBlank ++ '(' :: (values.toList ++ [')']) := by
  have hend : dropEnd isBlank (values.toList ++ [')']) = values.toList ++ [')'] :=
    dropEnd_append_cons (by decide) _ []
  conv_rhs => rw [← hend]
  rw [Text.toList_strip, ← strip_append_cons h.dropWhile_type_ne_nil (by decide)]
  simp [parenthesized]

/-- Values in parentheses are read as they are, whatever is in them. -/
theorem read_parenthesized :
    read (Text.strip (parenthesized type values)) = ofValues type.toList values.toList := by
  have hne : values.toList ≠ [] := fun hnil => h.dropEnd_values_ne_nil (by rw [hnil]; rfl)
  have hcut : cutParentheses? (Text.strip (parenthesized type values)).toList =
      some (type.toList.dropWhile isBlank, values.toList) := by
    exact cutParentheses?_eq_some_iff.2
      ⟨h.strip_parenthesized, h.dropWhile_type_ne_nil, hne,
        fun _ => h.no_parenthesis_of_mem_dropWhile, h.newline_not_mem⟩
  rw [read, hcut]
  exact ofValues_dropWhile _ _

/-- What is cut at parentheses behind the colon, is cut there with the type in front as well. -/
theorem cutParentheses?_strip_colon : cutParentheses? (Text.strip (colon type values)).toList =
    (cutParentheses? (':' :: dropEnd isBlank values.toList)).map fun p =>
      (type.toList.dropWhile isBlank ++ p.1, p.2) := by
  rw [h.strip_colon]
  exact cutParentheses?_append (fun _ => h.no_parenthesis_of_mem_dropWhile) (by decide) _

/-- Values behind a colon are read as they are, unless they end in parentheses of their own. -/
theorem read_colon_of_not (hnot : ¬ ∃ front inner, Encloses values.toList front inner) :
    read (Text.strip (colon type values)) = ofValues type.toList values.toList := by
  have hnone : cutParentheses? (':' :: dropEnd isBlank values.toList) = none := by
    refine Option.eq_none_iff_forall_ne_some.2 fun ⟨front, inner⟩ hcut => hnot ?_
    obtain ⟨heq, hne, -⟩ := cutParentheses?_eq_some_iff.1 hcut
    obtain ⟨c, front, rfl⟩ := List.exists_cons_of_ne_nil hne
    obtain rfl : ':' = c := (List.cons.inj heq).1
    exact ⟨front, inner, (encloses_iff h.newline_not_mem).2 hcut⟩
  have hcolon : ':' ∉ type.toList.dropWhile isBlank := fun hmem =>
    h.plain_of_mem_dropWhile hmem (by decide)
  rw [read, h.cutParentheses?_strip_colon, hnone, Option.map_none, h.strip_colon,
    cutAt?_append hcolon]
  exact (ofValues_dropWhile _ _).trans (ofValues_dropEnd _ _)

/-- Parentheses at the end of the values are taken for those around all values: the type goes on up
to them, with the colon. -/
theorem read_colon_of_encloses {front inner : List Char}
    (he : Encloses values.toList front inner) :
    read (Text.strip (colon type values)) = ofValues (type.toList ++ ':' :: front) inner := by
  have htype : (type.toList ++ ':' :: front).dropWhile isBlank =
      type.toList.dropWhile isBlank ++ ':' :: front := by
    rw [List.dropWhile_append, if_neg (by simpa using h.type_not_blank)]
  rw [read, h.cutParentheses?_strip_colon, (encloses_iff h.newline_not_mem).1 he, Option.map_some]
  show ofValues (type.toList.dropWhile isBlank ++ ':' :: front) inner = _
  rw [← htype, ofValues_dropWhile]

/-- **The two spellings are read alike**, unless the values end in parentheses of their own: then
the colon stays in the type. -/
theorem read_colon_eq_iff :
    read (Text.strip (colon type values)) = read (Text.strip (parenthesized type values)) ↔
      ¬ ∃ front inner, Encloses values.toList front inner := by
  rw [h.read_parenthesized]
  refine ⟨?_, h.read_colon_of_not⟩
  rintro heq ⟨front, inner, he⟩
  rw [h.read_colon_of_encloses he] at heq
  have hexpression : strip (type.toList ++ ':' :: front) = strip type.toList :=
    String.ofList_injective (congrArg EnumToken.expression heq)
  rw [strip_append_cons h.dropWhile_type_ne_nil (by decide)] at hexpression
  have hmem : ':' ∈ strip type.toList := hexpression ▸ by simp
  exact h.type_plain ':' ((strip_isInfix _).subset hmem) (by decide)

theorem brace_not_mem {c : Char} (hc : c ∈ ['{', '}']) :
    c ∉ type.toList ∧ c ∉ values.toList := by
  refine ⟨fun hmem => h.type_plain c hmem ?_, fun hmem => h.values_plain c hmem ?_⟩
  · exact List.mem_cons_of_mem _ (List.mem_cons_of_mem _ (List.mem_cons_of_mem _ hc))
  · exact List.mem_cons_of_mem _ hc

theorem balanced_colon : Balanced (colon type values).toList := by
  have hopen := h.brace_not_mem (c := '{') (by decide)
  have hclose := h.brace_not_mem (c := '}') (by decide)
  exact balanced_of_not_mem (by simp [colon, hopen]) (by simp [colon, hclose])

theorem balanced_parenthesized : Balanced (parenthesized type values).toList := by
  have hopen := h.brace_not_mem (c := '{') (by decide)
  have hclose := h.brace_not_mem (c := '}') (by decide)
  exact balanced_of_not_mem (by simp [parenthesized, hopen]) (by simp [parenthesized, hclose])

end Spellable

end EnumToken

/-! ## Definitions -/

namespace ParameterDraft

/-- The text of a type in braces counts by what is read from it. -/
theorem ofFields_braced_congr {type type' : String} (h : Chars.Balanced type.toList)
    (h' : Chars.Balanced type'.toList)
    (hread : EnumToken.read (Text.strip type) = EnumToken.read (Text.strip type'))
    (isBody : Bool) (rest : String) :
    ofFields isBody [braced type ++ rest] = ofFields isBody [braced type' ++ rest] := by
  unfold ofFields
  rw [Typed.ofFields_braced h, Typed.ofFields_braced h']
  simp only [bind, Except.bind, hread]

end ParameterDraft

namespace Context

open EnumToken

/-- **The two spellings of allowed values define the same parameter or have the same fault, unless
the values end in parentheses of their own.**  Those are taken for the parentheses around all
values, also behind a colon: the type then goes on up to them. -/
theorem readParameter_colon {type values : String} (h : Spellable type values) :
    (EnumToken.read (Text.strip (colon type values)) =
        EnumToken.read (Text.strip (parenthesized type values)) ↔
      ¬ ∃ front inner, Encloses values.toList front inner) ∧
    ((¬ ∃ front inner, Encloses values.toList front inner) →
      ∀ (c : Context) (isBody : Bool) (keyword rest : String),
        c.readParameter isBody keyword [braced (colon type values) ++ rest] =
          c.readParameter isBody keyword [braced (parenthesized type values) ++ rest]) ∧
    ∀ front inner, Encloses values.toList front inner →
      EnumToken.read (Text.strip (colon type values)) =
        EnumToken.ofValues (type.toList ++ ':' :: front) inner := by
  refine ⟨h.read_colon_eq_iff, fun hnot c isBody keyword rest => ?_,
    fun _ _ => h.read_colon_of_encloses⟩
  exact c.readParameter_congr (ParameterDraft.ofFields_braced_congr h.balanced_colon
    h.balanced_parenthesized (h.read_colon_eq_iff.2 hnot) isBody rest) keyword

/-- Values with parentheses that are not at their end. -/
theorem readParameter_colon_level :
    let c : Context := {}
    Spellable "int" "1|(2)| 3 " ∧ (¬ ∃ front inner, Encloses "1|(2)| 3 ".toList front inner) ∧
    (∀ type ∈ [colon "int" "1|(2)| 3 ", parenthesized "int" "1|(2)| 3 "],
      (c.readParameter false "query" [braced type ++ " level - Level"]).outcome.map
        Parameter.allowed = .ok (some [.int 1, .int 3])) := by
  intro c
  have hspell : Spellable "int" "1|(2)| 3 " := by decide +kernel
  have hnot : ¬ ∃ front inner, Encloses "1|(2)| 3 ".toList front inner := by
    rintro ⟨front, inner, he⟩
    have hcut := (encloses_iff (by decide)).1 he
    rw [show cutParentheses? (':' :: Chars.dropEnd Chars.isBlank "1|(2)| 3 ".toList) = none by
      decide +kernel] at hcut
    exact absurd hcut (by simp)
  have hsame := (readParameter_colon hspell).2.1 hnot c false "query" " level - Level"
  refine ⟨hspell, hnot, fun type htype => ?_⟩
  simp only [List.mem_cons, List.not_mem_nil, or_false] at htype
  rcases htype with rfl | rfl
  · rw [hsame]
    decide +kernel
  · decide +kernel

/-- A value that ends in parentheses: behind the colon, the values in front of it are taken for a
part of the type. -/
theorem readParameter_of_value_in_parentheses :
    let c : Context := {}
    Spellable "string" "asc|desc(default)" ∧
    (c.readParameter false "query"
      [braced (colon "string" "asc|desc(default)") ++ " order - Sort order"]).outcome =
        .error (.type (.invalidExpression "string:asc|desc")) ∧
    (c.readParameter false "query"
      [braced (parenthesized "string" "asc|desc(default)") ++ " order - Sort order"]).outcome.map
        Parameter.allowed = .ok (some [.text "asc", .text "desc(default)"]) := by
  intro c
  decide +kernel

end Context

end RouteDoc
