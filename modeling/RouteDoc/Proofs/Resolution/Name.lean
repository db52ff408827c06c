import RouteDoc.Proofs.Text.Pieces
import RouteDoc.Schema.Resolve

/-!
# Forms of names

* `Form.ofShape_cases`, `Form.of_cases`: the forms that an expression can have, each with what it
  says about the text and the registry.
* `Chars.Namelike`: a text that begins like an identifier and has no blank in it.  All names that
  reading prints are of this kind, save for unions: `namelike_of_isIdentifier`,
  `namelike_of_scalarName?`.
* `Form.IsPlainName`: an identifier that is no word with a meaning of its own.
* `Registry.PlainNames`: the names of narrowed built-in types and of aliases are plain.  Then
  `form_scalar`, `form_named` and `form_array` say how a printed name reads.
-/

namespace RouteDoc

/-! ## What a form says -/

namespace Form

variable {r : Registry} {e n t : String} {ps : List String}

theorem ofShape_cases (e : String) :
    (∃ inner, ofShape e = .pointer inner) ∨ (∃ item, ofShape e = .array item) ∨
      (∃ k v, ofShape e = .map k v) ∨ ofShape e = .malformedMap ∨
      (∃ n, scalarName? e = some n ∧ ofShape e = .scalar n) ∨
      (isIdentifier e.toList = true ∧ scalarName? e = none ∧ ofShape e = .named e) ∨
      ofShape e = .invalid := by
  simp only [ofShape]
  split
  · exact .inl ⟨_, rfl⟩
  split
  · exact .inr (.inl ⟨_, rfl⟩)
  split
  · exact .inr (.inl ⟨_, rfl⟩)
  split
  · split
    · exact .inr (.inr (.inl ⟨_, _, rfl⟩))
    · exact .inr (.inr (.inr (.inl rfl)))
  split
  · rename_i n hn
    exact .inr (.inr (.inr (.inr (.inl ⟨n, hn, rfl⟩))))
  · rename_i hn
    split
    · rename_i hid
      exact .inr (.inr (.inr (.inr (.inr (.inl ⟨hid, hn, rfl⟩)))))
    · exact .inr (.inr (.inr (.inr (.inr (.inr rfl)))))

theorem of_cases (r : Registry) (e : String) :
    (1 < (Chars.splitUnion e.toList).length ∧ of r e =
        .union ((Chars.splitUnion e.toList).map fun p => String.ofList (Chars.strip p))) ∨
      (e ∈ nothingWords ∧ of r e = .nothing) ∨ (e ∈ anythingWords ∧ of r e = .anything) ∨
      ((r.primitive? e).isSome = true ∧ of r e = .primitive e) ∨
      (∃ t, r.target? e = some t ∧ of r e = .aliasOf e (Text.strip t)) ∨
      (e ∉ nothingWords ∧ e ∉ anythingWords ∧ r.primitive? e = none ∧ r.target? e = none ∧
        of r e = ofShape e) := by
  simp only [of]
  split
  · rename_i hlen
    exact .inl ⟨hlen, rfl⟩
  split
  · rename_i he
    exact .inr (.inl ⟨he, rfl⟩)
  split
  · rename_i he
    exact .inr (.inr (.inl ⟨he, rfl⟩))
  split
  · rename_i hp
    exact .inr (.inr (.inr (.inl ⟨hp, rfl⟩)))
  split
  · rename_i t ht
    exact .inr (.inr (.inr (.inr (.inl ⟨t, ht, rfl⟩))))
  · rename_i hn ha hp _ ht
    exact .inr (.inr (.inr (.inr (.inr ⟨hn, ha, Option.not_isSome_iff_eq_none.1 hp, ht, rfl⟩))))

theorem of_eq_union (h : of r e = .union ps) : 1 < ps.length := by
  have hshape := ofShape_cases e
  rcases of_cases r e with ⟨hlen, he⟩ | h' | h' | h' | h' | h'
  · rw [← Form.union.inj (he.symm.trans h), List.length_map]
    exact hlen
  all_goals simp_all

theorem of_eq_primitive (h : of r e = .primitive n) : n = e ∧ (r.primitive? e).isSome = true := by
  have hshape := ofShape_cases e
  rcases of_cases r e with h' | h' | h' | ⟨hp, he⟩ | h' | h'
  · simp_all
  · simp_all
  · simp_all
  · exact ⟨(Form.primitive.inj (he.symm.trans h)).symm, hp⟩
  · simp_all
  · simp_all

theorem of_eq_scalar (h : of r e = .scalar n) : scalarName? e = some n := by
  have hshape := ofShape_cases e
  rcases of_cases r e with h' | h' | h' | h' | h' | h' <;> simp_all

theorem of_eq_named (h : of r e = .named n) : n = e ∧ isIdentifier n.toList = true := by
  have hshape := ofShape_cases e
  rcases of_cases r e with h' | h' | h' | h' | h' | h' <;> simp_all

theorem exists_strip_of_mem_mapParts {s k v : List Char} (h : mapParts? s = some (k, v)) :
    (∃ t, t <:+: s ∧ k = Chars.strip t) ∧ ∃ t, t <:+: s ∧ v = Chars.strip t := by
  simp only [mapParts?] at h
  split at h
  · rename_i value hd
    split at h
    · exact absurd h (by simp)
    · obtain ⟨rfl, rfl⟩ := Prod.mk.injEq .. ▸ Option.some.inj h
      have hvalue := List.dropWhile_suffix (l := s) fun c => c != '[' && c != ']'
      rw [hd] at hvalue
      exact ⟨⟨_, (List.takeWhile_prefix _).isInfix, rfl⟩,
        value, ((List.suffix_cons _ value).trans hvalue).isInfix, rfl⟩
  · exact absurd h (by simp)

theorem exists_strip_of_mem_parts {p : String} (h : p ∈ (of r e).parts) :
    ∃ s, s <:+: e.toList ∧ p = String.ofList (Chars.strip s) := by
  rcases of_cases r e with ⟨-, hf⟩ | ⟨-, hf⟩ | ⟨-, hf⟩ | ⟨-, hf⟩ | ⟨t, -, hf⟩ | ⟨-, -, -, -, hf⟩ <;>
    rw [hf] at h
  · obtain ⟨s, hs, rfl⟩ := List.mem_map.1 h
    exact ⟨s, Chars.infix_of_mem_splitUnion hs, rfl⟩
  · exact absurd h (by simp [parts])
  · exact absurd h (by simp [parts])
  · exact absurd h (by simp [parts])
  · exact absurd h (by simp [parts])
  · simp only [ofShape] at h
    split at h
    · exact ⟨_, (List.drop_suffix 1 _).isInfix, List.mem_singleton.1 h⟩
    split at h
    · exact ⟨_, (List.drop_suffix 2 _).isInfix, List.mem_singleton.1 h⟩
    split at h
    · exact ⟨_, (List.take_prefix _ _).isInfix, List.mem_singleton.1 h⟩
    split at h
    · split at h
      · rename_i hmap
        have hinfix := (List.drop_suffix 4 e.toList).isInfix
        obtain ⟨⟨s, hs, rfl⟩, t, ht, rfl⟩ := exists_strip_of_mem_mapParts hmap
        simp only [parts, List.mem_cons, List.not_mem_nil, or_false] at h
        rcases h with rfl | rfl
        · exact ⟨s, hs.trans hinfix, rfl⟩
        · exact ⟨t, ht.trans hinfix, rfl⟩
      · exact absurd h (by simp [parts])
    split at h
    · exact absurd h (by simp [parts])
    · split at h <;> exact absurd h (by simp [parts])

/-- The expressions inside a form are trimmed. -/
theorem strip_of_mem_parts {p : String} (h : p ∈ (of r e).parts) : Text.strip p = p := by
  obtain ⟨s, -, rfl⟩ := exists_strip_of_mem_parts h
  rw [Text.strip, String.toList_ofList, Chars.strip_strip]

/-- An expression that is no union and stands for nothing else reads by its shape. -/
theorem of_eq_ofShape_of_not_infix (hbar : ¬ " | ".toList <:+: e.toList) (hn : e ∉ nothingWords)
    (ha : e ∉ anythingWords) (hp : r.primitive? e = none) (ht : r.target? e = none) :
    of r e = ofShape e := by
  simp [of, Chars.splitUnion_of_not_infix hbar, hn, ha, hp, ht]

theorem of_eq_ofShape (hsp : ' ' ∉ e.toList) (hn : e ∉ nothingWords) (ha : e ∉ anythingWords)
    (hp : r.primitive? e = none) (ht : r.target? e = none) : of r e = ofShape e :=
  of_eq_ofShape_of_not_infix (fun h => hsp (h.subset (by decide))) hn ha hp ht

end Form

/-! ## Texts that look like names -/

namespace Chars

/-- A text that begins with a letter of ASCII or a low line and has no blank in it. -/
def Namelike (s : List Char) : Prop :=
  s.head?.any (fun c => isAsciiLetter c || c == '_') = true ∧ ∀ c ∈ s, isBlank c = false

-- by a test along the text, since a test of all characters there are would not end in good time
instance (s : List Char) : Decidable (Namelike s) :=
  decidable_of_iff (s.head?.any (fun c => isAsciiLetter c || c == '_') = true ∧
      s.all (fun c => !isBlank c) = true) (by simp [Namelike])

variable {s t : List Char}

theorem Namelike.ne_nil (h : Namelike s) : s ≠ [] := by
  rintro rfl
  exact absurd h.1 (by simp)

theorem Namelike.solid (h : Namelike s) : Solid s := ⟨h.ne_nil, h.2⟩

theorem Namelike.append (h : Namelike s) (ht : ∀ c ∈ t, isBlank c = false) : Namelike (s ++ t) := by
  refine ⟨?_, (h.solid.append ht).2⟩
  rw [List.head?_append, List.head?_eq_some_head h.ne_nil, Option.some_or,
    ← List.head?_eq_some_head h.ne_nil]
  exact h.1

theorem isBlank_of_mem_marks : ∀ c ∈ ['[', ']'], isBlank c = false := by
  intro c hc
  simp only [List.mem_cons, List.not_mem_nil, or_false] at hc
  rcases hc with rfl | rfl <;> decide

theorem Namelike.append_marks (h : Namelike s) : Namelike (s ++ ['[', ']']) :=
  h.append isBlank_of_mem_marks

/-- A text does not begin with characters that are no beginning of a name. -/
theorem Namelike.startsWith_cons (h : Namelike s) {c : Char}
    (hc : (isAsciiLetter c || c == '_') = false) (w : List Char) :
    startsWith s (c :: w) = false := by
  cases s with
  | nil => rfl
  | cons d s =>
    have hd : (isAsciiLetter d || d == '_') = true := h.1
    have hne : c ≠ d := by
      rintro rfl
      exact absurd hd (by simp [hc])
    simp [startsWith, List.isPrefixOf, hne]

theorem isWord_of_isAsciiLetter {c : Char} (h : isAsciiLetter c = true) : isWord c = true := by
  have hc := toNat_of_isAsciiLetter h
  unfold isWord
  rw [if_pos (by omega), h, Bool.true_or, Bool.true_or]

/-- The characters of identifiers. -/
theorem isWord_or_eq_of_isIdentifier (h : Form.isIdentifier s = true) {c : Char} (hc : c ∈ s) :
    isWord c = true ∨ c = '.' := by
  cases s with
  | nil => exact absurd hc (by simp)
  | cons d s =>
    simp only [Form.isIdentifier, Bool.and_eq_true, Bool.or_eq_true, beq_iff_eq,
      List.all_eq_true] at h
    rcases List.mem_cons.1 hc with rfl | hc
    · rcases h.1 with h | rfl
      · exact .inl (isWord_of_isAsciiLetter h)
      · exact .inl (by decide)
    · exact h.2 c hc

theorem namelike_of_isIdentifier (h : Form.isIdentifier s = true) : Namelike s := by
  refine ⟨?_, fun c hc => ?_⟩
  · cases s with
    | nil => exact absurd h (by simp [Form.isIdentifier])
    | cons d s =>
      simp only [Form.isIdentifier, Bool.and_eq_true] at h
      exact h.1
  · rcases isWord_or_eq_of_isIdentifier h hc with hc | rfl
    · exact isBlank_eq_false_of_isWord hc
    · decide

theorem not_mem_of_isIdentifier (h : Form.isIdentifier s = true) {c : Char}
    (hw : isWord c = false) (hc : c ≠ '.') : c ∉ s := by
  intro hmem
  rcases isWord_or_eq_of_isIdentifier h hmem with h | h
  · exact absurd h (by simp [hw])
  · exact hc h

theorem bracket_not_mem_of_isIdentifier (h : Form.isIdentifier s = true) : ']' ∉ s :=
  not_mem_of_isIdentifier h (by decide) (by decide)

theorem startsWith_eq_false {c : Char} (ht : c ∈ t) (hs : c ∉ s) : startsWith s t = false := by
  rw [← Bool.not_eq_true, startsWith, List.isPrefixOf_iff_prefix]
  exact fun h => hs (h.subset ht)

theorem endsWith_eq_false {c : Char} (ht : c ∈ t) (hs : c ∉ s) : endsWith s t = false := by
  rw [← Bool.not_eq_true, endsWith, List.isSuffixOf_iff_suffix]
  exact fun h => hs (h.subset ht)

end Chars

/-! ## How printed names read -/

namespace Form

open Chars

variable {r : Registry} {e n w : String}

/-- The printed names of built-in types are words for them. -/
theorem scalarWords_closed : ∀ p ∈ scalarWords, Namelike p.2.toList ∧ ']' ∉ p.2.toList ∧
    p.2 ∉ nothingWords ∧ p.2 ∉ anythingWords ∧ ofShape p.2 = .scalar p.2 := by
  decide +kernel

theorem exists_of_scalarName? (h : scalarName? w = some n) : ∃ p ∈ scalarWords, p.2 = n := by
  unfold scalarName? at h
  obtain ⟨l₁, l₂, hl, -⟩ := List.lookup_eq_some_iff.1 h
  exact ⟨(w, n), by rw [hl]; simp, rfl⟩

/-- By its shape an identifier is a word for a built-in type, or a name. -/
theorem ofShape_eq_of_isIdentifier (h : isIdentifier e.toList = true) :
    ofShape e = match scalarName? e with
      | some n => .scalar n
      | none => .named e := by
  have hstar := not_mem_of_isIdentifier h (c := '*') (by decide) (by decide)
  have hopen := not_mem_of_isIdentifier h (c := '[') (by decide) (by decide)
  cases hw : scalarName? e <;>
    simp [ofShape, startsWith_eq_false _ hstar, startsWith_eq_false _ hopen,
      endsWith_eq_false _ hopen, hw, h]

theorem ofShape_of_isIdentifier (h : isIdentifier e.toList = true) (hn : scalarName? e = none) :
    ofShape e = .named e := by
  rw [ofShape_eq_of_isIdentifier h, hn]

theorem toList_append_marks (n : String) : (n ++ "[]").toList = n.toList ++ ['[', ']'] := by
  rw [String.toList_append]
  rfl

/-- A text with a star in front is a pointer. -/
theorem ofShape_star {s : List Char} (hs : s ≠ []) :
    ofShape (String.ofList ('*' :: s)) = .pointer (String.ofList (strip s)) := by
  have hlen := List.length_pos_iff.2 hs
  simp [ofShape, startsWith, hlen]

/-- A text with the marks of an array in front is an array. -/
theorem ofShape_marks {s : List Char} (hs : s ≠ []) :
    ofShape (String.ofList ('[' :: ']' :: s)) = .array (String.ofList (strip s)) := by
  have hlen := List.length_pos_iff.2 hs
  simp [ofShape, startsWith, hlen]

/-- A text with the marks of an array behind is an array, if there are no other marks in front. -/
theorem ofShape_append_marks_of_not {s : List Char} (hs : s ≠ [])
    (hstar : startsWith (s ++ ['[', ']']) ['*'] = false)
    (hmarks : startsWith (s ++ ['[', ']']) ['[', ']'] = false) :
    ofShape (String.ofList (s ++ ['[', ']'])) = .array (String.ofList (strip s)) := by
  have hlen := List.length_pos_iff.2 hs
  have hend : endsWith (s ++ ['[', ']']) ['[', ']'] = true :=
    List.isSuffixOf_iff_suffix.2 (List.suffix_append _ _)
  simp [ofShape, hstar, hmarks, hend, hlen]

theorem ofShape_append_marks (h : Namelike n.toList) : ofShape (n ++ "[]") = .array n := by
  have hm : Namelike (n.toList ++ ['[', ']']) := h.append_marks
  have hshape := ofShape_append_marks_of_not h.ne_nil (hm.startsWith_cons (by decide) _)
    (hm.startsWith_cons (by decide) _)
  rwa [h.solid.strip_eq, String.ofList_toList, ← toList_append_marks,
    String.ofList_toList] at hshape

/-- An identifier that is no word with a meaning of its own. -/
structure IsPlainName (n : String) : Prop where
  isIdentifier : isIdentifier n.toList = true
  not_scalar : scalarName? n = none
  not_nothing : n ∉ nothingWords
  not_anything : n ∉ anythingWords

instance (n : String) : Decidable (IsPlainName n) :=
  decidable_of_iff (isIdentifier n.toList = true ∧ scalarName? n = none ∧ n ∉ nothingWords ∧
      n ∉ anythingWords)
    ⟨fun h => ⟨h.1, h.2.1, h.2.2.1, h.2.2.2⟩,
      fun h => ⟨h.isIdentifier, h.not_scalar, h.not_nothing, h.not_anything⟩⟩

end Form

namespace Registry

open Chars Form

/-- The names of narrowed built-in types are identifiers. -/
def IdentifierPrimitives (r : Registry) : Prop :=
  ∀ n, (r.primitive? n).isSome = true → Form.isIdentifier n.toList = true

/-- The names of narrowed built-in types and of aliases are plain. -/
structure PlainNames (r : Registry) : Prop where
  of_primitive : ∀ n, (r.primitive? n).isSome = true → IsPlainName n
  of_alias : ∀ n ∈ r.aliases.keys, IsPlainName n

variable {r : Registry} {n w : String}

theorem plainNames_iff : r.PlainNames ↔
    (∀ n ∈ r.definitions.keys, (r.primitive? n).isSome = true → IsPlainName n) ∧
      ∀ n ∈ r.aliases.keys, IsPlainName n := by
  refine ⟨fun h => ⟨fun n _ => h.of_primitive n, h.of_alias⟩, fun h => ⟨fun n hn => ?_, h.2⟩⟩
  refine h.1 n ?_ hn
  by_contra hmem
  rw [primitive?, definition?, Dict.get?_eq_none_iff.2 hmem] at hn
  exact absurd hn (by simp)

instance (r : Registry) : Decidable r.PlainNames := decidable_of_iff _ plainNames_iff.symm

theorem PlainNames.identifierPrimitives (hr : r.PlainNames) : r.IdentifierPrimitives :=
  fun n hn => (hr.of_primitive n hn).isIdentifier

/-- A name that is not plain is not registered. -/
theorem PlainNames.unregistered (hr : r.PlainNames) (hn : ¬ IsPlainName n) :
    r.primitive? n = none ∧ r.target? n = none := by
  refine ⟨?_, ?_⟩
  · rw [← Option.not_isSome_iff_eq_none]
    exact fun h => hn (hr.of_primitive n h)
  · rw [target?, Dict.get?_eq_none_iff]
    exact fun h => hn (hr.of_alias n h)

theorem form_scalar (hr : r.PlainNames) (hw : scalarName? w = some n) :
    Form.of r n = .scalar n := by
  obtain ⟨p, hp, rfl⟩ := exists_of_scalarName? hw
  obtain ⟨hname, -, hnothing, hanything, hshape⟩ := scalarWords_closed p hp
  have hword : scalarName? p.2 = some p.2 := by
    have h := ofShape_cases p.2
    rw [hshape] at h
    simpa using h
  have hplain : ¬ IsPlainName p.2 := fun h => by
    rw [h.not_scalar] at hword
    exact absurd hword (by simp)
  obtain ⟨hprim, htarget⟩ := hr.unregistered hplain
  rw [of_eq_ofShape hname.solid.space_not_mem hnothing hanything hprim htarget, hshape]

/-- An identifier that is neither registered nor a word reads as the name of a type. -/
theorem form_named (hn : IsPlainName n) (hp : r.primitive? n = none) (ht : r.target? n = none) :
    Form.of r n = .named n := by
  have hname := namelike_of_isIdentifier hn.isIdentifier
  rw [of_eq_ofShape hname.solid.space_not_mem hn.not_nothing hn.not_anything hp ht,
    ofShape_of_isIdentifier hn.isIdentifier hn.not_scalar]

theorem getLast?_of_words : ∀ w ∈ nothingWords ++ anythingWords, w.toList.getLast? ≠ some ']' := by
  decide

theorem form_array (hr : r.PlainNames) (hn : Namelike n.toList) :
    Form.of r (n ++ "[]") = .array n := by
  have hlist := toList_append_marks n
  have hlast : (n ++ "[]").toList.getLast? = some ']' := by simp [hlist]
  have hplain : ¬ IsPlainName (n ++ "[]") := fun h =>
    bracket_not_mem_of_isIdentifier h.isIdentifier (by simp [hlist])
  obtain ⟨hprim, htarget⟩ := hr.unregistered hplain
  have hword : n ++ "[]" ∉ nothingWords ++ anythingWords := fun h => getLast?_of_words _ h hlast
  rw [List.mem_append, not_or] at hword
  have hsp : ' ' ∉ (n ++ "[]").toList := by
    rw [hlist]
    exact hn.append_marks.solid.space_not_mem
  rw [of_eq_ofShape hsp hword.1 hword.2 hprim htarget, ofShape_append_marks hn]

end Registry

end RouteDoc
