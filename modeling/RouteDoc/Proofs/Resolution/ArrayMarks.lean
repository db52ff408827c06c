import RouteDoc.Proofs.Resolution.Name
import RouteDoc.Proofs.Resolution.Registration
import RouteDoc.Proofs.Text.Trim

/-!
# The marks of an array, in front and behind

An array is written with its marks in front or behind.  The marks behind a text are read last: a
star or other marks in front of it come first, and then the text between them is read on.

* `Registry.Unbracketed`: no name has a bracket in it or a star in front, so a text with such a mark
  reads by its shape.
* `Reading.Agrees`: two readings come to the same, or both come to a text that is no type.
* `Unbracketed.agrees_append_marks`: marks in front and marks behind read alike, by induction on the
  marks in front of the text.
* `Registry.resolve_marks`: **the two notations for arrays agree.**
-/

namespace RouteDoc

open Chars

/-! ## Bars -/

namespace Chars

variable {s : List Char}

theorem bar_infix_cons {c : Char} (hc : c ≠ ' ') (h : " | ".toList <:+: c :: s) :
    " | ".toList <:+: s := by
  rcases List.infix_cons_iff.1 h with h | h
  · exact absurd (List.cons_prefix_cons.1 h).1.symm hc
  · exact h

/-- A bar does not reach into the marks behind a text. -/
theorem bar_infix_append_marks (h : " | ".toList <:+: s ++ ['[', ']']) : " | ".toList <:+: s := by
  obtain ⟨a, b, hab⟩ := h
  rcases List.append_eq_append_iff.1 hab with ⟨t, hs, -⟩ | ⟨t, hs, ht⟩
  · exact ⟨a, t, hs.symm⟩
  · have hspace : ∀ c ∈ t.getLast?, c = ' ' := fun c hc => by
      have hlast := congrArg List.getLast? hs
      rw [List.getLast?_append, List.getLast?_append, hc] at hlast
      exact (Option.some.inj hlast).symm
    rcases List.eq_nil_or_concat t with rfl | ⟨init, c, rfl⟩
    · exact ⟨a, [], by rw [List.append_nil, hs, List.append_nil]⟩
    · obtain rfl := hspace c (by simp)
      have hmem : ' ' ∈ ['[', ']'] := ht ▸ by simp
      exact absurd hmem (by decide)

/-! ## Marks -/

/-- The marks behind a text are no star in front of it. -/
theorem startsWith_star_append_marks (hs : s ≠ []) (h : ¬ ∃ t, s = '*' :: t) :
    startsWith (s ++ ['[', ']']) ['*'] = false := by
  rw [← Bool.not_eq_true, startsWith, List.isPrefixOf_iff_prefix]
  rintro ⟨u, hu⟩
  cases s with
  | nil => exact hs rfl
  | cons c s => exact h ⟨s, by rw [(List.cons.inj hu).1]⟩

/-- The marks behind a text do not make marks in front of it. -/
theorem startsWith_marks_append_marks (hs : s ≠ []) (h : ¬ ∃ t, s = '[' :: ']' :: t) :
    startsWith (s ++ ['[', ']']) ['[', ']'] = false := by
  rw [← Bool.not_eq_true, startsWith, List.isPrefixOf_iff_prefix]
  rintro ⟨u, hu⟩
  cases s with
  | nil => exact hs rfl
  | cons c s =>
    have hc : '[' = c := (List.cons.inj hu).1
    cases s with
    | nil => exact absurd (List.cons.inj (List.cons.inj hu).2).1 (by decide)
    | cons d s =>
      have hd : ']' = d := (List.cons.inj (List.cons.inj hu).2).1
      exact h ⟨s, by rw [hc, hd]⟩

end Chars

/-! ## Readings that agree -/

namespace Reading

variable {α β : Type} {x y : Reading α}

/-- Reading comes to a text that is no type. -/
def IsInvalid (x : Reading α) : Prop := ∃ e, x.outcome = .error (.invalidExpression e)

/-- Two readings meet the same map types, and come to the same or both to a text that is no type. -/
structure Agrees (x y : Reading α) : Prop where
  maps_eq : x.maps = y.maps
  outcome_eq : x.outcome = y.outcome ∨ x.IsInvalid ∧ y.IsInvalid

theorem Agrees.refl (x : Reading α) : Agrees x x := ⟨rfl, .inl rfl⟩

theorem Agrees.bind (h : Agrees x y) (f : α → Reading β) : Agrees (x.bind f) (y.bind f) := by
  obtain ⟨ms, a⟩ := x
  obtain ⟨ns, b⟩ := y
  obtain ⟨hmaps, heq | ⟨⟨e, he⟩, e', he'⟩⟩ := h
  · obtain rfl : ms = ns := hmaps
    obtain rfl : a = b := heq
    exact .refl _
  · obtain rfl : ms = ns := hmaps
    obtain rfl : a = _ := he
    obtain rfl : b = _ := he'
    exact ⟨rfl, .inr ⟨⟨e, rfl⟩, e', rfl⟩⟩

end Reading

/-! ## Texts with marks -/

/-- Whether a text has a bracket in it or a star in front. -/
def Chars.isBracketed (s : List Char) : Bool :=
  startsWith s ['*'] || s.contains '[' || s.contains ']'

namespace Registry

/-- No narrowed built-in type and no alias has a name with a bracket in it or a star in front. -/
structure Unbracketed (r : Registry) : Prop where
  of_primitive : ∀ n, (r.primitive? n).isSome = true → isBracketed n.toList = false
  of_alias : ∀ n ∈ r.aliases.keys, isBracketed n.toList = false

variable {r : Registry} {s t u : List Char} {e : String}

theorem isBracketed_words :
    ∀ w ∈ Form.nothingWords ++ Form.anythingWords, isBracketed w.toList = false := by
  decide

/-- An identifier has no bracket in it and no star in front. -/
theorem PlainNames.unbracketed (hr : r.PlainNames) : r.Unbracketed := by
  have key : ∀ n, Form.IsPlainName n → isBracketed n.toList = false := by
    intro n hn
    have hno := fun c hw hc => not_mem_of_isIdentifier hn.isIdentifier (c := c) hw hc
    simp [isBracketed, startsWith_eq_false List.mem_cons_self (hno '*' (by decide) (by decide)),
      hno '[' (by decide) (by decide), hno ']' (by decide) (by decide)]
  exact ⟨fun n hn => key n (hr.of_primitive n hn), fun n hn => key n (hr.of_alias n hn)⟩

namespace Unbracketed

/-- A text with a mark reads by its shape. -/
theorem form_eq (hr : r.Unbracketed) (hbar : ¬ " | ".toList <:+: s) (hs : isBracketed s = true) :
    Form.of r (String.ofList s) = Form.ofShape (String.ofList s) := by
  have hlist : (String.ofList s).toList = s := String.toList_ofList
  have hno : ∀ {P : Prop}, (P → isBracketed (String.ofList s).toList = false) → ¬ P := by
    intro P h hp
    rw [hlist] at h
    rw [h hp] at hs
    exact absurd hs (by simp)
  have hword := hno (isBracketed_words (String.ofList s))
  rw [List.mem_append, not_or] at hword
  refine Form.of_eq_ofShape_of_not_infix (by rwa [hlist]) hword.1 hword.2 ?_ ?_
  · exact Option.not_isSome_iff_eq_none.1 (hno (hr.of_primitive _))
  · exact Dict.get?_eq_none_iff.2 (hno (hr.of_alias _))

/-- A star in front of a text is passed over. -/
theorem readFrom_star (hr : r.Unbracketed) (hs : s ≠ []) (hbar : ¬ " | ".toList <:+: s)
    (seen : List String) :
    r.readFrom seen (String.ofList ('*' :: s)) = r.readFrom seen (String.ofList (strip s)) := by
  have hf := hr.form_eq (fun h => hbar (bar_infix_cons (by decide) h))
    (by simp [isBracketed, startsWith] : isBracketed ('*' :: s) = true)
  rw [readFrom_eq, hf, Form.ofShape_star hs]

/-- Marks in front of a text give an array of what is behind them. -/
theorem readFrom_marks (hr : r.Unbracketed) (hs : s ≠ []) (hbar : ¬ " | ".toList <:+: s)
    (seen : List String) : r.readFrom seen (String.ofList ('[' :: ']' :: s)) =
      (r.readFrom seen (String.ofList (strip s))).bind fun d => .pure (.arrayOf d) := by
  have hf := hr.form_eq (fun h => hbar (bar_infix_cons (by decide) (bar_infix_cons (by decide) h)))
    (by simp [isBracketed] : isBracketed ('[' :: ']' :: s) = true)
  exact readFrom_array (hf.trans (Form.ofShape_marks hs)) seen

/-- Marks behind a text give an array of what is in front of them, if no other marks stand in front
of the text. -/
theorem readFrom_append_marks (hr : r.Unbracketed) (hs : s ≠ []) (hbar : ¬ " | ".toList <:+: s)
    (hstar : startsWith (s ++ ['[', ']']) ['*'] = false)
    (hmarks : startsWith (s ++ ['[', ']']) ['[', ']'] = false) (seen : List String) :
    r.readFrom seen (String.ofList (s ++ ['[', ']'])) =
      (r.readFrom seen (String.ofList (strip s))).bind fun d => .pure (.arrayOf d) := by
  have hf := hr.form_eq (fun h => hbar (bar_infix_append_marks h))
    (by simp [isBracketed] : isBracketed (s ++ ['[', ']']) = true)
  exact readFrom_array (hf.trans (Form.ofShape_append_marks_of_not hs hstar hmarks)) seen

/-- A star alone and marks alone are no types. -/
theorem readFrom_mark (hr : r.Unbracketed) (hs : s ∈ [['*'], ['[', ']']]) (seen : List String) :
    r.readFrom seen (String.ofList s) = .fault (.invalidExpression (String.ofList s)) := by
  have hf : Form.of r (String.ofList s) = .invalid := by
    simp only [List.mem_cons, List.not_mem_nil, or_false] at hs
    rcases hs with rfl | rfl
    · exact hr.form_eq (by decide) (by decide)
    · exact hr.form_eq (by decide) (by decide)
  rw [readFrom_eq, hf]

/-- **Marks behind a text read like an array of it.**  The induction is on the length of the text: a
star or marks in front of it are read before those behind it, and leave a shorter text. -/
theorem agrees_append_marks (hr : r.Unbracketed) (seen : List String) (hs : Trimmed s)
    (hbar : ¬ " | ".toList <:+: s) :
    ((r.readFrom seen (String.ofList s)).bind fun d => .pure (.arrayOf d)).Agrees
      (r.readFrom seen (String.ofList (s ++ ['[', ']']))) := by
  induction hn : s.length using Nat.strong_induction_on generalizing s with
  | h n ih =>
  -- the text behind a mark is trimmed alike, with and without marks behind it
  have behind : ∀ {u t : List Char}, s = u ++ t → u ≠ [] → t ≠ [] → ¬ " | ".toList <:+: t ∧
      strip (t ++ ['[', ']']) = strip t ++ ['[', ']'] ∧
        ((r.readFrom seen (String.ofList (strip t))).bind fun d => .pure (.arrayOf d)).Agrees
          (r.readFrom seen (String.ofList (strip t ++ ['[', ']']))) := by
    rintro u t rfl hu ht
    have hlast : ∀ c ∈ t.getLast?, isBlank c = false := fun c hc =>
      hs.isBlank_of_mem_getLast? (by rwa [List.getLast?_append_of_ne_nil _ ht])
    have hbar' : ¬ " | ".toList <:+: t := fun h => hbar (h.trans (List.suffix_append u t).isInfix)
    have hlen := length_strip_le t
    have hpos := List.length_pos_iff.2 hu
    rw [List.length_append] at hn
    exact ⟨hbar', strip_append ht hlast isBlank_of_mem_marks, ih (strip t).length (by omega)
      (trimmed_strip (strip_ne_nil ht hlast)) (fun h => hbar' (h.trans (strip_isInfix t))) rfl⟩
  have hmark : strip ['[', ']'] = ['[', ']'] := by decide
  by_cases hstar : ∃ t, s = '*' :: t
  · obtain ⟨t, rfl⟩ := hstar
    rcases eq_or_ne t [] with rfl | ht
    · -- a star alone: what is left is another text that is no type
      rw [hr.readFrom_mark (s := ['*']) (by simp), List.cons_append, List.nil_append,
        hr.readFrom_star (by simp) (by decide), hmark, hr.readFrom_mark (by simp)]
      exact ⟨rfl, .inr ⟨⟨_, rfl⟩, _, rfl⟩⟩
    · obtain ⟨hbar', hstrip, hagrees⟩ := behind (u := ['*']) rfl (by simp) ht
      rw [hr.readFrom_star ht hbar', List.cons_append, hr.readFrom_star (by simp)
        fun h => hbar' (bar_infix_append_marks h), hstrip]
      exact hagrees
  by_cases hmarks : ∃ t, s = '[' :: ']' :: t
  · obtain ⟨t, rfl⟩ := hmarks
    rcases eq_or_ne t [] with rfl | ht
    · rw [List.cons_append, List.cons_append, List.nil_append,
        hr.readFrom_marks (s := ['[', ']']) (by simp) (by decide), hmark]
      exact .refl _
    · obtain ⟨hbar', hstrip, hagrees⟩ := behind (u := ['[', ']']) rfl (by simp) ht
      rw [hr.readFrom_marks ht hbar', List.cons_append, List.cons_append,
        hr.readFrom_marks (by simp) fun h => hbar' (bar_infix_append_marks h), hstrip]
      exact hagrees.bind _
  · rw [hr.readFrom_append_marks hs.ne_nil hbar (startsWith_star_append_marks hs.ne_nil hstar)
      (startsWith_marks_append_marks hs.ne_nil hmarks), hs.strip_eq]
    exact .refl _

end Unbracketed

/-- **The two notations for arrays agree**: marks in front of an expression and marks behind it.
Both resolve to the same and leave the same registry, or both are no type. -/
theorem resolve_marks (hr : r.Unbracketed) (he : Text.strip e = e) (hne : e ≠ "")
    (hbar : ¬ " | ".toList <:+: e.toList) :
    (r.resolve ("[]" ++ e)).1 = (r.resolve (e ++ "[]")).1 ∧
      ((r.resolve ("[]" ++ e)).2 = (r.resolve (e ++ "[]")).2 ∨
        ∃ p q, (r.resolve ("[]" ++ e)).2 = .error (.invalidExpression p) ∧
          (r.resolve (e ++ "[]")).2 = .error (.invalidExpression q)) := by
  have hs : Trimmed e.toList := by
    refine ⟨by simpa using hne, ?_⟩
    rw [← Text.toList_strip, he]
  have hmarks : Trimmed ['[', ']'] := by decide
  -- with the marks the expression is still trimmed
  have hfront : r.read ("[]" ++ e) = (r.readFrom [] e).bind fun d => .pure (.arrayOf d) := by
    have hlist : ("[]" ++ e).toList = ['[', ']'] ++ ([] ++ e.toList) := by simp
    rw [read, Text.strip, hlist, (hmarks.append [] hs).strip_eq]
    have h := hr.readFrom_marks hs.ne_nil hbar []
    rw [hs.strip_eq, String.ofList_toList] at h
    exact h
  have hback : r.read (e ++ "[]") = r.readFrom [] (String.ofList (e.toList ++ ['[', ']'])) := by
    have hlist : (e ++ "[]").toList = e.toList ++ ([] ++ ['[', ']']) := by simp
    rw [read, Text.strip, hlist, (hs.append [] hmarks).strip_eq, List.nil_append]
  have hagrees := hr.agrees_append_marks [] hs hbar
  rw [String.ofList_toList, ← hfront, ← hback] at hagrees
  rw [resolve_eq, resolve_eq, hagrees.maps_eq]
  cases hreg : r.register (r.read (e ++ "[]")).maps with
  | mk s outcome =>
    cases outcome with
    | error fault => exact ⟨rfl, .inl rfl⟩
    | ok u =>
      refine ⟨rfl, hagrees.outcome_eq.imp_right ?_⟩
      rintro ⟨⟨p, hp⟩, q, hq⟩
      exact ⟨p, q, hp, hq⟩

/-- An array behind a star, of arrays of maps; and a star alone, which is no type with marks on
either side. -/
theorem resolve_marks_shelves :
    let r : Registry :=
      { definitions := Dict.ofList [("uuid", .primitive { name := "uuid", base := "string" })]
        aliases := Dict.ofList [("BookId", "*uuid"), ("Shelf", "map[BookId]Book")] }
    let e := "*[] map[Shelf] int[]"
    r.Unbracketed ∧
      (∃ s, ∃ d : Descriptor, r.resolve ("[]" ++ e) = (s, .ok d) ∧
        r.resolve (e ++ "[]") = (s, .ok d) ∧ d.name = "map_map_uuid_Book_integer[][][]") ∧
      ∃ s p q, p ≠ q ∧ r.resolve ("[]" ++ "*") = (s, .error (.invalidExpression p)) ∧
        r.resolve ("*" ++ "[]") = (s, .error (.invalidExpression q)) := by
  intro r e
  have hr : r.Unbracketed := (by decide +kernel : r.PlainNames).unbracketed
  have hbar : ¬ " | ".toList <:+: e.toList := by decide +kernel
  have hbar' : ¬ " | ".toList <:+: "*".toList := by decide +kernel
  have he : (r.resolve (e ++ "[]")).2 = .ok ⟨.array, "map_map_uuid_Book_integer[][][]",
      ["map_map_uuid_Book_integer", "map_uuid_Book", "uuid", "Book"]⟩ := by decide +kernel
  have hfront : (r.resolve ("[]" ++ "*")).2 = .error (.invalidExpression "*") := by decide +kernel
  have hback : (r.resolve ("*" ++ "[]")).2 = .error (.invalidExpression "[]") := by decide +kernel
  obtain ⟨hreg, hsame | ⟨p, q, -, hq⟩⟩ := resolve_marks hr (by decide +kernel) (by decide) hbar
  · have hstrip : Text.strip "*" = "*" := by decide +kernel
    obtain ⟨hreg', -⟩ := resolve_marks hr hstrip (by decide) hbar'
    refine ⟨hr, ⟨_, _, resolve_eq_mk (hsame.trans he), ?_, rfl⟩, _, "*", "[]", by decide,
      resolve_eq_mk hfront, ?_⟩
    · rw [hreg]
      exact resolve_eq_mk he
    · rw [hreg']
      exact resolve_eq_mk hback
  · exact absurd (he.symm.trans hq) (by simp)

end Registry

end RouteDoc
