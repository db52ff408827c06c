import RouteDoc.Proofs.Text.Pieces
import Mathlib.Data.List.Basic
import Mathlib.Data.List.TakeWhile

/-!
# Trimmed texts and lines

* `Chars.dropEnd_cons`, `Chars.dropEnd_append`: what a text loses at its end.
* `Chars.dropWhile_dropEnd`: the ends of a text are trimmed in any order.
* `Chars.Trimmed`: a text that is not empty and has nothing to trim.
-/

namespace RouteDoc

namespace Chars

variable {p q : Char → Bool} {s t : List Char}

/-! ## The front of a text -/

/-- Characters of one class are dropped with those of a larger one. -/
theorem dropWhile_dropWhile_of_imp (h : ∀ c, p c = true → q c = true) (s : List Char) :
    (s.dropWhile p).dropWhile q = s.dropWhile q := by
  induction s with
  | nil => rfl
  | cons c s ih =>
    by_cases hp : p c = true
    · rw [List.dropWhile_cons_of_pos hp, List.dropWhile_cons_of_pos (h c hp), ih]
    · rw [List.dropWhile_cons_of_neg hp]

/-- Nothing is dropped from a text that begins with another character. -/
theorem dropWhile_eq_self (h : ∀ c ∈ s.head?, p c = false) : s.dropWhile p = s := by
  cases s with
  | nil => rfl
  | cons c s => exact List.dropWhile_cons_of_neg (by simp [h c rfl])

theorem isBlank_of_isIndent {c : Char} (h : isIndent c = true) : isBlank c = true := by
  simp only [isIndent, Bool.or_eq_true, beq_iff_eq] at h
  rcases h with rfl | rfl <;> decide

/-! ## The end of a text -/

/-- A text is what is left of it, and what was dropped. -/
theorem exists_dropEnd_append (p : Char → Bool) (s : List Char) :
    ∃ t, (∀ c ∈ t, p c = true) ∧ s = dropEnd p s ++ t := by
  refine ⟨(s.reverse.takeWhile p).reverse, fun c hc => ?_, ?_⟩
  · exact List.mem_takeWhile_imp (List.mem_reverse.1 hc)
  · rw [dropEnd, ← List.reverse_append, List.takeWhile_append_dropWhile, List.reverse_reverse]

theorem dropEnd_isPrefix (p : Char → Bool) (s : List Char) : dropEnd p s <+: s := by
  obtain ⟨t, -, ht⟩ := exists_dropEnd_append p s
  exact ⟨t, ht.symm⟩

theorem dropEnd_eq_nil_iff : dropEnd p s = [] ↔ ∀ c ∈ s, p c = true := by
  simp [dropEnd, List.dropWhile_eq_nil_iff]

/-- What begins with other characters loses something behind them only. -/
theorem dropEnd_append (hs : ∀ c ∈ s, p c = false) (t : List Char) :
    dropEnd p (s ++ t) = s ++ dropEnd p t := by
  have hself : s.reverse.dropWhile p = s.reverse := by
    refine dropWhile_eq_self fun c hc => hs c ?_
    exact List.mem_reverse.1 (List.mem_of_mem_head? hc)
  rw [dropEnd, List.reverse_append, List.dropWhile_append, dropEnd]
  split
  · rename_i h
    rw [List.isEmpty_iff.1 h, hself, List.reverse_nil, List.append_nil, List.reverse_reverse]
  · rw [List.reverse_append, List.reverse_reverse]

theorem dropEnd_append_of_pos (s : List Char) (ht : ∀ c ∈ t, p c = true) :
    dropEnd p (s ++ t) = dropEnd p s := by
  have hrev : ∀ c ∈ t.reverse, p c = true := fun c hc => ht c (List.mem_reverse.1 hc)
  rw [dropEnd, List.reverse_append, List.dropWhile_append_of_pos hrev, dropEnd]

theorem dropEnd_cons (p : Char → Bool) (c : Char) (s : List Char) :
    dropEnd p (c :: s) = if p c = true ∧ dropEnd p s = [] then [] else c :: dropEnd p s := by
  split
  · rename_i h
    rw [dropEnd_eq_nil_iff]
    rintro d (_ | ⟨_, hd⟩)
    · exact h.1
    · exact dropEnd_eq_nil_iff.1 h.2 d hd
  · rename_i h
    rw [dropEnd, List.reverse_cons, List.dropWhile_append]
    split
    · rename_i hnil
      have hs : dropEnd p s = [] := by rw [dropEnd, List.isEmpty_iff.1 hnil, List.reverse_nil]
      rw [hs, List.dropWhile_cons_of_neg fun hc => h ⟨hc, hs⟩, List.reverse_singleton]
    · rw [List.reverse_append, List.reverse_singleton, List.singleton_append, dropEnd]

theorem dropEnd_cons_of_neg {c : Char} (hc : p c = false) (s : List Char) :
    dropEnd p (c :: s) = c :: dropEnd p s := by
  rw [dropEnd_cons, if_neg (by simp [hc])]

theorem dropEnd_eq_self (h : ∀ c ∈ s.getLast?, p c = false) : dropEnd p s = s := by
  rw [dropEnd, dropWhile_eq_self (by rwa [List.head?_reverse]), List.reverse_reverse]

/-- Nothing is dropped in front of a character that stays. -/
theorem dropEnd_append_cons {c : Char} (hc : p c = false) (s t : List Char) :
    dropEnd p (s ++ c :: t) = s ++ c :: dropEnd p t := by
  induction s with
  | nil => exact dropEnd_cons_of_neg hc t
  | cons d s ih =>
    rw [List.cons_append, dropEnd_cons, ih, if_neg (by simp), List.cons_append]

/-- A text that is not dropped as a whole keeps its first character. -/
theorem head?_dropEnd (h : dropEnd p s ≠ []) : (dropEnd p s).head? = s.head? := by
  obtain ⟨t, -, ht⟩ := exists_dropEnd_append p s
  conv_rhs => rw [ht]
  rw [List.head?_append, List.head?_eq_some_head h, Option.some_or]

theorem dropEnd_dropEnd (p : Char → Bool) (s : List Char) :
    dropEnd p (dropEnd p s) = dropEnd p s := by
  rw [dropEnd, dropEnd, List.reverse_reverse, dropWhile_dropWhile_of_imp fun _ => id]

/-- The ends of a text are trimmed in any order. -/
theorem dropWhile_dropEnd (s : List Char) :
    (dropEnd p s).dropWhile q = dropEnd p (s.dropWhile q) := by
  induction s with
  | nil => rfl
  | cons c s ih =>
    by_cases hq : q c = true
    · rw [List.dropWhile_cons_of_pos hq, ← ih, dropEnd_cons]
      split
      · rename_i hnil
        rw [hnil.2]
      · rw [List.dropWhile_cons_of_pos hq]
    · rw [List.dropWhile_cons_of_neg hq]
      refine dropWhile_eq_self fun d hd => ?_
      rw [dropEnd_cons] at hd
      split at hd
      · exact absurd hd (by simp)
      · obtain rfl : c = d := by simpa using hd
        simpa using hq

/-! ## Both ends of a text -/

theorem trim_isInfix (p : Char → Bool) (s : List Char) : trim p s <:+: s :=
  (dropEnd_isPrefix p _).isInfix.trans (List.dropWhile_suffix p).isInfix

theorem eq_false_of_mem_head?_trim {c : Char} (h : c ∈ (trim p s).head?) : p c = false := by
  rw [trim, ← dropWhile_dropEnd] at h
  exact eq_false_of_mem_head?_dropWhile h

theorem eq_false_of_mem_getLast?_trim {c : Char} (h : c ∈ (trim p s).getLast?) : p c = false := by
  rw [trim, dropEnd, List.getLast?_reverse] at h
  exact eq_false_of_mem_head?_dropWhile h

theorem strip_eq_dropEnd (s : List Char) : strip s = dropEnd isBlank (s.dropWhile isBlank) := rfl

theorem strip_dropEnd (s : List Char) : strip (dropEnd isBlank s) = strip s := by
  rw [strip_eq_dropEnd, dropWhile_dropEnd, dropEnd_dropEnd, strip_eq_dropEnd]

theorem strip_dropWhile (h : ∀ c, p c = true → isBlank c = true) (s : List Char) :
    strip (s.dropWhile p) = strip s := by
  rw [strip_eq_dropEnd, dropWhile_dropWhile_of_imp h, strip_eq_dropEnd]

/-- Blanks behind a text are left out. -/
theorem strip_append_of_pos (s : List Char) (ht : ∀ c ∈ t, isBlank c = true) :
    strip (s ++ t) = strip s := by
  rw [← strip_dropEnd, dropEnd_append_of_pos s ht, strip_dropEnd]

/-- A character that stays is trimmed on neither side. -/
theorem strip_append_cons (hs : s.dropWhile isBlank ≠ []) {c : Char} (hc : isBlank c = false)
    (t : List Char) : strip (s ++ c :: t) = s.dropWhile isBlank ++ c :: dropEnd isBlank t := by
  rw [strip_eq_dropEnd, List.dropWhile_append, if_neg (by simpa using hs),
    dropEnd_append_cons hc]

/-! ## The first word -/

theorem takeWhile_append_cons (hs : ∀ c ∈ s, p c = true) {c : Char} (hc : p c = false)
    (t : List Char) : (s ++ c :: t).takeWhile p = s := by
  rw [List.takeWhile_append_of_pos hs, List.takeWhile_cons_of_neg (by simp [hc]), List.append_nil]

theorem dropWhile_append_cons (hs : ∀ c ∈ s, p c = true) {c : Char} (hc : p c = false)
    (t : List Char) : (s ++ c :: t).dropWhile p = c :: t := by
  rw [List.dropWhile_append_of_pos hs, List.dropWhile_cons_of_neg (by simp [hc])]

/-- The first word ends in front of the first blank. -/
theorem firstWord_append (hs : ∀ c ∈ s, isBlank c = false) {c : Char} (hc : isBlank c = true)
    (t : List Char) : firstWord (s ++ c :: t) = (s, t.dropWhile isBlank) := by
  have hword : ∀ d ∈ s, (!isBlank d) = true := fun d hd => by rw [hs d hd, Bool.not_false]
  have hend : (!isBlank c) = false := by rw [hc, Bool.not_true]
  rw [firstWord, takeWhile_append_cons hword hend, dropWhile_append_cons hword hend,
    List.dropWhile_cons_of_pos hc]

/-! ## Trimmed texts -/

theorem strip_cons_of_pos {c : Char} (hc : isBlank c = true) (s : List Char) :
    strip (c :: s) = strip s := by
  rw [strip_eq_dropEnd, List.dropWhile_cons_of_pos hc, strip_eq_dropEnd]

theorem strip_cons_of_neg {c : Char} (hc : isBlank c = false) (s : List Char) :
    strip (c :: s) = c :: dropEnd isBlank s := by
  rw [strip_eq_dropEnd, List.dropWhile_cons_of_neg (by simp [hc]), dropEnd_cons_of_neg hc]

theorem strip_isInfix (s : List Char) : strip s <:+: s := trim_isInfix isBlank s

/-- A text that ends in no blank is trimmed at its front only. -/
theorem strip_eq_dropWhile (h : ∀ c ∈ s.getLast?, isBlank c = false) :
    strip s = s.dropWhile isBlank := by
  rw [strip_eq_dropEnd, ← dropWhile_dropEnd, dropEnd_eq_self h]

theorem strip_ne_nil (hne : s ≠ []) (h : ∀ c ∈ s.getLast?, isBlank c = false) :
    strip s ≠ [] := by
  rw [strip_eq_dropWhile h, Ne, List.dropWhile_eq_nil_iff]
  intro hall
  have hblank := hall _ (List.getLast_mem hne)
  rw [h _ (List.getLast?_eq_some_getLast hne)] at hblank
  exact absurd hblank (by simp)

/-- Text without blanks that stands behind a text that ends in no blank stays there. -/
theorem strip_append (hne : s ≠ []) (h : ∀ c ∈ s.getLast?, isBlank c = false)
    (ht : ∀ c ∈ t, isBlank c = false) : strip (s ++ t) = strip s ++ t := by
  have hst : ∀ c ∈ (s ++ t).getLast?, isBlank c = false := by
    intro c hc
    rcases List.eq_nil_or_concat t with rfl | ⟨init, d, rfl⟩
    · rw [List.append_nil] at hc
      exact h c hc
    · exact ht c (by simp_all)
  have hdrop : s.dropWhile isBlank ≠ [] := strip_eq_dropWhile h ▸ strip_ne_nil hne h
  rw [strip_eq_dropWhile hst, strip_eq_dropWhile h, List.dropWhile_append,
    if_neg (by simpa using hdrop)]

/-- A text that is not empty and has nothing to trim. -/
structure Trimmed (s : List Char) : Prop where
  ne_nil : s ≠ []
  strip_eq : strip s = s

instance : DecidablePred Trimmed := fun s =>
  decidable_of_iff (s ≠ [] ∧ strip s = s) ⟨fun h => ⟨h.1, h.2⟩, fun h => ⟨h.1, h.2⟩⟩

theorem Solid.trimmed (h : Solid s) : Trimmed s := ⟨h.1, h.strip_eq⟩

/-- What is left of a text that does not hold blanks only. -/
theorem trimmed_strip (h : strip s ≠ []) : Trimmed (strip s) := ⟨h, strip_strip s⟩

namespace Trimmed

theorem dropEnd_eq (h : Trimmed s) : dropEnd isBlank s = s := by
  rw [← h.strip_eq, strip_eq_dropEnd, dropEnd_dropEnd]

theorem isBlank_of_mem_getLast? (h : Trimmed s) {c : Char} (hc : c ∈ s.getLast?) :
    isBlank c = false := by
  rw [← h.strip_eq] at hc
  exact isBlank_eq_false_of_mem_getLast?_strip hc

/-- A trimmed text begins with a character that is no blank. -/
theorem exists_eq_cons (h : Trimmed s) : ∃ c t, s = c :: t ∧ isBlank c = false := by
  obtain ⟨c, t, rfl⟩ := List.exists_cons_of_ne_nil h.ne_nil
  refine ⟨c, t, rfl, ?_⟩
  by_contra hc
  rw [Bool.not_eq_false] at hc
  -- the text would get shorter
  have hlen := length_strip_le t
  rw [← strip_cons_of_pos hc, h.strip_eq, List.length_cons] at hlen
  omega

/-- Whatever stands between two trimmed texts is not trimmed. -/
theorem append (hs : Trimmed s) (u : List Char) (ht : Trimmed t) : Trimmed (s ++ (u ++ t)) := by
  refine ⟨List.append_ne_nil_of_left_ne_nil hs.ne_nil _,
    strip_eq_self (fun c hc => ?_) fun c hc => ?_⟩
  · obtain ⟨d, s, rfl, hd⟩ := hs.exists_eq_cons
    obtain rfl : d = c := by simpa using hc
    exact hd
  · refine ht.isBlank_of_mem_getLast? ?_
    rwa [← List.append_assoc, List.getLast?_append_of_ne_nil _ ht.ne_nil] at hc

end Trimmed

end Chars

end RouteDoc
