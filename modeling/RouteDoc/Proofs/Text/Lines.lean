import RouteDoc.Proofs.Text.Trim
import RouteDoc.Source.Docstring

/-!
# Lines of a text

* `Chars.splitLines_joinWith`: lines that are joined by line feeds are the same lines again, unless
  the last one is empty.
* `Chars.splitLines_trim_joinWith`: **with the line feeds at its ends left out, a text loses the
  empty lines at its ends.**
-/

namespace RouteDoc

namespace Chars

/-- A line: no character of it ends a line. -/
def Unbroken (l : List Char) : Prop := ∀ c ∈ l, isLineBreak c = false

theorem unbroken_nil : Unbroken [] := fun _ h => absurd h List.not_mem_nil

theorem unbroken_cons {c : Char} {l : List Char} :
    Unbroken (c :: l) ↔ isLineBreak c = false ∧ Unbroken l :=
  List.forall_mem_cons

theorem Unbroken.newline_not_mem {l : List Char} (h : Unbroken l) : '\n' ∉ l := fun hmem => by
  have hbreak : isLineBreak '\n' = true := by decide
  rw [h '\n' hmem] at hbreak
  exact absurd hbreak (by simp)

/-! ## Cutting and joining -/

theorem splitLines_cons {c : Char} (h : isLineBreak c = false) (s : List Char) :
    splitLines (c :: s) = consHead c (splitLines s) := by
  have hc : c ≠ '\r' := by
    rintro rfl
    exact absurd h (by decide)
  rw [splitLines, if_neg (by simp [h])]
  exact fun r hcr => absurd hcr hc

theorem splitLines_append_newline {l : List Char} (h : Unbroken l) (s : List Char) :
    splitLines (l ++ '\n' :: s) = l :: splitLines s := by
  induction l with
  | nil =>
    rw [List.nil_append, splitLines, if_pos (by decide)]
    exact fun r hr => absurd hr (by decide)
  | cons c l ih =>
    obtain ⟨hc, hl⟩ := unbroken_cons.1 h
    rw [List.cons_append, splitLines_cons hc, ih hl, consHead]

theorem splitLines_eq_singleton {l : List Char} (hne : l ≠ []) (h : Unbroken l) :
    splitLines l = [l] := by
  induction l with
  | nil => exact absurd rfl hne
  | cons c l ih =>
    obtain ⟨hc, hl⟩ := unbroken_cons.1 h
    rw [splitLines_cons hc]
    cases l with
    | nil => rfl
    | cons d l => rw [ih (by simp) hl, consHead]

/-- Lines that are joined are the same lines again, unless the last one is empty. -/
theorem splitLines_joinWith {ls : List (List Char)} (h : ∀ l ∈ ls, Unbroken l)
    (hlast : ls.getLast? ≠ some []) : splitLines (joinWith ['\n'] ls) = ls := by
  induction ls with
  | nil => rfl
  | cons l ls ih =>
    have hl := h l List.mem_cons_self
    cases ls with
    | nil =>
      rw [joinWith]
      exact splitLines_eq_singleton (by simpa using hlast) hl
    | cons m ms =>
      rw [joinWith_cons (by simp), List.append_assoc, List.singleton_append,
        splitLines_append_newline hl, ih (fun k hk => h k (List.mem_cons_of_mem l hk)) hlast]

theorem unbroken_of_mem_consHead {c : Char} {ls : List (List Char)} (hc : isLineBreak c = false)
    (h : ∀ l ∈ ls, Unbroken l) : ∀ l ∈ consHead c ls, Unbroken l := by
  cases ls with
  | nil => simpa [consHead] using unbroken_cons.2 ⟨hc, unbroken_nil⟩
  | cons m ms =>
    rw [consHead, List.forall_mem_cons] at *
    exact ⟨unbroken_cons.2 ⟨hc, h.1⟩, h.2⟩

theorem unbroken_of_mem_splitLines {s : List Char} : ∀ l ∈ splitLines s, Unbroken l := by
  induction s using splitLines.induct with
  | case1 => simp [splitLines]
  | case2 r ih =>
    rw [splitLines]
    exact List.forall_mem_cons.2 ⟨unbroken_nil, ih⟩
  | case3 c r hcr hbreak ih =>
    rw [splitLines, if_pos hbreak]
    · exact List.forall_mem_cons.2 ⟨unbroken_nil, ih⟩
    · exact hcr
  | case4 c r hcr hbreak ih =>
    rw [splitLines, if_neg hbreak]
    · exact unbroken_of_mem_consHead (by simpa using hbreak) ih
    · exact hcr

/-! ## Trimming -/

theorem reverse_joinWith (sep : Char) (ls : List (List Char)) :
    (joinWith [sep] ls).reverse = joinWith [sep] (ls.reverse.map List.reverse) := by
  induction ls with
  | nil => rfl
  | cons l ls ih =>
    cases ls with
    | nil => simp [joinWith]
    | cons m ms =>
      have hrev : (l :: m :: ms).reverse.map List.reverse =
          (m :: ms).reverse.map List.reverse ++ [l.reverse] := by
        rw [List.reverse_cons, List.map_append, List.map_singleton]
      rw [joinWith_cons (by simp), List.reverse_append, List.reverse_append, ih, hrev,
        joinWith_append (by simp) (by simp), List.append_assoc]
      rfl

/-- What stands in front of the first line that is not empty is dropped. -/
theorem dropWhile_joinWith {sep : Char} {ls : List (List Char)} (h : ∀ l ∈ ls, sep ∉ l) :
    (joinWith [sep] ls).dropWhile (· == sep) = joinWith [sep] (ls.dropWhile (· == [])) := by
  induction ls with
  | nil => rfl
  | cons l ls ih =>
    have hl := h l List.mem_cons_self
    have hls := ih fun k hk => h k (List.mem_cons_of_mem l hk)
    cases l with
    | nil =>
      rw [List.dropWhile_cons_of_pos (by rfl), ← hls]
      cases ls with
      | nil => rfl
      | cons m ms =>
        rw [joinWith_cons (by simp), List.nil_append, List.singleton_append,
          List.dropWhile_cons_of_pos (by simp)]
    | cons c l =>
      rw [List.dropWhile_cons_of_neg (by simp)]
      refine dropWhile_eq_self fun d hd => ?_
      rw [head?_joinWith (by simp)] at hd
      obtain rfl : c = d := by simpa using hd
      simpa using fun hc : c = sep => hl (hc ▸ List.mem_cons_self)

/-- With the separators at its ends left out, a text loses the empty pieces at its ends. -/
theorem trim_joinWith {sep : Char} {ls : List (List Char)} (h : ∀ l ∈ ls, sep ∉ l) :
    trim (· == sep) (joinWith [sep] ls) = joinWith [sep] (Docstring.trimLines ls) := by
  have hdrop : ∀ l ∈ (ls.dropWhile (· == [])).reverse.map List.reverse, sep ∉ l := by
    intro l hl
    obtain ⟨k, hk, rfl⟩ := List.mem_map.1 hl
    rw [List.mem_reverse]
    exact h k ((List.dropWhile_sublist _).subset (List.mem_reverse.1 hk))
  have hempty : ((· == []) ∘ List.reverse : List Char → Bool) = (· == []) := by
    funext l
    simp [Function.comp]
  have hid : (List.reverse ∘ List.reverse : List Char → List Char) = id :=
    funext List.reverse_reverse
  rw [trim, dropEnd, dropWhile_joinWith h, reverse_joinWith, dropWhile_joinWith hdrop,
    reverse_joinWith, List.dropWhile_map, hempty, ← List.map_reverse, List.map_map,
    hid, List.map_id, Docstring.trimLines]

/-- The first line that stays is not empty. -/
theorem head?_trimLines (ls : List (List Char)) : (Docstring.trimLines ls).head? ≠ some [] := by
  intro h
  have hprefix : Docstring.trimLines ls <+: ls.dropWhile (· == []) := by
    have hsuffix := List.dropWhile_suffix (l := (ls.dropWhile (· == [])).reverse) (· == [])
    rw [← List.reverse_prefix, List.reverse_reverse] at hsuffix
    exact hsuffix
  obtain ⟨t, ht⟩ := hprefix
  have hnot := List.head?_dropWhile_not (· == []) ls
  rw [← ht, List.head?_append, h] at hnot
  exact absurd hnot (by simp)

/-- The last line that stays is not empty. -/
theorem getLast?_trimLines (ls : List (List Char)) :
    (Docstring.trimLines ls).getLast? ≠ some [] := by
  intro h
  rw [Docstring.trimLines, List.getLast?_reverse] at h
  have hnot := List.head?_dropWhile_not (· == []) (ls.dropWhile (· == [])).reverse
  rw [h] at hnot
  exact absurd hnot (by simp)

theorem dropWhile_empty_eq_self {ls : List (List Char)} (h : ls.head? ≠ some []) :
    ls.dropWhile (· == []) = ls := by
  cases ls with
  | nil => rfl
  | cons l ls => exact List.dropWhile_cons_of_neg (by simpa using h)

theorem trimLines_eq_self_iff {ls : List (List Char)} :
    Docstring.trimLines ls = ls ↔ ls.head? ≠ some [] ∧ ls.getLast? ≠ some [] := by
  constructor
  · intro h
    rw [← h]
    exact ⟨head?_trimLines ls, getLast?_trimLines ls⟩
  · rintro ⟨hhead, hlast⟩
    rw [Docstring.trimLines, dropWhile_empty_eq_self hhead, dropWhile_empty_eq_self,
      List.reverse_reverse]
    rwa [List.head?_reverse]

/-- Lines without the empty ones at their ends. -/
theorem exists_trimLines_append (ls : List (List Char)) :
    ∃ first last, ls = first ++ (Docstring.trimLines ls ++ last) ∧
      (∀ l ∈ first, l = []) ∧ ∀ l ∈ last, l = [] := by
  refine ⟨ls.takeWhile (· == []),
    ((ls.dropWhile (· == [])).reverse.takeWhile (· == [])).reverse, ?_, fun l hl => ?_,
    fun l hl => ?_⟩
  · rw [Docstring.trimLines, ← List.reverse_append, List.takeWhile_append_dropWhile,
      List.reverse_reverse, List.takeWhile_append_dropWhile]
  · simpa using List.mem_takeWhile_imp hl
  · simpa using List.mem_takeWhile_imp (List.mem_reverse.1 hl)

/-- **With the line feeds at its ends left out, a text loses the empty lines at its ends.** -/
theorem splitLines_trim_joinWith {ls : List (List Char)} (h : ∀ l ∈ ls, Unbroken l) :
    splitLines (trim (· == '\n') (joinWith ['\n'] ls)) = Docstring.trimLines ls := by
  obtain ⟨first, last, hls, -, -⟩ := exists_trimLines_append ls
  rw [trim_joinWith fun l hl => (h l hl).newline_not_mem]
  refine splitLines_joinWith (fun l hl => h l ?_) (getLast?_trimLines ls)
  rw [hls]
  exact List.mem_append_right _ (List.mem_append_left _ hl)

end Chars

end RouteDoc
