import RouteDoc.Text.Split
import RouteDoc.Proofs.Text.Pieces

/-!
# Pieces of a text

* `Chars.splitAt_append`: a text is cut at one occurrence of the separator, and then on both sides
  of it.
* `Chars.length_splitAt`: there is one piece more than there are separators.
* `Chars.eq_of_splitAt_eq_append`: each way to part the pieces parts the text at a separator.
* `Chars.exists_splitAt_append`: text without separators at the end goes on in the last piece.
* `Chars.cutAt?_append`: a text is cut at its first separator.
* `Chars.splitAt_joinWith`: pieces that are joined are cut into the same pieces again.
-/

namespace RouteDoc

namespace Chars

variable {sep : Char} {s t : List Char}

theorem length_consHead (c : Char) {ls : List (List Char)} (h : ls ≠ []) :
    (consHead c ls).length = ls.length := by
  cases ls with
  | nil => exact absurd rfl h
  | cons l ls => rfl

theorem consHead_append (c : Char) {ls : List (List Char)} (h : ls ≠ []) (ms : List (List Char)) :
    consHead c (ls ++ ms) = consHead c ls ++ ms := by
  cases ls with
  | nil => exact absurd rfl h
  | cons l ls => rfl

/-- A text is cut at one occurrence of the separator, and then on both sides of it. -/
theorem splitAt_append (sep : Char) (s t : List Char) :
    splitAt sep (s ++ sep :: t) = splitAt sep s ++ splitAt sep t := by
  induction s with
  | nil => simp [splitAt]
  | cons c s ih =>
    by_cases hc : c = sep
    · simp [splitAt, hc, ih]
    · simp only [List.cons_append, splitAt, if_neg hc, ih]
      exact consHead_append c (splitAt_ne_nil sep s) _

/-- There is one piece more than there are separators. -/
theorem length_splitAt (sep : Char) (s : List Char) :
    (splitAt sep s).length = s.count sep + 1 := by
  induction s with
  | nil => rfl
  | cons c s ih =>
    by_cases hc : c = sep
    · simp [splitAt, hc, ih]
    · simp only [splitAt, if_neg hc, length_consHead c (splitAt_ne_nil sep s), ih,
        List.count_cons_of_ne hc]

/-- Each way to part the pieces parts the text at a separator. -/
theorem eq_of_splitAt_eq_append {ps qs : List (List Char)} (hp : ps ≠ []) (hq : qs ≠ [])
    (h : splitAt sep s = ps ++ qs) : s = joinWith [sep] ps ++ sep :: joinWith [sep] qs := by
  have hjoin := joinWith_splitAt sep s
  rw [h, joinWith_append hp hq] at hjoin
  simpa using hjoin.symm

theorem not_mem_of_mem_splitAt {p : List Char} (h : p ∈ splitAt sep s) : sep ∉ p := by
  induction s generalizing p with
  | nil =>
    obtain rfl := List.mem_singleton.1 h
    exact List.not_mem_nil
  | cons c s ih =>
    by_cases hc : c = sep
    · rw [splitAt, if_pos hc] at h
      rcases List.mem_cons.1 h with rfl | h
      · exact List.not_mem_nil
      · exact ih h
    · rw [splitAt, if_neg hc] at h
      obtain ⟨l, ls, hl⟩ := List.exists_cons_of_ne_nil (splitAt_ne_nil sep s)
      rw [hl] at h ih
      rcases List.mem_cons.1 h with rfl | h
      · simp [Ne.symm hc, ih List.mem_cons_self]
      · exact ih (List.mem_cons_of_mem l h)

theorem splitAt_eq_singleton {p : List Char} (h : sep ∉ p) : splitAt sep p = [p] := by
  obtain ⟨q, hq⟩ := List.length_eq_one_iff.1
    ((length_splitAt sep p).trans (by rw [List.count_eq_zero.2 h]))
  have hjoin := joinWith_splitAt sep p
  rw [hq, joinWith] at hjoin
  rw [hq, hjoin]

/-- What stands behind the last separator goes on in the last piece. -/
theorem exists_splitAt_append (ht : sep ∉ t) (s : List Char) :
    ∃ init last, splitAt sep s = init ++ [last] ∧ splitAt sep (s ++ t) = init ++ [last ++ t] := by
  induction s with
  | nil => exact ⟨[], [], rfl, splitAt_eq_singleton ht⟩
  | cons c s ih =>
    obtain ⟨init, last, hs, hst⟩ := ih
    by_cases hc : c = sep
    · exact ⟨[] :: init, last, by simp [splitAt, hc, hs], by simp [splitAt, hc, hst]⟩
    · rw [List.cons_append, splitAt, if_neg hc, splitAt, if_neg hc, hs, hst]
      cases init with
      | nil => exact ⟨[], c :: last, rfl, rfl⟩
      | cons p ps => exact ⟨(c :: p) :: ps, last, rfl, rfl⟩

/-- A text is cut at its first separator. -/
theorem cutAt?_append (hs : sep ∉ s) (t : List Char) :
    cutAt? sep (s ++ sep :: t) = some (s, t) := by
  induction s with
  | nil => rw [List.nil_append, cutAt?, if_pos rfl]
  | cons c s ih =>
    obtain ⟨hc, hs⟩ := not_or.1 (mt List.mem_cons.2 hs)
    rw [List.cons_append, cutAt?, if_neg (Ne.symm hc), ih hs, Option.map_some]

/-- Pieces without the separator that are joined are cut into the same pieces again. -/
theorem splitAt_joinWith {ps : List (List Char)} (hne : ps ≠ []) (hps : ∀ p ∈ ps, sep ∉ p) :
    splitAt sep (joinWith [sep] ps) = ps := by
  induction ps with
  | nil => exact absurd rfl hne
  | cons p ps ih =>
    have hp := splitAt_eq_singleton (hps p List.mem_cons_self)
    cases ps with
    | nil => exact hp
    | cons q qs =>
      rw [joinWith_cons (by simp), List.append_assoc, List.singleton_append, splitAt_append, hp,
        ih (by simp) fun r hr => hps r (List.mem_cons_of_mem p hr), List.singleton_append]

end Chars

end RouteDoc
