import RouteDoc.Proofs.Text.Trim

/-!
# Words of a text

* `Chars.words`: what stands between the blanks of a text.
* `Chars.words_append_cons`: **the words in front of a blank, and those behind it.**  What is added
  or dropped at the ends of a text, or between its lines, follows from this one equation:
  `words_joinWith`, `words_trim`.
-/

namespace RouteDoc

namespace Chars

/-- The words of a text: what stands between its blanks. -/
def words (s : List Char) : List (List Char) := (s.splitOnP isBlank).filter (· ≠ [])

theorem words_nil : words [] = [] := by simp [words]

/-- **The words in front of a blank, and those behind it.** -/
theorem words_append_cons (s : List Char) {c : Char} (hc : isBlank c = true) (t : List Char) :
    words (s ++ c :: t) = words s ++ words t := by
  rw [words, List.splitOnP_append_cons s t hc, List.filter_append, words, words]

theorem words_cons {c : Char} (hc : isBlank c = true) (s : List Char) :
    words (c :: s) = words s := by
  have h := words_append_cons [] hc s
  rwa [List.nil_append, words_nil, List.nil_append] at h

/-- Blanks in front of a text belong to no word. -/
theorem words_blanks_append {s : List Char} (hs : ∀ c ∈ s, isBlank c = true) (t : List Char) :
    words (s ++ t) = words t := by
  induction s with
  | nil => rfl
  | cons c s ih =>
    obtain ⟨hc, hs⟩ := List.forall_mem_cons.1 hs
    rw [List.cons_append, words_cons hc, ih hs]

/-- Blanks behind a text belong to no word. -/
theorem words_append_blanks (s : List Char) {t : List Char} (ht : ∀ c ∈ t, isBlank c = true) :
    words (s ++ t) = words s := by
  cases t with
  | nil => rw [List.append_nil]
  | cons c t =>
    obtain ⟨hc, ht⟩ := List.forall_mem_cons.1 ht
    have hnone : words t = [] := by
      have h := words_blanks_append ht []
      rwa [List.append_nil, words_nil] at h
    rw [words_append_cons s hc, hnone, List.append_nil]

theorem words_dropEnd {p : Char → Bool} (hp : ∀ c, p c = true → isBlank c = true) (s : List Char) :
    words (dropEnd p s) = words s := by
  obtain ⟨t, ht, hs⟩ := exists_dropEnd_append p s
  conv_rhs => rw [hs]
  rw [words_append_blanks _ fun c hc => hp c (ht c hc)]

theorem words_dropWhile {p : Char → Bool} (hp : ∀ c, p c = true → isBlank c = true)
    (s : List Char) : words (s.dropWhile p) = words s := by
  have hblank : ∀ c ∈ s.takeWhile p, isBlank c = true := fun c hc =>
    hp c (List.mem_takeWhile_imp hc)
  conv_rhs => rw [← List.takeWhile_append_dropWhile (p := p) (l := s)]
  rw [words_blanks_append hblank]

/-- A text has the same words with blanks left out at its ends. -/
theorem words_trim {p : Char → Bool} (hp : ∀ c, p c = true → isBlank c = true) (s : List Char) :
    words (trim p s) = words s := by
  rw [trim, words_dropEnd hp, words_dropWhile hp]

theorem words_strip (s : List Char) : words (strip s) = words s := words_trim (fun _ => id) s

/-- The words of pieces that are joined by a blank. -/
theorem words_joinWith {c : Char} (hc : isBlank c = true) (ls : List (List Char)) :
    words (joinWith [c] ls) = ls.flatMap words := by
  induction ls with
  | nil => exact words_nil
  | cons l ls ih =>
    cases ls with
    | nil => rw [joinWith, List.flatMap_singleton]
    | cons m ms =>
      rw [joinWith_cons (by simp), List.append_assoc, List.singleton_append,
        words_append_cons l hc, ih, ← List.flatMap_cons]

end Chars

end RouteDoc
