import RouteDoc.Annotation.Description
import RouteDoc.Proofs.Text.Split
import RouteDoc.Proofs.Text.Words
import Mathlib.Data.List.Chain

/-!
# The text of a description

A description is normalised in three rounds, one after the other: blanks beside line feeds, runs of
line feeds, and blanks at the two ends.

* `Description.Apart`: the characters that may stand side by side once the first round is over.
* `Description.isChain_limitBreaks`, `Description.not_infix_limitBreaks`: what the second round
  keeps and what it adds.
* `Description.Normal`: a text that is normalised.
* `Description.words_text`: no round adds or drops a word.
* `Description.read_normal`: **descriptions are normalised without losing words.**
-/

namespace RouteDoc

namespace Description

open Chars

/-! ## Blanks beside line feeds -/

/-- Two characters that may stand side by side: not a line feed and an indentation. -/
def Apart (a b : Char) : Prop :=
  (b = '\n' → isIndent a = false) ∧ (a = '\n' → isIndent b = false)

theorem isChain_of_newline_not_mem {s : List Char} (h : '\n' ∉ s) : s.IsChain Apart := by
  induction s with
  | nil => exact .nil
  | cons c s ih =>
    obtain ⟨hc, hs⟩ := not_or.1 (mt List.mem_cons.2 h)
    refine List.isChain_cons.2 ⟨fun d hd => ⟨?_, ?_⟩, ih hs⟩
    · rintro rfl
      exact absurd (List.mem_of_mem_head? hd) hs
    · rintro rfl
      exact absurd rfl hc

/-- A line with nothing to trim. -/
structure Tight (l : List Char) : Prop where
  newline_not_mem : '\n' ∉ l
  head_not_indent : ∀ c ∈ l.head?, isIndent c = false
  last_not_indent : ∀ c ∈ l.getLast?, isIndent c = false

theorem tight_trim {l : List Char} (h : '\n' ∉ l) : Tight (trim isIndent l) where
  newline_not_mem hmem := h ((trim_isInfix isIndent l).subset hmem)
  head_not_indent _ := eq_false_of_mem_head?_trim
  last_not_indent _ := eq_false_of_mem_getLast?_trim

theorem isIndent_head?_joinWith {ls : List (List Char)} (h : ∀ l ∈ ls, Tight l) :
    ∀ c ∈ (joinWith ['\n'] ls).head?, isIndent c = false := by
  intro c hc
  cases ls with
  | nil => exact absurd hc (by simp [joinWith])
  | cons l ls =>
    have hl := h l List.mem_cons_self
    cases l with
    | cons d l =>
      rw [head?_joinWith (by simp)] at hc
      exact hl.head_not_indent c hc
    | nil =>
      -- an empty line begins with the line feed behind it
      cases ls with
      | nil => exact absurd hc (by simp [joinWith])
      | cons m ms =>
        rw [joinWith_cons (by simp), List.nil_append, List.singleton_append, List.head?_cons] at hc
        obtain rfl : '\n' = c := Option.some.inj hc
        decide

theorem isChain_joinWith {ls : List (List Char)} (h : ∀ l ∈ ls, Tight l) :
    (joinWith ['\n'] ls).IsChain Apart := by
  induction ls with
  | nil => exact .nil
  | cons l ls ih =>
    obtain ⟨hl, hls⟩ := List.forall_mem_cons.1 h
    have hchain := isChain_of_newline_not_mem hl.newline_not_mem
    cases ls with
    | nil => exact hchain
    | cons m ms =>
      have hlower : ('\n' :: joinWith ['\n'] (m :: ms)).IsChain Apart :=
        List.isChain_cons.2 ⟨fun c hc => ⟨fun _ => by decide, fun _ =>
          isIndent_head?_joinWith hls c hc⟩, ih hls⟩
      rw [joinWith_cons (by simp), List.append_assoc, List.singleton_append]
      refine List.isChain_append.2 ⟨hchain, hlower, fun c hc d hd => ?_⟩
      obtain rfl : '\n' = d := Option.some.inj hd
      exact ⟨fun _ => hl.last_not_indent c hc, fun _ => by decide⟩

/-- No indentation is left beside a line feed. -/
theorem isChain_tightenBreaks (s : List Char) : (tightenBreaks s).IsChain Apart := by
  refine isChain_joinWith fun l hl => ?_
  obtain ⟨p, hp, rfl⟩ := List.mem_map.1 hl
  exact tight_trim (not_mem_of_mem_splitAt hp)

/-! ## Runs of line feeds -/

/-- The first two characters of a text stay. -/
theorem take_two_limitBreaks (s : List Char) : (limitBreaks s).take 2 = s.take 2 := by
  fun_induction limitBreaks s with
  | case1 r ih => rw [ih]; rfl
  | case2 c r hne ih =>
    have htake := congrArg (List.take 1) ih
    rw [List.take_take, List.take_take] at htake
    rw [List.take_succ_cons, List.take_succ_cons]
    exact congrArg (c :: ·) htake
  | case3 => rfl

theorem head?_limitBreaks (s : List Char) : (limitBreaks s).head? = s.head? := by
  have h := congrArg List.head? (take_two_limitBreaks s)
  rwa [List.head?_take, List.head?_take, if_neg (by simp), if_neg (by simp)] at h

theorem isChain_limitBreaks {s : List Char} (h : s.IsChain Apart) :
    (limitBreaks s).IsChain Apart := by
  fun_induction limitBreaks s with
  | case1 r ih => exact ih h.tail
  | case2 c r hne ih =>
    rw [List.isChain_cons] at h ⊢
    rw [head?_limitBreaks]
    exact ⟨h.1, ih h.2⟩
  | case3 => exact h

/-- No three line feeds are left in a row. -/
theorem not_infix_limitBreaks (s : List Char) : ¬ ['\n', '\n', '\n'] <:+: limitBreaks s := by
  fun_induction limitBreaks s with
  | case1 r ih => exact ih
  | case2 c r hne ih =>
    intro hinfix
    rcases List.infix_cons_iff.1 hinfix with hprefix | hinfix
    · -- the two that follow stood there before, and the first would have been dropped
      obtain ⟨rfl, hrest⟩ := List.cons_prefix_cons.1 hprefix
      have htake : ['\n', '\n'] = (limitBreaks r).take 2 := List.prefix_iff_eq_take.1 hrest
      rw [take_two_limitBreaks] at htake
      obtain ⟨t, ht⟩ := List.prefix_iff_eq_take.2 htake
      exact hne t rfl ht.symm
    · exact ih hinfix
  | case3 => simp

/-! ## Normal texts -/

/-- A text without blanks at its ends and beside line feeds, and without more than one empty line in
a row. -/
structure Normal (s : List Char) : Prop where
  head_not_blank : ∀ c ∈ s.head?, isBlank c = false
  last_not_blank : ∀ c ∈ s.getLast?, isBlank c = false
  no_three_breaks : ¬ ['\n', '\n', '\n'] <:+: s
  no_indent_before : ∀ c, isIndent c = true → ¬ [c, '\n'] <:+: s
  no_indent_after : ∀ c, isIndent c = true → ¬ ['\n', c] <:+: s

theorem normal_text (lines : List (List Char)) : Normal (text lines) := by
  have hinfix := strip_isInfix (limitBreaks (tightenBreaks (joinWith [' '] (lines.map piece))))
  have hchain : (text lines).IsChain Apart :=
    List.IsChain.infix (isChain_limitBreaks (isChain_tightenBreaks _)) hinfix
  have hapart : ∀ a b, [a, b] <:+: text lines → Apart a b := fun _ _ h =>
    List.isChain_pair.1 <| List.IsChain.infix hchain h
  refine ⟨fun _ => eq_false_of_mem_head?_trim, fun _ => eq_false_of_mem_getLast?_trim, ?_, ?_, ?_⟩
  · exact fun h => not_infix_limitBreaks _ (h.trans hinfix)
  · intro c hc h
    rw [(hapart c '\n' h).1 rfl] at hc
    exact absurd hc (by simp)
  · intro c hc h
    rw [(hapart '\n' c h).2 rfl] at hc
    exact absurd hc (by simp)

/-! ## Words -/

/-- A line without the backslash at its end, if there is one. -/
def withoutBackslash (l : List Char) : List Char :=
  if l.getLast? = some '\\' then l.dropLast else l

theorem words_piece (l : List Char) : words (piece l) = words (withoutBackslash l) := by
  unfold piece withoutBackslash
  split
  · rename_i hnone
    rw [List.getLast?_eq_none_iff.1 hnone]
    decide
  · rename_i hlast
    rw [if_pos hlast, words_append_blanks _ (List.forall_mem_singleton.2 (by decide)),
      words_dropEnd fun _ => id]
  · rename_i c hne hlast
    rw [if_neg (by simpa [hlast] using hne)]

theorem words_tightenBreaks (s : List Char) : words (tightenBreaks s) = words s := by
  have htrim : ∀ l : List Char, words (trim isIndent l) = words l :=
    words_trim fun _ => isBlank_of_isIndent
  conv_rhs => rw [← joinWith_splitAt '\n' s]
  rw [tightenBreaks, words_joinWith (by decide), words_joinWith (by decide), List.flatMap_map]
  simp only [htrim]

/-- Shorter runs of line feeds part the same words, whatever stands in front of them. -/
theorem words_append_limitBreaks (s t : List Char) :
    words (s ++ limitBreaks t) = words (s ++ t) := by
  fun_induction limitBreaks t generalizing s with
  | case1 r ih =>
    have hbreak : isBlank '\n' = true := by decide
    rw [ih, words_append_cons s hbreak, words_append_cons s hbreak, words_cons hbreak,
      words_cons hbreak, words_cons hbreak]
  | case2 c r hne ih =>
    rw [List.append_cons, ih, ← List.append_cons]
  | case3 => rfl

/-- No round adds or drops a word. -/
theorem words_text (lines : List (List Char)) :
    words (text lines) = lines.flatMap fun l => words (withoutBackslash l) := by
  have hlimit := words_append_limitBreaks [] (tightenBreaks (joinWith [' '] (lines.map piece)))
  rw [List.nil_append, List.nil_append] at hlimit
  rw [text, words_strip, hlimit, words_tightenBreaks, words_joinWith (by decide),
    List.flatMap_map]
  simp only [words_piece]

/-! ## Titles -/

section Title

variable {ls : List (List Char)}

/-- The title is the first of three lines of which the second alone is empty. -/
theorem fst_cutTitle_eq_some_iff {t : List Char} :
    (cutTitle ls).1 = some t ↔ ∃ l rest, ls = t :: [] :: l :: rest ∧ t ≠ [] ∧ l ≠ [] := by
  constructor
  · intro h
    unfold cutTitle at h
    split at h
    · rename_i t' b l rest
      split at h
      · rename_i hcond
        obtain rfl : t' = t := Option.some.inj h
        exact ⟨l, rest, by rw [hcond.2.1], hcond.1, hcond.2.2⟩
      · exact absurd h (by simp)
    · exact absurd h (by simp)
  · rintro ⟨l, rest, rfl, ht, hl⟩
    rw [cutTitle, if_pos ⟨ht, rfl, hl⟩]

/-- What follows the title is the text, without the empty line between them. -/
theorem snd_cutTitle (ls : List (List Char)) :
    (cutTitle ls).2 = if (cutTitle ls).1.isSome then ls.drop 2 else ls := by
  unfold cutTitle
  split
  · split <;> rfl
  · rfl

end Title

/-! ## Descriptions -/

/-- **Descriptions are normalised without losing words.**  A title is cut off exactly if the second
of three lines alone is empty; the words of the text are those of the lines that remain, each
without a backslash at its end. -/
theorem read_normal (lines : List String) :
    Normal (read lines).1.toList ∧
      (∀ t, (read lines).2 = some t ↔ ∃ first second third rest,
        lines = first :: second :: third :: rest ∧ Text.strip first ≠ "" ∧
          Text.strip second = "" ∧ Text.strip third ≠ "" ∧ t = Text.strip first) ∧
      words (read lines).1.toList =
        (if (read lines).2.isSome then lines.drop 2 else lines).flatMap fun l =>
          words (withoutBackslash (strip l.toList)) := by
  have htext : (read lines).1.toList =
      text (cutTitle (lines.map fun l => strip l.toList)).2 := String.toList_ofList
  have htitle : (read lines).2 =
      (cutTitle (lines.map fun l => strip l.toList)).1.map String.ofList := rfl
  have hempty : ∀ l : String, Text.strip l = "" ↔ strip l.toList = [] := fun l =>
    String.ofList_eq_empty_iff
  refine ⟨htext ▸ normal_text _, fun t => ?_, ?_⟩
  · simp only [htitle, Option.map_eq_some_iff, fst_cutTitle_eq_some_iff, ne_eq, hempty]
    constructor
    · rintro ⟨s, ⟨l, rest, hlines, hne, hl⟩, rfl⟩
      obtain ⟨first, upper, rfl, rfl, hupper⟩ := List.map_eq_cons_iff.1 hlines
      obtain ⟨second, lower, rfl, hsecond, hlower⟩ := List.map_eq_cons_iff.1 hupper
      obtain ⟨third, rest, rfl, rfl, rfl⟩ := List.map_eq_cons_iff.1 hlower
      exact ⟨first, second, third, rest, rfl, hne, hsecond, hl, rfl⟩
    · rintro ⟨first, second, third, rest, rfl, hfirst, hsecond, hthird, rfl⟩
      refine ⟨strip first.toList, ⟨strip third.toList, rest.map fun l => strip l.toList, ?_,
        hfirst, hthird⟩, rfl⟩
      simp only [List.map_cons, hsecond]
  · rw [htext, words_text, snd_cutTitle, htitle, Option.isSome_map]
    split
    · rw [← List.map_drop, List.flatMap_map]
    · rw [List.flatMap_map]

-- a backslash line beside an empty line, and a line feed inside a line
example : read [" Books ", "", "All \\", "", "\\", "of \n them"] =
    ("All\n\nof\nthem", some "Books") := by
  decide +kernel

end Description

end RouteDoc
