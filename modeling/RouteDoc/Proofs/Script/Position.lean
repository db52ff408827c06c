import RouteDoc.Script.Token
import Mathlib.Data.List.Infix
import Mathlib.Data.List.Count

/-!
# The line breaks that are passed over

A reading from the front of a text leaves the end of it, and passes over the line breaks in front.

* `Chars.Behind`: the end of a text behind some line breaks.
* `Numeral.behind_cut`: **a number passes over no line break.**
* `Literal.behind_cut`: **a literal passes over the line breaks of its body.**
* `Scanner.behind_measure`: the line breaks of continued lines are counted.
-/

namespace RouteDoc

namespace Chars

/-- The text `rest` is the end of `s`, behind `n` line breaks. -/
def Behind (n : Nat) (s rest : List Char) : Prop :=
  ∃ p, s = p ++ rest ∧ p.count '\n' = n

variable {n m : Nat} {s t rest : List Char} {c : Char}

theorem Behind.refl (s : List Char) : Behind 0 s s := ⟨[], rfl, rfl⟩

theorem Behind.trans (h : Behind n s t) (h' : Behind m t rest) : Behind (n + m) s rest := by
  obtain ⟨p, rfl, rfl⟩ := h
  obtain ⟨q, rfl, rfl⟩ := h'
  exact ⟨p ++ q, (List.append_assoc p q rest).symm, List.count_append⟩

/-- More text in front is passed over with its line breaks. -/
theorem Behind.prepend {b : List Char} (p : List Char) (h : Behind (b.count '\n') s rest) :
    Behind ((p ++ b).count '\n') (p ++ s) rest := by
  obtain ⟨q, rfl, hq⟩ := h
  refine ⟨p ++ q, (List.append_assoc p q rest).symm, ?_⟩
  rw [List.count_append, List.count_append, hq]

/-- Text without a line break is passed over. -/
theorem Behind.append {p : List Char} (h : Behind n s (p ++ t)) (hp : '\n' ∉ p) :
    Behind n s t :=
  h.trans ⟨p, rfl, List.count_eq_zero.2 hp⟩

@[grind →]
theorem Behind.tail (h : Behind n s (c :: t)) (hc : c ≠ '\n') : Behind n s t :=
  h.append (p := [c]) (by simpa using hc.symm)

/-- Past one of two characters. -/
theorem Behind.either {a b : Char} (h : Behind n s (c :: t)) (hc : c = a ∨ c = b)
    (ha : a ≠ '\n') (hb : b ≠ '\n') : Behind n s t := by
  rcases hc with rfl | rfl
  · exact h.tail ha
  · exact h.tail hb

theorem Behind.newline (h : Behind n s ('\n' :: t)) : Behind (n + 1) s t :=
  h.trans ⟨['\n'], rfl, rfl⟩

theorem Behind.drop {k : Nat} (h : Behind n s t) (hk : '\n' ∉ t.take k) :
    Behind n s (t.drop k) :=
  Behind.append ((t.take_append_drop k).symm ▸ h) hk

theorem Behind.dropWhile {p : Char → Bool} (h : Behind n s t) (hp : p '\n' = false) :
    Behind n s (t.dropWhile p) := by
  have hparts : t.takeWhile p ++ t.dropWhile p = t := List.takeWhile_append_dropWhile
  refine Behind.append (hparts.symm ▸ h) fun hmem => ?_
  have hall := List.all_takeWhile (p := p) (l := t)
  exact absurd (List.all_eq_true.1 hall _ hmem) (by simp [hp])

/-- Past the first line break. -/
theorem Behind.line (h : '\n' ∈ s) : Behind 1 s ((s.dropWhile (· != '\n')).drop 1) := by
  induction s with
  | nil => exact absurd h List.not_mem_nil
  | cons c s ih =>
    by_cases hc : c = '\n'
    · subst hc
      exact (refl ('\n' :: s)).newline
    · rw [List.dropWhile_cons_of_pos (by simpa using hc)]
      have hmem : '\n' ∈ s := (List.mem_cons.1 h).resolve_left (Ne.symm hc)
      exact ((refl (c :: s)).tail hc).trans (ih hmem)

end Chars

open Chars (Behind)

namespace Script

variable {n : Nat} {base s rest : List Char} {isImaginary : Bool}

/-! ## Numbers -/

namespace Numeral

theorem behind_dropDigits {isDigit : Char → Bool} (hd : isDigit '\n' = false) {isOpen : Bool}
    (h : dropDigits? isDigit isOpen s = some rest) (hs : Behind n base s) :
    Behind n base rest := by
  induction s generalizing isOpen with
  | nil =>
    cases isOpen with
    | false => simpa [dropDigits?] using Option.some.inj h ▸ hs
    | true => exact absurd h (by simp [dropDigits?])
  | cons c s ih =>
    have hdigit : isDigit c = true → c ≠ '\n' := by
      rintro hc rfl
      simp [hd] at hc
    cases isOpen <;> grind [dropDigits?]

@[grind →]
theorem behind_digits {isOpen : Bool} (h : dropDigits? Chars.isAsciiDigit isOpen s = some rest)
    (hs : Behind n base s) : Behind n base rest :=
  behind_dropDigits (by decide) h hs

@[grind →]
theorem behind_finish (h : finish? s = some (isImaginary, rest)) (hs : Behind n base s) :
    Behind n base rest := by
  unfold finish? at h
  grind

@[grind →]
theorem behind_finishExponent (h : finishExponent? s = some (isImaginary, rest))
    (hs : Behind n base s) : Behind n base rest := by
  unfold finishExponent? at h
  split at h
  · split at h
    next hc =>
      have htail := hs.either hc (by decide) (by decide)
      split at h
      · split at h
        next hd =>
          obtain ⟨r, hr, h⟩ := Option.bind_eq_some_iff.1 h
          exact behind_finish h (behind_digits hr (htail.either hd (by decide) (by decide)))
        next =>
          split at h
          · obtain ⟨r, hr, h⟩ := Option.bind_eq_some_iff.1 h
            exact behind_finish h (behind_digits hr htail)
          · grind
      · exact absurd h (by simp)
    · exact behind_finish h hs
  · exact behind_finish h hs

@[grind →]
theorem behind_finishFraction (h : finishFraction? s = some (isImaginary, rest))
    (hs : Behind n base s) : Behind n base rest := by
  unfold finishFraction? at h
  split at h
  · obtain ⟨r, hr, h⟩ := Option.bind_eq_some_iff.1 h
    exact behind_finishExponent h (behind_digits hr hs)
  · exact behind_finishExponent h hs

@[grind →]
theorem behind_finishBase {isDigit : Char → Bool} (hd : isDigit '\n' = false)
    (h : finishBase? isDigit s = some (isImaginary, rest)) (hs : Behind n base s) :
    Behind n base rest := by
  unfold finishBase? at h
  obtain ⟨r, hr, h⟩ := Option.bind_eq_some_iff.1 h
  have hbehind : Behind n base r := by
    split at hr
    · exact behind_dropDigits hd hr (hs.tail (by decide))
    · exact behind_dropDigits hd hr hs
  grind

theorem behind_decimal (h : cut?.decimal? s = some (isImaginary, rest)) (hs : Behind n base s) :
    Behind n base rest := by
  unfold cut?.decimal? at h
  obtain ⟨r, hr, h⟩ := Option.bind_eq_some_iff.1 h
  have hbehind := behind_digits hr hs
  grind [cut?.integer?]

/-- **A number passes over no line break.** -/
theorem behind_cut (h : cut? s = some (isImaginary, rest)) (hs : Behind n base s) :
    Behind n base rest := by
  unfold cut? at h
  split at h
  · have htail := hs.tail (by decide)
    split at h
    next hc => exact behind_finishBase (by decide) h (htail.either hc (by decide) (by decide))
    split at h
    next hc => exact behind_finishBase (by decide) h (htail.either hc (by decide) (by decide))
    split at h
    next hc => exact behind_finishBase (by decide) h (htail.either hc (by decide) (by decide))
    · exact behind_decimal h hs
  · exact behind_decimal h hs

end Numeral

/-! ## Literals -/

namespace Literal

variable {l l' : Literal}

/-- Behind the marks of a literal comes a quote. -/
theorem behind_cutMarks {hasUnicodeMark : Bool}
    (h : cutMarks? l hasUnicodeMark s = some (l', rest)) (hs : Behind n base s) :
    Behind n base rest ∧ ∃ quote r, rest = quote :: r ∧ quote ≠ '\n' := by
  induction s generalizing l hasUnicodeMark with
  | nil => exact absurd h (by simp [cutMarks?])
  | cons c s ih =>
    have hmark : ∀ {a : Char}, Chars.asciiLower c = a → a ≠ '\n' → Behind n base s := by
      rintro a hc ha
      refine hs.tail ?_
      rintro rfl
      exact ha (hc.symm.trans (by decide))
    unfold cutMarks? at h
    dsimp only at h
    split at h
    next hc =>
      simp only [Option.some.injEq, Prod.mk.injEq] at h
      obtain ⟨-, rfl⟩ := h
      refine ⟨hs, c, s, rfl, ?_⟩
      rcases hc with rfl | rfl <;> decide
    split at h
    next hc => exact ih h (hmark hc.1 (by decide))
    split at h
    next hc => exact ih h (hmark hc.1 (by decide))
    split at h
    next hc => exact ih h (hmark hc.1 (by decide))
    split at h
    next hc => exact ih h (hmark hc.1 (by decide))
    next => exact absurd h (by simp)

theorem behind_cutBody {isTriple : Bool} {quote : Char} {body : List Char}
    (hquote : quote ≠ '\n') (h : cutBody? isTriple quote s = some (body, rest)) :
    Behind (body.count '\n') s rest := by
  fun_induction cutBody? isTriple quote s generalizing body with
  | case1 => exact absurd h (by simp)
  | case2 c s ih =>
    obtain ⟨⟨b, r⟩, hr, h⟩ := Option.map_eq_some_iff.1 h
    simp only [Prod.mk.injEq] at h
    obtain ⟨rfl, rfl⟩ := h
    exact (ih hr).prepend ['\\', c]
  | case3 c s _ hclose =>
    simp only [Option.some.injEq, Prod.mk.injEq] at h
    obtain ⟨rfl, rfl⟩ := h
    obtain ⟨rfl, htriple⟩ := hclose
    have hs : Behind 0 (c :: s) s := (Behind.refl (c :: s)).tail hquote
    cases isTriple with
    | false => exact hs
    | true =>
      have htake : s.take 2 = [c, c] := by simpa using htriple
      exact hs.drop (by simp [htake, hquote.symm])
  | case4 => exact absurd h (by simp)
  | case5 c s _ _ _ ih =>
    obtain ⟨⟨b, r⟩, hr, h⟩ := Option.map_eq_some_iff.1 h
    simp only [Prod.mk.injEq] at h
    obtain ⟨rfl, rfl⟩ := h
    exact (ih hr).prepend [c]

/-- **A literal passes over the line breaks of its body.** -/
theorem behind_cut (h : cut? s = some (l, rest)) : Behind (l.body.count '\n') s rest := by
  unfold cut? at h
  obtain ⟨⟨l', r⟩, hmarks, h⟩ := Option.bind_eq_some_iff.1 h
  obtain ⟨hbehind, quote, r', rfl, hquote⟩ := behind_cutMarks hmarks (Behind.refl s)
  obtain ⟨⟨body, rest'⟩, hbody, h⟩ := Option.bind_eq_some_iff.1 h
  simp only [Option.pure_def, Option.some.injEq, Prod.mk.injEq] at h
  obtain ⟨rfl, rfl⟩ := h
  have htail := hbehind.tail hquote
  have hopen : Behind 0 s (if r'.take 2 == [quote, quote] then r'.drop 2 else r') := by
    split
    next htake => exact htail.drop (by simp [eq_of_beq htake, hquote.symm])
    next => exact htail
  simpa using hopen.trans (behind_cutBody hquote hbody)

end Literal

/-! ## Beginnings of lines -/

namespace Scanner

theorem eq_of_cutContinued (h : cutContinued? s = some rest) : s = '\n' :: rest := by
  unfold cutContinued? at h
  grind

/-- The line breaks of continued lines are counted. -/
theorem behind_measure {fuel lines lines' : Nat} {i i' : Indentation} {first : Option Indentation}
    (h : measure fuel i first lines s = some (i', rest, lines')) :
    ∃ m, lines' = lines + m ∧ Behind m s rest := by
  induction fuel generalizing i first lines s with
  | zero => exact absurd h (by simp [measure])
  | succ fuel ih =>
    have hpast : ∀ {c : Char} {r : List Char} {i : Indentation},
        measure fuel i first lines r = some (i', rest, lines') → c ≠ '\n' →
        ∃ m, lines' = lines + m ∧ Behind m (c :: r) rest := by
      intro c r i h hc
      obtain ⟨m, hm, hbehind⟩ := ih h
      exact ⟨m, hm, by simpa using ((Behind.refl (c :: r)).tail hc).trans hbehind⟩
    unfold measure at h
    split at h
    next c r =>
      split at h
      next hc => exact hpast h (hc ▸ by decide)
      split at h
      next hc => exact hpast h (hc ▸ by decide)
      split at h
      next hc => exact hpast h (hc ▸ by decide)
      split at h
      next hc =>
        split at h
        next r' hr' =>
          obtain ⟨m, rfl, hbehind⟩ := ih h
          obtain rfl := eq_of_cutContinued hr'
          have hnewline := ((Behind.refl (c :: '\n' :: r')).tail (hc ▸ by decide)).newline
          exact ⟨m + 1, by omega, by simpa [Nat.add_comm] using hnewline.trans hbehind⟩
        next => exact absurd h (by simp)
      next =>
        simp only [Option.some.injEq, Prod.mk.injEq] at h
        obtain ⟨-, rfl, rfl⟩ := h
        exact ⟨0, rfl, .refl _⟩
    next =>
      simp only [Option.some.injEq, Prod.mk.injEq] at h
      obtain ⟨-, rfl, rfl⟩ := h
      exact ⟨0, rfl, .refl _⟩

end Scanner

end Script

end RouteDoc
