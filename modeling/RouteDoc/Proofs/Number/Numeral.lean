import RouteDoc.Number.Numeral
import RouteDoc.Proofs.Text.Pieces
import RouteDoc.Proofs.Text.Trim

/-!
# Numerals of digits only

Decimal digits of any script are made ASCII digits before they are read.  Among these is no blank, no
sign and no low line, so nothing is taken off and nothing is refused but a numeral that is too long.

* `Numeral.asciiDigits_eq_map`: the ASCII digits are those of the values.
* `Numeral.readInt?_of_isDecimal`: **digits are read as the number that they spell**, unless there
  are more of them than are read.
-/

namespace RouteDoc.Numeral

variable {c : Char} {d : Nat} {digits s : List Char}

theorem lt_of_decimalValue? (h : Chars.decimalValue? c = some d) : d < 10 := by
  unfold Chars.decimalValue? at h
  split at h
  · split at h
    · rename_i hdigit
      have := Chars.toNat_of_isAsciiDigit hdigit
      obtain rfl := Option.some.inj h
      omega
    · exact absurd h (by simp)
  · obtain ⟨r, -, rfl⟩ := Option.map_eq_some_iff.1 h
    exact Nat.mod_lt _ (by decide)

theorem le_foldl (ds : List Nat) (n : Nat) : n ≤ ds.foldl (fun n d => 10 * n + d) n := by
  induction ds generalizing n with
  | nil => exact le_refl n
  | cons d ds ih => exact le_trans (by omega) (ih (10 * n + d))

/-- Digits that do not begin with a zero spell no zero. -/
theorem ofDecimals_cons_ne_zero (hc : Chars.decimalValue? c = some d) (hd : d ≠ 0)
    (cs : List Char) : ofDecimals (c :: cs) ≠ 0 := by
  rw [ofDecimals, List.filterMap_cons_some hc, ofDigits, List.foldl_cons]
  have := le_foldl (cs.filterMap Chars.decimalValue?) (10 * 0 + d)
  omega

/-! ## ASCII digits -/

/-- The ASCII digit of a value. -/
def digitOf (d : Nat) : Char := Char.ofNat (0x30 + d)

theorem toNat_digitOf : ∀ d < 10, (digitOf d).toNat = 0x30 + d := by decide

theorem isAsciiDigit_digitOf : ∀ d < 10, Chars.isAsciiDigit (digitOf d) = true := by decide

theorem asciiDigits_eq_map (h : ∀ c ∈ digits, Chars.isDecimal c = true) :
    asciiDigits digits = (digits.filterMap Chars.decimalValue?).map digitOf := by
  induction digits with
  | nil => rfl
  | cons c cs ih =>
    rw [List.forall_mem_cons] at h
    obtain ⟨d, hd⟩ := Option.isSome_iff_exists.1 h.1
    rw [List.filterMap_cons_some hd, List.map_cons, ← ih h.2]
    simp only [asciiDigits, List.map_cons, hd]
    rfl

theorem length_filterMap_decimalValue? (h : ∀ c ∈ digits, Chars.isDecimal c = true) :
    (digits.filterMap Chars.decimalValue?).length = digits.length := by
  rw [← List.length_map, ← asciiDigits_eq_map h, asciiDigits, List.length_map]

theorem all_isAsciiDigit_map {ds : List Nat} (h : ∀ d ∈ ds, d < 10) :
    (ds.map digitOf).all Chars.isAsciiDigit = true := by
  rw [List.all_map, List.all_eq_true]
  exact fun d hd => isAsciiDigit_digitOf d (h d hd)

/-! ## Reading -/

/-- Digits have no sign in front of them. -/
theorem cutSign_of_isAsciiDigit (h : s.all Chars.isAsciiDigit = true) : cutSign s = (false, s) := by
  unfold cutSign
  split
  · exact absurd h (by simp [Chars.isAsciiDigit])
  · exact absurd h (by simp [Chars.isAsciiDigit])
  · rfl

/-- Digits have no low line among them. -/
theorem dropSeparators?_of_isAsciiDigit (h : s.all Chars.isAsciiDigit = true) :
    dropSeparators? s = some s := by
  suffices ∀ after, dropSeparators?.go after s = some s from this false
  intro after
  induction s generalizing after with
  | nil => rfl
  | cons c r ih =>
    rw [List.all_cons, Bool.and_eq_true] at h
    have hc : c ≠ '_' := by
      rintro rfl
      exact absurd h.1 (by decide)
    unfold dropSeparators?.go
    split <;> simp_all

/-- The value of ASCII digits is that of their values. -/
theorem readDigits?_map {ds : List Nat} (hne : ds ≠ []) (h : ∀ d ∈ ds, d < 10) :
    readDigits? (ds.map digitOf) = some (ofDigits ds) := by
  have hvalues : (ds.map digitOf).map (fun c => c.toNat - 0x30) = ds := by
    rw [List.map_map]
    refine (List.map_congr_left fun d hd => ?_).trans (List.map_id ds)
    show (digitOf d).toNat - 0x30 = d
    rw [toNat_digitOf d (h d hd)]
    omega
  rw [readDigits?, if_pos ⟨by simpa using hne, all_isAsciiDigit_map h⟩, hvalues]

/-- **Digits are read as the number that they spell**, unless there are more of them than are read.
Zeros in front count. -/
theorem readInt?_of_isDecimal (hne : digits ≠ []) (h : ∀ c ∈ digits, Chars.isDecimal c = true) :
    readInt? digits = if mostDigits < digits.length then none else some (ofDecimals digits : Int) := by
  have hstrip : Chars.strip digits = digits := by
    have hblank : ∀ c ∈ digits, Chars.isBlank c = false := fun c hc =>
      Chars.isBlank_eq_false_of_isDecimal (h c hc)
    exact Chars.strip_eq_self (fun c hc => hblank c (List.mem_of_mem_head? hc))
      fun c hc => hblank c (List.mem_of_mem_getLast? hc)
  have hvalues : ∀ d ∈ digits.filterMap Chars.decimalValue?, d < 10 := by
    intro d hd
    obtain ⟨c, -, hc⟩ := List.mem_filterMap.1 hd
    exact lt_of_decimalValue? hc
  have hlength := length_filterMap_decimalValue? h
  have hnonempty : digits.filterMap Chars.decimalValue? ≠ [] := by
    rw [← List.length_pos_iff, hlength]
    exact List.length_pos_iff.2 hne
  have hall := all_isAsciiDigit_map hvalues
  simp only [readInt?, hstrip, asciiDigits_eq_map h, cutSign_of_isAsciiDigit hall,
    dropSeparators?_of_isAsciiDigit hall, readDigits?_map hnonempty hvalues, bind, Option.bind,
    List.length_map, hlength]
  rfl

end RouteDoc.Numeral
