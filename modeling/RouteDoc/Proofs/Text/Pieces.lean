import RouteDoc.Schema.Form
import Mathlib.Tactic.ByContra

/-!
# Texts without blanks

* `Chars.isBlank_eq_false_of_isWord`, `Chars.isBlank_eq_false_of_isDecimal`: no word character and
  no digit is a blank.
* `Chars.Solid`: a text that is not empty and has no blank in it.
* `Chars.splitUnion_joinWith`: solid pieces joined by bars are cut into the same pieces again, and
  nothing is trimmed off: `Chars.strip_joinWith`.
-/

namespace RouteDoc

namespace Chars

/-! ## Characters -/

theorem isBlank_eq_false_of_isAscii {c : Char} (h : 0x20 < c.toNat) (h' : c.toNat < 0x80) :
    isBlank c = false := by
  simp only [isBlank, Bool.or_eq_false_iff, Bool.and_eq_false_iff, decide_eq_false_iff_not,
    beq_eq_false_iff_ne]
  omega

theorem toNat_of_isAsciiLetter {c : Char} (h : isAsciiLetter c = true) :
    0x41 ≤ c.toNat ∧ c.toNat ≤ 0x7A := by
  simp only [isAsciiLetter, isAsciiUpper, isAsciiLower, Bool.or_eq_true, Bool.and_eq_true,
    decide_eq_true_eq, Char.le_def, UInt32.le_iff_toNat_le] at h
  have hA : 'A'.val.toNat = 0x41 := rfl
  have hZ : 'Z'.val.toNat = 0x5A := rfl
  have ha : 'a'.val.toNat = 0x61 := rfl
  have hz : 'z'.val.toNat = 0x7A := rfl
  have hc : c.val.toNat = c.toNat := rfl
  omega

theorem toNat_of_isAsciiDigit {c : Char} (h : isAsciiDigit c = true) :
    0x30 ≤ c.toNat ∧ c.toNat ≤ 0x39 := by
  simp only [isAsciiDigit, Bool.and_eq_true, decide_eq_true_eq, Char.le_def,
    UInt32.le_iff_toNat_le] at h
  have h0 : '0'.val.toNat = 0x30 := rfl
  have h9 : '9'.val.toNat = 0x39 := rfl
  have hc : c.val.toNat = c.toNat := rfl
  omega

/-- The code points of the blanks beyond ASCII. -/
def blanksBeyondAscii : List Nat :=
  [0x85, 0xA0, 0x1680, 0x2000, 0x2001, 0x2002, 0x2003, 0x2004, 0x2005, 0x2006, 0x2007, 0x2008,
    0x2009, 0x200A, 0x2028, 0x2029, 0x202F, 0x205F, 0x3000]

theorem toNat_mem_of_isBlank {c : Char} (hc : ¬ c.toNat < 0x80) (h : isBlank c = true) :
    c.toNat ∈ blanksBeyondAscii := by
  simp only [isBlank, Bool.or_eq_true, Bool.and_eq_true, decide_eq_true_eq, beq_iff_eq] at h
  simp only [blanksBeyondAscii, List.mem_cons, List.not_mem_nil, or_false]
  omega

/-- The blanks beyond ASCII are no letters and no numbers. -/
theorem inRanges_wordRanges_of_blank :
    ∀ n ∈ blanksBeyondAscii, inRanges wordRanges n = false := by
  decide +kernel

theorem isBlank_eq_false_of_isWord {c : Char} (h : isWord c = true) : isBlank c = false := by
  unfold isWord at h
  split at h
  · rename_i hc
    refine isBlank_eq_false_of_isAscii ?_ hc
    simp only [Bool.or_eq_true, beq_iff_eq] at h
    rcases h with (h | h) | rfl
    · have := toNat_of_isAsciiLetter h
      omega
    · have := toNat_of_isAsciiDigit h
      omega
    · decide
  · rename_i hc
    by_contra hb
    rw [Bool.not_eq_false] at hb
    rw [inRanges_wordRanges_of_blank _ (toNat_mem_of_isBlank hc hb)] at h
    exact absurd h (by simp)

/-- The blanks beyond ASCII are no digits. -/
theorem find?_decimalRanges_of_blank : ∀ n ∈ blanksBeyondAscii,
    decimalRanges.find? (fun r => r.1 ≤ n && n ≤ r.2) = none := by
  decide +kernel

theorem isBlank_eq_false_of_isDecimal {c : Char} (h : isDecimal c = true) : isBlank c = false := by
  unfold isDecimal decimalValue? at h
  split at h
  · rename_i hc
    split at h
    · rename_i hdigit
      have := toNat_of_isAsciiDigit hdigit
      exact isBlank_eq_false_of_isAscii (by omega) hc
    · exact absurd h (by simp)
  · rename_i hc
    by_contra hb
    rw [Bool.not_eq_false] at hb
    rw [find?_decimalRanges_of_blank _ (toNat_mem_of_isBlank hc hb)] at h
    exact absurd h (by simp)

theorem ne_space_of_isBlank_eq_false {c : Char} (h : isBlank c = false) : c ≠ ' ' := by
  rintro rfl
  exact absurd h (by decide)

/-! ## Solid texts -/

/-- A text that is not empty and has no blank in it. -/
def Solid (s : List Char) : Prop := s ≠ [] ∧ ∀ c ∈ s, isBlank c = false

instance : DecidablePred Solid := fun s =>
  decidable_of_iff (s ≠ [] ∧ s.all (!isBlank ·) = true) (by simp [Solid])

theorem Solid.append {s t : List Char} (hs : Solid s) (ht : ∀ c ∈ t, isBlank c = false) :
    Solid (s ++ t) :=
  ⟨by simp [hs.1], fun c hc => (List.mem_append.1 hc).elim (hs.2 c) (ht c)⟩

theorem Solid.space_not_mem {s : List Char} (hs : Solid s) : ' ' ∉ s :=
  fun h => ne_space_of_isBlank_eq_false (hs.2 ' ' h) rfl

/-- A text that neither begins nor ends with a blank is trimmed already. -/
theorem strip_eq_self {s : List Char} (hhead : ∀ c ∈ s.head?, isBlank c = false)
    (hlast : ∀ c ∈ s.getLast?, isBlank c = false) : strip s = s := by
  have drop : ∀ t : List Char, (∀ c ∈ t.head?, isBlank c = false) → t.dropWhile isBlank = t := by
    intro t ht
    cases t with
    | nil => rfl
    | cons c t => rw [List.dropWhile_cons_of_neg (by simp [ht c rfl])]
  rw [strip, trim, dropEnd, drop s hhead, drop s.reverse (by rwa [List.head?_reverse]),
    List.reverse_reverse]

theorem eq_false_of_mem_head?_dropWhile {p : Char → Bool} {s : List Char} {c : Char}
    (h : c ∈ (s.dropWhile p).head?) : p c = false := by
  have hnot := List.head?_dropWhile_not p s
  rw [Option.mem_def.1 h] at hnot
  exact hnot

theorem isBlank_eq_false_of_mem_getLast?_strip {s : List Char} {c : Char}
    (h : c ∈ (strip s).getLast?) : isBlank c = false := by
  rw [strip, trim, dropEnd, List.getLast?_reverse] at h
  exact eq_false_of_mem_head?_dropWhile h

/-- What is trimmed is trimmed already. -/
theorem strip_strip (s : List Char) : strip (strip s) = strip s := by
  refine strip_eq_self (fun c hc => ?_) fun _ => isBlank_eq_false_of_mem_getLast?_strip
  -- the trimmed text begins like the text without its first blanks
  have hprefix : strip s <+: s.dropWhile isBlank := by
    have hsuffix := (List.dropWhile_suffix (l := (s.dropWhile isBlank).reverse) isBlank)
    have := List.reverse_prefix.2 hsuffix
    rwa [List.reverse_reverse] at this
  obtain ⟨t, ht⟩ := hprefix
  refine eq_false_of_mem_head?_dropWhile (s := s) ?_
  rw [← ht, List.head?_append, Option.mem_def.1 hc]
  rfl

theorem Solid.strip_eq {s : List Char} (hs : Solid s) : strip s = s :=
  strip_eq_self (fun c hc => hs.2 c (List.mem_of_mem_head? hc))
    fun c hc => hs.2 c (List.mem_of_mem_getLast? hc)

/-! ## Cutting at bars -/

theorem splitUnion_cons {c : Char} (hc : c ≠ ' ') (s : List Char) :
    splitUnion (c :: s) = consHead c (splitUnion s) := by
  rw [splitUnion]
  intro r h
  exact absurd h hc

/-- The first piece is a beginning of the text, the others stand in it. -/
theorem infix_of_mem_splitUnion {s p : List Char} (hp : p ∈ splitUnion s) : p <:+: s := by
  have key : ∀ s : List Char, ∃ l ls, splitUnion s = l :: ls ∧ l <+: s ∧ ∀ p ∈ ls, p <:+: s := by
    intro s
    fun_induction splitUnion s with
    | case1 => exact ⟨[], [], rfl, List.nil_prefix, by simp⟩
    | case2 r ih =>
      obtain ⟨l, ls, hr, hl, hls⟩ := ih
      have hsuffix : r <:+: ' ' :: '|' :: ' ' :: r := (List.suffix_append [' ', '|', ' '] r).isInfix
      refine ⟨[], l :: ls, by rw [hr], List.nil_prefix, ?_⟩
      rintro p (_ | ⟨_, hp⟩)
      · exact hl.isInfix.trans hsuffix
      · exact (hls p hp).trans hsuffix
    | case3 c r _ ih =>
      obtain ⟨l, ls, hr, hl, hls⟩ := ih
      exact ⟨c :: l, ls, by rw [hr, consHead], List.cons_prefix_cons.2 ⟨rfl, hl⟩,
        fun p hp => (hls p hp).trans (List.suffix_cons c r).isInfix⟩
  obtain ⟨l, ls, hs, hl, hls⟩ := key s
  rcases List.mem_cons.1 (hs ▸ hp) with rfl | hp
  · exact hl.isInfix
  · exact hls p hp

/-- A text without a bar between blanks is a single piece. -/
theorem splitUnion_of_not_infix {s : List Char} (hs : ¬ " | ".toList <:+: s) :
    splitUnion s = [s] := by
  fun_induction splitUnion s with
  | case1 => rfl
  | case2 r => exact absurd ⟨[], r, rfl⟩ hs
  | case3 c r _ ih => rw [ih fun h => hs (h.trans (List.suffix_cons c r).isInfix), consHead]

theorem splitUnion_eq_singleton {p : List Char} (hp : ' ' ∉ p) : splitUnion p = [p] :=
  splitUnion_of_not_infix fun h => hp (h.subset (by decide))

theorem splitUnion_append_bar {p : List Char} (hp : ' ' ∉ p) (s : List Char) :
    splitUnion (p ++ " | ".toList ++ s) = p :: splitUnion s := by
  induction p with
  | nil => rfl
  | cons c p ih =>
    simp only [List.mem_cons, not_or] at hp
    rw [List.cons_append, List.cons_append, splitUnion_cons (Ne.symm hp.1), ih hp.2, consHead]

/-- Pieces without a space that are joined by bars are cut into the same pieces again. -/
theorem splitUnion_joinWith {ps : List (List Char)} (hne : ps ≠ []) (hps : ∀ p ∈ ps, ' ' ∉ p) :
    splitUnion (joinWith " | ".toList ps) = ps := by
  induction ps with
  | nil => exact absurd rfl hne
  | cons p ps ih =>
    cases ps with
    | nil => exact splitUnion_eq_singleton (hps p List.mem_cons_self)
    | cons q qs =>
      rw [joinWith_cons (by simp), splitUnion_append_bar (hps p List.mem_cons_self),
        ih (by simp) fun p hp => hps p (List.mem_cons_of_mem _ hp)]

theorem joinWith_append {sep : List Char} {ps qs : List (List Char)} (hp : ps ≠ []) (hq : qs ≠ []) :
    joinWith sep (ps ++ qs) = joinWith sep ps ++ sep ++ joinWith sep qs := by
  induction ps with
  | nil => exact absurd rfl hp
  | cons p ps ih =>
    cases ps with
    | nil => rw [List.singleton_append, joinWith_cons hq, joinWith]
    | cons r rs =>
      rw [List.cons_append, joinWith_cons (List.append_ne_nil_of_left_ne_nil (by simp) qs),
        ih (by simp), joinWith_cons (l := p) (List.cons_ne_nil r rs)]
      simp only [List.append_assoc]

theorem head?_joinWith {sep p : List Char} (hp : p ≠ []) (ps : List (List Char)) :
    (joinWith sep (p :: ps)).head? = p.head? := by
  cases ps with
  | nil => rfl
  | cons q qs =>
    rw [joinWith_cons (by simp), List.append_assoc, List.head?_append, List.head?_eq_some_head hp,
      Option.some_or]

theorem getLast?_joinWith {sep p : List Char} (hp : p ≠ []) (ps : List (List Char)) :
    (joinWith sep (ps ++ [p])).getLast? = p.getLast? := by
  cases ps with
  | nil => rfl
  | cons q qs =>
    rw [joinWith_append (by simp) (by simp), joinWith, List.getLast?_append,
      List.getLast?_eq_some_getLast hp, Option.some_or]

/-- Nothing is trimmed off solid pieces that are joined. -/
theorem strip_joinWith {sep : List Char} {ps : List (List Char)} (hps : ∀ p ∈ ps, Solid p) :
    strip (joinWith sep ps) = joinWith sep ps := by
  refine strip_eq_self ?_ ?_
  · cases ps with
    | nil => simp [joinWith]
    | cons p ps =>
      have hp := hps p List.mem_cons_self
      rw [head?_joinWith hp.1]
      exact fun c hc => hp.2 c (List.mem_of_mem_head? hc)
  · rcases List.eq_nil_or_concat ps with rfl | ⟨init, p, rfl⟩
    · simp [joinWith]
    · have hp := hps p (by simp)
      rw [List.concat_eq_append, getLast?_joinWith hp.1]
      exact fun c hc => hp.2 c (List.mem_of_mem_getLast? hc)

end Chars

/-! ## Strings -/

namespace Text

theorem joinWith_append {sep : String} {ps qs : List String} (hp : ps ≠ []) (hq : qs ≠ []) :
    joinWith sep (ps ++ qs) = joinWith sep ps ++ sep ++ joinWith sep qs := by
  simp only [joinWith, List.map_append]
  rw [Chars.joinWith_append (by simpa using hp) (by simpa using hq)]
  simp [String.append_assoc]

theorem joinWith_singleton (sep p : String) : joinWith sep [p] = p := by
  simp [joinWith, Chars.joinWith]

/-- Joining lists of pieces, then what comes out of them, joins all pieces. -/
theorem joinWith_flatMap {ι : Type} {sep : String} {f : ι → List String} {xs : List ι}
    (hf : ∀ x ∈ xs, f x ≠ []) :
    joinWith sep (xs.map fun x => joinWith sep (f x)) =
      joinWith sep (xs.flatMap f) := by
  induction xs with
  | nil => rfl
  | cons x xs ih =>
    rw [List.map_cons, List.flatMap_cons]
    rcases xs with _ | ⟨y, ys⟩
    · rw [List.map_nil, joinWith_singleton, List.flatMap_nil, List.append_nil]
    · have hne : (y :: ys).flatMap f ≠ [] := by
        have hy := hf y (by simp)
        simp [hy]
      rw [joinWith_append (hf x List.mem_cons_self) hne,
        ← ih fun z hz => hf z (List.mem_cons_of_mem x hz), ← List.singleton_append,
        joinWith_append (by simp) (by simp), joinWith_singleton]

theorem splitUnion_joinWith {ps : List String} (hne : ps ≠ [])
    (hps : ∀ p ∈ ps, Chars.Solid p.toList) :
    Chars.splitUnion (joinWith " | " ps).toList = ps.map String.toList := by
  rw [joinWith, String.toList_ofList]
  refine Chars.splitUnion_joinWith (by simpa using hne) fun q hq => ?_
  obtain ⟨p, hp, rfl⟩ := List.mem_map.1 hq
  exact (hps p hp).space_not_mem

theorem strip_joinWith {sep : String} {ps : List String} (hps : ∀ p ∈ ps, Chars.Solid p.toList) :
    strip (joinWith sep ps) = joinWith sep ps := by
  rw [strip, joinWith, String.toList_ofList, Chars.strip_joinWith]
  intro q hq
  obtain ⟨p, hp, rfl⟩ := List.mem_map.1 hq
  exact hps p hp

end Text

end RouteDoc
