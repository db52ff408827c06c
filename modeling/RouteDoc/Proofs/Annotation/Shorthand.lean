import RouteDoc.Annotation.Endpoint
import RouteDoc.Proofs.Text.Trim
import Mathlib.Data.List.Forall2
import Mathlib.Data.List.Infix

/-!
# Methods in front of resources

A method can be given on its own, or as the word in front of a resource.  On its own it is put into
capitals and looked up; in front of a resource it is compared letter by letter, whatever its case.

* `Chars.capital_eq_singleton_iff`: the capital of a character is the letter that it spells, with
  one exception, the capital I with a dot.
* `Endpoint.Spelled`: a word is spelled letter by letter.  `capitals_of_spelled`,
  `spelled_of_capitals`: this is to say that its capitals are the word, for texts without that I and
  without ligatures.
* `Endpoint.cutMethod?_eq_some_iff`: the method in front of a resource is the first word there, if
  that spells one.
* `Endpoint.method_agrees_iff`: **the two readings of a method agree** unless an I has a dot, or the
  last two letters of POST are a ligature.
-/

namespace RouteDoc

namespace Chars

/-! ## Letters -/

/-- The capital I with a dot. -/
def dottedI : Char := Char.ofNat 0x0130

variable {c w : Char}

theorem toNat_of_isAsciiUpper (h : isAsciiUpper w = true) : w.toNat < 0x80 := by
  have hletter : isAsciiLetter w = true := by rw [isAsciiLetter, h, Bool.true_or]
  have := toNat_of_isAsciiLetter hletter
  omega

/-- A character beyond ASCII is no spelling of a letter of ASCII by its case alone. -/
theorem asciiUpper_ne (hw : isAsciiUpper w = true) (hc : 0x80 ≤ c.toNat) : asciiUpper c ≠ w := by
  have hsmall : isAsciiLower c = false := by
    by_contra h
    rw [Bool.not_eq_false] at h
    have := toNat_of_isAsciiLetter (c := c) (by rw [isAsciiLetter, h, Bool.or_true])
    omega
  rw [asciiUpper, hsmall, if_neg Bool.false_ne_true]
  rintro rfl
  have := toNat_of_isAsciiUpper hw
  omega

theorem spells_iff : Endpoint.spells w c = true ↔ asciiUpper c = w ∨
    (w = 'S' ∧ c.toNat = 0x017F) ∨ (w = 'I' ∧ (c.toNat = 0x0130 ∨ c.toNat = 0x0131)) := by
  simp only [Endpoint.spells, Bool.or_eq_true, Bool.and_eq_true, beq_iff_eq, or_assoc]

theorem eq_ofNat {n : Nat} (h : c.toNat = n) : c = Char.ofNat n := by
  rw [← h, Char.ofNat_toNat]

theorem eq_dottedI_iff : c = dottedI ↔ c.toNat = 0x0130 := by
  constructor
  · rintro rfl
    rfl
  · exact eq_ofNat

/-- The code points that several capitals stand for. -/
def ligatures : List Nat := [0x00DF, 0xFB00, 0xFB01, 0xFB02, 0xFB03, 0xFB04, 0xFB05, 0xFB06]

/-- The capitals of ligatures. -/
def joined : List (List Char) :=
  [['S', 'S'], ['F', 'F'], ['F', 'I'], ['F', 'L'], ['F', 'F', 'I'], ['F', 'F', 'L'], ['S', 'T']]

theorem capital_mem_joined : ∀ n ∈ ligatures, capital (Char.ofNat n) ∈ joined := by decide

/-- The four sorts of characters: the long s, the i without a dot, the ligatures, and all others. -/
theorem capital_cases (c : Char) : (c.toNat = 0x017F ∧ capital c = ['S']) ∨
    (c.toNat = 0x0131 ∧ capital c = ['I']) ∨ (c.toNat ∈ ligatures ∧ capital c ∈ joined) ∨
    (c.toNat ≠ 0x017F ∧ c.toNat ≠ 0x0131 ∧ capital c = [asciiUpper c]) := by
  by_cases hlong : c.toNat = 0x017F
  · exact .inl ⟨hlong, by rw [eq_ofNat hlong]; rfl⟩
  by_cases hdotless : c.toNat = 0x0131
  · exact .inr (.inl ⟨hdotless, by rw [eq_ofNat hdotless]; rfl⟩)
  by_cases hmem : c.toNat ∈ ligatures
  · have hjoined := capital_mem_joined _ hmem
    rw [Char.ofNat_toNat] at hjoined
    exact .inr (.inr (.inl ⟨hmem, hjoined⟩))
  · refine .inr (.inr (.inr ⟨hlong, hdotless, ?_⟩))
    simp only [ligatures, List.mem_cons, List.not_mem_nil, or_false, not_or] at hmem
    unfold capital
    split <;> simp_all

theorem le_of_mem_ligatures : ∀ n ∈ ligatures, 0x80 ≤ n := by decide

theorem two_le_length_of_mem_joined : ∀ l ∈ joined, 2 ≤ l.length := by decide

/-- **The capital of a character is the letter that it spells**, unless it is the I with a dot. -/
theorem capital_eq_singleton_iff (hw : isAsciiUpper w = true) :
    capital c = [w] ↔ Endpoint.spells w c = true ∧ c ≠ dottedI := by
  rw [spells_iff, Ne, eq_dottedI_iff]
  rcases capital_cases c with ⟨hc, hcapital⟩ | ⟨hc, hcapital⟩ | ⟨hc, hcapital⟩ |
    ⟨hlong, hdotless, hcapital⟩
  · have hne := asciiUpper_ne (c := c) hw (by omega)
    rw [hcapital]
    simp [hne, hc, eq_comm]
  · have hne := asciiUpper_ne (c := c) hw (by omega)
    rw [hcapital]
    simp [hne, hc, eq_comm]
  · -- the capitals of a ligature are several letters
    have hne := asciiUpper_ne (c := c) hw (le_of_mem_ligatures _ hc)
    have hlength := two_le_length_of_mem_joined _ hcapital
    constructor
    · intro h
      rw [h] at hlength
      exact absurd hlength (by simp)
    · rintro ⟨h | ⟨-, h⟩ | ⟨-, h | h⟩, hdot⟩
      · exact absurd h hne
      · exact absurd (h ▸ hc) (by decide)
      · exact absurd h hdot
      · exact absurd (h ▸ hc) (by decide)
  · rw [hcapital, List.cons.injEq, and_iff_left rfl]
    constructor
    · rintro rfl
      refine ⟨.inl rfl, fun hdot => ?_⟩
      exact asciiUpper_ne hw (by omega) rfl
    · rintro ⟨h | ⟨-, h⟩ | ⟨-, h | h⟩, hdot⟩
      · exact h
      · exact absurd h hlong
      · exact absurd h hdot
      · exact absurd h hdotless

theorem capital_dottedI : capital dottedI = [dottedI] := by decide

/-! ## Words -/

variable {s t : List Char}

theorem capitals_cons (c : Char) (s : List Char) : capitals (c :: s) = capital c ++ capitals s :=
  List.flatMap_cons

/-- The capitals of a character stand next to each other. -/
theorem capital_isInfix (h : c ∈ s) : capital c <:+: capitals s := by
  obtain ⟨a, b, rfl⟩ := List.append_of_mem h
  refine ⟨capitals a, capitals b, ?_⟩
  rw [capitals, capitals, capitals, List.flatMap_append, List.flatMap_cons, List.append_assoc]

end Chars

namespace Endpoint

open Chars

variable {w s t : List Char} {c : Char}

/-- A text spells a word, letter by letter. -/
def Spelled (w s : List Char) : Prop := List.Forall₂ (fun x c => spells x c = true) w s

theorem cutWord?_eq_some_iff {rest : List Char} :
    cutWord? w s = some (t, rest) ↔ Spelled w t ∧ s = t ++ rest := by
  induction w generalizing s t with
  | nil =>
    rw [cutWord?, Option.some.injEq, Prod.mk.injEq, Spelled, List.forall₂_nil_left_iff]
    constructor
    · rintro ⟨rfl, rfl⟩
      exact ⟨rfl, rfl⟩
    · rintro ⟨rfl, rfl⟩
      exact ⟨rfl, rfl⟩
  | cons x w ih =>
    constructor
    · intro h
      cases s with
      | nil => exact absurd h (by simp [cutWord?])
      | cons c s =>
        rw [cutWord?] at h
        split at h
        · rename_i hx
          obtain ⟨⟨t', rest'⟩, hcut, heq⟩ := Option.map_eq_some_iff.1 h
          obtain ⟨rfl, rfl⟩ := Prod.mk.inj heq
          obtain ⟨hspelled, rfl⟩ := ih.1 hcut
          exact ⟨.cons hx hspelled, rfl⟩
        · exact absurd h (by simp)
    · rintro ⟨hspelled, rfl⟩
      cases hspelled with
      | cons hx hspelled =>
        rw [List.cons_append, cutWord?, if_pos hx, ih.2 ⟨hspelled, rfl⟩, Option.map_some]

theorem isAsciiUpper_of_mem_methods : ∀ m ∈ methods, ∀ x ∈ m.toList, isAsciiUpper x = true := by
  have hall : ∀ m ∈ methods, m.toList.all isAsciiUpper = true := by decide
  exact fun m hm => List.all_eq_true.1 (hall m hm)

/-! ### Capitals of words -/

/-- What is spelled without the dotted I has the word for its capitals. -/
theorem capitals_of_spelled (hw : ∀ x ∈ w, isAsciiUpper x = true) (h : Spelled w s)
    (hdot : dottedI ∉ s) : capitals s = w := by
  induction h with
  | nil => rfl
  | @cons x c w s hx _ ih =>
    obtain ⟨hxw, hw⟩ := List.forall_mem_cons.1 hw
    rw [List.mem_cons, not_or] at hdot
    have hcapital : capital c = [x] :=
      (capital_eq_singleton_iff hxw).2 ⟨hx, fun hc => hdot.1 hc.symm⟩
    rw [capitals_cons, hcapital, ih hw hdot.2, List.singleton_append]

/-- A text without ligatures spells its capitals, and has no dotted I in it. -/
theorem spelled_of_capitals (hw : ∀ x ∈ w, isAsciiUpper x = true) (h : capitals s = w)
    (hsingle : ∀ c ∈ s, capital c ∉ joined) : Spelled w s ∧ dottedI ∉ s := by
  induction s generalizing w with
  | nil =>
    subst h
    exact ⟨.nil, List.not_mem_nil⟩
  | cons c s ih =>
    obtain ⟨hc, hs⟩ := List.forall_mem_cons.1 hsingle
    have hone : ∃ x, capital c = [x] := by
      rcases capital_cases c with ⟨-, h⟩ | ⟨-, h⟩ | ⟨-, h⟩ | ⟨-, -, h⟩
      · exact ⟨_, h⟩
      · exact ⟨_, h⟩
      · exact absurd h hc
      · exact ⟨_, h⟩
    obtain ⟨x, hx⟩ := hone
    rw [capitals_cons, hx, List.singleton_append] at h
    subst h
    obtain ⟨hxw, hw⟩ := List.forall_mem_cons.1 hw
    obtain ⟨hspells, hdot⟩ := (capital_eq_singleton_iff hxw).1 hx
    obtain ⟨hspelled, hrest⟩ := ih hw rfl hs
    refine ⟨.cons hspells hspelled, ?_⟩
    rw [List.mem_cons, not_or]
    exact ⟨fun heq => hdot heq.symm, hrest⟩

/-- The only ligature in a method is the one of S and T, in POST. -/
theorem eq_post_of_joined :
    ∀ m ∈ methods, ∀ l ∈ joined, l <:+: m.toList → m = "POST" ∧ l = ['S', 'T'] := by
  decide +kernel

/-! ## Methods on their own -/

variable {word resource m : String}

theorem strip_of_solid (hs : ∀ c ∈ s, isBlank c = false) : strip s = s :=
  strip_eq_self (fun c hc => hs c (List.mem_of_mem_head? hc))
    fun c hc => hs c (List.mem_of_mem_getLast? hc)

theorem readMethod_eq_ok_iff (hs : ∀ c ∈ word.toList, isBlank c = false) :
    readMethod word = .ok m ↔ m ∈ methods ∧ capitals word.toList = m.toList := by
  unfold readMethod
  rw [strip_of_solid hs]
  constructor
  · intro h
    simp only at h
    split at h
    · rename_i hmem
      obtain rfl := Except.ok.inj h
      exact ⟨hmem, by rw [String.toList_ofList]⟩
    · exact absurd h (by simp)
  · rintro ⟨hmem, h⟩
    simp only [h, String.ofList_toList, if_pos hmem]

/-- What is no method is reported as it is written. -/
theorem readMethod_eq_error (h : ∀ m, readMethod word ≠ .ok m) :
    readMethod word = .error (.unknownMethod word) := by
  unfold readMethod at h ⊢
  simp only at h ⊢
  split
  · rename_i hmem
    simp only [if_pos hmem] at h
    exact absurd rfl (h _)
  · rfl

/-! ## Methods in front of resources -/

/-- Letters are spelled by letters, whatever their case. -/
theorem isBlank_of_spells {x : Char} (hx : isAsciiUpper x = true) (h : spells x c = true) :
    isBlank c = false ∧ c ≠ '/' := by
  have hletter : isAsciiLetter c = true ∨ c.toNat ∈ [0x017F, 0x0130, 0x0131] := by
    rcases spells_iff.1 h with h | ⟨-, h⟩ | ⟨-, h | h⟩
    · by_cases hsmall : isAsciiLower c = true
      · exact .inl (by rw [isAsciiLetter, hsmall, Bool.or_true])
      · rw [asciiUpper, if_neg hsmall] at h
        exact .inl (by rw [isAsciiLetter, h, hx, Bool.true_or])
    · exact .inr (by simp [h])
    · exact .inr (by simp [h])
    · exact .inr (by simp [h])
  rcases hletter with hletter | hmem
  · have hrange := toNat_of_isAsciiLetter hletter
    refine ⟨isBlank_eq_false_of_isAscii (by omega) (by omega), ?_⟩
    rintro rfl
    exact absurd hletter (by decide)
  · have hall : ∀ n ∈ [0x017F, 0x0130, 0x0131],
        isBlank (Char.ofNat n) = false ∧ Char.ofNat n ≠ '/' := by decide
    have hc := hall _ hmem
    rwa [Char.ofNat_toNat] at hc

/-- Every character of what is spelled spells a letter of the word. -/
theorem Spelled.exists_of_mem (h : Spelled w s) (hc : c ∈ s) : ∃ x ∈ w, spells x c = true := by
  induction h with
  | nil => exact absurd hc List.not_mem_nil
  | @cons x d w s hx _ ih =>
    rcases List.mem_cons.1 hc with rfl | hc
    · exact ⟨x, List.mem_cons_self, hx⟩
    · obtain ⟨y, hy, hspells⟩ := ih hc
      exact ⟨y, List.mem_cons_of_mem x hy, hspells⟩

theorem Spelled.forall_mem (hw : ∀ x ∈ w, isAsciiUpper x = true) (h : Spelled w s) :
    ∀ c ∈ s, isBlank c = false ∧ c ≠ '/' := by
  intro c hc
  obtain ⟨x, hx, hspells⟩ := h.exists_of_mem hc
  exact isBlank_of_spells (hw x hx) hspells

theorem firstWord_append_snd (s : List Char) :
    ∃ blanks, s = (firstWord s).1 ++ blanks ∧ (firstWord s).2 = blanks.dropWhile isBlank ∧
      ∀ c ∈ blanks.head?, isBlank c = true := by
  refine ⟨s.dropWhile (!isBlank ·), List.takeWhile_append_dropWhile.symm, rfl, fun c hc => ?_⟩
  simpa using eq_false_of_mem_head?_dropWhile hc

/-- **The method in front of a resource is the first word of the text**, if it is spelled, and the
resource is what follows it, if it is one line. -/
theorem cutMethod?_eq_some_iff {p : List Char × List Char} : cutMethod? s = some p ↔
    p = firstWord s ∧ (∃ m ∈ methods, Spelled m.toList p.1) ∧ p.2 ≠ [] ∧ '\n' ∉ p.2 := by
  have hcut : ∀ {p}, cutMethod? s = some p →
      p = firstWord s ∧ (∃ m ∈ methods, Spelled m.toList p.1) ∧ p.2 ≠ [] ∧ '\n' ∉ p.2 := by
    intro p h
    obtain ⟨m, hm, hsome⟩ := List.exists_of_findSome?_eq_some h
    split at hsome
    · rename_i spelling c r hword
      simp only at hsome
      split at hsome
      · rename_i hrest
        obtain rfl := Option.some.inj hsome
        obtain ⟨hspelled, rfl⟩ := cutWord?_eq_some_iff.1 hword
        have hsolid : ∀ d ∈ spelling, isBlank d = false := fun d hd =>
          (hspelled.forall_mem (isAsciiUpper_of_mem_methods m hm) d hd).1
        rw [firstWord_append hsolid hrest.1, List.dropWhile_cons_of_pos hrest.1] at *
        exact ⟨rfl, ⟨m, hm, hspelled⟩, hrest.2⟩
      · exact absurd hsome (by simp)
    · exact absurd hsome (by simp)
  refine ⟨hcut, ?_⟩
  rintro ⟨rfl, ⟨m, hm, hspelled⟩, hne, hline⟩
  -- some method is found, and it can only be the first word
  obtain ⟨q, hq⟩ : ∃ q, cutMethod? s = some q := by
    rw [← Option.ne_none_iff_exists']
    intro hnone
    have hm' := List.findSome?_eq_none_iff.1 hnone m hm
    obtain ⟨blanks, hs, hsnd, hblank⟩ := firstWord_append_snd s
    obtain ⟨c, r, rfl⟩ : ∃ c r, blanks = c :: r := by
      refine List.exists_cons_of_ne_nil fun hnil => hne ?_
      rw [hsnd, hnil, List.dropWhile_nil]
    rw [cutWord?_eq_some_iff.2 ⟨hspelled, hs⟩] at hm'
    simp only at hm'
    rw [← hsnd, if_pos ⟨hblank c rfl, hne, hline⟩] at hm'
    exact absurd hm' (by simp)
  rw [hq, (hcut hq).1]

/-- A word without blanks, and a resource on one line. -/
structure Shorthand (word resource : String) : Prop where
  solid : ∀ c ∈ word.toList, isBlank c = false
  strip_eq : strip resource.toList = resource.toList
  rooted : resource.toList.head? = some '/'
  newline_not_mem : '\n' ∉ resource.toList

instance (word resource : String) : Decidable (Shorthand word resource) :=
  decidable_of_iff (word.toList.all (!isBlank ·) = true ∧
      strip resource.toList = resource.toList ∧ resource.toList.head? = some '/' ∧
      '\n' ∉ resource.toList)
    ⟨fun h => ⟨by simpa using h.1, h.2.1, h.2.2.1, h.2.2.2⟩,
      fun h => ⟨by simpa using h.1, h.2, h.3, h.4⟩⟩

namespace Shorthand

variable (h : Shorthand word resource)

include h

theorem trimmed : Trimmed resource.toList where
  ne_nil hnil := by
    have hslash := h.rooted
    rw [hnil] at hslash
    exact absurd hslash (by simp)
  strip_eq := h.strip_eq

theorem strip_text (hword : word.toList ≠ []) : strip (word ++ " " ++ resource).toList =
    word.toList ++ ' ' :: resource.toList := by
  have hw : Trimmed word.toList := Solid.trimmed ⟨hword, h.solid⟩
  have happend := (hw.append [' '] h.trimmed).strip_eq
  rw [String.toList_append, String.toList_append, List.append_assoc]
  exact happend

theorem firstWord_text : firstWord (word.toList ++ ' ' :: resource.toList) =
    (word.toList, resource.toList) := by
  obtain ⟨r, hr⟩ := List.head?_eq_some_iff.1 h.rooted
  rw [firstWord_append h.solid (by decide), hr, List.dropWhile_cons_of_neg (by decide)]

/-- The word in front of a resource is taken for a method if it is spelled like one. -/
theorem cutMethod?_of_spelled (hs : ∃ m ∈ methods, Spelled m.toList word.toList) :
    cutMethod? (word.toList ++ ' ' :: resource.toList) = some (word.toList, resource.toList) :=
  cutMethod?_eq_some_iff.2 ⟨h.firstWord_text.symm, hs, h.trimmed.ne_nil, h.newline_not_mem⟩

theorem cutMethod?_of_not (hs : ¬ ∃ m ∈ methods, Spelled m.toList word.toList) :
    cutMethod? (strip (word ++ " " ++ resource).toList) = none := by
  refine Option.eq_none_iff_forall_ne_some.2 fun p hcut => hs ?_
  obtain ⟨hp, hspelled, -⟩ := cutMethod?_eq_some_iff.1 hcut
  by_cases hword : word.toList = []
  · -- the text is the resource, whose first word begins with a slash
    obtain ⟨r, hr⟩ := List.head?_eq_some_iff.1 h.rooted
    have htext : strip (word ++ " " ++ resource).toList = '/' :: r := by
      rw [String.toList_append, String.toList_append, hword, List.nil_append,
        show " ".toList = [' '] from rfl, List.singleton_append, strip_cons_of_pos (by decide),
        h.strip_eq, hr]
    have hslash : '/' ∈ p.1 := by
      rw [hp, htext, firstWord, List.takeWhile_cons_of_pos (by decide)]
      exact List.mem_cons_self
    obtain ⟨m, hm, hspelled⟩ := hspelled
    have hall := hspelled.forall_mem (isAsciiUpper_of_mem_methods m hm)
    exact absurd rfl (hall '/' hslash).2
  · rwa [hp, h.strip_text hword, h.firstWord_text] at hspelled

theorem readResource_of_spelled (hs : ∃ m ∈ methods, Spelled m.toList word.toList) :
    readResource (word ++ " " ++ resource) =
      .ok (resource, some (String.ofList (capitals word.toList))) := by
  have hword : word.toList ≠ [] := by
    obtain ⟨m, hm, hspelled⟩ := hs
    intro hnil
    rw [hnil, Spelled, List.forall₂_nil_right_iff] at hspelled
    revert m
    decide
  unfold readResource
  simp only [h.strip_text hword, h.cutMethod?_of_spelled hs, h.rooted, String.ofList_toList]
  rw [if_neg (by simp)]
  rfl

theorem readResource_of_not (hs : ¬ ∃ m ∈ methods, Spelled m.toList word.toList)
    (x k : String) : readResource (word ++ " " ++ resource) ≠ .ok (x, some k) := by
  unfold readResource
  simp only [h.cutMethod?_of_not hs]
  split
  · simp
  · split <;> simp

/-- A word that is not taken for a method is taken for the start of the resource. -/
theorem readResource_of_head? (hs : ¬ ∃ m ∈ methods, Spelled m.toList word.toList)
    (hword : word.toList ≠ []) (hslash : word.toList.head? ≠ some '/') :
    readResource (word ++ " " ++ resource) =
      .error (.unrootedResource (word ++ " " ++ resource)) := by
  have htext : strip (word ++ " " ++ resource).toList = (word ++ " " ++ resource).toList := by
    rw [h.strip_text hword]
    simp
  have hhead : (word ++ " " ++ resource).toList.head? = word.toList.head? := by
    rw [String.toList_append, String.toList_append, List.append_assoc,
      List.head?_append_of_ne_nil _ hword]
  have hne : (word ++ " " ++ resource).toList ≠ [] := by simp
  have hnone := h.cutMethod?_of_not hs
  unfold readResource
  rw [htext] at hnone ⊢
  simp only [hnone, hhead]
  rw [if_neg hne, if_neg hslash, String.ofList_toList]

end Shorthand

/-! ## Agreement -/

/-- OPTIONS, with a dotted I. -/
structure Dotted (word : String) : Prop where
  spelled : Spelled "OPTIONS".toList word.toList
  mem : dottedI ∈ word.toList

/-- POST, with a ligature for its last two letters. -/
structure Ligated (word : String) : Prop where
  capitals_eq : capitals word.toList = "POST".toList
  mem : ∃ c ∈ word.toList, capital c = ['S', 'T']

/-- The method in front of a resource is the one that its word stands for on its own, and nothing
else is taken for the resource. -/
structure Agrees (word resource : String) : Prop where
  method_iff : ∀ m, (∃ x, readResource (word ++ " " ++ resource) = .ok (x, some m)) ↔
    readMethod word = .ok m
  resource_eq : ∀ x m, readResource (word ++ " " ++ resource) = .ok (x, some m) → x = resource

/-- The dotted I spells no other letter than the I. -/
theorem dottedI_not_mem_of_spelled (hw : ∀ x ∈ w, isAsciiUpper x = true) (hI : 'I' ∉ w)
    (h : Spelled w s) : dottedI ∉ s := by
  intro hdot
  obtain ⟨x, hx, hspells⟩ := h.exists_of_mem hdot
  rcases spells_iff.1 hspells with heq | ⟨-, heq⟩ | ⟨rfl, -⟩
  · exact asciiUpper_ne (hw x hx) (by decide) heq
  · exact absurd heq (by decide)
  · exact hI hx

/-- What spells a method and has a dotted I in it, is OPTIONS. -/
theorem dotted_of_spelled (hm : m ∈ methods) (h : Spelled m.toList word.toList)
    (hdot : dottedI ∈ word.toList) : Dotted word := by
  have hI : ∀ m ∈ methods, 'I' ∈ m.toList → m = "OPTIONS" := by decide
  have hmem : 'I' ∈ m.toList := by
    by_contra hnot
    exact dottedI_not_mem_of_spelled (isAsciiUpper_of_mem_methods m hm) hnot h hdot
  exact ⟨hI m hm hmem ▸ h, hdot⟩

theorem Dotted.capitals_eq (h : Dotted word) :
    capitals word.toList = ['O', 'P', 'T', dottedI, 'O', 'N', 'S'] := by
  obtain ⟨hspelled, hmem⟩ := h
  have hword : "OPTIONS".toList = ['O', 'P', 'T', 'I', 'O', 'N', 'S'] := by decide
  rw [hword] at hspelled
  generalize word.toList = s at hspelled hmem
  -- the three letters in front of the I, the I, and those behind it
  obtain ⟨c₁, s₁, h₁, hs₁, rfl⟩ := List.forall₂_cons_left_iff.1 hspelled
  obtain ⟨c₂, s₂, h₂, hs₂, rfl⟩ := List.forall₂_cons_left_iff.1 hs₁
  obtain ⟨c₃, s₃, h₃, hs₃, rfl⟩ := List.forall₂_cons_left_iff.1 hs₂
  obtain ⟨c, back, -, hback, rfl⟩ := List.forall₂_cons_left_iff.1 hs₃
  have hfront : Spelled ['O', 'P', 'T'] [c₁, c₂, c₃] := .cons h₁ (.cons h₂ (.cons h₃ .nil))
  have hopt : ∀ x ∈ ['O', 'P', 'T'], isAsciiUpper x = true := List.all_eq_true.1 (by decide)
  have hons : ∀ x ∈ ['O', 'N', 'S'], isAsciiUpper x = true := List.all_eq_true.1 (by decide)
  have hfrontI : dottedI ∉ [c₁, c₂, c₃] := dottedI_not_mem_of_spelled hopt (by decide) hfront
  have hbackI : dottedI ∉ back := dottedI_not_mem_of_spelled hons (by decide) hback
  obtain rfl : dottedI = c := by
    have hmem' : dottedI ∈ [c₁, c₂, c₃] ++ c :: back := hmem
    have hrest := (List.mem_append.1 hmem').resolve_left hfrontI
    exact (List.mem_cons.1 hrest).resolve_right hbackI
  have hsplit : capitals ([c₁, c₂, c₃] ++ dottedI :: back) =
      capitals [c₁, c₂, c₃] ++ (capital dottedI ++ capitals back) := by
    rw [← capitals_cons, capitals, capitals, capitals, List.flatMap_append]
  refine hsplit.trans ?_
  rw [capitals_of_spelled hopt hfront hfrontI, capitals_of_spelled hons hback hbackI,
    capital_dottedI]
  rfl

theorem readMethod_of_dotted (hs : ∀ c ∈ word.toList, isBlank c = false) (h : Dotted word)
    (m : String) : readMethod word ≠ .ok m := by
  rw [Ne, readMethod_eq_ok_iff hs, h.capitals_eq]
  rintro ⟨hm, heq⟩
  have hdot : ∀ m ∈ methods, dottedI ∉ m.toList := by decide
  exact hdot m hm (heq ▸ by decide)

/-- A ligature spells no letter. -/
theorem Ligated.not_spelled (h : Ligated word) :
    ¬ ∃ m ∈ methods, Spelled m.toList word.toList := by
  rintro ⟨m, hm, hspelled⟩
  obtain ⟨c, hc, hcapital⟩ := h.mem
  obtain ⟨x, hx, hspells⟩ := hspelled.exists_of_mem hc
  have hdot : c ≠ dottedI := by
    rintro rfl
    rw [capital_dottedI] at hcapital
    exact absurd hcapital (by simp)
  have hone := (capital_eq_singleton_iff (isAsciiUpper_of_mem_methods m hm x hx)).2 ⟨hspells, hdot⟩
  rw [hone] at hcapital
  exact absurd hcapital (by simp)

/-- What has a method for its capitals spells it letter by letter, or is POST with a ligature. -/
theorem spelled_or_ligated (hm : m ∈ methods) (h : capitals word.toList = m.toList) :
    (Spelled m.toList word.toList ∧ dottedI ∉ word.toList) ∨ Ligated word := by
  by_cases hsingle : ∀ c ∈ word.toList, capital c ∉ joined
  · exact .inl (spelled_of_capitals (isAsciiUpper_of_mem_methods m hm) h hsingle)
  · push Not at hsingle
    obtain ⟨c, hc, hjoined⟩ := hsingle
    obtain ⟨rfl, hcapital⟩ := eq_post_of_joined m hm _ hjoined (h ▸ capital_isInfix hc)
    exact .inr ⟨h, c, hc, hcapital⟩

variable (h : Shorthand word resource)

include h

theorem Dotted.readResource_eq (hd : Dotted word) : readResource (word ++ " " ++ resource) =
    .ok (resource, some (String.ofList ['O', 'P', 'T', dottedI, 'O', 'N', 'S'])) := by
  rw [h.readResource_of_spelled ⟨"OPTIONS", by decide, hd.spelled⟩, hd.capitals_eq]

theorem Ligated.readMethod_eq (hl : Ligated word) : readMethod word = .ok "POST" :=
  (readMethod_eq_ok_iff h.solid).2 ⟨by decide, hl.capitals_eq⟩

/-- POST with a ligature is taken for the start of the resource. -/
theorem Ligated.readResource_eq (hl : Ligated word) : readResource (word ++ " " ++ resource) =
    .error (.unrootedResource (word ++ " " ++ resource)) := by
  have hword : word.toList ≠ [] := by
    obtain ⟨c, hc, -⟩ := hl.mem
    exact List.ne_nil_of_mem hc
  refine h.readResource_of_head? hl.not_spelled hword fun hslash => ?_
  -- the capitals of such a word would begin with a slash, too
  obtain ⟨s, hs⟩ := List.head?_eq_some_iff.1 hslash
  have hcapitals := hl.capitals_eq
  rw [hs, capitals_cons, show capital '/' = ['/'] by decide] at hcapitals
  exact absurd (congrArg List.head? hcapitals) (by simp)

/-- All other words are read alike in both places. -/
theorem agrees_of_not (hdotted : ¬ Dotted word) (hligated : ¬ Ligated word) :
    Agrees word resource := by
  by_cases hspelled : ∃ m ∈ methods, Spelled m.toList word.toList
  · obtain ⟨m, hm, hs⟩ := hspelled
    have hdot : dottedI ∉ word.toList := fun hdot => hdotted (dotted_of_spelled hm hs hdot)
    have hcapitals := capitals_of_spelled (isAsciiUpper_of_mem_methods m hm) hs hdot
    have hmethod := (readMethod_eq_ok_iff h.solid).2 ⟨hm, hcapitals⟩
    have hresource := h.readResource_of_spelled ⟨m, hm, hs⟩
    rw [hcapitals, String.ofList_toList] at hresource
    refine ⟨fun k => ?_, fun x k hx => ?_⟩
    · rw [hmethod, hresource]
      simp
    · rw [hresource] at hx
      exact (Prod.mk.inj (Except.ok.inj hx)).1.symm
  · have hno := h.readResource_of_not hspelled
    refine ⟨fun k => ⟨fun ⟨x, hx⟩ => absurd hx (hno x k), fun hk => ?_⟩,
      fun x k hx => absurd hx (hno x k)⟩
    obtain ⟨hm, hcapitals⟩ := (readMethod_eq_ok_iff h.solid).1 hk
    rcases spelled_or_ligated hm hcapitals with ⟨hs, -⟩ | hl
    · exact absurd ⟨k, hm, hs⟩ hspelled
    · exact absurd hl hligated

/-- **The method in front of a resource is read like the method on its own, unless an I has a dot or
the last two letters of POST are a ligature.**  A dotted I stays in the method, which no document
lists then; and a ligature makes the word a part of the resource. -/
theorem method_agrees_iff :
    (Agrees word resource ↔ ¬ Dotted word ∧ ¬ Ligated word) ∧
    (∀ m, readMethod word = .ok m → m ∈ methods) ∧
    (Dotted word → readMethod word = .error (.unknownMethod word) ∧
      readResource (word ++ " " ++ resource) =
        .ok (resource, some (String.ofList ['O', 'P', 'T', dottedI, 'O', 'N', 'S']))) ∧
    (Ligated word → readMethod word = .ok "POST" ∧
      readResource (word ++ " " ++ resource) =
        .error (.unrootedResource (word ++ " " ++ resource))) := by
  refine ⟨⟨fun hagrees => ⟨fun hd => ?_, fun hl => ?_⟩, fun hnot => ?_⟩, fun m hm => ?_,
    fun hd => ⟨?_, hd.readResource_eq h⟩, fun hl => ⟨hl.readMethod_eq h, hl.readResource_eq h⟩⟩
  · have hmethod := (hagrees.method_iff _).1 ⟨resource, hd.readResource_eq h⟩
    exact readMethod_of_dotted h.solid hd _ hmethod
  · obtain ⟨x, hx⟩ := (hagrees.method_iff "POST").2 (hl.readMethod_eq h)
    rw [hl.readResource_eq h] at hx
    exact absurd hx (by simp)
  · exact agrees_of_not h hnot.1 hnot.2
  · exact ((readMethod_eq_ok_iff h.solid).1 hm).1
  · exact readMethod_eq_error (readMethod_of_dotted h.solid hd)

omit h

/-- A word with a long s and an i without a dot. -/
theorem method_agrees_iff_options :
    let word := String.ofList ['o', 'p', 't', Char.ofNat 0x0131, 'O', 'n', Char.ofNat 0x017F]
    Shorthand word "/books" ∧ ¬ Dotted word ∧ ¬ Ligated word ∧ Agrees word "/books" ∧
      readMethod word = .ok "OPTIONS" ∧
      readResource (word ++ " " ++ "/books") = .ok ("/books", some "OPTIONS") := by
  intro word
  have h : Shorthand word "/books" := by decide
  have hdotted : ¬ Dotted word := fun hd => absurd hd.mem (by decide)
  have hligated : ¬ Ligated word := fun hl => absurd hl.capitals_eq (by decide)
  have hmethod : readMethod word = .ok "OPTIONS" := by decide
  have hagrees := (method_agrees_iff h).1.2 ⟨hdotted, hligated⟩
  obtain ⟨x, hx⟩ := (hagrees.method_iff "OPTIONS").2 hmethod
  obtain rfl := hagrees.resource_eq x "OPTIONS" hx
  exact ⟨h, hdotted, hligated, hagrees, hmethod, hx⟩

/-- A dotted I is taken for an I in front of a resource only; a ligature is taken for its two
letters in a method on its own only. -/
theorem not_agrees_of_dotted_of_ligated :
    let dotted := String.ofList ['O', 'P', 'T', dottedI, 'O', 'N', 'S']
    let ligated := String.ofList ['P', 'O', Char.ofNat 0xFB05]
    (Shorthand dotted "/books" ∧ dotted ∉ methods ∧
      readMethod dotted = .error (.unknownMethod dotted) ∧
      readResource (dotted ++ " " ++ "/books") = .ok ("/books", some dotted) ∧
      ¬ Agrees dotted "/books") ∧
    Shorthand ligated "/books" ∧ readMethod ligated = .ok "POST" ∧
      readResource (ligated ++ " " ++ "/books") =
        .error (.unrootedResource (ligated ++ " " ++ "/books")) ∧
      ¬ Agrees ligated "/books" := by
  intro dotted ligated
  have hdotted : readMethod dotted = .error (.unknownMethod dotted) ∧
      readResource (dotted ++ " " ++ "/books") = .ok ("/books", some dotted) := by decide +kernel
  have hligated : readMethod ligated = .ok "POST" ∧
      readResource (ligated ++ " " ++ "/books") =
        .error (.unrootedResource (ligated ++ " " ++ "/books")) := by decide +kernel
  refine ⟨⟨by decide, by decide, hdotted.1, hdotted.2, fun hagrees => ?_⟩,
    by decide, hligated.1, hligated.2, fun hagrees => ?_⟩
  · have hmethod := (hagrees.method_iff dotted).1 ⟨"/books", hdotted.2⟩
    rw [hdotted.1] at hmethod
    exact absurd hmethod (by simp)
  · obtain ⟨x, hx⟩ := (hagrees.method_iff "POST").2 hligated.1
    rw [hligated.2] at hx
    exact absurd hx (by simp)

end Endpoint

end RouteDoc
