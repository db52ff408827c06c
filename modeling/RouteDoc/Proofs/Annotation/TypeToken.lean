import RouteDoc.Annotation.TypeToken
import RouteDoc.Proofs.Text.Trim
import Mathlib.Data.List.Infix

/-!
# Types in braces

* `Chars.Balanced`: the braces of a text close what was opened before, and all of it.
* `closeBrace?_eq_some_iff`, `closeBrace?_eq_none_iff`: a text is cut behind its first balanced
  start, and not at all if no start of it is balanced.
* `Typed.ofFields_braced`: **what a definition with a type in braces is cut into**.
* `Typed.ofFields_of_brace`: **such a type goes up to the brace that closes the first one**; a
  definition without such a brace has a fault.
* `stripDash_eq_self`, `stripDash_dash`: descriptions without a dash, and with one.
-/

namespace RouteDoc

/-! ## Braces -/

namespace Chars

/-- Every closing brace closes one that was opened before it, and all that are opened are closed. -/
structure Balanced (s : List Char) : Prop where
  count_le : ∀ t ∈ s.inits, t.count '}' ≤ t.count '{'
  count_eq : s.count '{' = s.count '}'

instance : DecidablePred Balanced := fun s =>
  decidable_of_iff ((∀ t ∈ s.inits, t.count '}' ≤ t.count '{') ∧ s.count '{' = s.count '}')
    ⟨fun h => ⟨h.1, h.2⟩, fun h => ⟨h.1, h.2⟩⟩

theorem balanced_of_not_mem {s : List Char} (hopen : '{' ∉ s) (hclose : '}' ∉ s) : Balanced s where
  count_le t ht := by
    have hnone : '}' ∉ t := fun h => hclose ((List.mem_inits _ _).1 ht |>.subset h)
    rw [List.count_eq_zero.2 hnone]
    exact Nat.zero_le _
  count_eq := by rw [List.count_eq_zero.2 hopen, List.count_eq_zero.2 hclose]

/-- Behind `depth` open braces, the text closes its own braces and all of those but the first. -/
structure Closes (depth : Nat) (s : List Char) : Prop where
  count_lt : ∀ t ∈ s.inits, t.count '}' < depth + t.count '{'
  count_eq : depth + s.count '{' = s.count '}' + 1

section Closes

variable {depth : Nat} {s : List Char} {c : Char}

theorem closes_iff : Closes depth s ↔ (∀ t ∈ s.inits, t.count '}' < depth + t.count '{') ∧
    depth + s.count '{' = s.count '}' + 1 :=
  ⟨fun h => ⟨h.1, h.2⟩, fun h => ⟨h.1, h.2⟩⟩

theorem forall_mem_inits_cons {p : List Char → Prop} :
    (∀ t ∈ (c :: s).inits, p t) ↔ p [] ∧ ∀ t ∈ s.inits, p (c :: t) := by
  rw [List.inits_cons, List.forall_mem_cons, List.forall_mem_map]

theorem closes_open_iff : Closes depth ('{' :: s) ↔ 0 < depth ∧ Closes (depth + 1) s := by
  have hopen : ∀ t : List Char, ('{' :: t).count '{' = t.count '{' + 1 := fun _ =>
    List.count_cons_self
  have hclose : ∀ t : List Char, ('{' :: t).count '}' = t.count '}' := fun _ =>
    List.count_cons_of_ne (by decide)
  rw [closes_iff, closes_iff, forall_mem_inits_cons, and_assoc]
  refine and_congr (by simp) (and_congr (forall₂_congr fun t _ => ?_) ?_)
  · rw [hopen, hclose]
    omega
  · rw [hopen, hclose]
    omega

theorem closes_close_iff : Closes depth ('}' :: s) ↔ 1 < depth ∧ Closes (depth - 1) s := by
  have hopen : ∀ t : List Char, ('}' :: t).count '{' = t.count '{' := fun _ =>
    List.count_cons_of_ne (by decide)
  have hclose : ∀ t : List Char, ('}' :: t).count '}' = t.count '}' + 1 := fun _ =>
    List.count_cons_self
  rw [closes_iff, closes_iff, forall_mem_inits_cons]
  simp only [hopen, hclose]
  constructor
  · rintro ⟨⟨-, hlt⟩, heq⟩
    have hone := hlt [] (by simp)
    rw [List.count_nil, List.count_nil] at hone
    refine ⟨hone, fun t ht => ?_, by omega⟩
    have := hlt t ht
    omega
  · rintro ⟨hone, hlt, heq⟩
    refine ⟨⟨by simpa using Nat.lt_of_succ_lt hone, fun t ht => ?_⟩, by omega⟩
    have := hlt t ht
    omega

theorem closes_cons_iff (hopen : c ≠ '{') (hclose : c ≠ '}') :
    Closes depth (c :: s) ↔ Closes depth s := by
  rw [closes_iff, closes_iff, forall_mem_inits_cons]
  simp only [List.count_cons_of_ne hopen, List.count_cons_of_ne hclose]
  refine and_congr_left' (and_iff_right_of_imp fun hlt => ?_)
  exact hlt [] (by simp)

/-- Behind one brace, the text closes all of its own braces. -/
theorem closes_one_iff : Closes 1 s ↔ Balanced s := by
  constructor
  · intro h
    refine ⟨fun t ht => ?_, ?_⟩
    · have := h.count_lt t ht
      omega
    · have := h.count_eq
      omega
  · intro h
    refine ⟨fun t ht => ?_, ?_⟩
    · have := h.count_le t ht
      omega
    · have := h.count_eq
      omega

/-- A balanced text in braces is balanced. -/
theorem Balanced.braces (h : Balanced s) : Balanced ('{' :: (s ++ ['}'])) := by
  have hopen : ('{' :: (s ++ ['}'])).count '{' = s.count '{' + 1 := by simp
  have hclose : ('{' :: (s ++ ['}'])).count '}' = s.count '}' + 1 := by simp
  refine ⟨fun t ht => ?_, by rw [hopen, hclose, h.count_eq]⟩
  rw [List.mem_inits, ← List.cons_append] at ht
  rcases List.prefix_concat_iff.1 ht with rfl | ht
  · rw [List.cons_append, hopen, hclose, h.count_eq]
  · rcases List.prefix_cons_iff.1 ht with rfl | ⟨u, rfl, hu⟩
    · simp
    · have := h.count_le u ((List.mem_inits _ _).2 hu)
      rw [List.count_cons_self, List.count_cons_of_ne (by decide)]
      omega

end Closes

end Chars

theorem closeBraceFrom?_open (depth : Nat) (s : List Char) :
    closeBraceFrom? depth ('{' :: s) =
      (closeBraceFrom? (depth + 1) s).map fun p => ('{' :: p.1, p.2) := by
  rw [closeBraceFrom?]

theorem closeBraceFrom?_close (depth : Nat) (s : List Char) :
    closeBraceFrom? depth ('}' :: s) =
      if depth = 1 then some ([], s)
      else (closeBraceFrom? (depth - 1) s).map fun p => ('}' :: p.1, p.2) := by
  rw [closeBraceFrom?]

theorem closeBraceFrom?_cons {c : Char} (hopen : c ≠ '{') (hclose : c ≠ '}') (depth : Nat)
    (s : List Char) :
    closeBraceFrom? depth (c :: s) = (closeBraceFrom? depth s).map fun p => (c :: p.1, p.2) := by
  rw [closeBraceFrom?]
  · exact hopen
  · exact hclose

/-- What is cut off closes its own braces, and all of those in front of it but the first. -/
theorem closeBraceFrom?_eq_some_iff {depth : Nat} (hdepth : 0 < depth) {s t r : List Char} :
    closeBraceFrom? depth s = some (t, r) ↔ Chars.Closes depth t ∧ s = t ++ '}' :: r := by
  constructor
  · intro h
    induction s generalizing depth t with
    | nil => exact absurd h (by simp [closeBraceFrom?])
    | cons c s ih =>
      by_cases hopen : c = '{'
      · subst hopen
        rw [closeBraceFrom?_open] at h
        obtain ⟨⟨t, r⟩, hcut, heq⟩ := Option.map_eq_some_iff.1 h
        obtain ⟨rfl, rfl⟩ := Prod.mk.inj heq
        obtain ⟨hcloses, rfl⟩ := ih (Nat.succ_pos depth) hcut
        exact ⟨Chars.closes_open_iff.2 ⟨hdepth, hcloses⟩, rfl⟩
      · by_cases hclose : c = '}'
        · subst hclose
          rw [closeBraceFrom?_close] at h
          split at h
          · -- the first brace is closed here
            rename_i hone
            obtain ⟨rfl, rfl⟩ := Prod.mk.inj (Option.some.inj h)
            exact ⟨⟨by simp [hdepth], by simpa using hone⟩, rfl⟩
          · rename_i hone
            obtain ⟨⟨t, r⟩, hcut, heq⟩ := Option.map_eq_some_iff.1 h
            obtain ⟨rfl, rfl⟩ := Prod.mk.inj heq
            obtain ⟨hcloses, rfl⟩ := ih (by omega) hcut
            exact ⟨Chars.closes_close_iff.2 ⟨by omega, hcloses⟩, rfl⟩
        · rw [closeBraceFrom?_cons hopen hclose] at h
          obtain ⟨⟨t, r⟩, hcut, heq⟩ := Option.map_eq_some_iff.1 h
          obtain ⟨rfl, rfl⟩ := Prod.mk.inj heq
          obtain ⟨hcloses, rfl⟩ := ih hdepth hcut
          exact ⟨(Chars.closes_cons_iff hopen hclose).2 hcloses, rfl⟩
  · rintro ⟨h, rfl⟩
    induction t generalizing depth with
    | nil =>
      have hone : depth = 1 := h.count_eq
      rw [List.nil_append, closeBraceFrom?_close, if_pos hone]
    | cons c t ih =>
      rw [List.cons_append]
      by_cases hopen : c = '{'
      · subst hopen
        have hrest := (Chars.closes_open_iff.1 h).2
        rw [closeBraceFrom?_open, ih (Nat.succ_pos depth) hrest, Option.map_some]
      · by_cases hclose : c = '}'
        · subst hclose
          obtain ⟨hone, hrest⟩ := Chars.closes_close_iff.1 h
          rw [closeBraceFrom?_close, if_neg hone.ne', ih (by omega) hrest, Option.map_some]
        · have hrest := (Chars.closes_cons_iff hopen hclose).1 h
          rw [closeBraceFrom?_cons hopen hclose, ih hdepth hrest, Option.map_some]

/-- **A text is cut at the brace that closes its first one**: what stands between the two is
balanced. -/
theorem closeBrace?_eq_some_iff {s t r : List Char} :
    closeBrace? s = some (t, r) ↔ Chars.Balanced t ∧ s = '{' :: (t ++ '}' :: r) := by
  rw [← Chars.closes_one_iff]
  constructor
  · intro h
    unfold closeBrace? at h
    split at h
    · obtain ⟨hcloses, rfl⟩ := (closeBraceFrom?_eq_some_iff Nat.one_pos).1 h
      exact ⟨hcloses, rfl⟩
    · exact absurd h (by simp)
  · rintro ⟨hcloses, rfl⟩
    exact (closeBraceFrom?_eq_some_iff Nat.one_pos).2 ⟨hcloses, rfl⟩

/-- A balanced text in braces is cut at its own closing brace, whatever follows. -/
theorem closeBrace?_of_balanced {s : List Char} (h : Chars.Balanced s) (r : List Char) :
    closeBrace? ('{' :: (s ++ '}' :: r)) = some (s, r) :=
  closeBrace?_eq_some_iff.2 ⟨h, rfl⟩

/-- As long as no brace closes the first one, there are more opening braces than closing ones. -/
theorem count_lt_of_closeBraceFrom? {depth : Nat} (hdepth : 0 < depth) {s : List Char}
    (h : closeBraceFrom? depth s = none) : ∀ t ∈ s.inits, t.count '}' < depth + t.count '{' := by
  induction s generalizing depth with
  | nil => simpa using hdepth
  | cons c s ih =>
    refine Chars.forall_mem_inits_cons.2 ⟨by simpa using hdepth, fun t ht => ?_⟩
    by_cases hopen : c = '{'
    · subst hopen
      rw [closeBraceFrom?_open, Option.map_eq_none_iff] at h
      have hlt := ih (Nat.succ_pos depth) h t ht
      rw [List.count_cons_self, List.count_cons_of_ne (by decide)]
      omega
    · by_cases hclose : c = '}'
      · subst hclose
        rw [closeBraceFrom?_close] at h
        split at h
        · exact absurd h (by simp)
        · rw [Option.map_eq_none_iff] at h
          have hlt := ih (by omega) h t ht
          rw [List.count_cons_self, List.count_cons_of_ne (by decide)]
          omega
      · rw [closeBraceFrom?_cons hopen hclose, Option.map_eq_none_iff] at h
        rw [List.count_cons_of_ne hopen, List.count_cons_of_ne hclose]
        exact ih hdepth h t ht

/-- The first brace of a text is never closed if and only if no start of the text is balanced. -/
theorem closeBrace?_eq_none_iff {s : List Char} (hbrace : s.head? = some '{') :
    closeBrace? s = none ↔ ∀ t ∈ s.inits, t ≠ [] → ¬ Chars.Balanced t := by
  obtain ⟨s, rfl⟩ := List.head?_eq_some_iff.1 hbrace
  constructor
  · intro h t ht hne hbalanced
    rw [List.inits_cons, List.mem_cons, List.mem_map] at ht
    obtain ⟨u, hu, rfl⟩ := ht.resolve_left hne
    have hlt := count_lt_of_closeBraceFrom? Nat.one_pos h u hu
    have heq := hbalanced.count_eq
    rw [List.count_cons_self, List.count_cons_of_ne (by decide)] at heq
    omega
  · intro h
    refine Option.eq_none_iff_forall_ne_some.2 fun ⟨t, r⟩ hcut => ?_
    obtain ⟨hbalanced, heq⟩ := closeBrace?_eq_some_iff.1 hcut
    have hstart : '{' :: (t ++ ['}']) <+: '{' :: s := ⟨r, by simp [heq]⟩
    exact h _ ((List.mem_inits _ _).2 hstart) (by simp) hbalanced.braces

/-! ## Definitions -/

def braced (type : String) : String := "\x7b" ++ type ++ "\x7d"

theorem toList_braced_append (type rest : String) :
    (braced type ++ rest).toList = '{' :: (type.toList ++ '}' :: rest.toList) := by
  simp [braced]

/-- A text in braces is trimmed behind them only. -/
theorem strip_braces (s r : List Char) :
    Chars.strip ('{' :: (s ++ '}' :: r)) = '{' :: (s ++ '}' :: Chars.dropEnd Chars.isBlank r) := by
  rw [Chars.strip_eq_dropEnd, List.dropWhile_cons_of_neg (by decide),
    Chars.dropEnd_cons_of_neg (by decide), Chars.dropEnd_append_cons (by decide)]

/-- **What a definition with a type in braces is cut into**: the type, and the text behind the
braces or the fields behind it. -/
theorem Typed.ofFields_braced {type : String} (h : Chars.Balanced type.toList) (rest : String)
    (others : List String) :
    Typed.ofFields ((braced type ++ rest) :: others) = .ok ⟨Text.strip type,
      if others = [] then .inline (Text.strip rest)
      else if Text.strip rest = "" then .fields others
      else .fields (Text.strip rest :: others)⟩ := by
  have hrest : String.ofList (Chars.strip rest.toList) = Text.strip rest := rfl
  have hempty : Chars.strip rest.toList = [] ↔ Text.strip rest = "" := by
    rw [← hrest, String.ofList_eq_empty_iff]
  unfold Typed.ofFields
  simp only [toList_braced_append, strip_braces, closeBrace?_of_balanced h, Chars.strip_dropEnd,
    hempty, hrest, List.head?_cons]
  rw [if_neg (by simp), if_neg (by simp)]
  split
  · rfl
  · split <;> rfl

/-- A definition whose first brace is never closed has a fault. -/
theorem Typed.ofFields_unclosed {field : String} (hbrace : field.toList.head? = some '{')
    (h : closeBrace? field.toList = none) (others : List String) :
    Typed.ofFields (field :: others) = .error (.unbalancedBraces (Text.strip field)) := by
  obtain ⟨s, hs⟩ := List.head?_eq_some_iff.1 hbrace
  have hstrip : Chars.strip field.toList = '{' :: Chars.dropEnd Chars.isBlank s := by
    rw [hs, Chars.strip_cons_of_neg (by decide)]
  -- the blanks at the end of the field close no brace
  have hnone : closeBrace? ('{' :: Chars.dropEnd Chars.isBlank s) = none := by
    refine Option.eq_none_iff_forall_ne_some.2 fun ⟨t, r⟩ hcut => ?_
    obtain ⟨hbalanced, heq⟩ := closeBrace?_eq_some_iff.1 hcut
    obtain ⟨blanks, -, hblanks⟩ := Chars.exists_dropEnd_append Chars.isBlank s
    rw [hs, hblanks, ← List.cons_append, heq, List.cons_append, List.append_assoc,
      List.cons_append, closeBrace?_of_balanced hbalanced] at h
    exact absurd h (by simp)
  unfold Typed.ofFields
  simp only [hstrip, List.head?_cons, hnone]
  rw [if_neg (by simp), if_neg (by simp), ← hstrip]
  rfl

/-- **A type in braces goes up to the brace that closes the first one**, whatever braces follow it;
and a definition has a fault if no start of it is balanced. -/
theorem Typed.ofFields_of_brace :
    (∀ type rest : String, Chars.Balanced type.toList →
      Typed.ofFields [braced type ++ rest] = .ok ⟨Text.strip type, .inline (Text.strip rest)⟩) ∧
    ∀ (field : String) (others : List String), field.toList.head? = some '{' →
      (Typed.ofFields (field :: others) = .error (.unbalancedBraces (Text.strip field)) ↔
        ∀ t ∈ field.toList.inits, t ≠ [] → ¬ Chars.Balanced t) := by
  constructor
  · intro type rest h
    rw [Typed.ofFields_braced h, if_pos rfl]
  · intro field others hbrace
    rw [← closeBrace?_eq_none_iff hbrace]
    constructor
    · intro herror
      refine Option.eq_none_iff_forall_ne_some.2 fun ⟨t, r⟩ hcut => ?_
      obtain ⟨hbalanced, heq⟩ := closeBrace?_eq_some_iff.1 hcut
      have hfield : field = braced (String.ofList t) ++ String.ofList r := by
        rw [← String.toList_inj, toList_braced_append, heq, String.toList_ofList,
          String.toList_ofList]
      rw [hfield, Typed.ofFields_braced (by rwa [String.toList_ofList])] at herror
      exact absurd herror (by simp)
    · intro hnone
      exact Typed.ofFields_unclosed hbrace hnone others

/-- A type with braces of its own, further braces behind it, and a brace that is never closed. -/
theorem Typed.ofFields_of_brace_tags :
    Chars.Balanced "map[string]interface{}".toList ∧
    Typed.ofFields ["{map[string]interface{} } tags {a}\x7d - Tags"] =
      .ok ⟨"map[string]interface{}", .inline "tags {a}\x7d - Tags"⟩ ∧
    (∀ t ∈ "\x7b[]{int} ids ".toList.inits, t ≠ [] → ¬ Chars.Balanced t) ∧
    Typed.ofFields ["\x7b[]{int} ids ", "The ids"] =
      .error (.unbalancedBraces "\x7b[]{int} ids") := by
  have htype : Chars.Balanced "map[string]interface{} ".toList := by decide +kernel
  have hids : ∀ t ∈ "\x7b[]{int} ids ".toList.inits, t ≠ [] → ¬ Chars.Balanced t := by
    decide +kernel
  refine ⟨by decide +kernel, ?_, hids, ?_⟩
  · exact (Typed.ofFields_of_brace.1 "map[string]interface{} " " tags {a}\x7d - Tags" htype).trans
      (by decide +kernel)
  · exact ((Typed.ofFields_of_brace.2 "\x7b[]{int} ids " ["The ids"] (by decide)).2 hids).trans
      (by decide +kernel)

/-- A type that begins with another character is a field of its own. -/
theorem Typed.ofFields_bare {type : String} (h : Chars.Trimmed type.toList)
    (hbrace : type.toList.head? ≠ some '{') {others : List String} (ho : others ≠ []) :
    Typed.ofFields (type :: others) = .ok ⟨type, .fields others⟩ := by
  unfold Typed.ofFields
  simp only [h.strip_eq]
  rw [if_neg h.ne_nil, if_pos hbrace, if_neg ho, String.ofList_toList]

/-! ## Descriptions -/

section Description

variable {d : String} (h : Chars.Trimmed d.toList)

include h

/-- A description without a dash is kept. -/
theorem stripDash_eq_self (hdash : d.toList.head? ≠ some '-') : stripDash d = d := by
  unfold stripDash
  rw [h.strip_eq]
  split
  · rename_i heq
    exact absurd (by rw [heq, List.head?_cons]) hdash
  · rename_i heq
    exact absurd (by rw [heq, List.head?_cons]) hdash
  · exact String.ofList_toList

/-- The dash in front of a description is left out. -/
theorem stripDash_dash : stripDash ("- " ++ d) = d := by
  have hchars : Chars.strip ("- " ++ d).toList = '-' :: ' ' :: d.toList := by
    rw [String.toList_append, show "- ".toList = ['-', ' '] from rfl, List.cons_append,
      List.cons_append, List.nil_append, Chars.strip_cons_of_neg (by decide), Chars.dropEnd_cons,
      h.dropEnd_eq, if_neg fun hnil => h.ne_nil hnil.2]
  unfold stripDash
  rw [hchars]
  show String.ofList (Chars.strip d.toList) = d
  rw [h.strip_eq, String.ofList_toList]

end Description

end RouteDoc
