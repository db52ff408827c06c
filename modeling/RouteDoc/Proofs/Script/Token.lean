import RouteDoc.Proofs.Script.Position
import Mathlib.Data.List.Pairwise

/-!
# The lines of tokens

Text is cut into tokens from its front to its end, and each token is given the line that it begins
on.

* `Token.Ordered`: no token is given an earlier line than one before it, and behind the end of a
  line comes another line.
* `Scanner.Tracks`: the invariant of the cut.
* `Scanner.Tracks.next`, `Scanner.Tracks.beginLine`: one step of the cut keeps it.
* `Token.ordered_scan`, `Token.standsIn_scan`: **the tokens of a script are in order, and its words
  stand on the lines that they are given.**
-/

namespace RouteDoc

open Chars (Behind)

/-- A text whose lines all end in a line feed, the last one as well. -/
def Chars.closed (text : List Char) : List Char :=
  let text := unifyBreaks text
  if text.getLast? = some '\n' then text else text ++ ['\n']

theorem Chars.getLast?_closed (text : List Char) : (closed text).getLast? = some '\n' := by
  unfold closed
  dsimp only
  split
  · assumption
  · simp

namespace Script

namespace Token

/-- No token stands on an earlier line than one before it, nor on the line of a line end before
it. -/
def Ordered (ts : List Token) : Prop :=
  ts.Pairwise fun t u => t.line ≤ u.line ∧ (t.kind = .lineEnd → t.line < u.line)

/-- A word stands in the text, on the line that the token is given. -/
def StandsIn (src : List Char) (t : Token) : Prop :=
  ∀ w, t.kind = .word w → ∃ n r, t.line = n + 1 ∧ Behind n src (w.toList ++ r)

end Token

namespace Scanner

/-- The line is the one that the rest of the text begins on, and no token is ahead of it. -/
structure Tracks (src : List Char) (s : Scanner) : Prop where
  behind : ∃ n, s.line = n + 1 ∧ Behind n src s.rest
  ordered : Token.Ordered s.tokens.toList
  past : ∀ t ∈ s.tokens.toList, t.line ≤ s.line ∧ (t.kind = .lineEnd → t.line < s.line)
  words : ∀ t ∈ s.tokens.toList, t.StandsIn src

variable {src : List Char} {s s' : Scanner} {k : TokenKind} {m : Nat}

/-! ## What a step does -/

/-- Text is passed over, and no token is added. -/
theorem Tracks.pass (h : s.Tracks src) (htokens : s'.tokens = s.tokens)
    (hline : s'.line = s.line + m) (hrest : Behind m s.rest s'.rest) : s'.Tracks src where
  behind := by
    obtain ⟨n, hn, hbehind⟩ := h.behind
    exact ⟨n + m, by omega, hbehind.trans hrest⟩
  ordered := htokens ▸ h.ordered
  past t ht := by
    obtain ⟨hle, hend⟩ := h.past t (htokens ▸ ht)
    exact ⟨by omega, fun hk => by have := hend hk; omega⟩
  words t ht := h.words t (htokens ▸ ht)

/-- A token is added, and text is passed over: behind the end of a line, a line break. -/
theorem Tracks.push (h : s.Tracks src) (htokens : s'.tokens = s.tokens.push ⟨k, s.line⟩)
    (hline : s'.line = s.line + m) (hrest : Behind m s.rest s'.rest) (hend : k = .lineEnd → 0 < m)
    (hword : ∀ w, k = .word w → ∃ r, s.rest = w.toList ++ r) : s'.Tracks src where
  behind := by
    obtain ⟨n, hn, hbehind⟩ := h.behind
    exact ⟨n + m, by omega, hbehind.trans hrest⟩
  ordered := by
    rw [htokens, Array.toList_push]
    refine List.pairwise_append.2 ⟨h.ordered, List.pairwise_singleton _ _, fun t ht u hu => ?_⟩
    obtain rfl := List.mem_singleton.1 hu
    exact h.past t ht
  past t ht := by
    rw [htokens, Array.toList_push, List.mem_append, List.mem_singleton] at ht
    rcases ht with ht | rfl
    · obtain ⟨hle, hlt⟩ := h.past t ht
      exact ⟨by omega, fun hk => by have := hlt hk; omega⟩
    · rw [hline]
      exact ⟨Nat.le_add_right _ _, fun hk => Nat.lt_add_of_pos_right (hend hk)⟩
  words t ht := by
    rw [htokens, Array.toList_push, List.mem_append, List.mem_singleton] at ht
    rcases ht with ht | rfl
    · exact h.words t ht
    · intro w hw
      obtain ⟨n, hn, hbehind⟩ := h.behind
      obtain ⟨r, hr⟩ := hword w hw
      exact ⟨n, r, hn, hr ▸ hbehind⟩

/-- A token that is no word is added where no line ends. -/
theorem Tracks.pushBetween (h : s.Tracks src) (hend : k ≠ .lineEnd) (hword : ∀ w, k ≠ .word w) :
    (s.push k).Tracks src :=
  h.push (k := k) (m := 0) rfl rfl (.refl _) (fun hk => absurd hk hend) fun w hw =>
    absurd hw (hword w)

/-! ## The steps -/

theorem Tracks.dedent (h : s.Tracks src) (closed : List Indentation) :
    (closed.foldl (fun s _ => s.push .dedent) s).Tracks src := by
  induction closed generalizing s with
  | nil => exact h
  | cons i closed ih => exact ih (h.pushBetween (by simp) (by simp))

theorem Tracks.align {i : Indentation} (h : s.Tracks src) (hs : s.align? i = some s') :
    s'.Tracks src := by
  unfold align? at hs
  dsimp only at hs
  split at hs
  · split at hs
    · exact Option.some.inj hs ▸ h
    · exact absurd hs (by simp)
  split at hs
  · split at hs
    · exact Option.some.inj hs ▸
        (h.pushBetween (k := .indent) (by simp) (by simp)).pass (m := 0) rfl rfl (.refl _)
    · exact absurd hs (by simp)
  · split at hs
    · refine Option.some.inj hs ▸ Tracks.dedent ?_ _
      exact h.pass (m := 0) rfl rfl (.refl _)
    · exact absurd hs (by simp)

/-- A line ends somewhere in the rest of the text, if there is any. -/
theorem Tracks.newline_mem (h : s.Tracks src) (hsrc : src.getLast? = some '\n')
    (hrest : s.rest ≠ []) : '\n' ∈ s.rest := by
  obtain ⟨n, -, p, rfl, -⟩ := h.behind
  rw [List.getLast?_append_of_ne_nil _ hrest] at hsrc
  exact List.mem_of_getLast? hsrc

theorem Tracks.beginLine (h : s.Tracks src) (hsrc : src.getLast? = some '\n')
    (hs : s.beginLine? = some s') : s'.Tracks src := by
  unfold beginLine? at hs
  obtain ⟨⟨i, rest, lines⟩, hmeasure, hs⟩ := Option.bind_eq_some_iff.1 hs
  obtain ⟨m, hm, hbehind⟩ := behind_measure hmeasure
  have hpassed : Tracks src { s with rest := rest, line := s.line + lines, atStart := false } :=
    h.pass (m := m) rfl (by simp [hm]) hbehind
  dsimp only at hs
  split at hs
  next c r =>
    split at hs
    · have hmem : '\n' ∈ c :: r := hpassed.newline_mem hsrc (by simp)
      exact Option.some.inj hs ▸ hpassed.pass (m := 1) rfl rfl (.line hmem)
    split at hs
    · exact hpassed.align hs
    · exact Option.some.inj hs ▸ hpassed
  next =>
    split at hs
    · exact hpassed.align hs
    · exact absurd hs (by simp)

theorem newline_not_mem_marks : ∀ m ∈ marks, '\n' ∉ m := by
  decide +kernel

theorem Tracks.mark (h : s.Tracks src) (hs : s.mark? = some s') : s'.Tracks src := by
  unfold mark? at hs
  obtain ⟨m, hfind, hs⟩ := Option.bind_eq_some_iff.1 hs
  obtain ⟨brackets, -, hs⟩ := Option.bind_eq_some_iff.1 hs
  have hm := newline_not_mem_marks m (List.mem_of_find?_eq_some hfind)
  have hprefix : m.isPrefixOf s.rest = true := by simpa using List.find?_some hfind
  obtain ⟨r, hr⟩ := List.isPrefixOf_iff_prefix.1 hprefix
  refine Option.some.inj hs ▸ h.push (k := .mark (String.ofList m)) (m := 0) rfl rfl ?_ (by simp)
    (by simp)
  refine (Behind.refl s.rest).drop ?_
  simp [← hr, hm]

theorem Tracks.pushNumber {isImaginary : Bool} {rest : List Char} (h : s.Tracks src)
    (hrest : Behind 0 s.rest rest) : (s.pushNumber (isImaginary, rest)).Tracks src :=
  h.push (k := .number (Numeral.valueBefore isImaginary s.rest rest)) (m := 0) rfl rfl hrest
    (by simp) (by simp)

theorem Tracks.pushWord (h : s.Tracks src) :
    let w := s.rest.takeWhile Numeral.continuesWord
    Tracks src { s.push (.word (String.ofList w)) with rest := s.rest.drop w.length } := by
  intro w
  obtain ⟨r, hr⟩ : w <+: s.rest := List.takeWhile_prefix _
  have hdrop : s.rest.drop w.length = r :=
    calc s.rest.drop w.length = (w ++ r).drop w.length := by rw [hr]
      _ = r := List.drop_left
  have hw : '\n' ∉ w := fun hmem => absurd
    (List.all_eq_true.1 (List.all_takeWhile (p := Numeral.continuesWord) (l := s.rest)) _ hmem)
    (by decide)
  refine h.push (k := .word (String.ofList w)) (m := 0) rfl rfl ?_ (by simp) ?_
  · exact hdrop ▸ Behind.append (hr.symm ▸ .refl s.rest) hw
  · rintro _ ⟨⟩
    exact ⟨r, by simpa using hr.symm⟩

theorem Tracks.next (h : s.Tracks src) (hs : s.next? = some s') : s'.Tracks src := by
  unfold next? at hs
  split at hs
  · exact absurd hs (by simp)
  next c r hrest =>
    have hbehind : Behind 0 s.rest (c :: r) := hrest ▸ .refl _
    split at hs
    next hc =>
      refine Option.some.inj hs ▸ h.pass (m := 0) rfl rfl (hbehind.tail ?_)
      rcases hc with rfl | rfl | rfl <;> decide
    split at hs
    · exact Option.some.inj hs ▸ h.pass (m := 0) rfl rfl
        ((Behind.refl s.rest).dropWhile (by simp))
    split at hs
    next hc =>
      obtain rfl := hc
      dsimp only at hs
      refine Option.some.inj hs ▸ ?_
      split
      · exact h.push (k := .lineEnd) (m := 1) rfl rfl hbehind.newline (by simp) (by simp)
      · exact h.pass (m := 1) rfl rfl hbehind.newline
    split at hs
    next hc =>
      obtain ⟨r', hr', rfl⟩ := Option.map_eq_some_iff.1 hs
      rw [hc, eq_of_cutContinued hr'] at hbehind
      exact h.pass (m := 1) rfl rfl (hbehind.tail (by decide)).newline
    split at hs
    · obtain ⟨⟨l, rest⟩, hcut, hs⟩ := Option.map_eq_some_iff.1 hs
      exact hs ▸ h.push (k := .literal l) rfl rfl (Literal.behind_cut hcut) (by simp) (by simp)
    split at hs
    · obtain ⟨⟨isImaginary, rest⟩, hcut, hs⟩ := Option.map_eq_some_iff.1 hs
      exact hs ▸ h.pushNumber (Numeral.behind_cut hcut (.refl _))
    split at hs
    next hc =>
      obtain ⟨⟨isImaginary, rest⟩, hcut, hs⟩ := Option.map_eq_some_iff.1 hs
      exact hs ▸ h.pushNumber
        (Numeral.behind_finishFraction hcut (hbehind.tail (hc.1 ▸ by decide)))
    split at hs
    · dsimp only at hs
      split at hs
      · exact Option.some.inj hs ▸ h.pushWord
      · exact absurd hs (by simp)
    · exact h.mark hs

/-! ## All steps -/

theorem Tracks.run {n : Nat} (h : s.Tracks src) (hsrc : src.getLast? = some '\n')
    (hs : run? n s = some s') : s'.Tracks src := by
  induction n generalizing s with
  | zero => exact absurd hs (by simp [run?])
  | succ n ih =>
    unfold run? at hs
    split at hs
    · obtain ⟨s₁, hbegin, hs⟩ := Option.bind_eq_some_iff.1 hs
      have hnext := h.beginLine hsrc hbegin
      split at hs
      · split at hs
        · exact ih hnext hs
        · exact Option.some.inj hs ▸ hnext
      · exact ih hnext hs
    split at hs
    · split at hs
      · exact Option.some.inj hs ▸ h
      · exact absurd hs (by simp)
    · obtain ⟨s₁, hnext, hs⟩ := Option.bind_eq_some_iff.1 hs
      exact ih (h.next hnext) hs

end Scanner

namespace Token

variable {text : List Char} {ts : List Token}

theorem tracks_of_scan (h : scan? text = some ts) :
    ∃ s : Scanner, s.Tracks (Chars.closed text) ∧ s.tokens.toList = ts := by
  unfold scan? at h
  dsimp only [bind, pure] at h
  split at h
  · exact absurd h (by simp)
  · obtain ⟨s, hrun, h⟩ := Option.bind_eq_some_iff.1 h
    refine ⟨s, Scanner.Tracks.run ?_ (Chars.getLast?_closed text) hrun, Option.some.inj h⟩
    exact ⟨⟨0, rfl, .refl _⟩, List.Pairwise.nil, by simp, by simp⟩

/-- **The tokens of a script are in order.** -/
theorem ordered_scan (h : scan? text = some ts) : Ordered ts := by
  obtain ⟨s, htracks, rfl⟩ := tracks_of_scan h
  exact htracks.ordered

/-- **The words of a script stand on the lines that they are given.** -/
theorem standsIn_scan (h : scan? text = some ts) {t : Token} (ht : t ∈ ts) :
    t.StandsIn (Chars.closed text) := by
  obtain ⟨s, htracks, rfl⟩ := tracks_of_scan h
  exact htracks.words t ht

end Token

end Script

end RouteDoc
