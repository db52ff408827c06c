import RouteDoc.Proofs.Script.Declaration
import RouteDoc.Proofs.Source.Block
import RouteDoc.Proofs.Text.Lines
import RouteDoc.Proofs.Text.Split
import RouteDoc.Source.RouteDefinition

/-!
# Docstrings take the place of comments

The comments of a script and its docstrings are found apart from each other, and are brought
together by the numbers of lines alone.

* `Chars.splitAt_closed`, `Handler.splitLines_eq_sourceLines`: where lines are counted alike.
* `Script.Declaration.on_sourceLine`: the line of a function holds the word that declares it.
* `SourceFile.blocks_of_declarations`: **where only carriage returns and line feeds end lines, a
  function has one block at most, and that is its docstring if there is a tag in it.**
-/

namespace RouteDoc

open Chars (Behind)

/-! ## Lines -/

namespace Chars

variable {s w r : List Char} {n : Nat}

theorem splitAt_append_of_not_mem (hw : '\n' ∉ w) {l : List Char} {ls : List (List Char)}
    (h : splitAt '\n' r = l :: ls) : splitAt '\n' (w ++ r) = (w ++ l) :: ls := by
  induction w with
  | nil => exact h
  | cons c w ih =>
    rw [List.mem_cons, not_or] at hw
    rw [List.cons_append, splitAt, if_neg (Ne.symm hw.1), ih hw.2]
    rfl

/-- A text without a line break stands in the line that has the number of the line breaks in front
of it. -/
theorem Behind.exists_line (h : Behind n s (w ++ r)) (hw : '\n' ∉ w) :
    ∃ l, (splitAt '\n' s)[n]? = some l ∧ w <:+: l := by
  obtain ⟨p, rfl, rfl⟩ := h
  induction p with
  | nil =>
    obtain ⟨l, ls, hl⟩ := List.exists_cons_of_ne_nil (splitAt_ne_nil '\n' r)
    exact ⟨w ++ l, by simp [splitAt_append_of_not_mem hw hl], (List.prefix_append w l).isInfix⟩
  | cons c p ih =>
    obtain ⟨l, hl, hinfix⟩ := ih
    rw [List.cons_append, splitAt]
    split
    next hc => exact ⟨l, by simpa [hc] using hl, hinfix⟩
    next hc =>
      rw [List.count_cons_of_ne hc]
      obtain ⟨m, ms, hm⟩ := List.exists_cons_of_ne_nil (splitAt_ne_nil '\n' (p ++ (w ++ r)))
      rw [hm] at hl ⊢
      cases hn : p.count '\n' with
      | zero =>
        obtain rfl : m = l := by simpa [hn] using hl
        exact ⟨c :: m, rfl, List.infix_cons hinfix⟩
      | succ n => exact ⟨l, by simpa [hn, consHead] using hl, hinfix⟩

theorem unifyBreaks_ne_nil (hs : s ≠ []) : unifyBreaks s ≠ [] := by
  fun_cases unifyBreaks s with
  | case1 => exact absurd rfl hs
  | case2 => exact List.cons_ne_nil _ _
  | case3 => exact List.cons_ne_nil _ _

theorem mem_unifyBreaks {c : Char} (h : c ∈ s) (hc : c ≠ '\r') : c ∈ unifyBreaks s := by
  fun_induction unifyBreaks s with
  | case1 => exact h
  | case2 r ih => grind
  | case3 d r _ ih => grind

theorem closed_eq_cons {c : Char} {t : List Char} (h : unifyBreaks s = c :: unifyBreaks t)
    (ht : t ≠ []) : closed s = c :: closed t := by
  obtain ⟨d, u, hu⟩ := List.exists_cons_of_ne_nil (unifyBreaks_ne_nil ht)
  simp only [closed, h, hu, List.getLast?_cons_cons]
  split <;> rfl

end Chars

namespace Handler

theorem sourceLines_ne_nil {s : List Char} (hs : s ≠ []) : sourceLines s ≠ [] := by
  fun_cases sourceLines s with
  | case1 => exact absurd rfl hs
  | case2 => exact List.cons_ne_nil _ _
  | case3 => exact List.cons_ne_nil _ _
  | case4 c r => cases h : sourceLines r <;> simp [Chars.consHead]

/-- One line break in front. -/
theorem splitAt_closed_of_newline {s t : List Char}
    (h : Chars.unifyBreaks s = '\n' :: Chars.unifyBreaks t)
    (ih : t ≠ [] → Chars.splitAt '\n' (Chars.closed t) = sourceLines t ++ [[]]) :
    Chars.splitAt '\n' (Chars.closed s) = ([] :: sourceLines t) ++ [[]] := by
  by_cases ht : t = []
  · subst ht
    simp [Chars.closed, h, Chars.unifyBreaks, Chars.splitAt, sourceLines]
  · simp [Chars.closed_eq_cons h ht, Chars.splitAt, ih ht]

/-- The lines of a source text are those that are cut out of it when it is read as a script. -/
theorem splitAt_closed (s : List Char) :
    s ≠ [] → Chars.splitAt '\n' (Chars.closed s) = sourceLines s ++ [[]] := by
  fun_induction sourceLines s with
  | case1 => exact fun h => absurd rfl h
  | case2 r ih => exact fun _ => splitAt_closed_of_newline (by simp [Chars.unifyBreaks]) ih
  | case3 c r hr hc ih =>
    refine fun _ => splitAt_closed_of_newline ?_ ih
    rw [Chars.unifyBreaks]
    · rcases hc with rfl | rfl <;> simp
    · exact hr
  | case4 c r hr hc ih =>
    have hunify : Chars.unifyBreaks (c :: r) = c :: Chars.unifyBreaks r := by
      rw [Chars.unifyBreaks, if_neg fun h => hc (.inr h)]
      exact hr
    have hnewline : c ≠ '\n' := fun h => hc (.inl h)
    intro _
    by_cases hnil : r = []
    · subst hnil
      simp [Chars.closed, hunify, Chars.unifyBreaks, Chars.splitAt, sourceLines, Chars.consHead,
        hnewline]
    · rw [Chars.closed_eq_cons hunify hnil, Chars.splitAt, if_neg hnewline, ih hnil]
      exact Chars.consHead_append c (sourceLines_ne_nil hnil) _

/-- Where only carriage returns and line feeds end lines, lines are counted alike. -/
theorem splitLines_eq_sourceLines {s : List Char}
    (hs : ∀ c ∈ s, Chars.isLineBreak c = true → c = '\n' ∨ c = '\r') :
    Chars.splitLines s = sourceLines s := by
  fun_induction sourceLines s with
  | case1 => rfl
  | case2 r ih =>
    have hr := ih fun c hc => hs c (by simp [hc])
    simp [Chars.splitLines, hr]
  | case3 c r hr hc ih =>
    have hlines := ih fun c hc => hs c (List.mem_cons_of_mem _ hc)
    have hbreak : Chars.isLineBreak c = true := by rcases hc with rfl | rfl <;> decide
    rw [Chars.splitLines, if_pos hbreak, hlines]
    exact hr
  | case4 c r hr hc ih =>
    have hlines := ih fun c hc => hs c (List.mem_cons_of_mem _ hc)
    have hbreak : Chars.isLineBreak c = false :=
      Bool.eq_false_iff.2 fun h => hc (hs c List.mem_cons_self h)
    rw [Chars.splitLines_cons hbreak, hlines]

end Handler

namespace Script

theorem Token.not_null_of_scan {text : List Char} {ts : List Token} (h : scan? text = some ts) :
    text.any (·.toNat == 0) = false := by
  unfold scan? at h
  dsimp only [bind, pure] at h
  split at h
  · exact absurd h (by simp)
  next hnull =>
    simp only [List.any_eq_true, not_exists, not_and] at hnull
    refine List.any_eq_false.2 fun c hc hzero => hnull c (Chars.mem_unifyBreaks hc ?_) hzero
    rintro rfl
    exact absurd hzero (by decide)

/-- The line of a function holds the word that declares it. -/
theorem Declaration.on_sourceLine {text : List Char} {ds : List Declaration}
    (h : ofScript? text = some ds) {d : Declaration} (hd : d ∈ ds) :
    ∃ n l, d.line = n + 1 ∧ (Handler.sourceLines text)[n]? = some l ∧
      ("def".toList <:+: l ∨ "async".toList <:+: l) := by
  obtain ⟨ts, hscan, hdeclares⟩ := declares_ofScript h
  obtain ⟨t, ht, hbegins, hline⟩ := hdeclares.begins d hd
  have hword : ∀ {w : String}, t.kind = .word w → '\n' ∉ w.toList → w.toList ≠ [] →
      ∃ n l, d.line = n + 1 ∧ (Handler.sourceLines text)[n]? = some l ∧ w.toList <:+: l := by
    intro w hw hbreak hne
    obtain ⟨n, r, hn, hbehind⟩ := Token.standsIn_scan hscan ht w hw
    obtain ⟨l, hl, hinfix⟩ := hbehind.exists_line hbreak
    have hlne : l ≠ [] := by
      rintro rfl
      exact hne (List.infix_nil.1 hinfix)
    have htext : text ≠ [] := by
      rintro rfl
      have hmem := List.mem_of_getElem? hl
      exact absurd hmem (by simp [Chars.closed, Chars.unifyBreaks, Chars.splitAt, hlne])
    rw [Handler.splitAt_closed text htext, List.getElem?_append] at hl
    split at hl
    · exact ⟨n, l, hline ▸ hn, hl, hinfix⟩
    · exact absurd (List.mem_singleton.1 (List.mem_of_getElem? hl)) hlne
  rcases hbegins with hdef | hasync
  · obtain ⟨n, l, hn, hl, hinfix⟩ := hword hdef (by decide) (by decide)
    exact ⟨n, l, hn, hl, .inl hinfix⟩
  · obtain ⟨n, l, hn, hl, hinfix⟩ := hword hasync (by decide) (by decide)
    exact ⟨n, l, hn, hl, .inr hinfix⟩

end Script

/-! ## Blocks -/

namespace SourceBlock

theorem line_ofDeclaration {source : String} {d : Script.Declaration} {b : SourceBlock}
    (h : ofDeclaration? source d = some b) : b.line = d.line := by
  unfold ofDeclaration? at h
  obtain ⟨text, -, h⟩ := Option.bind_eq_some_iff.1 h
  dsimp only at h
  split at h
  · exact absurd h (by simp)
  · exact (congrArg line (Option.some.inj h)).symm

end SourceBlock

namespace SourceFile

variable {f : SourceFile} {ds : List Script.Declaration}

theorem blocks_of_script (hf : f.isScript = true)
    (hds : Script.Declaration.ofScript? f.text.toList = some ds) :
    f.written = ds.filterMap (SourceBlock.ofDeclaration? f.path) ∧
      ∃ bs, f.blocks = .ok (bs, []) := by
  have hdoc : SourceBlock.ofDocstrings? f.path f.text =
      some (ds.filterMap (SourceBlock.ofDeclaration? f.path)) := by
    rw [SourceBlock.ofDocstrings?, hds, Option.map_some]
  obtain ⟨ts, hscan, -⟩ := Script.Declaration.declares_ofScript hds
  have hnull := Script.Token.not_null_of_scan hscan
  constructor
  · rw [written, if_pos hf, hdoc, Option.getD_some]
  · simp [blocks, docstrings, hf, hnull, hdoc, Except.map]

/-- **A function has one block at most, and that is its docstring if there is a tag in it.** -/
theorem blocks_of_declarations (hf : f.isScript = true)
    (hds : Script.Declaration.ofScript? f.text.toList = some ds)
    (hbreaks : ∀ c ∈ f.text.toList, Chars.isLineBreak c = true → c = '\n' ∨ c = '\r') :
    ds.Pairwise (fun d e => d.line < e.line) ∧
    (∀ d ∈ ds, ∃ n l, d.line = n + 1 ∧ (Handler.sourceLines f.text.toList)[n]? = some l ∧
      ("def".toList <:+: l ∨ "async".toList <:+: l)) ∧
    SourceBlock.ofComments f.path f.text =
      SourceBlock.ofLines f.path [] 1 (Handler.sourceLines f.text.toList) ∧
    ∃ bs, f.blocks = .ok (bs, []) ∧ ∀ d ∈ ds,
      (bs.filter (·.line = d.line)).length ≤ 1 ∧
      ∀ b, SourceBlock.ofDeclaration? f.path d = some b → b.isTagged = true →
        bs.filter (·.line = d.line) = [b] := by
  obtain ⟨ts, -, hdeclares⟩ := Script.Declaration.declares_ofScript hds
  obtain ⟨hwritten, bs, hblocks⟩ := blocks_of_script hf hds
  have hpair := pairwise_line_blocks hblocks
  have hdoc : f.written.Pairwise fun a b => a.line < b.line := by
    rw [hwritten]
    refine hdeclares.sorted.filterMap _ fun d e hde a ha b hb => ?_
    rwa [SourceBlock.line_ofDeclaration ha, SourceBlock.line_ofDeclaration hb]
  refine ⟨hdeclares.sorted, fun d hd => Script.Declaration.on_sourceLine hds hd,
    by rw [SourceBlock.ofComments, Handler.splitLines_eq_sourceLines hbreaks], bs, hblocks,
    fun d hd => ⟨?_, fun b hb htag => ?_⟩⟩
  · rcases SourceBlock.filter_line_eq_nil_or hpair d.line with h | ⟨b, h⟩ <;> simp [h]
  · have hmem : b ∈ f.written := hwritten ▸ List.mem_filterMap.2 ⟨d, hd, hb⟩
    have hkept : b ∈ bs := by
      rw [mem_blocks_iff hblocks, candidates, List.filter_append, List.filter_append,
        List.getLast?_append,
        SourceBlock.filter_line_eq (hdoc.filter _) (List.mem_filter.2 ⟨hmem, htag⟩)]
      rfl
    rw [← SourceBlock.line_ofDeclaration hb]
    exact SourceBlock.filter_line_eq hpair hkept

theorem blocks_of_declarations_book :
    let f : SourceFile := ⟨"app.py",
      "# @resource GET /old\ndef get_book(id):\n    \"\"\"@resource GET /new\"\"\"\n"⟩
    let d : Script.Declaration := ⟨"get_book", 2, some "@resource GET /new".toList⟩
    let b : SourceBlock := ⟨"app.py", 2, "get_book", "@resource GET /new"⟩
    f.isScript = true ∧ Script.Declaration.ofScript? f.text.toList = some [d] ∧
      (∀ c ∈ f.text.toList, Chars.isLineBreak c = true → c = '\n' ∨ c = '\r') ∧
      SourceBlock.ofComments f.path f.text =
        [⟨"app.py", 2, "get_book", "# @resource GET /old"⟩] ∧
      SourceBlock.ofDeclaration? f.path d = some b ∧ b.isTagged = true ∧
      ∃ bs, f.blocks = .ok (bs, []) ∧ bs.filter (·.line = 2) = [b] := by
  intro f d b
  have hds : Script.Declaration.ofScript? f.text.toList = some [d] := by decide +kernel
  have hbreaks : ∀ c ∈ f.text.toList, Chars.isLineBreak c = true → c = '\n' ∨ c = '\r' :=
    List.forall_iff_forall_mem.1 (by decide +kernel)
  have hb : SourceBlock.ofDeclaration? f.path d = some b := by decide +kernel
  have htag : b.isTagged = true := by decide +kernel
  obtain ⟨-, -, -, bs, hblocks, hd⟩ := blocks_of_declarations (by decide +kernel) hds hbreaks
  exact ⟨by decide +kernel, hds, hbreaks, by decide +kernel, hb, htag, bs, hblocks,
    (hd d List.mem_cons_self).2 b hb htag⟩

/-- A form feed ends a line for the comments, but none for the script: the comment of a function and
its docstring are given different lines, and both stay. -/
theorem blocks_of_form_feed :
    let f : SourceFile := ⟨"app.py",
      "\x0c\n# @resource GET /old\ndef get_book(id):\n    \"\"\"@resource GET /new\"\"\"\n"⟩
    let d : Script.Declaration := ⟨"get_book", 3, some "@resource GET /new".toList⟩
    let b : SourceBlock := ⟨"app.py", 3, "get_book", "@resource GET /new"⟩
    let c : SourceBlock := ⟨"app.py", 3, "get_book", "# @resource GET /old"⟩
    Script.Declaration.ofScript? f.text.toList = some [d] ∧
      SourceBlock.ofDeclaration? f.path d = some b ∧ b.isTagged = true ∧
      SourceBlock.ofLines f.path [] 1 (Handler.sourceLines f.text.toList) = [c] ∧
      f.blocks = .ok ([b, { c with line := 4 }], []) := by
  intro f d b c
  have hds : Script.Declaration.ofScript? f.text.toList = some [d] := by decide +kernel
  obtain ⟨hwritten, bs, hblocks⟩ := blocks_of_script (by decide +kernel) hds
  have hvalues : (SourceBlock.byLine (SourceBlock.ofComments f.path f.text ++ [b])).values =
      [{ c with line := 4 }, b] := by decide +kernel
  have hwith : f.blocksWith [b] = [b, { c with line := 4 }] := by
    rw [blocksWith, hvalues]
    have hsort : ([{ c with line := 4 }, b].mergeSort fun a b => a.line ≤ b.line) =
        [b, { c with line := 4 }] := by
      simp [List.mergeSort, List.MergeSort.Internal.splitInTwo, c, b]
    rw [hsort]
    decide +kernel
  have hkept : f.written.filter SourceBlock.isTagged = [b] := by
    rw [hwritten]
    decide +kernel
  rw [hblocks, blocks_eq hblocks, hkept, hwith]
  exact ⟨hds, by decide +kernel, by decide +kernel, by decide +kernel, rfl⟩

end SourceFile

end RouteDoc
