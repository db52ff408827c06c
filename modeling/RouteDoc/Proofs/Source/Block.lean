import RouteDoc.Proofs.Dict
import RouteDoc.Proofs.Source.TagLine
import Mathlib.Data.List.Induction

/-!
# Annotation blocks that are kept

A source file has several candidates for blocks: the comments above functions and, in a script, the
docstrings.

* `SourceFile.candidates`: all of them.
* `SourceFile.pairwise_line_blocks`: the blocks of a file belong to different lines, in their order.
* `SourceFile.mem_blocks_iff`: the candidate that stays at a line is the last one with a tag.
* `SourceFile.mem_blocks_iff_isTag`: **a candidate counts as one with a tag if a tag is read in it,
  unless a line of it is only searched or only read.**
-/

namespace RouteDoc

namespace Dict

variable {κ α : Type} [DecidableEq κ]

/-- The value under a key is the last one that was put there. -/
theorem get?_ofList_map (key : α → κ) (vs : List α) (k : κ) :
    (Dict.ofList (vs.map fun v => (key v, v))).get? k = (vs.filter (key · = k)).getLast? := by
  induction vs using List.reverseRecOn with
  | nil => rfl
  | append_singleton vs v ih =>
    have hput : Dict.ofList ((vs ++ [v]).map fun v => (key v, v)) =
        (Dict.ofList (vs.map fun v => (key v, v))).put (key v) v := by
      simp [Dict.ofList]
    rw [hput, get?_put, ih, List.filter_append, List.getLast?_append]
    by_cases hv : key v = k <;> simp [hv]

end Dict

namespace SourceBlock

/-- The functions below comments are found in the order of their lines. -/
theorem pairwise_line_ofLines (source : String) (run : List (List Char)) (number : Nat)
    (ls : List (List Char)) :
    (ofLines source run number ls).Pairwise (fun a b => a.line < b.line) ∧
      ∀ b ∈ ofLines source run number ls, number ≤ b.line := by
  induction ls generalizing run number with
  | nil => simp [ofLines]
  | cons l ls ih =>
    have later : ∀ run,
        (ofLines source run (number + 1) ls).Pairwise (fun a b => a.line < b.line) ∧
        ∀ b ∈ ofLines source run (number + 1) ls, number ≤ b.line := fun run =>
      ⟨(ih run (number + 1)).1, fun b hb => Nat.le_of_succ_le ((ih run (number + 1)).2 b hb)⟩
    rw [ofLines]
    cases LineKind.of l with
    | comment => exact later _
    | decorator => exact later _
    | other => exact later _
    | function =>
      simp only
      split
      · exact later _
      · refine ⟨List.pairwise_cons.2 ⟨fun b hb => ?_, (later _).1⟩, ?_⟩
        · exact (ih [] (number + 1)).2 b hb
        · rintro b (_ | ⟨_, hb⟩)
          · exact Nat.le_refl number
          · exact (later _).2 b hb

theorem pairwise_line_ofComments (source text : String) :
    (ofComments source text).Pairwise (fun a b => a.line < b.line) :=
  (pairwise_line_ofLines source [] 1 _).1

/-- Of blocks on different lines, one belongs to the line of a block. -/
theorem filter_line_eq {bs : List SourceBlock} (h : bs.Pairwise fun a b => a.line < b.line)
    {b : SourceBlock} (hb : b ∈ bs) : bs.filter (·.line = b.line) = [b] := by
  induction bs with
  | nil => exact absurd hb List.not_mem_nil
  | cons a bs ih =>
    obtain ⟨ha, hbs⟩ := List.pairwise_cons.1 h
    rcases List.mem_cons.1 hb with rfl | hb
    · rw [List.filter_cons_of_pos (by simp), List.filter_eq_nil_iff.2]
      exact fun c hc => by simpa using (ha c hc).ne'
    · rw [List.filter_cons_of_neg (by simpa using (ha b hb).ne), ih hbs hb]

theorem filter_line_eq_nil_or {bs : List SourceBlock}
    (h : bs.Pairwise fun a b => a.line < b.line) (n : Nat) :
    bs.filter (·.line = n) = [] ∨ ∃ b, bs.filter (·.line = n) = [b] := by
  rcases hbs : bs.filter (·.line = n) with _ | ⟨b, cs⟩
  · exact .inl hbs
  · have hb : b ∈ bs.filter (·.line = n) := hbs ▸ List.mem_cons_self
    obtain ⟨hmem, hline⟩ := List.mem_filter.1 hb
    obtain rfl : b.line = n := by simpa using hline
    exact .inr ⟨b, hbs ▸ filter_line_eq h hmem⟩

theorem get?_byLine (bs : List SourceBlock) (n : Nat) :
    (byLine bs).get? n = (bs.filter (·.line = n)).getLast? :=
  Dict.get?_ofList_map SourceBlock.line bs n

theorem line_of_get?_byLine {bs : List SourceBlock} {n : Nat} {b : SourceBlock}
    (h : (byLine bs).get? n = some b) : b.line = n := by
  rw [get?_byLine] at h
  simpa using (List.mem_filter.1 (List.mem_of_getLast? h)).2

/-- The block of a line is the last one of those that belong to it. -/
theorem mem_values_byLine_iff {bs : List SourceBlock} {b : SourceBlock} :
    b ∈ (byLine bs).values ↔ (bs.filter (·.line = b.line)).getLast? = some b := by
  rw [Dict.mem_values_iff, ← get?_byLine]
  exact ⟨fun ⟨n, hn⟩ => line_of_get?_byLine hn ▸ hn, fun h => ⟨_, h⟩⟩

theorem nodup_line_byLine (bs : List SourceBlock) : ((byLine bs).values.map line).Nodup := by
  have hkeys : (byLine bs).values.map line = (byLine bs).keys := by
    rw [Dict.values, Dict.keys, List.map_map]
    exact List.map_congr_left fun e he => line_of_get?_byLine (Dict.get?_eq_some_iff.2 he)
  rw [hkeys]
  exact Dict.keys_nodup _

end SourceBlock

namespace SourceFile

variable {f : SourceFile} {bs : List SourceBlock} {ns : List Notice}

/-- The docstrings of a file; none if it is no script, or one that cannot be read. -/
def written (f : SourceFile) : List SourceBlock :=
  if f.isScript then (SourceBlock.ofDocstrings? f.path f.text).getD [] else []

/-- The comments above functions and the docstrings of a file. -/
def candidates (f : SourceFile) : List SourceBlock :=
  SourceBlock.ofComments f.path f.text ++ f.written

theorem docstrings_eq {ds : List SourceBlock} (h : f.docstrings = .ok (ds, ns)) :
    ds = f.written.filter SourceBlock.isTagged := by
  unfold docstrings at h
  unfold written
  grind

theorem blocks_eq (h : f.blocks = .ok (bs, ns)) :
    bs = f.blocksWith (f.written.filter SourceBlock.isTagged) := by
  unfold blocks at h
  cases hd : f.docstrings with
  | error e => simp [hd, Except.map] at h
  | ok p =>
    obtain ⟨ds, notices⟩ := p
    simp only [hd, Except.map, Except.ok.injEq, Prod.mk.injEq] at h
    rw [← docstrings_eq hd, h.1]

theorem mem_blocksWith_iff {ds : List SourceBlock} {b : SourceBlock} :
    b ∈ f.blocksWith ds ↔ b.isTagged = true ∧
      ((SourceBlock.ofComments f.path f.text ++ ds).filter (·.line = b.line)).getLast? =
        some b := by
  rw [blocksWith, List.mem_filter, (List.mergeSort_perm _ _).mem_iff,
    SourceBlock.mem_values_byLine_iff, and_comm]

/-- The blocks of a file belong to different lines, and are listed in their order. -/
theorem pairwise_line_blocksWith (f : SourceFile) (ds : List SourceBlock) :
    (f.blocksWith ds).Pairwise (fun a b => a.line < b.line) := by
  unfold blocksWith
  generalize SourceBlock.ofComments f.path f.text ++ ds = all
  have hle : ((SourceBlock.byLine all).values.mergeSort fun a b => a.line ≤ b.line).Pairwise
      fun a b => a.line ≤ b.line := by
    refine (List.pairwise_mergeSort (fun a b c hab hbc => ?_) (fun a b => ?_) _).imp
      of_decide_eq_true
    · exact decide_eq_true (Nat.le_trans (of_decide_eq_true hab) (of_decide_eq_true hbc))
    · simpa using Nat.le_total a.line b.line
  have hne : ((SourceBlock.byLine all).values.mergeSort fun a b => a.line ≤ b.line).Pairwise
      fun a b => a.line ≠ b.line :=
    List.pairwise_map.1 (((List.mergeSort_perm _ _).map SourceBlock.line).nodup_iff.2
      (SourceBlock.nodup_line_byLine all))
  exact ((hle.and hne).imp fun h => Nat.lt_of_le_of_ne h.1 h.2).filter _

theorem pairwise_line_blocks (h : f.blocks = .ok (bs, ns)) :
    bs.Pairwise (fun a b => a.line < b.line) := by
  rw [blocks_eq h]
  exact pairwise_line_blocksWith f _

/-- The candidate that stays at a line is the last one with a tag. -/
theorem mem_blocks_iff (h : f.blocks = .ok (bs, ns)) {b : SourceBlock} :
    b ∈ bs ↔
      ((f.candidates.filter SourceBlock.isTagged).filter (·.line = b.line)).getLast? = some b := by
  rw [blocks_eq h, mem_blocksWith_iff, candidates, List.filter_append, List.filter_append,
    List.filter_append, List.getLast?_append, List.getLast?_append]
  cases hd : ((f.written.filter SourceBlock.isTagged).filter (·.line = b.line)).getLast? with
  | some d =>
    have hmem := (List.mem_filter.1 (List.mem_of_getLast? hd)).1
    have htag : d.isTagged = true := (List.mem_filter.1 hmem).2
    simp only [Option.some_or, Option.some.injEq, and_iff_right_iff_imp]
    rintro rfl
    exact htag
  | none =>
    -- at most one comment belongs to the line
    have hswap : ∀ cs : List SourceBlock,
        (cs.filter SourceBlock.isTagged).filter (·.line = b.line) =
          (cs.filter (·.line = b.line)).filter SourceBlock.isTagged := fun cs => by
      simp only [List.filter_filter]
      exact List.filter_congr fun _ _ => Bool.and_comm _ _
    rw [hswap, Option.none_or, Option.none_or]
    rcases SourceBlock.filter_line_eq_nil_or
      (SourceBlock.pairwise_line_ofComments f.path f.text) b.line with hc | ⟨c, hc⟩
    · simp [hc]
    · rw [hc]
      by_cases htag : c.isTagged = true
      · simp only [List.filter_cons_of_pos htag, List.filter_nil, List.getLast?_singleton,
          Option.some.injEq, and_iff_right_iff_imp]
        rintro rfl
        exact htag
      · simp only [List.filter_cons_of_neg htag, List.filter_nil, List.getLast?_singleton,
          Option.some.injEq, List.getLast?_nil, reduceCtorEq, iff_false, not_and]
        rintro hb rfl
        exact htag hb

/-- **A candidate counts as one with a tag if a tag is read in it, unless a line of it is only
searched or only read.** -/
theorem mem_blocks_iff_isTag (h : f.blocks = .ok (bs, ns)) (b : SourceBlock) :
    (b ∈ bs ↔
      ((f.candidates.filter SourceBlock.isTagged).filter (·.line = b.line)).getLast? = some b) ∧
    (b.isTagged = true ↔ ∃ l ∈ Chars.splitLines b.text.toList,
      (Line.read l).isTag = true ∧ ¬ Line.OnlyRead l ∨ Line.OnlySearched l) ∧
    ((∀ l ∈ Chars.splitLines b.text.toList, ¬ Line.OnlySearched l ∧ ¬ Line.OnlyRead l) →
      (b.isTagged = true ↔ ∃ line ∈ Block.lines b.text, line.isTag = true)) := by
  have hkept : b.isTagged = true ↔ ∃ l ∈ Chars.splitLines b.text.toList,
      (Line.read l).isTag = true ∧ ¬ Line.OnlyRead l ∨ Line.OnlySearched l := by
    simp only [SourceBlock.isTagged, SourceBlock.hasTag, List.any_eq_true, Line.isTagLine_iff]
  refine ⟨mem_blocks_iff h, hkept, fun hlines => hkept.trans ?_⟩
  simp only [Block.lines, List.mem_map, exists_exists_and_eq_and]
  refine exists_congr fun l => and_congr_right fun hl => ?_
  simp [hlines l hl]

theorem mem_blocks_iff_isTag_books :
    let f : SourceFile := ⟨"books.js", "// Books\n// @resource GET /books\nfunction list() {}\n"⟩
    let b : SourceBlock := ⟨"books.js", 3, "list", "// Books\n// @resource GET /books"⟩
    f.blocks = .ok ([b], []) ∧
      (∀ l ∈ Chars.splitLines b.text.toList, ¬ Line.OnlySearched l ∧ ¬ Line.OnlyRead l) ∧
      (f.candidates.filter SourceBlock.isTagged).filter (·.line = b.line) = [b] ∧
      b.isTagged = true ∧ ∃ line ∈ Block.lines b.text, line.isTag = true := by
  intro f b
  have hblocks : f.blocks = .ok ([b], []) := by decide +kernel
  have hsame : ∀ l ∈ Chars.splitLines b.text.toList,
      SourceBlock.isTagLine l = (Line.read l).isTag := by decide +kernel
  have hlines : ∀ l ∈ Chars.splitLines b.text.toList,
      ¬ Line.OnlySearched l ∧ ¬ Line.OnlyRead l := fun l hl =>
    not_or.1 fun h => (Line.isTagLine_ne_isTag_iff l).2 h (hsame l hl)
  have htag : b.isTagged = true := by decide +kernel
  obtain ⟨-, -, hread⟩ := mem_blocks_iff_isTag hblocks b
  exact ⟨hblocks, hlines, by decide +kernel, htag, (hread hlines).1 htag⟩

/-- The search drops the marks that open a comment, with the tag in the same line; the reading does
not. -/
theorem blocks_of_opening_line :
    let f : SourceFile := ⟨"books.js", "/** @resource GET /books */\nfunction list() {}\n"⟩
    let b : SourceBlock := ⟨"books.js", 2, "list", "/** @resource GET /books */"⟩
    b ∈ f.candidates ∧ f.blocks = .ok ([b], []) ∧
      ∀ line ∈ Block.lines b.text, line.isTag = false := by
  decide +kernel

end SourceFile

end RouteDoc
