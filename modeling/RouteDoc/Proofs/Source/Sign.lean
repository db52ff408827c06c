import RouteDoc.Proofs.Source.TagLine
import RouteDoc.Proofs.Text.Lines
import RouteDoc.Source.RouteDefinition

/-!
# Comments without their number signs

The comment above a handler is read without the number sign in front of each line, the block above a
function with it.

* `Line.SaysSame`: the lines that say the same without the sign.
* `Line.read_stripMarker_cases`: what dropping the sign of a line changes.
* `Handler.parse_stripMarkers_iff`: **a comment gives the same tags without its signs if and only if
  no bare sign stands at its two ends and each line says the same.**
-/

namespace RouteDoc

namespace Line

open Chars

variable {l s : List Char}

/-! ## Blanks at the end of a line -/

theorem head?_dropEnd_ne {c : Char} (h : s.head? ≠ some c) :
    (dropEnd isBlank s).head? ≠ some c := by
  by_cases hnil : dropEnd isBlank s = []
  · simp [hnil]
  · rwa [head?_dropEnd hnil]

theorem cutMarker_slash (h : s.head? ≠ some '/') : cutMarker ('/' :: s) = (false, '/' :: s) := by
  unfold cutMarker
  split <;> simp_all

theorem cutMarker_star (h : s.head? ≠ some '/') : cutMarker ('*' :: s) = (true, s) := by
  unfold cutMarker
  split <;> simp_all

/-- The marker of a line is cut in front of the blanks at its end. -/
theorem cutMarker_dropEnd (s : List Char) :
    cutMarker (dropEnd isBlank s) = ((cutMarker s).1, dropEnd isBlank (cutMarker s).2) := by
  have hcons : ∀ c ∈ ['/', '#', '*'], ∀ t, dropEnd isBlank (c :: t) = c :: dropEnd isBlank t := by
    intro c hc t
    refine dropEnd_cons_of_neg ?_ t
    simp only [List.mem_cons, List.not_mem_nil, or_false] at hc
    rcases hc with rfl | rfl | rfl <;> decide
  have hslash := hcons '/' (by decide)
  have hsign := hcons '#' (by decide)
  have hstar := hcons '*' (by decide)
  by_cases hs : ∀ c ∈ s.head?, c ∉ ['/', '#', '*']
  · rw [cutMarker_of_head? hs, cutMarker_of_head?]
    intro c hc
    by_cases hnil : dropEnd isBlank s = []
    · simp [hnil] at hc
    · exact hs c (head?_dropEnd hnil ▸ hc)
  · obtain ⟨c, t, rfl, hc⟩ : ∃ c t, s = c :: t ∧ c ∈ ['/', '#', '*'] := by
      cases s with
      | nil => simp at hs
      | cons c t => exact ⟨c, t, rfl, by simpa [-List.mem_cons] using hs⟩
    simp only [List.mem_cons, List.not_mem_nil, or_false] at hc
    rcases hc with rfl | rfl | rfl
    · by_cases ht : t.head? = some '/'
      · obtain ⟨r, rfl⟩ : ∃ r, t = '/' :: r := ⟨t.tail, (List.cons_head?_tail ht).symm⟩
        simp [hslash, cutMarker, dropWhile_dropEnd]
      · rw [cutMarker_slash ht, hslash, cutMarker_slash (head?_dropEnd_ne ht)]
    · simp [hsign, cutMarker, dropWhile_dropEnd]
    · by_cases ht : t.head? = some '/'
      · obtain ⟨r, rfl⟩ : ∃ r, t = '/' :: r := ⟨t.tail, (List.cons_head?_tail ht).symm⟩
        simp [hslash, hstar, cutMarker]
      · rw [cutMarker_star ht, hstar, cutMarker_star (head?_dropEnd_ne ht)]

theorem head?_any_dropEnd (s : List Char) :
    (dropEnd isBlank s).head?.any isIndent = (s.head?.any isIndent && !isBlankText s) := by
  by_cases h : dropEnd isBlank s = []
  · have hall : isBlankText s = true := List.all_eq_true.2 (dropEnd_eq_nil_iff.1 h)
    simp [h, hall]
  · have hall : isBlankText s = false := by
      rw [← Bool.not_eq_true]
      exact fun hs => h (dropEnd_eq_nil_iff.2 (List.all_eq_true.1 hs))
    rw [head?_dropEnd h, hall]
    simp

theorem strip_behindMarker_dropEnd (s : List Char) :
    strip (behindMarker (dropEnd isBlank s)) = strip (behindMarker s) := by
  rw [behindMarker, dropWhile_dropEnd, cutMarker_dropEnd, strip_dropEnd, behindMarker]

theorem read_dropEnd (s : List Char) :
    read (dropEnd isBlank s) = if strip s ∈ delimiters then .delimiter
      else ofContent ((cutMarker (s.dropWhile isIndent)).1 ||
        (s.head?.any isIndent && !isBlankText s)) (strip (behindMarker s)) := by
  rw [read_eq, strip_dropEnd, strip_behindMarker_dropEnd, dropWhile_dropEnd, cutMarker_dropEnd,
    head?_any_dropEnd]

/-! ## Lines behind a number sign -/

/-- What follows the number sign in front of a line. -/
def behindSign (l : List Char) : List Char := (l.dropWhile isIndent).tail

theorem dropWhile_of_sign (h : (l.dropWhile isIndent).head? = some '#') :
    l.dropWhile isIndent = '#' :: behindSign l :=
  (List.cons_head?_tail h).symm

theorem strip_of_sign (h : (l.dropWhile isIndent).head? = some '#') :
    strip l = '#' :: dropEnd isBlank (behindSign l) := by
  rw [← strip_dropWhile (fun _ => isBlank_of_isIndent), dropWhile_of_sign h, strip_eq_dropEnd,
    List.dropWhile_cons_of_neg (by decide), dropEnd_cons_of_neg (by decide)]

/-- With its number sign, a line is never dropped, and a text in it is marked. -/
theorem read_of_sign (h : (l.dropWhile isIndent).head? = some '#') :
    read l = ofContent true (strip ((behindSign l).dropWhile (· == '#'))) := by
  have hall : ∀ d ∈ delimiters, d.head? ≠ some '#' := by decide
  have hnot : strip l ∉ delimiters := fun hmem => hall _ hmem (by rw [strip_of_sign h]; rfl)
  rw [read_eq, if_neg hnot, behindMarker, dropWhile_of_sign h]
  rfl

theorem stripMarker_of_sign (h : (l.dropWhile isIndent).head? = some '#') :
    Handler.stripMarker l = dropEnd isBlank (behindSign l) := by
  have hblank : l.dropWhile isBlank = '#' :: behindSign l := by
    rw [← dropWhile_dropWhile_of_imp (fun _ => isBlank_of_isIndent) l, dropWhile_of_sign h,
      List.dropWhile_cons_of_neg (by decide)]
  simp only [Handler.stripMarker, hblank]

/-- What follows the number sign of a line says the same without it, under a keyword.  Another sign
stands there; or no other marker, and it starts a tag, is a part of a description, or is indented. -/
def SaysSame (keyword : String) (s : List Char) : Prop :=
  s.head? = some '#' ∨
    strip s ∉ delimiters ∧ (cutMarker (s.dropWhile isIndent)).1 = false ∧
      ((cutTag? (strip s)).isSome = true ∨ keyword = Keyword.description ∨
        s.head?.any isIndent = true ∧ isBlankText s = false)

theorem ofContent_of_isSome {content : List Char} (h : (cutTag? content).isSome = true)
    (m n : Bool) : ofContent m content = ofContent n content := by
  unfold ofContent
  split
  · rfl
  · simp_all

theorem ofContent_of_none {content : List Char} (h : cutTag? content = none) (m : Bool) :
    ofContent m content = .text m (String.ofList content) := by
  unfold ofContent
  rw [h]

/-- A marker that is cut has no blank in it, and starts no tag. -/
theorem exists_of_cutMarker (h : (cutMarker s).1 = true) :
    ∃ marker, marker ≠ [] ∧ (∀ c ∈ marker, isBlank c = false) ∧ marker.head? ≠ some '@' ∧
      s = marker ++ (cutMarker s).2 := by
  have hrun : ∀ (c : Char) (r : List Char), isBlank c = false →
      ∀ d ∈ c :: r.takeWhile (· == c), isBlank d = false := by
    intro c r hc d hd
    rcases List.mem_cons.1 hd with rfl | hd
    · exact hc
    · obtain rfl : d = c := by simpa using List.mem_takeWhile_imp hd
      exact hc
  unfold cutMarker at h ⊢
  split
  · rename_i r
    refine ⟨'/' :: '/' :: r.takeWhile (· == '/'), by simp, ?_, by simp, by simp⟩
    exact List.forall_mem_cons.2 ⟨by decide, hrun '/' r (by decide)⟩
  · rename_i r
    exact ⟨'#' :: r.takeWhile (· == '#'), by simp, hrun '#' r (by decide), by simp, by simp⟩
  · exact absurd h (by simp)
  · exact ⟨['*'], by simp, hrun '*' [] (by decide), by simp, rfl⟩
  · simp_all

/-- Behind a marker that is cut there is less text, and no tag with the marker. -/
theorem length_strip_behindMarker_lt (h : (cutMarker (s.dropWhile isIndent)).1 = true) :
    (strip (behindMarker s)).length < (strip s).length ∧ cutTag? (strip s) = none := by
  obtain ⟨marker, hne, hsolid, hhead, heq⟩ := exists_of_cutMarker h
  change _ = marker ++ behindMarker s at heq
  have hfront : ∀ c ∈ (marker ++ behindMarker s).head?, isBlank c = false := by
    intro c hc
    rw [List.head?_append, List.head?_eq_some_head hne] at hc
    exact hsolid c (Option.some.inj hc ▸ List.head_mem hne)
  have hstrip : strip s = marker ++ dropEnd isBlank (behindMarker s) := by
    rw [← strip_dropWhile (fun _ => isBlank_of_isIndent) s, heq, strip_eq_dropEnd,
      dropWhile_eq_self hfront, dropEnd_append hsolid]
  constructor
  · have hle : (strip (behindMarker s)).length ≤ (dropEnd isBlank (behindMarker s)).length := by
      rw [strip_eq_dropEnd, ← dropWhile_dropEnd]
      exact (List.dropWhile_sublist _).length_le
    have hpos := List.length_pos_iff.2 hne
    rw [hstrip, List.length_append]
    omega
  · rw [hstrip, cutTag?_eq_none]
    rwa [List.head?_append, List.head?_eq_some_head hne, Option.some_or, ← List.head?_eq_some_head]

theorem loses_ofContent {content text : List Char} (marked : Bool)
    (h : content.length < text.length) :
    Loses (String.ofList text) (ofContent marked content) := by
  unfold ofContent
  split
  · exact .tag _ _
  · exact .text marked (by simpa using h)

theorem unmarks_ofContent (content : List Char) :
    Unmarks (ofContent true content) (ofContent true content) := by
  unfold ofContent
  split
  · exact .tag _ _
  · exact .marked _

/-- What dropping the number sign of a line changes: nothing, the mark of a text, or the text. -/
theorem read_stripMarker_cases (h : (l.dropWhile isIndent).head? = some '#') :
    (read (Handler.stripMarker l) = read l ∧ ∀ k, SaysSame k (behindSign l)) ∨
    (∃ content, read l = .text true content ∧
      read (Handler.stripMarker l) = .text false content ∧
      ∀ k, SaysSame k (behindSign l) ↔ k = Keyword.description) ∨
    (∃ content, read l = .text true content ∧ Loses content (read (Handler.stripMarker l)) ∧
      ∀ k, ¬ SaysSame k (behindSign l)) := by
  rw [read_of_sign h, stripMarker_of_sign h, read_dropEnd]
  generalize behindSign l = s
  unfold SaysSame
  by_cases hsign : s.head? = some '#'
  · -- another sign is dropped from both
    obtain ⟨r, rfl⟩ : ∃ r, s = '#' :: r := ⟨s.tail, (List.cons_head?_tail hsign).symm⟩
    have hall : ∀ d ∈ delimiters, d.head? ≠ some '#' := by decide
    have hstrip : (strip ('#' :: r)).head? = some '#' := by
      rw [strip_eq_dropEnd, List.dropWhile_cons_of_neg (by decide),
        dropEnd_cons_of_neg (by decide), List.head?_cons]
    refine .inl ⟨?_, fun k => .inl rfl⟩
    rw [if_neg fun hmem => hall _ hmem hstrip]
    rfl
  · have hself : s.dropWhile (· == '#') = s := dropWhile_eq_self fun c hc => by
      simpa using fun heq : c = '#' => hsign (heq ▸ hc)
    simp only [hsign, false_or, hself]
    by_cases hd : strip s ∈ delimiters
    · -- the line is taken for one that opens or closes a comment
      have hall : ∀ d ∈ delimiters, cutTag? d = none := by decide
      refine .inr (.inr ⟨_, ofContent_of_none (hall _ hd) true, ?_, by simp [hd]⟩)
      rw [if_pos hd]
      exact .delimiter
    rw [if_neg hd]
    by_cases hm : (cutMarker (s.dropWhile isIndent)).1 = true
    · -- another marker is cut
      obtain ⟨hlength, hnone⟩ := length_strip_behindMarker_lt hm
      exact .inr (.inr ⟨_, ofContent_of_none hnone true, loses_ofContent _ hlength, by simp [hm]⟩)
    · have hm := Bool.eq_false_iff.2 hm
      have htext : strip (behindMarker s) = strip s := by
        rw [behindMarker, cutMarker_eq_self hm, strip_dropWhile fun _ => isBlank_of_isIndent]
      rw [htext, hm, Bool.false_or]
      by_cases htag : (cutTag? (strip s)).isSome = true
      · exact .inl ⟨ofContent_of_isSome htag _ _, fun k => ⟨hd, rfl, .inl htag⟩⟩
      · have hnone : cutTag? (strip s) = none := by simpa using htag
        rw [ofContent_of_none hnone, ofContent_of_none hnone]
        cases hindent : s.head?.any isIndent && !isBlankText s with
        | true =>
          refine .inl ⟨rfl, fun k => ⟨hd, rfl, .inr (.inr ?_)⟩⟩
          simpa using hindent
        | false =>
          refine .inr (.inl ⟨_, rfl, rfl, fun k => ?_⟩)
          simp_all

theorem unmarks_read (h : (l.dropWhile isIndent).head? = some '#') :
    Unmarks (read l) (read (Handler.stripMarker l)) := by
  obtain ⟨heq, -⟩ | ⟨content, ha, hb, -⟩ | ⟨content, ha, hb, -⟩ := read_stripMarker_cases h
  · rw [heq, read_of_sign h]
    exact unmarks_ofContent _
  · rw [ha, hb]
    exact .unmarked content
  · rw [ha]
    exact .lost hb

theorem Loses.not_same {content : String} {b : Line} (h : Loses content b) (keyword : String) :
    ¬ Same keyword (.text true content) b := by
  rintro (rfl | ⟨-, _, heq, rfl⟩)
  · cases h with
    | text _ hlength => exact absurd hlength (Nat.lt_irrefl _)
  · cases h with
    | text _ hlength =>
      cases heq
      exact absurd hlength (Nat.lt_irrefl _)

theorem same_read_iff (h : (l.dropWhile isIndent).head? = some '#') (keyword : String) :
    Same keyword (read l) (read (Handler.stripMarker l)) ↔ SaysSame keyword (behindSign l) := by
  obtain ⟨heq, hsays⟩ | ⟨content, ha, hb, hsays⟩ | ⟨content, ha, hb, hsays⟩ :=
    read_stripMarker_cases h
  · simp [heq, Same, hsays]
  · simp [ha, hb, Same, hsays]
  · simp [ha, hb.not_same, hsays]

end Line

namespace Handler

open Chars Line

variable {c : List Char}

theorem unbroken_dropEnd {l : List Char} (h : Unbroken l) : Unbroken (dropEnd isBlank l) := by
  obtain ⟨t, -, ht⟩ := exists_dropEnd_append isBlank l
  exact fun d hd => h d (ht ▸ List.mem_append_left t hd)

theorem unbroken_stripMarker {l : List Char} (h : Unbroken l) : Unbroken (stripMarker l) := by
  refine unbroken_dropEnd ?_
  split
  · rename_i r hr
    exact fun d hd => h d ((List.dropWhile_sublist _).subset (hr ▸ List.mem_cons_of_mem _ hd))
  · exact h

/-- The lines of a comment without its signs: those at the two ends are dropped if nothing else
stands in them. -/
theorem splitLines_stripMarkers (c : List Char) :
    splitLines (stripMarkers c) = Docstring.trimLines ((splitLines c).map stripMarker) := by
  refine splitLines_trim_joinWith fun l hl => ?_
  obtain ⟨k, hk, rfl⟩ := List.mem_map.1 hl
  exact unbroken_stripMarker (unbroken_of_mem_splitLines k hk)

theorem stripMarker_eq_nil_iff {l : List Char} (h : (l.dropWhile isIndent).head? = some '#') :
    stripMarker l = [] ↔ isBlankText (behindSign l) = true := by
  rw [stripMarker_of_sign h, dropEnd_eq_nil_iff, isBlankText, List.all_eq_true]

/-- A line without a text is a line with an empty text, as long as it has its sign. -/
theorem unmarks_delimiter {l : List Char} (h : (l.dropWhile isIndent).head? = some '#')
    (hl : stripMarker l = []) : Unmarks (Line.read l) .delimiter := by
  have hblank := List.all_eq_true.1 ((stripMarker_eq_nil_iff h).1 hl)
  have hstrip : strip ((behindSign l).dropWhile (· == '#')) = [] := by
    rw [strip_eq_dropEnd, dropEnd_eq_nil_iff]
    intro c hc
    exact hblank c ((List.dropWhile_sublist _).subset ((List.dropWhile_sublist _).subset hc))
  rw [read_of_sign h, hstrip]
  exact .lost .delimiter

theorem read_ne_delimiter {l : List Char} (h : (l.dropWhile isIndent).head? = some '#') :
    Line.read l ≠ .delimiter := by
  rw [read_of_sign h, ofContent]
  split <;> simp

section Comment

variable (h : ∀ l ∈ splitLines c, (l.dropWhile isIndent).head? = some '#')
include h

/-- A comment with a bare sign at one of its ends loses a line of the description, or of the tag at
its end. -/
theorem parse_stripMarkers_ne
    (htrim : Docstring.trimLines ((splitLines c).map stripMarker) ≠
      (splitLines c).map stripMarker) :
    Block.parse (String.ofList (stripMarkers c)) ≠ Block.parse (String.ofList c) := by
  obtain ⟨first, last, hlines, hfirst, hlast⟩ :=
    exists_trimLines_append ((splitLines c).map stripMarker)
  obtain ⟨l₁, ls, hc, hmap₁, hls⟩ := List.map_eq_append_iff.1 hlines
  obtain ⟨l₂, l₃, rfl, hmap₂, hmap₃⟩ := List.map_eq_append_iff.1 hls
  -- the lines that are dropped, as lines that say nothing
  let bs := l₁.map (fun _ => Line.delimiter) ++
    (l₂.map (fun l => Line.read (stripMarker l)) ++ l₃.map fun _ => Line.delimiter)
  have hmem₁ : ∀ l ∈ l₁, stripMarker l = [] := fun l hl =>
    hfirst _ (hmap₁ ▸ List.mem_map_of_mem hl)
  have hmem₃ : ∀ l ∈ l₃, stripMarker l = [] := fun l hl =>
    hlast _ (hmap₃ ▸ List.mem_map_of_mem hl)
  have hunmarks : List.Forall₂ Unmarks ((splitLines c).map Line.read) bs := by
    rw [hc, List.map_append, List.map_append]
    refine List.rel_append ?_ (List.rel_append ?_ ?_) <;>
      refine List.forall₂_map_left_iff.2 <| List.forall₂_map_right_iff.2 <|
        List.forall₂_same.2 fun l hl => ?_
    · exact unmarks_delimiter (h l (by simp [hc, hl])) (hmem₁ l hl)
    · exact unmarks_read (h l (by simp [hc, hl]))
    · exact unmarks_delimiter (h l (by simp [hc, hl])) (hmem₃ l hl)
  have hstripped : Block.occurrences (String.ofList (stripMarkers c)) =
      Block.occurrencesFrom Keyword.description [] bs := by
    rw [Block.occurrences, Block.lines, String.toList_ofList, splitLines_stripMarkers, ← hmap₂,
      List.map_map, ← Block.occurrencesFrom_filter _ _ bs, ← Block.occurrencesFrom_filter]
    simp [bs, Function.comp_def]
  rw [ne_comm, Block.parse, Block.parse, hstripped, Block.occurrences, Block.lines,
    String.toList_ofList, Ne, Block.group_occurrencesFrom_eq_iff hunmarks]
  intro halike
  -- some line is dropped
  have hdropped : Line.delimiter ∈ bs := by
    by_contra hnot
    have hempty : l₁ = [] ∧ l₃ = [] := by
      constructor <;> refine List.eq_nil_iff_forall_not_mem.2 fun l hl => hnot ?_ <;>
        simp only [bs, List.mem_append, List.mem_map]
      · exact .inl ⟨l, hl, trivial⟩
      · exact .inr (.inr ⟨l, hl, trivial⟩)
    obtain ⟨rfl, rfl⟩ := hempty
    rw [← hmap₁, ← hmap₃, List.map_nil, List.nil_append, List.append_nil] at hlines
    exact htrim hlines.symm
  obtain ⟨l, hl, hread⟩ := List.mem_map.1 (halike.delimiter_mem hdropped)
  exact read_ne_delimiter (h l hl) hread

/-- Of a comment with no bare sign at its ends each line stays. -/
theorem parse_stripMarkers_iff_of_trimmed
    (htrim : Docstring.trimLines ((splitLines c).map stripMarker) =
      (splitLines c).map stripMarker) :
    Block.parse (String.ofList (stripMarkers c)) = Block.parse (String.ofList c) ↔
      ∀ before l after, splitLines c = before ++ l :: after →
        SaysSame (Block.keywordAfter Keyword.description (before.map Line.read))
          (behindSign l) := by
  have hstripped : Block.lines (String.ofList (stripMarkers c)) =
      (splitLines c).map fun l => Line.read (stripMarker l) := by
    rw [Block.lines, String.toList_ofList, splitLines_stripMarkers, htrim, List.map_map]
    rfl
  have hunmarks : List.Forall₂ Unmarks ((splitLines c).map Line.read)
      ((splitLines c).map fun l => Line.read (stripMarker l)) :=
    List.forall₂_map_left_iff.2 <| List.forall₂_map_right_iff.2 <|
      List.forall₂_same.2 fun l hl => unmarks_read (h l hl)
  rw [eq_comm, Block.parse, Block.parse, Block.occurrences, Block.occurrences, hstripped,
    Block.lines, String.toList_ofList, Block.group_occurrencesFrom_eq_iff hunmarks,
    Block.alike_map_iff]
  refine forall₄_congr fun before l after heq => same_read_iff (h l ?_) _
  rw [heq]
  exact List.mem_append_right _ List.mem_cons_self

/-- **A comment gives the same tags without its number signs if and only if no bare sign stands at
its two ends and each line says the same.** -/
theorem parse_stripMarkers_iff :
    Block.parse (String.ofList (stripMarkers c)) = Block.parse (String.ofList c) ↔
      (∀ l ∈ (splitLines c).head?, isBlankText (behindSign l) = false) ∧
      (∀ l ∈ (splitLines c).getLast?, isBlankText (behindSign l) = false) ∧
      ∀ before l after, splitLines c = before ++ l :: after →
        SaysSame (Block.keywordAfter Keyword.description (before.map Line.read))
          (behindSign l) := by
  have hends : Docstring.trimLines ((splitLines c).map stripMarker) =
        (splitLines c).map stripMarker ↔
      (∀ l ∈ (splitLines c).head?, isBlankText (behindSign l) = false) ∧
        ∀ l ∈ (splitLines c).getLast?, isBlankText (behindSign l) = false := by
    have hbare : ∀ l ∈ splitLines c, stripMarker l ≠ [] ↔ isBlankText (behindSign l) = false :=
      fun l hl => by rw [Ne, stripMarker_eq_nil_iff (h l hl), Bool.not_eq_true]
    rw [trimLines_eq_self_iff, List.head?_map, List.getLast?_map]
    refine and_congr ?_ ?_
    · cases hl : (splitLines c).head? with
      | none => simp
      | some l => simpa using hbare l (List.mem_of_mem_head? hl)
    · cases hl : (splitLines c).getLast? with
      | none => simp
      | some l => simpa using hbare l (List.mem_of_getLast? hl)
  by_cases htrim : Docstring.trimLines ((splitLines c).map stripMarker) =
      (splitLines c).map stripMarker
  · rw [parse_stripMarkers_iff_of_trimmed h htrim]
    obtain ⟨hhead, hlast⟩ := hends.1 htrim
    exact ⟨fun hsame => ⟨hhead, hlast, hsame⟩, fun hall => hall.2.2⟩
  · have hnot := mt hends.2 htrim
    exact iff_of_false (parse_stripMarkers_ne h htrim) fun hall => hnot ⟨hall.1, hall.2.1⟩

end Comment

theorem parse_stripMarkers_iff_books :
    let c := "# Books\n#\n# @resource GET /books\n#   all of them".toList
    (∀ l ∈ splitLines c, (l.dropWhile isIndent).head? = some '#') ∧
      Block.parse (String.ofList (stripMarkers c)) = Block.parse (String.ofList c) ∧
      ∀ before l after, splitLines c = before ++ l :: after →
        SaysSame (Block.keywordAfter Keyword.description (before.map Line.read))
          (behindSign l) := by
  intro c
  have hsigns : ∀ l ∈ splitLines c, (l.dropWhile isIndent).head? = some '#' := by
    decide +kernel
  have hparse : Block.parse (String.ofList (stripMarkers c)) = Block.parse (String.ofList c) := by
    decide +kernel
  exact ⟨hsigns, hparse, ((parse_stripMarkers_iff hsigns).1 hparse).2.2⟩

/-- A line of a tag that follows its number sign without a blank is lost with the sign. -/
theorem parse_stripMarkers_of_unspaced :
    let c := "# @resource GET /books\n# @example A book\n#/books/1\n# 200: \x7b\x7d".toList
    (∀ l ∈ splitLines c, (l.dropWhile isIndent).head? = some '#') ∧
      Block.parse (String.ofList (stripMarkers c)) ≠ Block.parse (String.ofList c) ∧
      (Block.parse (String.ofList c)).get? Keyword.example' =
        some [["A book", "/books/1", "200: \x7b\x7d"]] ∧
      (Block.parse (String.ofList (stripMarkers c))).get? Keyword.example' =
        some [["A book", "200: \x7b\x7d"]] := by
  decide +kernel

end Handler

end RouteDoc
