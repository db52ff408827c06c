import RouteDoc.Proofs.Annotation.Occurrence
import RouteDoc.Proofs.Text.Trim
import RouteDoc.Source.File

/-!
# Lines that hold a tag

Blocks are searched for tags line by line (`SourceBlock.isTagLine`) before they are read
(`Line.read`).  The search drops more comment markers than the reading, and trims less.

* `Line.isTag_read`: when a line is read as the start of a tag.
* `Line.OnlySearched`: the search sees a tag, behind a marker that the reading leaves in place.
* `Line.OnlyRead`: the reading sees a tag, behind which other blanks than spaces and tabulators end
  the line.
* `Line.isTagLine_ne_isTag_iff`: **the search and the reading differ on these lines, and on no
  others.**
-/

namespace RouteDoc

namespace Line

open Chars

/-! ## Tags at the front of a text -/

theorem cutTag?_eq_none {s : List Char} (h : s.head? ≠ some '@') : cutTag? s = none := by
  unfold cutTag?
  split
  · exact absurd rfl h
  · rfl

/-- A tag is a keyword with the end of the text or an indentation behind it. -/
theorem cutTag?_append {word : List Char} (hword : ∀ c ∈ word, isWord c = true)
    {rest : List Char} (hrest : ∀ c ∈ rest.head?, isWord c = false) :
    cutTag? ('@' :: (word ++ rest)) =
      if !word.isEmpty && rest.head?.all isIndent then some (word, rest.dropWhile isIndent)
      else none := by
  have htake : (word ++ rest).takeWhile isWord = word := by
    rw [List.takeWhile_append_of_pos hword]
    cases rest with
    | nil => simp
    | cons c rest => rw [List.takeWhile_cons_of_neg (by simp [hrest c rfl]), List.append_nil]
  have hdrop : (word ++ rest).dropWhile isWord = rest := by
    rw [List.dropWhile_append_of_pos hword, dropWhile_eq_self hrest]
  simp only [cutTag?, htake, hdrop]
  cases rest with
  | nil => by_cases hw : word = [] <;> simp [hw]
  | cons c rest => by_cases hw : word = [] <;> simp [hw]

theorem isSome_cutTag?_keyword {word : List Char} (hword : ∀ c ∈ word, isWord c = true)
    {rest : List Char} (hrest : ∀ c ∈ rest.head?, isWord c = false) :
    (cutTag? ('@' :: (word ++ rest))).isSome = true ↔
      word ≠ [] ∧ ∀ c ∈ rest.head?, isIndent c = true := by
  rw [cutTag?_append hword hrest]
  simp [Option.all_eq_true]

/-- Behind a keyword, the text ends with blanks of which the first is no indentation. -/
def EndsOddly (s : List Char) : Prop :=
  ∃ word gap, s = '@' :: (word ++ gap) ∧ word ≠ [] ∧ (∀ c ∈ word, isWord c = true) ∧
    (∀ c ∈ gap, isBlank c = true) ∧ ∃ c ∈ gap.head?, isIndent c = false

theorem endsOddly_keyword_iff {word rest : List Char} (hword : ∀ c ∈ word, isWord c = true)
    (hrest : ∀ c ∈ rest.head?, isWord c = false) :
    EndsOddly ('@' :: (word ++ rest)) ↔
      word ≠ [] ∧ (∀ c ∈ rest, isBlank c = true) ∧ ∃ c ∈ rest.head?, isIndent c = false := by
  constructor
  · rintro ⟨word', gap, heq, hne, hword', hgap, hhead⟩
    have hnot : ∀ c ∈ gap.head?, isWord c = false := by
      intro c hc
      by_contra hw
      have hblank := hgap c (List.mem_of_mem_head? hc)
      rw [isBlank_eq_false_of_isWord (Bool.not_eq_false _ ▸ hw)] at hblank
      exact absurd hblank (by simp)
    have happend : word ++ rest = word' ++ gap := (List.cons.inj heq).2
    -- both cut the text at its first character that belongs to no word
    have hrest' : rest = gap := by
      rw [← dropWhile_eq_self hrest, ← List.dropWhile_append_of_pos hword, happend,
        List.dropWhile_append_of_pos hword', dropWhile_eq_self hnot]
    subst hrest'
    rw [List.append_cancel_right happend]
    exact ⟨hne, hgap, hhead⟩
  · rintro ⟨hne, hgap, hhead⟩
    exact ⟨word, rest, rfl, hne, hword, hgap, hhead⟩

/-- With the blanks at its end left out, a text starts a tag also if it ends oddly. -/
theorem isSome_cutTag?_dropEnd (s : List Char) :
    (cutTag? (dropEnd isBlank s)).isSome = true ↔ (cutTag? s).isSome = true ∨ EndsOddly s := by
  cases s with
  | nil => simp [dropEnd, EndsOddly]
  | cons c r =>
    by_cases hc : c = '@'
    · subst hc
      have hword : ∀ c ∈ r.takeWhile isWord, isWord c = true := fun c hc =>
        List.mem_takeWhile_imp hc
      have hrest : ∀ c ∈ (r.dropWhile isWord).head?, isWord c = false := fun c hc =>
        eq_false_of_mem_head?_dropWhile hc
      generalize hw : r.takeWhile isWord = word at hword
      generalize hr : r.dropWhile isWord = rest at hrest
      obtain rfl : r = word ++ rest := by rw [← hw, ← hr, List.takeWhile_append_dropWhile]
      have hdrop : dropEnd isBlank ('@' :: (word ++ rest)) =
          '@' :: (word ++ dropEnd isBlank rest) := by
        rw [dropEnd_cons_of_neg (by decide), dropEnd_append fun c hc =>
          isBlank_eq_false_of_isWord (hword c hc)]
      rw [hdrop, endsOddly_keyword_iff hword hrest, isSome_cutTag?_keyword hword hrest]
      by_cases hnil : dropEnd isBlank rest = []
      · -- blanks alone follow the keyword
        rw [hnil, isSome_cutTag?_keyword hword (by simp)]
        have hblank := dropEnd_eq_nil_iff.1 hnil
        cases rest with
        | nil => simp
        | cons d rest => cases hd : isIndent d <;> simp_all
      · have hhead := head?_dropEnd hnil
        rw [isSome_cutTag?_keyword hword (by rwa [hhead]), hhead]
        have hsolid : ¬ ∀ c ∈ rest, isBlank c = true := fun h => hnil (dropEnd_eq_nil_iff.2 h)
        simp only [hsolid, false_and, and_false, or_false]
    · have hnone : cutTag? (dropEnd isBlank (c :: r)) = none := by
        refine cutTag?_eq_none fun h => ?_
        rw [head?_dropEnd (fun hnil => by rw [hnil] at h; simp at h)] at h
        exact hc (Option.some.inj h)
      have hnot : ¬ EndsOddly (c :: r) := by
        rintro ⟨_, _, heq, -⟩
        exact hc (List.cons.inj heq).1
      rw [hnone, cutTag?_eq_none (by simpa using hc)]
      simp [hnot]

/-- What ends oddly starts no tag with the blanks at its end. -/
theorem EndsOddly.cutTag?_eq_none {s : List Char} (h : EndsOddly s) : cutTag? s = none := by
  obtain ⟨word, gap, rfl, -, hword, hgap, c, hc, hindent⟩ := h
  have hnot : ∀ d ∈ gap.head?, isWord d = false := fun d hd => by
    by_contra hw
    have hblank := hgap d (List.mem_of_mem_head? hd)
    rw [isBlank_eq_false_of_isWord (Bool.not_eq_false _ ▸ hw)] at hblank
    exact absurd hblank (by simp)
  rw [← Option.not_isSome_iff_eq_none, isSome_cutTag?_keyword hword hnot]
  intro h
  rw [h.2 c hc] at hindent
  exact absurd hindent (by simp)

/-! ## Markers -/

theorem cutMarker_eq_self {s : List Char} (h : (cutMarker s).1 = false) :
    cutMarker s = (false, s) := by
  unfold cutMarker at h ⊢
  split <;> simp_all

theorem cutMarker_of_head? {s : List Char} (h : ∀ c ∈ s.head?, c ∉ ['/', '#', '*']) :
    cutMarker s = (false, s) := by
  unfold cutMarker
  split <;> simp_all

/-- Blanks in front of a marker hide it. -/
theorem cutMarker_of_isBlank {s : List Char} (h : ¬ ∀ c ∈ s.head?, isBlank c = false) :
    cutMarker s = (false, s) := by
  refine cutMarker_of_head? fun c hc hmem => h fun d hd => ?_
  obtain rfl : c = d := Option.some.inj (hc.symm.trans hd)
  simp only [List.mem_cons, List.not_mem_nil, or_false] at hmem
  rcases hmem with rfl | rfl | rfl <;> decide

theorem dropMarker_of_head? {s : List Char} (h : ∀ c ∈ s.head?, c ∉ ['/', '#', '*']) :
    SourceBlock.dropMarker s = s := by
  unfold SourceBlock.dropMarker
  split <;> simp_all

/-- What is left of a line when it is read, without its indentation and marker. -/
def behindMarker (l : List Char) : List Char := (cutMarker (l.dropWhile isIndent)).2

/-- The reading leaves the marker of a line in place that the search drops: it opens or closes a
comment, or other blanks than spaces and tabulators stand in front of it. -/
def KeepsMarker (l : List Char) : Prop :=
  (cutMarker (l.dropWhile isIndent)).1 = false ∧
    SourceBlock.dropMarker (l.dropWhile isBlank) ≠ l.dropWhile isBlank

/-- The search drops the marker that the reading cuts, or it drops another one. -/
theorem dropMarker_cases (s : List Char) :
    (SourceBlock.dropMarker s = (cutMarker s).2 ∧
      ((cutMarker s).1 = true ∨ SourceBlock.dropMarker s = s)) ∨
    ((cutMarker s).1 = false ∧ (SourceBlock.dropMarker s).length < s.length ∧
      s.head? ≠ some '@') := by
  unfold cutMarker
  split
  · exact .inl ⟨rfl, .inl rfl⟩
  · exact .inl ⟨rfl, .inl rfl⟩
  · exact .inr ⟨rfl, by simp only [SourceBlock.dropMarker, List.length_cons]; omega, by simp⟩
  · rename_i r hslash
    refine .inl ⟨?_, .inl rfl⟩
    unfold SourceBlock.dropMarker
    split <;> simp_all
  · -- what is left are the marks that open a comment, and texts without a marker
    rename_i hslashes hhash hclose hstar
    unfold SourceBlock.dropMarker
    split
    · exact absurd rfl (hhash _)
    · exact absurd rfl (hslashes _)
    · exact .inr ⟨rfl, by simp only [List.length_cons]; omega, by simp⟩
    · exact .inr ⟨rfl, by simp only [List.length_cons]; omega, by simp⟩
    · exact absurd rfl (hclose _)
    · exact absurd rfl (hstar _)
    · exact .inl ⟨rfl, .inr rfl⟩

/-- The search and the reading come to the same text, unless the reading keeps the marker. -/
theorem behindMarker_cases (l : List Char) :
    (KeepsMarker l ∧ ((behindMarker l).dropWhile isBlank).head? ≠ some '@') ∨
    (¬ KeepsMarker l ∧ (SourceBlock.dropMarker (l.dropWhile isBlank)).dropWhile isBlank =
      (behindMarker l).dropWhile isBlank) := by
  unfold KeepsMarker behindMarker
  rw [← dropWhile_dropWhile_of_imp (fun _ => isBlank_of_isIndent) l]
  generalize l.dropWhile isIndent = u
  by_cases hu : ∀ c ∈ u.head?, isBlank c = false
  · -- the marker is the first thing behind the indentation
    rw [dropWhile_eq_self hu]
    rcases dropMarker_cases u with ⟨heq, hcut⟩ | ⟨hcut, hlength, hhead⟩
    · refine .inr ⟨fun h => ?_, by rw [heq]⟩
      rcases hcut with hcut | hcut
      · rw [hcut] at h
        exact absurd h.1 (by simp)
      · exact h.2 hcut
    · refine .inl ⟨⟨hcut, fun h => absurd (congrArg List.length h) (by omega)⟩, ?_⟩
      rwa [cutMarker_eq_self hcut, dropWhile_eq_self hu]
  · -- another blank stands in front of what follows
    rw [cutMarker_of_isBlank hu]
    have hself : ((u.dropWhile isBlank).dropWhile isBlank) = u.dropWhile isBlank :=
      dropWhile_dropWhile_of_imp (fun _ => id) u
    by_cases hdrop : SourceBlock.dropMarker (u.dropWhile isBlank) = u.dropWhile isBlank
    · exact .inr ⟨fun h => h.2 hdrop, by rw [hdrop, hself]⟩
    · refine .inl ⟨⟨rfl, hdrop⟩, fun hhead => hdrop (dropMarker_of_head? fun c hc => ?_)⟩
      obtain rfl : c = '@' := Option.some.inj (hc.symm.trans hhead)
      decide

/-- No marker is cut from a line that only opens or closes a comment. -/
theorem strip_behindMarker_of_mem_delimiters {l : List Char} (h : strip l ∈ delimiters) :
    strip (behindMarker l) = strip l := by
  have hall : ∀ d ∈ delimiters, ∀ gap, cutMarker (d ++ gap) = (false, d ++ gap) := by
    simp [delimiters, cutMarker]
  have hstrip : strip (l.dropWhile isIndent) = strip l :=
    strip_dropWhile (fun _ => isBlank_of_isIndent) l
  suffices hcut : cutMarker (l.dropWhile isIndent) = (false, l.dropWhile isIndent) by
    rw [behindMarker, hcut, hstrip]
  by_cases hu : ∀ c ∈ (l.dropWhile isIndent).head?, isBlank c = false
  · -- the line is a delimiter with blanks behind it
    obtain ⟨gap, -, heq⟩ := exists_dropEnd_append isBlank (l.dropWhile isIndent)
    have hd : dropEnd isBlank (l.dropWhile isIndent) = strip l := by
      rw [← hstrip, strip_eq_dropEnd, dropWhile_eq_self hu]
    rw [heq, hd]
    exact hall _ h gap
  · exact cutMarker_of_isBlank hu

/-- The line with a text: the start of a tag, or any other one. -/
def ofContent (marked : Bool) (content : List Char) : Line :=
  match cutTag? content with
  | some (keyword, fields) => .tag (String.ofList keyword) ((splitFields fields).map String.ofList)
  | none => .text marked (String.ofList content)

theorem read_eq (l : List Char) :
    read l = if strip l ∈ delimiters then .delimiter
      else ofContent ((cutMarker (l.dropWhile isIndent)).1 || l.head?.any isIndent)
        (strip (behindMarker l)) := rfl

theorem isTag_ofContent (marked : Bool) (content : List Char) :
    (ofContent marked content).isTag = (cutTag? content).isSome := by
  unfold ofContent
  split <;> simp_all

/-- A line is read as the start of a tag if its text is one. -/
theorem isTag_read (l : List Char) :
    (Line.read l).isTag = (cutTag? (strip (behindMarker l))).isSome := by
  rw [read_eq]
  split
  · rename_i hl
    have hall : ∀ d ∈ delimiters, d.head? ≠ some '@' := by decide
    rw [strip_behindMarker_of_mem_delimiters hl, cutTag?_eq_none (hall _ hl)]
    rfl
  · exact isTag_ofContent _ _

/-! ## Searched and read -/

/-- The search sees a tag, behind a marker that the reading leaves in place. -/
def OnlySearched (l : List Char) : Prop := SourceBlock.isTagLine l = true ∧ KeepsMarker l

/-- The reading sees a tag, behind which other blanks than spaces and tabulators end the line. -/
def OnlyRead (l : List Char) : Prop := EndsOddly ((behindMarker l).dropWhile isBlank)

theorem isTag_read_iff (l : List Char) :
    (Line.read l).isTag = true ↔
      (cutTag? ((behindMarker l).dropWhile isBlank)).isSome = true ∨ OnlyRead l := by
  rw [isTag_read, strip_eq_dropEnd]
  exact isSome_cutTag?_dropEnd _

theorem OnlyRead.isTag {l : List Char} (h : OnlyRead l) : (Line.read l).isTag = true :=
  (isTag_read_iff l).2 (.inr h)

/-- No tag is read in what the marker of a line is left in. -/
theorem KeepsMarker.isTag {l : List Char} (h : KeepsMarker l) : (Line.read l).isTag = false := by
  rcases behindMarker_cases l with ⟨-, hhead⟩ | ⟨hnot, -⟩
  · have hodd : ¬ OnlyRead l := fun ⟨_, _, heq, _⟩ => hhead (by rw [heq]; rfl)
    rw [← Bool.not_eq_true, isTag_read_iff, cutTag?_eq_none hhead]
    simp [hodd]
  · exact absurd h hnot

/-- What the search says about a line that shows its marker to both. -/
theorem isTagLine_iff_of_not_keepsMarker {l : List Char} (h : ¬ KeepsMarker l) :
    SourceBlock.isTagLine l = true ↔ (Line.read l).isTag = true ∧ ¬ OnlyRead l := by
  have htext := ((behindMarker_cases l).resolve_left fun hkeeps => h hkeeps.1).2
  rw [SourceBlock.isTagLine, htext, isTag_read_iff]
  by_cases hodd : OnlyRead l
  · simp [EndsOddly.cutTag?_eq_none hodd, hodd]
  · simp [hodd]

/-- What the search says about a line, from what the reading says. -/
theorem isTagLine_iff (l : List Char) :
    SourceBlock.isTagLine l = true ↔
      (Line.read l).isTag = true ∧ ¬ OnlyRead l ∨ OnlySearched l := by
  by_cases h : KeepsMarker l
  · simp [OnlySearched, h, h.isTag]
  · simp [OnlySearched, h, isTagLine_iff_of_not_keepsMarker h]

/-- **The search and the reading differ on these lines, and on no others.** -/
theorem isTagLine_ne_isTag_iff (l : List Char) :
    SourceBlock.isTagLine l ≠ (Line.read l).isTag ↔ OnlySearched l ∨ OnlyRead l := by
  have hsearch := isTagLine_iff l
  by_cases hs : OnlySearched l
  · simp [hs, hs.1, hs.2.isTag]
  · by_cases hr : OnlyRead l
    · simp_all [hr.isTag]
    · simp only [hs, hr, or_false, not_false_eq_true, and_true] at hsearch
      simp [hs, hr, Bool.eq_iff_iff.2 hsearch]

end Line

end RouteDoc
