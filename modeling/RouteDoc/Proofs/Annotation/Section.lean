import RouteDoc.Proofs.Dict
import RouteDoc.Proofs.Source.TagLine

/-!
# Sections of a block

A block is cut at the lines that start a tag: into the lines in front of the first tag and one
section for each tag.

* `Line.Starts`: what a line that starts a tag looks like.  `read_of_starts`: it is read so.
* `Line.Continues`, `Line.Idle`: whether any other line has something to say under a keyword.
* `Block.Section`, `Block.Cut`: the sections of a block.  `exists_cut`: every block has them.
* `Block.parse_sections`: **the groups of a block are the fields of its sections**, and no other
  lines than the idle ones can be left out.
-/

namespace RouteDoc

namespace Line

open Chars

variable {keyword : String} {rest l s : List Char}

/-! ## Lines of a block -/

/-- The text of a line, without its indentation, its marker, and the blanks around it. -/
def content (l : List Char) : List Char := strip (behindMarker l)

/-- A line that only opens or closes a comment. -/
def IsDelimiter (l : List Char) : Prop := strip l ∈ delimiters

/-- A comment marker or an indentation stands at the front of the line. -/
def IsMarked (l : List Char) : Prop :=
  (cutMarker (l.dropWhile isIndent)).1 = true ∨ l.head?.any isIndent = true

/-- The text of the line is a keyword behind an `@`, and the rest, with an indentation between
them. -/
def Starts (keyword : String) (rest l : List Char) : Prop :=
  ∃ gap, content l = '@' :: (keyword.toList ++ gap ++ rest) ∧
    keyword ≠ "" ∧ (∀ c ∈ keyword.toList, isWord c = true) ∧ (∀ c ∈ gap, isIndent c = true) ∧
    (gap = [] → rest = []) ∧ ∀ c ∈ rest.head?, isIndent c = false

def StartsTag (l : List Char) : Prop := ∃ keyword rest, Starts keyword rest l

/-- The text of the line is one of the fields of a keyword: it is marked, or it belongs to a
description. -/
def Continues (keyword : String) (l : List Char) : Prop :=
  ¬ IsDelimiter l ∧ (IsMarked l ∨ keyword = Keyword.description)

/-- The line says nothing under a keyword: it is a delimiter, or a text without a mark that does not
belong to a description. -/
def Idle (keyword : String) (l : List Char) : Prop :=
  IsDelimiter l ∨ keyword ≠ Keyword.description ∧ ¬ IsMarked l ∧ ¬ StartsTag l

instance (l : List Char) : Decidable (IsDelimiter l) := inferInstanceAs (Decidable (_ ∈ _))

instance (l : List Char) : Decidable (IsMarked l) := inferInstanceAs (Decidable (_ ∨ _))

instance (keyword : String) (l : List Char) : Decidable (Continues keyword l) :=
  inferInstanceAs (Decidable (_ ∧ _))

/-! ## How they are read -/

theorem isWord_eq_false_of_isIndent {c : Char} (h : isIndent c = true) : isWord c = false := by
  by_contra hw
  have hblank := isBlank_of_isIndent h
  rw [isBlank_eq_false_of_isWord (Bool.not_eq_false _ ▸ hw)] at hblank
  exact absurd hblank (by simp)

/-- A keyword and the rest behind it are cut off again. -/
theorem cutTag?_keyword {word gap : List Char} (hne : word ≠ [])
    (hword : ∀ c ∈ word, isWord c = true) (hgap : ∀ c ∈ gap, isIndent c = true)
    (hnil : gap = [] → rest = []) (hrest : ∀ c ∈ rest.head?, isIndent c = false) :
    cutTag? ('@' :: (word ++ gap ++ rest)) = some (word, rest) := by
  have hhead : ∀ c ∈ (gap ++ rest).head?, isIndent c = true := by
    cases gap with
    | nil => simp [hnil rfl]
    | cons c gap => simpa using hgap c List.mem_cons_self
  have htag : (!word.isEmpty && (gap ++ rest).head?.all isIndent) = true := by
    rw [Bool.and_eq_true, Option.all_eq_true]
    exact ⟨by simpa using hne, hhead⟩
  rw [List.append_assoc, cutTag?_append hword fun c hc => isWord_eq_false_of_isIndent (hhead c hc),
    if_pos htag, List.dropWhile_append_of_pos hgap, dropWhile_eq_self hrest]

/-- What is cut off as a tag is a keyword and the rest behind an indentation. -/
theorem exists_of_cutTag? {word : List Char} (h : cutTag? s = some (word, rest)) :
    ∃ gap, s = '@' :: (word ++ gap ++ rest) ∧ word ≠ [] ∧ (∀ c ∈ word, isWord c = true) ∧
      (∀ c ∈ gap, isIndent c = true) ∧ (gap = [] → rest = []) ∧
      ∀ c ∈ rest.head?, isIndent c = false := by
  obtain ⟨r, rfl⟩ : ∃ r, s = '@' :: r := by
    unfold cutTag? at h
    split at h
    · exact ⟨_, rfl⟩
    · exact absurd h (by simp)
  have hr := List.takeWhile_append_dropWhile (p := isWord) (l := r)
  have hword : ∀ c ∈ r.takeWhile isWord, isWord c = true := fun c hc => List.mem_takeWhile_imp hc
  rw [← hr, cutTag?_append hword fun c hc => eq_false_of_mem_head?_dropWhile hc] at h
  split at h
  · rename_i htag
    simp only [Bool.and_eq_true, Bool.not_eq_true', List.isEmpty_eq_false_iff,
      Option.all_eq_true] at htag
    obtain ⟨rfl, rfl⟩ := Prod.mk.inj (Option.some.inj h)
    refine ⟨(r.dropWhile isWord).takeWhile isIndent, ?_, htag.1, hword,
      fun c hc => List.mem_takeWhile_imp hc, fun hnil => ?_,
      fun c hc => eq_false_of_mem_head?_dropWhile hc⟩
    · rw [List.append_assoc, List.takeWhile_append_dropWhile, hr]
    · cases hdrop : r.dropWhile isWord with
      | nil => rfl
      | cons c t =>
        rw [hdrop, List.takeWhile_cons_of_pos (htag.2 c (by simp [hdrop]))] at hnil
        exact absurd hnil (by simp)
  · exact absurd h (by simp)

theorem starts_iff : Starts keyword rest l ↔ cutTag? (content l) = some (keyword.toList, rest) := by
  have hne : keyword ≠ "" ↔ keyword.toList ≠ [] := by simp
  constructor
  · rintro ⟨gap, heq, hkeyword, hword, hgap, hnil, hrest⟩
    rw [heq, cutTag?_keyword (hne.1 hkeyword) hword hgap hnil hrest]
  · intro h
    obtain ⟨gap, heq, hword⟩ := exists_of_cutTag? h
    exact ⟨gap, heq, hne.2 hword.1, hword.2⟩

/-- A line starts a tag if it is read as one. -/
theorem startsTag_iff : StartsTag l ↔ (Line.read l).isTag = true := by
  rw [isTag_read, Option.isSome_iff_exists, Prod.exists]
  constructor
  · rintro ⟨keyword, rest, h⟩
    exact ⟨keyword.toList, rest, starts_iff.1 h⟩
  · rintro ⟨word, rest, h⟩
    exact ⟨String.ofList word, rest, starts_iff.2 (by rwa [String.toList_ofList])⟩

instance (l : List Char) : Decidable (StartsTag l) := decidable_of_iff _ startsTag_iff.symm

theorem read_eq_ofContent (l : List Char) :
    Line.read l = if IsDelimiter l then .delimiter
      else ofContent (decide (IsMarked l)) (content l) := by
  have hmarked : ((cutMarker (l.dropWhile isIndent)).1 || l.head?.any isIndent) =
      decide (IsMarked l) := by
    rw [Bool.eq_iff_iff, Bool.or_eq_true, decide_eq_true_eq, IsMarked]
  rw [read_eq, hmarked]
  rfl

theorem Starts.not_isDelimiter (h : Starts keyword rest l) : ¬ IsDelimiter l := by
  intro hl
  have htag := startsTag_iff.1 ⟨keyword, rest, h⟩
  rw [read_eq_ofContent, if_pos hl] at htag
  exact absurd htag (by simp)

theorem read_of_starts (h : Starts keyword rest l) :
    Line.read l = .tag keyword ((splitFields rest).map String.ofList) := by
  rw [read_eq_ofContent, if_neg h.not_isDelimiter, ofContent, starts_iff.1 h]
  simp

/-- All other lines are delimiters or texts. -/
theorem read_of_not_startsTag (h : ¬ StartsTag l) :
    Line.read l = if IsDelimiter l then .delimiter
      else .text (decide (IsMarked l)) (String.ofList (content l)) := by
  have hnone : cutTag? (content l) = none := by
    rwa [startsTag_iff, isTag_read, Option.not_isSome_iff_eq_none] at h
  rw [read_eq_ofContent, ofContent, hnone]

theorem Idle.not_startsTag (h : Idle keyword l) : ¬ StartsTag l := by
  rcases h with h | ⟨-, -, h⟩
  · exact fun ⟨_, _, hstarts⟩ => hstarts.not_isDelimiter h
  · exact h

theorem idle_iff (h : ¬ StartsTag l) : Idle keyword l ↔ ¬ Continues keyword l := by
  simp only [Idle, Continues, h]
  tauto

end Line

namespace Block

variable {l : List Char} {ls front : List (List Char)}

/-! ## Sections -/

/-- A tag of a block: the line that starts it, and the lines behind it, up to the next tag. -/
structure Section where
  keyword : String
  /-- What stands behind the keyword. -/
  rest : List Char
  head : List Char
  body : List (List Char)
  starts : Line.Starts keyword rest head
  untagged : ∀ l ∈ body, ¬ Line.StartsTag l

/-- The texts of the lines that are among the fields of a keyword, in order. -/
def contents (keyword : String) (ls : List (List Char)) : List String :=
  (ls.filter (Line.Continues keyword ·)).map fun l => String.ofList (Line.content l)

def Section.lines (s : Section) : List (List Char) := s.head :: s.body

def Section.fields (s : Section) : List String :=
  (splitFields s.rest).map String.ofList ++ contents s.keyword s.body

/-- The lines are those in front of the first tag, and those of one section for each tag. -/
structure Cut (ls front : List (List Char)) (sections : List Section) : Prop where
  lines_eq : ls = front ++ sections.flatMap Section.lines
  untagged : ∀ l ∈ front, ¬ Line.StartsTag l

variable {sections : List Section}

theorem exists_cut (ls : List (List Char)) : ∃ front sections, Cut ls front sections := by
  induction ls with
  | nil => exact ⟨[], [], rfl, by simp⟩
  | cons l ls ih =>
    obtain ⟨front, sections, hlines, hfront⟩ := ih
    by_cases hl : Line.StartsTag l
    · -- the lines in front of what was the first tag stand behind this one
      obtain ⟨keyword, rest, hstarts⟩ := hl
      exact ⟨[], ⟨keyword, rest, l, front, hstarts, hfront⟩ :: sections,
        by simp [hlines, Section.lines], by simp⟩
    · exact ⟨l :: front, sections, by simp [hlines], by simpa [hl] using hfront⟩

/-- Every tag is at the head of one section. -/
theorem Cut.countP_startsTag (h : Cut ls front sections) :
    ls.countP (Line.StartsTag ·) = sections.length := by
  have hnone : ∀ ls : List (List Char), (∀ l ∈ ls, ¬ Line.StartsTag l) →
      ls.countP (Line.StartsTag ·) = 0 := fun ls h => by simpa [List.countP_eq_zero] using h
  have hone : ∀ s : Section, s.lines.countP (Line.StartsTag ·) = 1 := fun s => by
    rw [Section.lines, List.countP_cons_of_pos (by simpa using ⟨_, _, s.starts⟩),
      hnone s.body s.untagged]
  rw [h.lines_eq, List.countP_append, hnone front h.untagged, List.countP_flatMap]
  simp [Function.comp_def, hone]

/-! ## The tags of a section -/

theorem contents_append (keyword : String) (ls ms : List (List Char)) :
    contents keyword (ls ++ ms) = contents keyword ls ++ contents keyword ms := by
  simp [contents]

theorem contents_singleton (keyword : String) (l : List Char) : contents keyword [l] =
    if Line.Continues keyword l then [String.ofList (Line.content l)] else [] := by
  by_cases h : Line.Continues keyword l <;> simp [contents, h]

/-- A line that starts no tag adds what it says to the fields. -/
theorem occurrencesFrom_line (h : ¬ Line.StartsTag l) (keyword : String) (fields : List String)
    (ls : List Line) : occurrencesFrom keyword fields (Line.read l :: ls) =
      occurrencesFrom keyword (fields ++ contents keyword [l]) ls := by
  rw [Line.read_of_not_startsTag h, contents_singleton]
  by_cases hl : Line.IsDelimiter l
  · simp [hl, occurrencesFrom, Line.Continues]
  · by_cases hk : Line.IsMarked l ∨ keyword = Keyword.description
    · simp [hl, hk, occurrencesFrom, Line.Continues]
    · simp [hl, hk, occurrencesFrom, Line.Continues]

theorem occurrencesFrom_untagged (h : ∀ l ∈ front, ¬ Line.StartsTag l) (keyword : String)
    (fields : List String) (ls : List Line) :
    occurrencesFrom keyword fields (front.map Line.read ++ ls) =
      occurrencesFrom keyword (fields ++ contents keyword front) ls := by
  induction front generalizing fields with
  | nil => simp [contents]
  | cons l front ih =>
    rw [List.map_cons, List.cons_append, occurrencesFrom_line (h l List.mem_cons_self),
      ih fun m hm => h m (List.mem_cons_of_mem l hm), List.append_assoc, ← contents_append,
      List.singleton_append]

/-- Every section gives one tag. -/
theorem Cut.occurrencesFrom_eq (h : Cut ls front sections) (keyword : String)
    (fields : List String) : occurrencesFrom keyword fields (ls.map Line.read) =
      (keyword, fields ++ contents keyword front) :: sections.map fun s => (s.keyword, s.fields) := by
  rw [h.lines_eq, List.map_append, occurrencesFrom_untagged h.untagged]
  generalize fields ++ contents keyword front = fields
  clear h
  induction sections generalizing keyword fields with
  | nil => rfl
  | cons s sections ih =>
    rw [List.flatMap_cons, Section.lines, List.cons_append, List.map_cons, List.map_append,
      Line.read_of_starts s.starts, occurrencesFrom, occurrencesFrom_untagged s.untagged, ih]
    rfl

/-! ## Lines that say nothing -/

/-- A line can be left out if and only if it says nothing. -/
theorem group_leave_out_iff (before after : List (List Char)) (l : List Char) (keyword : String)
    (fields : List String) :
    group (occurrencesFrom keyword fields ((before ++ after).map Line.read)) =
        group (occurrencesFrom keyword fields ((before ++ l :: after).map Line.read)) ↔
      Line.Idle (keywordAfter keyword (before.map Line.read)) l := by
  obtain ⟨os, fields', hos⟩ := exists_occurrencesFrom_append (before.map Line.read) keyword fields
  simp only [List.map_append, List.map_cons]
  constructor
  · intro heq
    have hperm := (perm_group _).symm.trans (heq ▸ perm_group _)
    have hnot : ¬ Line.StartsTag l := by
      intro hl
      have hlength := hperm.length_eq
      rw [length_occurrencesFrom, length_occurrencesFrom, List.countP_append, List.countP_append,
        List.countP_cons_of_pos (Line.startsTag_iff.1 hl)] at hlength
      omega
    rw [Line.idle_iff hnot]
    intro hcontinues
    have htotal := (hperm.map fun o : String × List String => size o.2).sum_eq
    change total _ = total _ at htotal
    rw [hos, hos, occurrencesFrom_line hnot, total_append, total_append,
      total_occurrencesFrom_append] at htotal
    rw [contents_singleton, if_pos hcontinues, size_singleton] at htotal
    omega
  · intro hidle
    have hnot := hidle.not_startsTag
    rw [hos, hos, occurrencesFrom_line hnot, contents_singleton,
      if_neg ((Line.idle_iff hnot).1 hidle), List.append_nil]

/-! ## Blocks -/

/-- **The groups of a block are the fields of its sections**, under their keywords in the order in
which these first occur; the first group is what stands in front of the tags.  All lines have a
part in them but the idle ones. -/
theorem parse_sections (text : String) : ∃ front sections,
    Cut (Chars.splitLines text.toList) front sections ∧
    (parse text).keys.head? = some Keyword.description ∧
    (parse text).keys = (Keyword.description :: sections.map Section.keyword).eraseDups ∧
    (∀ keyword, ((parse text).get? keyword).getD [] =
      (if keyword = Keyword.description then [contents keyword front] else []) ++
        (sections.filter (·.keyword = keyword)).map Section.fields) ∧
    ((parse text).values.map List.length).sum =
      (Chars.splitLines text.toList).countP (Line.StartsTag ·) + 1 ∧
    ∀ before l after, Chars.splitLines text.toList = before ++ l :: after →
      (group (occurrencesFrom Keyword.description [] ((before ++ after).map Line.read)) =
          parse text ↔
        Line.Idle (keywordAfter Keyword.description (before.map Line.read)) l) := by
  obtain ⟨front, sections, hcut⟩ := exists_cut (Chars.splitLines text.toList)
  have hparse : parse text = group ((Keyword.description, contents Keyword.description front) ::
      sections.map fun s => (s.keyword, s.fields)) :=
    congrArg group (hcut.occurrencesFrom_eq Keyword.description [])
  have hkeys : (parse text).keys =
      (Keyword.description :: sections.map Section.keyword).eraseDups := by
    rw [hparse, keys_group, List.map_cons, List.map_map]
    rfl
  refine ⟨front, sections, hcut, by rw [hkeys, List.eraseDups_cons, List.head?_cons], hkeys,
    fun keyword => ?_, ?_, fun before l after heq => ?_⟩
  · rw [hparse, getD_group]
    by_cases hk : keyword = Keyword.description
    · subst hk
      simp [List.filter_map, Function.comp_def]
    · simp [hk, Ne.symm hk, List.filter_map, Function.comp_def]
  · rw [hparse, sum_length_group, hcut.countP_startsTag, List.length_cons, List.length_map]
  · rw [parse, occurrences, lines, heq]
    exact group_leave_out_iff before after l _ _

/-- The second line under the first tag is idle, and the one under the description is not. -/
example : (parse "A book\n@route {uuid} id\n  its key\nidle\n@route page\n@description\nmore").entries =
    [("description", [["A book"], ["more"]]), ("route", [["{uuid} id", "its key"], ["page"]])] := by
  decide +kernel

end Block

end RouteDoc
