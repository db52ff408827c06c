import RouteDoc.Proofs.Source.Block
import Mathlib.Data.List.DropRight

/-!
# Comments right above functions

Comments are collected in one pass over the lines of a text, which keeps the comment lines that may
still belong to a function further down.

* `LineKind.isAttached`: the lines that may stand between a comment and its function.
* `SourceBlock.commentsAtEnd`: what the pass has kept behind some lines, said without the pass.
* `SourceBlock.Commented`: a function with a comment, as a cut of a text: what stands above, the
  longest run of comments and decorators, the head of the function, and what stands below.
* `SourceBlock.mem_ofLines_iff`: what the rest of the pass finds.
* `SourceBlock.mem_ofComments_iff_commented`: **the blocks are the functions with comments, in their
  order, and no comment line belongs to two of them.**
-/

namespace RouteDoc

/-! ## Lines -/

namespace LineKind

def isCommentLine (l : List Char) : Bool := isComment (l.dropWhile Chars.isBlank)

def isDecoratorLine (l : List Char) : Bool := isDecorator (l.dropWhile Chars.isBlank)

def isFunctionLine (l : List Char) : Bool := isFunction (l.dropWhile Chars.isBlank)

/-- Whether a line may stand between a comment and its function. -/
def isAttached (l : List Char) : Bool := isCommentLine l || isDecoratorLine l

theorem head?_of_isDecorator {s : List Char} (h : isDecorator s = true) : s.head? = some '@' := by
  unfold isDecorator at h
  split at h
  · rfl
  · exact absurd h (by simp)

theorem head?_of_afterWord? {word s : List Char} (hne : word ≠ [])
    (h : (afterWord? word s).isSome = true) : s.head? = word.head? := by
  unfold afterWord? at h
  split at h
  · rename_i hcond
    obtain ⟨r, rfl⟩ := List.isPrefixOf_iff_prefix.1 (Bool.and_eq_true_iff.1 hcond).1
    exact List.head?_append_of_ne_nil _ hne
  · exact absurd h (by simp)

/-- The word that declares a function begins with a letter. -/
theorem head?_of_isFunction {s : List Char} (h : isFunction s = true) :
    s.head? = some 'd' ∨ s.head? = some 'f' ∨ s.head? = some 'a' := by
  rcases Bool.or_eq_true_iff.1 h with hword | hasync
  · obtain ⟨w, hw, hs⟩ := List.any_eq_true.1 hword
    simp only [functionWords, List.mem_cons, List.not_mem_nil, or_false] at hw
    rcases hw with rfl | rfl | rfl
    · exact .inl (head?_of_afterWord? (by decide) hs)
    · exact .inr (.inl (head?_of_afterWord? (by decide) hs))
    · exact .inr (.inl (head?_of_afterWord? (by decide) hs))
  · obtain ⟨r, hr, -⟩ := (Option.any_eq_true _ _).1 hasync
    exact .inr (.inr (head?_of_afterWord? (by decide) (Option.isSome_of_mem hr)))

theorem isDecorator_eq_false_of_isFunction {s : List Char} (h : isFunction s = true) :
    isDecorator s = false := by
  by_contra hdecorator
  have hat := head?_of_isDecorator (Bool.not_eq_false _ ▸ hdecorator)
  have hletter := head?_of_isFunction h
  rw [hat] at hletter
  exact absurd hletter (by decide)

theorem of_eq_comment_iff {l : List Char} : of l = .comment ↔ isCommentLine l = true := by
  unfold of isCommentLine
  grind

theorem of_eq_decorator_iff {l : List Char} :
    of l = .decorator ↔ isDecoratorLine l = true ∧ isCommentLine l = false := by
  unfold of isCommentLine isDecoratorLine
  grind

/-- No decorator is in the way of the head of a function. -/
theorem of_eq_function_iff {l : List Char} :
    of l = .function ↔ isFunctionLine l = true ∧ isCommentLine l = false := by
  have hdecorator := @isDecorator_eq_false_of_isFunction (l.dropWhile Chars.isBlank)
  unfold of isCommentLine isFunctionLine
  grind

theorem isAttached_iff {l : List Char} :
    isAttached l = true ↔ of l = .comment ∨ of l = .decorator := by
  rw [of_eq_comment_iff, of_eq_decorator_iff, isAttached, Bool.or_eq_true_iff]
  cases isCommentLine l <;> simp

theorem isAttached_eq_false {l : List Char} (h : of l = .function ∨ of l = .other) :
    isAttached l = false := by
  rw [← Bool.not_eq_true, isAttached_iff]
  rcases h with h | h <;> simp [h]

end LineKind

/-! ## The pass over the lines -/

namespace SourceBlock

open LineKind

/-- The comments in the run of comments and decorators at the end of some lines. -/
def commentsAtEnd (ls : List (List Char)) : List (List Char) :=
  (ls.rtakeWhile isAttached).filter isCommentLine

/-- The block of a function, by its head and all that stands above. -/
def ofHead (source : String) (above : List (List Char)) (head : List Char) : SourceBlock where
  source := source
  line := above.length + 1
  name := String.ofList (functionName head)
  text := String.ofList (Chars.joinWith ['\n'] (commentsAtEnd above))

section Pass

variable {done : List (List Char)} {l : List Char}

theorem commentsAtEnd_concat_comment (h : of l = .comment) :
    commentsAtEnd (done ++ [l]) = commentsAtEnd done ++ [l] := by
  rw [commentsAtEnd, List.rtakeWhile_concat_pos _ _ _ (isAttached_iff.2 (.inl h)),
    List.filter_append, List.filter_cons_of_pos (of_eq_comment_iff.1 h), List.filter_nil,
    commentsAtEnd]

theorem commentsAtEnd_concat_decorator (h : of l = .decorator) :
    commentsAtEnd (done ++ [l]) = commentsAtEnd done := by
  obtain ⟨-, hcomment⟩ := of_eq_decorator_iff.1 h
  rw [commentsAtEnd, List.rtakeWhile_concat_pos _ _ _ (isAttached_iff.2 (.inr h)),
    List.filter_append, List.filter_cons_of_neg (by simp [hcomment]), List.filter_nil,
    List.append_nil, commentsAtEnd]

theorem commentsAtEnd_concat_of_not (h : isAttached l = false) :
    commentsAtEnd (done ++ [l]) = [] := by
  rw [commentsAtEnd, List.rtakeWhile_concat_neg _ _ _ (by simp [h]), List.filter_nil]

/-- One step of the pass: a block if the line is the head of a function with a comment, and then the
lines below, above which there is one line more. -/
theorem ofLines_cons (source : String) (done : List (List Char)) (l : List Char)
    (ls : List (List Char)) :
    ofLines source (commentsAtEnd done) (done.length + 1) (l :: ls) =
      (if of l = .function ∧ commentsAtEnd done ≠ [] then [ofHead source done l] else []) ++
        ofLines source (commentsAtEnd (done ++ [l])) ((done ++ [l]).length + 1) ls := by
  rw [List.length_append, List.length_singleton]
  cases hl : of l with
  | comment =>
    rw [commentsAtEnd_concat_comment hl, if_neg (by simp), List.nil_append]
    simp only [ofLines, hl]
  | decorator =>
    rw [commentsAtEnd_concat_decorator hl, if_neg (by simp), List.nil_append]
    simp only [ofLines, hl]
  | other =>
    rw [commentsAtEnd_concat_of_not (isAttached_eq_false (.inr hl)), if_neg (by simp),
      List.nil_append]
    simp only [ofLines, hl]
  | function =>
    rw [commentsAtEnd_concat_of_not (isAttached_eq_false (.inl hl))]
    by_cases hrun : commentsAtEnd done = []
    · rw [if_neg fun h => h.2 hrun, List.nil_append]
      simp only [ofLines, hl, if_pos hrun]
    · rw [if_pos ⟨rfl, hrun⟩, List.singleton_append]
      simp only [ofLines, hl, if_neg hrun, ofHead]

/-- What the rest of the pass finds: the heads of functions below which have a comment, be it from
the lines that are done. -/
theorem mem_ofLines_iff {source : String} {ls : List (List Char)} {b : SourceBlock} :
    b ∈ ofLines source (commentsAtEnd done) (done.length + 1) ls ↔
      ∃ pre head below, pre ++ head :: below = ls ∧ of head = .function ∧
        commentsAtEnd (done ++ pre) ≠ [] ∧ b = ofHead source (done ++ pre) head := by
  induction ls generalizing done with
  | nil => simp [ofLines]
  | cons l ls ih =>
    rw [ofLines_cons, List.mem_append, ih]
    constructor
    · rintro (hb | ⟨pre, head, below, rfl, hhead, hne, rfl⟩)
      · split at hb
        · rename_i hl
          refine ⟨[], l, ls, rfl, hl.1, ?_, ?_⟩
          · rw [List.append_nil]
            exact hl.2
          · rw [List.append_nil]
            exact List.mem_singleton.1 hb
        · exact absurd hb List.not_mem_nil
      · rw [List.append_assoc] at hne ⊢
        exact ⟨l :: pre, head, below, rfl, hhead, hne, rfl⟩
    · rintro ⟨pre, head, below, hls, hhead, hne, rfl⟩
      cases pre with
      | nil =>
        obtain ⟨rfl, rfl⟩ := List.cons.inj hls
        rw [List.append_nil] at hne ⊢
        rw [if_pos ⟨hhead, hne⟩]
        exact .inl (List.mem_singleton.2 rfl)
      | cons k pre =>
        obtain ⟨rfl, rfl⟩ := List.cons.inj hls
        refine .inr ⟨pre, head, below, rfl, hhead, ?_, ?_⟩
        · rwa [List.append_assoc]
        · rw [List.append_assoc, List.singleton_append]

end Pass

/-! ## Functions with comments -/

/-- A function with a comment right above it, in a text of several lines. -/
structure Commented (ls : List (List Char)) where
  above : List (List Char)
  /-- The longest run of comments and decorators that ends at the function. -/
  run : List (List Char)
  head : List Char
  below : List (List Char)
  lines_eq : above ++ (run ++ head :: below) = ls
  run_attached : ∀ l ∈ run, isAttached l = true
  run_longest : ∀ l ∈ above.getLast?, isAttached l = false
  head_function : isFunctionLine head = true
  head_not_comment : isCommentLine head = false
  exists_comment : ∃ l ∈ run, isCommentLine l = true

namespace Commented

variable {ls : List (List Char)} (d : Commented ls)

/-- The number of the line of the function, from one. -/
def line : Nat := d.above.length + d.run.length + 1

def comments : List (List Char) := d.run.filter isCommentLine

def block (source : String) : SourceBlock where
  source := source
  line := d.line
  name := String.ofList (functionName d.head)
  text := String.ofList (Chars.joinWith ['\n'] d.comments)

/-- The line with a number, from one, is a comment of the function. -/
def Owns (n : Nat) : Prop :=
  d.above.length < n ∧ n < d.line ∧ ls[n - 1]?.any isCommentLine = true

instance (n : Nat) : Decidable (d.Owns n) := inferInstanceAs (Decidable (_ ∧ _ ∧ _))

theorem of_head : of d.head = .function :=
  of_eq_function_iff.2 ⟨d.head_function, d.head_not_comment⟩

/-- The longest run is all that can be taken from the end. -/
theorem rtakeWhile_above_append : (d.above ++ d.run).rtakeWhile isAttached = d.run := by
  have hrun : ∀ l ∈ d.run.reverse, isAttached l = true := fun l hl =>
    d.run_attached l (List.mem_reverse.1 hl)
  have habove : d.above.reverse.takeWhile isAttached = [] := by
    cases hlast : d.above.reverse with
    | nil => rfl
    | cons l ls =>
      have hl : l ∈ d.above.getLast? := by rw [← List.head?_reverse, hlast, List.head?_cons]; rfl
      rw [List.takeWhile_cons_of_neg (by simp [d.run_longest l hl])]
  rw [List.rtakeWhile, List.reverse_append, List.takeWhile_append_of_pos hrun, habove,
    List.append_nil, List.reverse_reverse]

theorem commentsAtEnd_above_append : commentsAtEnd (d.above ++ d.run) = d.comments := by
  rw [commentsAtEnd, rtakeWhile_above_append, comments]

theorem comments_ne_nil : d.comments ≠ [] := by
  obtain ⟨l, hl, hcomment⟩ := d.exists_comment
  exact List.ne_nil_of_mem (List.mem_filter.2 ⟨hl, hcomment⟩)

theorem block_eq (source : String) : d.block source = ofHead source (d.above ++ d.run) d.head := by
  rw [block, ofHead, commentsAtEnd_above_append, line, List.length_append]

/-- The line of a function tells it apart. -/
theorem eq_of_line_eq {d d' : Commented ls} (h : d.line = d'.line) : d = d' := by
  have hlength : (d.above ++ d.run).length = (d'.above ++ d'.run).length := by
    simp only [line] at h
    simp only [List.length_append]
    omega
  have hcut : (d.above ++ d.run) ++ d.head :: d.below =
      (d'.above ++ d'.run) ++ d'.head :: d'.below := by
    rw [List.append_assoc, d.lines_eq, List.append_assoc, d'.lines_eq]
  obtain ⟨hupper, hlower⟩ := List.append_inj hcut hlength
  obtain ⟨hhead, hbelow⟩ := List.cons.inj hlower
  have hrun : d.run = d'.run := by
    rw [← d.rtakeWhile_above_append, hupper, d'.rtakeWhile_above_append]
  have habove : d.above = d'.above := List.append_cancel_right (hrun ▸ hupper)
  obtain ⟨above, run, head, below⟩ := d
  obtain ⟨above', run', head', below'⟩ := d'
  subst hrun habove hhead hbelow
  rfl

theorem getElem?_line : ls[d.line - 1]? = some d.head := by
  have hline : d.line - 1 = (d.above ++ d.run).length := by
    rw [line, Nat.add_sub_cancel, List.length_append]
  have hget : (d.above ++ d.run ++ d.head :: d.below)[d.line - 1]? = some d.head := by
    rw [hline, List.getElem?_append_right (Nat.le_refl _), Nat.sub_self, List.getElem?_cons_zero]
  rwa [List.append_assoc, d.lines_eq] at hget

theorem isAttached_of_between {n : Nat} (habove : d.above.length < n) (hline : n < d.line)
    {l : List Char} (hl : ls[n - 1]? = some l) : isAttached l = true := by
  simp only [line] at hline
  rw [← d.lines_eq, List.getElem?_append_right (by omega),
    List.getElem?_append_left (by omega)] at hl
  exact d.run_attached l (List.mem_of_getElem? hl)

/-- A run does not go past the head of another function. -/
theorem not_line_lt_of_owns {d d' : Commented ls} {n : Nat} (h : d.Owns n) (h' : d'.Owns n) :
    ¬ d.line < d'.line := by
  intro hlt
  have habove : d'.above.length < d.line := h'.1.trans h.2.1
  have hattached := d'.isAttached_of_between habove hlt d.getElem?_line
  rw [isAttached_eq_false (.inl d.of_head)] at hattached
  exact absurd hattached (by simp)

/-- No line is a comment of two functions. -/
theorem eq_of_owns {d d' : Commented ls} {n : Nat} (h : d.Owns n) (h' : d'.Owns n) : d = d' :=
  eq_of_line_eq (Nat.le_antisymm (Nat.not_lt.1 (not_line_lt_of_owns h' h))
    (Nat.not_lt.1 (not_line_lt_of_owns h h')))

end Commented

/-- The head of a function below lines that end in a comment is a function with a comment. -/
theorem Commented.exists_of_commentsAtEnd {ls pre : List (List Char)} {head : List Char}
    {below : List (List Char)} (hls : pre ++ head :: below = ls) (hhead : of head = .function)
    (hne : commentsAtEnd pre ≠ []) :
    ∃ d : Commented ls, d.above ++ d.run = pre ∧ d.head = head := by
  have hcut : pre.rdropWhile isAttached ++ pre.rtakeWhile isAttached = pre :=
    List.rdropWhile_append_rtakeWhile
  obtain ⟨hfunction, hcomment⟩ := of_eq_function_iff.1 hhead
  refine ⟨{ above := pre.rdropWhile isAttached
            run := pre.rtakeWhile isAttached
            head := head
            below := below
            lines_eq := by rw [← List.append_assoc, hcut, hls]
            run_attached := fun l hl => List.mem_rtakeWhile_imp hl
            run_longest := fun l hl => ?_
            head_function := hfunction
            head_not_comment := hcomment
            exists_comment := ?_ }, hcut, rfl⟩
  · obtain ⟨hnil, rfl⟩ := List.mem_getLast?_eq_getLast hl
    simpa using List.rdropWhile_last_not isAttached pre hnil
  · obtain ⟨l, hl⟩ := List.exists_mem_of_ne_nil _ hne
    exact ⟨l, List.mem_filter.1 hl⟩

/-- The blocks are those of the functions with comments. -/
theorem mem_ofComments_iff {source text : String} {b : SourceBlock} :
    b ∈ ofComments source text ↔
      ∃ d : Commented (Chars.splitLines text.toList), d.block source = b := by
  -- the pass starts behind no lines
  have hpass : b ∈ ofComments source text ↔ _ := @mem_ofLines_iff [] source _ b
  rw [hpass]
  constructor
  · rintro ⟨pre, head, below, hls, hhead, hne, rfl⟩
    obtain ⟨d, rfl, rfl⟩ := Commented.exists_of_commentsAtEnd hls hhead hne
    exact ⟨d, d.block_eq source⟩
  · rintro ⟨d, rfl⟩
    refine ⟨d.above ++ d.run, d.head, d.below, ?_, d.of_head, ?_, d.block_eq source⟩
    · rw [List.append_assoc, d.lines_eq]
    · rw [List.nil_append, d.commentsAtEnd_above_append]
      exact d.comments_ne_nil

/-- **The blocks are the functions with comments, in their order**: each function with a comment
right above it gives the block with its line and with the comments of the run, and no comment line
belongs to two of them. -/
theorem mem_ofComments_iff_commented (source text : String) :
    (ofComments source text).Pairwise (fun a b => a.line < b.line) ∧
      (∀ b, b ∈ ofComments source text ↔
        ∃ d : Commented (Chars.splitLines text.toList), d.block source = b) ∧
      ∀ (d d' : Commented (Chars.splitLines text.toList)) (n : Nat),
        d.Owns n → d'.Owns n → d = d' :=
  ⟨pairwise_line_ofComments source text, fun _ => mem_ofComments_iff,
    fun _ _ _ => Commented.eq_of_owns⟩

/-- A decorator above the comment, one in the middle of it, and a function without a comment. -/
theorem mem_ofComments_iff_commented_books :
    let text := "@app\n# Books\n@get('/books')\n  // All\ndef books():\ndef pages():\n"
    let b : SourceBlock := ⟨"app.py", 5, "books", "# Books\n  // All"⟩
    ofComments "app.py" text = [b] ∧
      ∃ d : Commented (Chars.splitLines text.toList), d.block "app.py" = b ∧
        d.Owns 2 ∧ ¬ d.Owns 3 ∧ d.Owns 4 ∧ ∀ d' : Commented _, d'.Owns 4 → d' = d := by
  intro text b
  have hblocks : ofComments "app.py" text = [b] := by decide +kernel
  let d : Commented (Chars.splitLines text.toList) :=
    { above := []
      run := ["@app".toList, "# Books".toList, "@get('/books')".toList, "  // All".toList]
      head := "def books():".toList
      below := ["def pages():".toList]
      lines_eq := by decide +kernel
      run_attached := by decide +kernel
      run_longest := by decide
      head_function := by decide +kernel
      head_not_comment := by decide +kernel
      exists_comment := by decide +kernel }
  have howns : d.Owns 4 := by decide +kernel
  obtain ⟨-, -, hone⟩ := mem_ofComments_iff_commented "app.py" text
  exact ⟨hblocks, d, by decide +kernel, by decide +kernel, by decide +kernel, howns,
    fun d' h => hone d' d 4 h howns⟩

end SourceBlock

end RouteDoc
