import RouteDoc.Annotation.Example
import RouteDoc.Proofs.Number.Numeral
import RouteDoc.Proofs.Text.Split
import RouteDoc.Proofs.Text.Trim
import Mathlib.Data.List.Chain

/-!
# The bodies of an example

* `Example.ResponseLine`: the lines that start a response, as `cutCode?` finds them
  (`cutCode?_eq_some_iff`).
* `Example.Lays`: a text holds lines in their order, each of them indented as those in front of it
  ask for.  `Body.append` keeps it: `Body.Collects.append`.
* `Example.Refuses`: the lines whose code cannot be used, and the faults of those.
* `Example.Draft.Reads`: what a draft holds of the lines that it has taken up.
* `Example.read_lays`: **an example keeps each line of its two bodies in place**, and it fails for a
  code that is zero or too long and for nothing else.
-/

namespace RouteDoc

namespace Example

variable {line digits rest : List Char} {lines : List (List Char)}

/-! ## Lines that start a response -/

/-- A status code with a colon behind it, and the rest of the line, with blanks between them. -/
structure ResponseLine (line digits rest : List Char) : Prop where
  digits_ne_nil : digits ≠ []
  digits_decimal : ∀ c ∈ digits, Chars.isDecimal c = true
  rest_head : ∀ c ∈ rest.head?, Chars.isBlank c = false
  rest_newline : '\n' ∉ rest
  line_eq : ∃ blanks, (∀ c ∈ blanks, Chars.isBlank c = true) ∧ (blanks = [] → rest = []) ∧
    line = digits ++ ':' :: (blanks ++ rest)

theorem responseLine_of_cutCode? (h : cutCode? line = some (digits, rest)) :
    ResponseLine line digits rest := by
  simp only [cutCode?] at h
  split at h
  · rename_i r hr
    split at h
    · rename_i hcond
      obtain ⟨hdigits, hblank, hnewline⟩ := hcond
      obtain ⟨rfl, rfl⟩ : line.takeWhile Chars.isDecimal = digits ∧
          r.dropWhile Chars.isBlank = rest := by simpa using h
      refine ⟨hdigits, fun c hc => List.mem_takeWhile_imp hc,
        fun c hc => Chars.eq_false_of_mem_head?_dropWhile hc, hnewline,
        r.takeWhile Chars.isBlank, fun c hc => List.mem_takeWhile_imp hc, fun hnil => ?_, ?_⟩
      · cases r with
        | nil => rfl
        | cons c r =>
          have hc : Chars.isBlank c = true := by simpa using hblank
          rw [List.takeWhile_cons_of_pos hc] at hnil
          exact absurd hnil (List.cons_ne_nil c _)
      · rw [List.takeWhile_append_dropWhile, ← hr, List.takeWhile_append_dropWhile]
    · exact absurd h (by simp)
  · exact absurd h (by simp)

theorem ResponseLine.cutCode?_eq (h : ResponseLine line digits rest) :
    cutCode? line = some (digits, rest) := by
  obtain ⟨blanks, hblank, hnil, rfl⟩ := h.line_eq
  have hcolon : Chars.isDecimal ':' = false := by decide
  have hrest : (blanks ++ rest).dropWhile Chars.isBlank = rest := by
    rw [List.dropWhile_append_of_pos hblank, Chars.dropWhile_eq_self h.rest_head]
  have hhead : (blanks ++ rest).head?.all Chars.isBlank = true := by
    cases blanks with
    | nil =>
      rw [hnil rfl]
      rfl
    | cons b blanks => simpa using hblank b List.mem_cons_self
  simp only [cutCode?, Chars.takeWhile_append_cons h.digits_decimal hcolon,
    Chars.dropWhile_append_cons h.digits_decimal hcolon, hrest]
  rw [if_pos ⟨h.digits_ne_nil, hhead, h.rest_newline⟩]

/-- The lines that start a response are the ones in which a code is found. -/
theorem cutCode?_eq_some_iff :
    cutCode? line = some (digits, rest) ↔ ResponseLine line digits rest :=
  ⟨responseLine_of_cutCode?, ResponseLine.cutCode?_eq⟩

def Responds (line : List Char) : Prop := ∃ digits rest, ResponseLine line digits rest

theorem isSome_cutCode?_iff : (cutCode? line).isSome = true ↔ Responds line := by
  rw [Option.isSome_iff_exists, Prod.exists]
  simp only [cutCode?_eq_some_iff]
  rfl

instance : DecidablePred Responds := fun _ => decidable_of_iff _ isSome_cutCode?_iff

theorem cutCode?_eq_none (h : ¬ Responds line) : cutCode? line = none := by
  rwa [← isSome_cutCode?_iff, Option.not_isSome_iff_eq_none] at h

/-- What stands behind the code of a trimmed line is trimmed. -/
theorem ResponseLine.trimmed (h : ResponseLine line digits rest) (hline : Chars.Trimmed line)
    (hne : rest ≠ []) : Chars.Trimmed rest := by
  obtain ⟨blanks, -, -, rfl⟩ := h.line_eq
  refine ⟨hne, Chars.strip_eq_self h.rest_head fun c hc => hline.isBlank_of_mem_getLast? ?_⟩
  rwa [← List.cons_append, ← List.append_assoc, List.getLast?_append_of_ne_nil _ hne]

/-- The line starts a response whose code cannot be used.  It is zero, or it has more digits than are
read, which is no fault of the fields. -/
inductive Refuses (line : List Char) : TagFault → Prop
  | zero {digits rest : List Char} : ResponseLine line digits rest →
      digits.length ≤ Numeral.mostDigits → Numeral.ofDecimals digits = 0 →
      Refuses line (.fields (.invalidExampleCode (String.ofList digits)))
  | overlong {digits rest : List Char} : ResponseLine line digits rest →
      Numeral.mostDigits < digits.length → Refuses line .overlongNumber

/-! ## Bodies -/

/-- A line, and how deep it is indented. -/
structure Row where
  depth : Nat
  line : List Char

namespace Row

/-- The line with two blanks for each level in front of it. -/
def text (r : Row) : List Char := List.replicate (2 * r.depth) ' ' ++ r.line

def inner (r : Row) : Nat := r.depth + opening r.line

/-- The second row is as deep as the first one asks for; a line that closes a brace or bracket is
one level less deep, down to none. -/
def Follows (r s : Row) : Prop :=
  s.depth = if closings.contains s.line then r.inner - 1 else r.inner

theorem strip_text (r : Row) : Chars.strip r.text = Chars.strip r.line := by
  rw [text]
  generalize 2 * r.depth = n
  induction n with
  | zero => rfl
  | succ n ih =>
    rw [List.replicate_succ, List.cons_append, Chars.strip_cons_of_pos (by decide), ih]

theorem newline_not_mem_text {r : Row} (h : '\n' ∉ r.line) : '\n' ∉ r.text := by
  rw [text, List.mem_append, List.mem_replicate]
  rintro (⟨-, heq⟩ | hmem)
  · exact absurd heq (by decide)
  · exact h hmem

end Row

/-- Rows that begin without an indentation, each behind the one that asks for its depth. -/
structure Layout (rows : List Row) : Prop where
  flush : ∀ r ∈ rows.head?, r.depth = 0
  follows : rows.IsChain Row.Follows

/-- How deep the line behind rows is, unless it closes something. -/
def depthBehind (rows : List Row) : Nat := (rows.getLast?.map Row.inner).getD 0

def depthOf (rows : List Row) (line : List Char) : Nat :=
  if closings.contains line then depthBehind rows - 1 else depthBehind rows

theorem Layout.concat {rows : List Row} (h : Layout rows) (line : List Char) :
    Layout (rows ++ [⟨depthOf rows line, line⟩]) where
  flush r hr := by
    cases rows with
    | nil =>
      obtain rfl : (⟨depthOf [] line, line⟩ : Row) = r := by simpa using hr
      show (if closings.contains line then 0 - 1 else 0) = 0
      rw [Nat.zero_sub, ite_self]
    | cons s rows => exact h.flush r (by simpa using hr)
  follows := by
    refine h.follows.append (List.isChain_singleton _) fun r hr s hs => ?_
    obtain rfl : (⟨depthOf rows line, line⟩ : Row) = s := by simpa using hs
    have hbehind : depthBehind rows = r.inner := by rw [depthBehind, hr]; rfl
    show depthOf rows line = if closings.contains line then r.inner - 1 else r.inner
    rw [depthOf, hbehind]

/-- The body holds the lines, and knows how deep the next one is. -/
def Body.Collects (b : Body) (lines : List (List Char)) : Prop :=
  ∃ rows : List Row, Layout rows ∧ rows.map Row.line = lines ∧
    b.text = Chars.joinWith ['\n'] (rows.map Row.text) ∧ b.depth = depthBehind rows

namespace Body

theorem collects_nil : ({} : Body).Collects [] :=
  ⟨[], ⟨by simp, List.isChain_nil⟩, rfl, rfl, rfl⟩

/-- A body starts with the line, if it is not empty. -/
theorem collects_start (line : List Char) :
    (Body.start line).Collects (if line = [] then [] else [line]) := by
  by_cases hnil : line = []
  · subst hnil
    exact collects_nil
  · rw [if_neg hnil]
    refine ⟨[⟨0, line⟩], ⟨by simp, List.isChain_singleton _⟩, rfl, rfl, ?_⟩
    show opening line = 0 + opening line
    rw [Nat.zero_add]

theorem text_eq_nil_iff {rows : List Row} (h : ∀ r ∈ rows, r.line ≠ []) :
    Chars.joinWith ['\n'] (rows.map Row.text) = [] ↔ rows = [] := by
  cases rows with
  | nil => simp [Chars.joinWith]
  | cons r rows =>
    have hr : r.text ≠ [] := List.append_ne_nil_of_right_ne_nil _ (h r List.mem_cons_self)
    rw [List.map_cons]
    refine iff_of_false (fun hnil => ?_) (List.cons_ne_nil r rows)
    have hhead := congrArg List.head? hnil
    rw [Chars.head?_joinWith hr, List.head?_eq_some_head hr] at hhead
    exact absurd hhead (by simp)

/-- A line that is added is laid out behind the others. -/
theorem Collects.append {b : Body} (h : b.Collects lines) (hlines : ∀ l ∈ lines, l ≠ [])
    (line : List Char) : (b.append line).Collects (lines ++ [line]) := by
  obtain ⟨rows, hlayout, rfl, htext, hdepth⟩ := h
  have hne : ∀ r ∈ rows, r.line ≠ [] := fun r hr => hlines r.line (List.mem_map_of_mem hr)
  have hdepthOf :
      (if closings.contains line then b.depth - 1 else b.depth) = depthOf rows line := by
    rw [depthOf, hdepth]
  refine ⟨rows ++ [⟨depthOf rows line, line⟩], hlayout.concat line, by simp, ?_, ?_⟩
  · show (if b.text = [] then _ else b.text ++ '\n' :: _) = _
    rw [hdepthOf, htext, List.map_append, List.map_singleton]
    by_cases hrows : rows = []
    · subst hrows
      rfl
    · have hmap : rows.map Row.text ≠ [] := by simpa using hrows
      rw [if_neg fun hnil => hrows ((text_eq_nil_iff hne).1 hnil),
        Chars.joinWith_append hmap (List.cons_ne_nil _ _), List.append_assoc]
      rfl
  · show (if closings.contains line then b.depth - 1 else b.depth) + opening line = _
    rw [hdepthOf, depthBehind, List.getLast?_concat]
    rfl

end Body

def linesOf (text : String) : List (List Char) :=
  if text = "" then [] else Chars.splitAt '\n' text.toList

/-- The text holds the lines in their order, as rows that are laid out. -/
def Lays (lines : List (List Char)) (text : String) : Prop :=
  (linesOf text).map Chars.strip = lines ∧
    ∃ rows, Layout rows ∧ rows.map Row.line = lines ∧ linesOf text = rows.map Row.text

theorem Body.Collects.lays {b : Body} (h : b.Collects lines)
    (htrimmed : ∀ l ∈ lines, Chars.Trimmed l) (hnewline : ∀ l ∈ lines, '\n' ∉ l) :
    Lays lines (String.ofList b.text) := by
  obtain ⟨rows, hlayout, rfl, htext, -⟩ := h
  have hne : ∀ r ∈ rows, r.line ≠ [] := fun r hr => (htrimmed _ (List.mem_map_of_mem hr)).ne_nil
  have hlines : linesOf (String.ofList b.text) = rows.map Row.text := by
    have hempty : String.ofList b.text = "" ↔ rows = [] := by
      rw [String.ofList_eq_empty_iff, htext, text_eq_nil_iff hne]
    by_cases hrows : rows = []
    · rw [linesOf, if_pos (hempty.2 hrows), hrows, List.map_nil]
    · rw [linesOf, if_neg fun hnil => hrows (hempty.1 hnil), String.toList_ofList, htext]
      refine Chars.splitAt_joinWith (by simpa using hrows) fun p hp => ?_
      obtain ⟨r, hr, rfl⟩ := List.mem_map.1 hp
      exact Row.newline_not_mem_text (hnewline _ (List.mem_map_of_mem hr))
  refine ⟨?_, rows, hlayout, rfl, hlines⟩
  rw [hlines, List.map_map]
  refine List.map_congr_left fun r hr => ?_
  show Chars.strip r.text = r.line
  rw [r.strip_text, (htrimmed _ (List.mem_map_of_mem hr)).strip_eq]

/-! ## The lines of the request -/

/-- The lines from the first one that opens a body up to the first one that starts a response. -/
def requestLines (lines : List (List Char)) : List (List Char) :=
  (lines.takeWhile (¬ Responds ·)).dropWhile (!opensBody ·)

theorem requestLines_subset : requestLines lines ⊆ lines := fun _ h =>
  (List.takeWhile_subset _) ((List.dropWhile_suffix _).subset h)

theorem takeWhile_eq_self (h : ∀ l ∈ lines, ¬ Responds l) :
    lines.takeWhile (¬ Responds ·) = lines :=
  List.takeWhile_eq_self_iff.2 fun l hl => by simpa using h l hl

theorem requestLines_eq_nil (h : ∀ l ∈ lines, opensBody l = false) : requestLines lines = [] := by
  rw [requestLines, List.dropWhile_eq_nil_iff]
  intro l hl
  rw [h l (List.takeWhile_subset _ hl), Bool.not_false]

/-- The response ends the request. -/
theorem requestLines_append_of_responds (h : ∃ l ∈ lines, Responds l) (others : List (List Char)) :
    requestLines (lines ++ others) = requestLines lines := by
  obtain ⟨l, hl, hresponds⟩ := h
  rw [requestLines, List.takeWhile_append, if_neg, requestLines]
  intro hlength
  have hself := (List.takeWhile_prefix _).eq_of_length hlength
  have hnot := List.takeWhile_eq_self_iff.1 hself l hl
  simp only [decide_eq_true_eq] at hnot
  exact hnot hresponds

section NoResponse

variable (h : ∀ l ∈ lines, ¬ Responds l)

include h

theorem requestLines_concat_of_response (hline : Responds line) :
    requestLines (lines ++ [line]) = requestLines lines := by
  have hall : ∀ l ∈ lines, decide (¬ Responds l) = true := fun l hl => by simpa using h l hl
  rw [requestLines, List.takeWhile_append_of_pos hall,
    List.takeWhile_cons_of_neg (by simpa using hline), List.append_nil, requestLines,
    takeWhile_eq_self h]

theorem not_responds_concat (hline : ¬ Responds line) : ∀ l ∈ lines ++ [line], ¬ Responds l :=
  List.forall_mem_append.2 ⟨h, List.forall_mem_singleton.2 hline⟩

/-- Behind the line that opens the body, each line belongs to it. -/
theorem requestLines_concat_of_opened (hline : ¬ Responds line)
    (hopen : ∃ l ∈ lines, opensBody l = true) :
    requestLines (lines ++ [line]) = requestLines lines ++ [line] := by
  rw [requestLines, takeWhile_eq_self (not_responds_concat h hline), List.dropWhile_append, if_neg,
    requestLines, takeWhile_eq_self h]
  obtain ⟨l, hl, hopens⟩ := hopen
  rw [List.isEmpty_iff, List.dropWhile_eq_nil_iff]
  intro hnone
  simpa [hopens] using hnone l hl

/-- The first line that opens the body is the first one of the request. -/
theorem requestLines_concat_of_unopened (hline : ¬ Responds line)
    (hopen : ∀ l ∈ lines, opensBody l = false) (hopens : opensBody line = true) :
    requestLines (lines ++ [line]) = [line] := by
  rw [requestLines, takeWhile_eq_self (not_responds_concat h hline),
    List.dropWhile_append_of_pos fun l hl => by rw [hopen l hl, Bool.not_false],
    List.dropWhile_cons_of_neg (by simp [hopens])]

end NoResponse

/-! ## The response -/

/-- The last line that starts a response has the code, and the lines of the body stand behind it,
the rest of that line in front of them. -/
def LastResponse (lines : List (List Char)) (code : Nat) (body : List (List Char)) : Prop :=
  ∃ before line digits rest after, lines = before ++ line :: after ∧
    ResponseLine line digits rest ∧ (∀ l ∈ after, ¬ Responds l) ∧
    code = Numeral.ofDecimals digits ∧
    body = (if rest = [] then [] else [rest]) ++ after

namespace LastResponse

variable {code : Nat} {body : List (List Char)}

theorem concat (h : LastResponse lines code body) (hline : ¬ Responds line) :
    LastResponse (lines ++ [line]) code (body ++ [line]) := by
  obtain ⟨before, l, digits, rest, after, rfl, hresponse, hafter, hcode, rfl⟩ := h
  refine ⟨before, l, digits, rest, after ++ [line], by simp, hresponse, ?_, hcode, by simp⟩
  intro k hk
  rcases List.mem_append.1 hk with hk | hk
  · exact hafter k hk
  · rwa [List.mem_singleton.1 hk]

theorem of_response (h : ResponseLine line digits rest) (lines : List (List Char)) :
    LastResponse (lines ++ [line]) (Numeral.ofDecimals digits)
      (if rest = [] then [] else [rest]) :=
  ⟨lines, line, digits, rest, [], rfl, h, by simp, rfl, by simp⟩

theorem exists_responds (h : LastResponse lines code body) : ∃ l ∈ lines, Responds l := by
  obtain ⟨before, l, digits, rest, after, rfl, hresponse, -⟩ := h
  exact ⟨l, by simp, digits, rest, hresponse⟩

/-- What holds of each line, and of the rest of a line that starts a response, holds of the lines of
the body. -/
theorem forall_mem {p : List Char → Prop} (h : LastResponse lines code body)
    (hp : ∀ l ∈ lines, p l)
    (hrest : ∀ l ∈ lines, ∀ digits rest, ResponseLine l digits rest → rest ≠ [] → p rest) :
    ∀ l ∈ body, p l := by
  obtain ⟨before, l, digits, rest, after, rfl, hresponse, -, -, rfl⟩ := h
  intro k hk
  rcases List.mem_append.1 hk with hk | hk
  · split at hk
    · exact absurd hk List.not_mem_nil
    · rename_i hne
      rw [List.mem_singleton.1 hk]
      exact hrest l (by simp) digits rest hresponse hne
  · exact hp k (by simp [hk])

end LastResponse

/-! ## The steps of a draft -/

namespace Draft

variable {d d' : Draft}

/-- What the lines that a draft has taken up have come to. -/
inductive Stage (lines : List (List Char)) (d : Draft) : Prop where
  /-- No body has started. -/
  | head (part : d.part = .description ∨ d.part = .uri) (code : d.code = none)
      (response : d.response = {}) (answers : ∀ l ∈ lines, ¬ Responds l)
      (opens : ∀ l ∈ lines, opensBody l = false)
  /-- The lines of the request go on. -/
  | body (part : d.part = .body) (code : d.code = none) (response : d.response = {})
      (answers : ∀ l ∈ lines, ¬ Responds l) (opens : ∃ l ∈ lines, opensBody l = true)
  /-- The lines of a response go on. -/
  | response (part : d.part = .response) (code : Nat) (body : List (List Char))
      (code_eq : d.code = some code) (last : LastResponse lines code body)
      (collects : d.response.Collects body)

/-- The draft holds the lines: those of the request, and those of the last response. -/
structure Reads (lines : List (List Char)) (d : Draft) : Prop where
  request : d.request.Collects (requestLines lines)
  stage : Stage lines d

theorem reads_nil : Reads [] {} :=
  ⟨Body.collects_nil, .head (.inl rfl) rfl rfl (by simp) (by simp)⟩

theorem step_of_overlong (h : ResponseLine line digits rest)
    (hlong : Numeral.mostDigits < digits.length) : d.step line = .error .overlongNumber := by
  simp only [step, Start.of, h.cutCode?_eq,
    Numeral.readInt?_of_isDecimal h.digits_ne_nil h.digits_decimal, if_pos hlong]

theorem step_of_response (h : ResponseLine line digits rest)
    (hshort : digits.length ≤ Numeral.mostDigits) :
    d.step line = if Numeral.ofDecimals digits = 0 then
        .error (.fields (.invalidExampleCode (String.ofList digits)))
      else .ok { d with
        part := .response, code := some (Numeral.ofDecimals digits), response := .start rest } := by
  have hzero : ((Numeral.ofDecimals digits : Int) ≤ 0) ↔ Numeral.ofDecimals digits = 0 := by omega
  simp only [step, Start.of, h.cutCode?_eq,
    Numeral.readInt?_of_isDecimal h.digits_ne_nil h.digits_decimal, if_neg hshort.not_gt, hzero,
    Int.toNat_natCast]

/-- In front of both bodies, a line opens the request or leaves it as it is. -/
theorem step_of_head (hpart : d.part = .description ∨ d.part = .uri) (hline : ¬ Responds line) :
    ∃ d', d.step line = .ok d' ∧ d'.code = d.code ∧ d'.response = d.response ∧
      if opensBody line = true then d'.part = .body ∧ d'.request = .start line
      else (d'.part = .description ∨ d'.part = .uri) ∧ d'.request = d.request := by
  simp only [step, Start.of, cutCode?_eq_none hline, if_pos hpart]
  by_cases hslash : line.head? = some '/'
  · have hopens : opensBody line = false := by
      rw [opensBody, hslash]
      decide
    simp [hslash, hopens]
  · rw [if_neg hslash]
    by_cases hopens : opensBody line = true
    · simp [hopens]
    · rw [if_neg hopens]
      refine ⟨d.extend line, rfl, ?_⟩
      rw [if_neg hopens]
      rcases hpart with hpart | hpart <;> simp [extend, hpart]

theorem step_of_body (hpart : d.part = .body) (hline : ¬ Responds line) :
    d.step line = .ok { d with request := d.request.append line } := by
  simp [step, Start.of, cutCode?_eq_none hline, extend, hpart]

theorem step_of_answer (hpart : d.part = .response) (hline : ¬ Responds line) :
    d.step line = .ok { d with response := d.response.append line } := by
  simp [step, Start.of, cutCode?_eq_none hline, extend, hpart]

theorem exists_step_eq_ok (d : Draft) (hline : ¬ Responds line) : ∃ d', d.step line = .ok d' := by
  cases hpart : d.part with
  | description =>
    obtain ⟨d', hok, -⟩ := step_of_head (.inl hpart) hline
    exact ⟨d', hok⟩
  | uri =>
    obtain ⟨d', hok, -⟩ := step_of_head (.inr hpart) hline
    exact ⟨d', hok⟩
  | body => exact ⟨_, step_of_body hpart hline⟩
  | response => exact ⟨_, step_of_answer hpart hline⟩

/-- A draft refuses a line only for its code. -/
theorem step_eq_error_iff {fault : TagFault} : d.step line = .error fault ↔ Refuses line fault := by
  constructor
  · intro h
    by_cases hresponds : Responds line
    · obtain ⟨digits, rest, hresponse⟩ := hresponds
      rcases le_or_gt digits.length Numeral.mostDigits with hshort | hlong
      · rw [step_of_response hresponse hshort] at h
        split at h
        · rename_i hzero
          exact Except.error.inj h ▸ .zero hresponse hshort hzero
        · exact absurd h (by simp)
      · rw [step_of_overlong hresponse hlong] at h
        exact Except.error.inj h ▸ .overlong hresponse hlong
    · obtain ⟨d', hok⟩ := d.exists_step_eq_ok hresponds
      exact absurd (hok.symm.trans h) (by simp)
  · rintro (⟨hresponse, hshort, hzero⟩ | ⟨hresponse, hlong⟩)
    · rw [step_of_response hresponse hshort, if_pos hzero]
    · exact step_of_overlong hresponse hlong

theorem Reads.start_response (h : Reads lines d) (hresponse : ResponseLine line digits rest) :
    Reads (lines ++ [line]) { d with
      part := .response, code := some (Numeral.ofDecimals digits), response := .start rest } where
  request := by
    have hline : Responds line := ⟨digits, rest, hresponse⟩
    have hrequest : requestLines (lines ++ [line]) = requestLines lines := by
      by_cases hall : ∃ l ∈ lines, Responds l
      · exact requestLines_append_of_responds hall [line]
      · exact requestLines_concat_of_response (by simpa using hall) hline
    rw [hrequest]
    exact h.request
  stage := .response rfl _ _ rfl (.of_response hresponse lines) (Body.collects_start rest)

/-- A line that a draft takes up is added to what it has read. -/
theorem Reads.step (h : Reads lines d) (hlines : ∀ l ∈ lines, l ≠ []) (hne : line ≠ [])
    (hstep : d.step line = .ok d') : Reads (lines ++ [line]) d' := by
  by_cases hline : Responds line
  · obtain ⟨digits, rest, hresponse⟩ := hline
    have hshort : digits.length ≤ Numeral.mostDigits := by
      by_contra hlong
      exact absurd ((step_of_overlong hresponse (not_le.1 hlong)).symm.trans hstep) (by simp)
    rw [step_of_response hresponse hshort] at hstep
    split at hstep
    · exact absurd hstep (by simp)
    · obtain rfl := Except.ok.inj hstep
      exact h.start_response hresponse
  cases h.stage with
  | head part code response answers opens =>
    obtain ⟨d'', hok, hcode, hresponse, hnext⟩ := step_of_head part hline
    obtain rfl : d'' = d' := Except.ok.inj (hok.symm.trans hstep)
    have hanswers := not_responds_concat answers hline
    by_cases hopen : opensBody line = true
    · rw [if_pos hopen] at hnext
      refine ⟨?_, .body hnext.1 (hcode.trans code) (hresponse.trans response) hanswers
        ⟨line, by simp, hopen⟩⟩
      have hstart := Body.collects_start line
      rw [if_neg hne] at hstart
      rwa [requestLines_concat_of_unopened answers hline opens hopen, hnext.2]
    · rw [if_neg hopen] at hnext
      have hopens : ∀ l ∈ lines ++ [line], opensBody l = false :=
        List.forall_mem_append.2 ⟨opens, List.forall_mem_singleton.2 (by simpa using hopen)⟩
      refine ⟨?_, .head hnext.1 (hcode.trans code) (hresponse.trans response) hanswers hopens⟩
      rw [requestLines_eq_nil hopens, ← requestLines_eq_nil opens, hnext.2]
      exact h.request
  | body part code response answers opens =>
    obtain rfl := Except.ok.inj ((step_of_body part hline).symm.trans hstep)
    refine ⟨?_, .body part code response (not_responds_concat answers hline) ?_⟩
    · rw [requestLines_concat_of_opened answers hline opens]
      exact h.request.append (fun k hk => hlines k (requestLines_subset hk)) line
    · obtain ⟨l, hl, hopens⟩ := opens
      exact ⟨l, List.mem_append_left _ hl, hopens⟩
  | response part code body code_eq last collects =>
    obtain rfl := Except.ok.inj ((step_of_answer part hline).symm.trans hstep)
    refine ⟨?_, .response part code (body ++ [line]) code_eq (last.concat hline) ?_⟩
    · rw [requestLines_append_of_responds last.exists_responds]
      exact h.request
    · exact collects.append (last.forall_mem hlines fun _ _ _ _ _ hrest => hrest) line

/-- **What a draft holds of lines that it has taken up**, whichever they are. -/
theorem Reads.steps (h : Reads lines d) {others : List (List Char)}
    (hlines : ∀ l ∈ lines ++ others, l ≠ []) (hsteps : d.steps others = (d', .ok ())) :
    Reads (lines ++ others) d' := by
  induction others generalizing lines d with
  | nil =>
    obtain rfl : d = d' := congrArg Prod.fst hsteps
    rwa [List.append_nil]
  | cons line others ih =>
    rw [Draft.steps] at hsteps
    cases hstep : d.step line with
    | error fault =>
      rw [hstep] at hsteps
      exact absurd (congrArg Prod.snd hsteps) (by simp)
    | ok next =>
      rw [hstep] at hsteps
      rw [List.forall_mem_append, List.forall_mem_cons] at hlines
      have hnext := h.step hlines.1 hlines.2.1 hstep
      have hall := ih hnext (by simpa [or_imp, forall_and] using ⟨hlines.1, hlines.2⟩) hsteps
      rwa [List.append_assoc, List.singleton_append] at hall

/-- The fault of several lines is that of one of them. -/
theorem exists_refuses_of_steps {fault : TagFault} (h : (d.steps lines).2 = .error fault) :
    ∃ l ∈ lines, Refuses l fault := by
  induction lines generalizing d with
  | nil => exact absurd h (by simp [Draft.steps])
  | cons line lines ih =>
    rw [Draft.steps] at h
    rw [List.exists_mem_cons_iff]
    cases hstep : d.step line with
    | error fault' =>
      rw [hstep] at h
      obtain rfl := Except.error.inj h
      exact .inl (step_eq_error_iff.1 hstep)
    | ok next =>
      rw [hstep] at h
      exact .inr (ih h)

/-- A line is refused, whatever the lines in front of it are. -/
theorem exists_steps_eq_error {line : List Char} {fault : TagFault} (hmem : line ∈ lines)
    (h : Refuses line fault) : ∃ fault, (d.steps lines).2 = .error fault := by
  induction lines generalizing d with
  | nil => exact absurd hmem List.not_mem_nil
  | cons first lines ih =>
    rw [Draft.steps]
    cases hstep : d.step first with
    | error fault' => exact ⟨fault', rfl⟩
    | ok next =>
      rcases List.mem_cons.1 hmem with rfl | hmem
      · exact absurd (hstep.symm.trans (step_eq_error_iff.2 h)) (by simp)
      · exact ih hmem

end Draft

/-! ## Examples -/

theorem trimmed_of_mem_content {lines : List String} {l : List Char} (h : l ∈ content lines) :
    Chars.Trimmed l := by
  rw [content, List.mem_filter] at h
  obtain ⟨hmem, hne⟩ := h
  obtain ⟨s, -, rfl⟩ := List.mem_map.1 hmem
  exact Chars.trimmed_strip (by simpa using hne)

theorem read_eq_ok_iff {lines : List String} (hne : lines ≠ []) {e : Example} :
    read lines = .ok e ↔ ∃ d, draft lines = (d, .ok ()) ∧ e = d.finish := by
  rw [read, if_neg hne]
  rcases hdraft : draft lines with ⟨d, _ | _⟩
  · simp
  · simp [eq_comm]

theorem read_eq_error_iff {lines : List String} (hne : lines ≠ []) {fault : TagFault} :
    read lines = .error fault ↔ (draft lines).2 = .error fault := by
  rw [read, if_neg hne]
  rcases draft lines with ⟨d, _ | _⟩ <;> simp

/-- Only a code that is too long is no fault of the fields. -/
theorem fault_of_read {lines : List String} {fault : TagFault} (h : read lines = .error fault) :
    (∃ f, fault = .fields f) ∨ fault = .overlongNumber := by
  by_cases hne : lines = []
  · rw [read, if_pos hne] at h
    exact .inl ⟨_, (Except.error.inj h).symm⟩
  · obtain ⟨l, -, hrefuses⟩ := Draft.exists_refuses_of_steps ((read_eq_error_iff hne).1 h)
    cases hrefuses with
    | zero => exact .inl ⟨_, rfl⟩
    | overlong => exact .inr rfl

/-- **An example keeps each line of its two bodies in place**, of the lines that are trimmed and not
blank: the request goes from the first one that opens a body to the first one that starts a
response, and the response goes on behind the last one that starts one.  It fails for a code that is
zero or has more digits than are read, and for nothing else. -/
theorem read_lays {lines : List String} (hne : lines ≠ [])
    (hnewline : ∀ l ∈ content lines, '\n' ∉ l) :
    ((∃ fault, read lines = .error fault) ↔ ∃ l ∈ content lines, ∃ fault, Refuses l fault) ∧
      (∀ fault, read lines = .error fault → ∃ l ∈ content lines, Refuses l fault) ∧
      ∀ e, read lines = .ok e → Lays (requestLines (content lines)) e.body ∧
        (((∀ l ∈ content lines, ¬ Responds l) ∧ e.code = none ∧ e.response = "") ∨
          ∃ code body, LastResponse (content lines) code body ∧ e.code = some code ∧
            Lays body e.response) := by
  have hfault : ∀ fault, read lines = .error fault → ∃ l ∈ content lines, Refuses l fault :=
    fun fault h => Draft.exists_refuses_of_steps ((read_eq_error_iff hne).1 h)
  refine ⟨⟨?_, ?_⟩, hfault, fun e hread => ?_⟩
  · rintro ⟨fault, h⟩
    obtain ⟨l, hl, hrefuses⟩ := hfault fault h
    exact ⟨l, hl, fault, hrefuses⟩
  · rintro ⟨l, hl, fault, hrefuses⟩
    obtain ⟨fault', h⟩ := Draft.exists_steps_eq_error (d := {}) hl hrefuses
    exact ⟨fault', (read_eq_error_iff hne).2 h⟩
  obtain ⟨d, hdraft, rfl⟩ := (read_eq_ok_iff hne).1 hread
  have htrimmed : ∀ l ∈ content lines, Chars.Trimmed l := fun l hl => trimmed_of_mem_content hl
  have hreads : Draft.Reads (content lines) d :=
    Draft.reads_nil.steps (fun l hl => (htrimmed l hl).ne_nil) hdraft
  constructor
  · exact hreads.request.lays (fun l hl => htrimmed l (requestLines_subset hl))
      fun l hl => hnewline l (requestLines_subset hl)
  · cases hreads.stage with
    | head part code response answers opens =>
      refine .inl ⟨answers, code, ?_⟩
      show String.ofList d.response.text = ""
      rw [response]
    | body part code response answers opens =>
      refine .inl ⟨answers, code, ?_⟩
      show String.ofList d.response.text = ""
      rw [response]
    | response part code body code_eq last collects =>
      refine .inr ⟨code, body, last, code_eq, collects.lays ?_ ?_⟩
      · exact last.forall_mem htrimmed fun l hl _ _ hresponse => hresponse.trimmed (htrimmed l hl)
      · exact last.forall_mem hnewline fun l hl _ _ hresponse _ => hresponse.rest_newline

/-- An example with both bodies. -/
def newBook : List String :=
  ["Adds a book", "/books", "  \x7b", "\"tags\": [", "\"new\"", "]", "\x7d",
    "201: \x7b", "\"id\": 1", "\x7d"]

theorem read_lays_newBook : ∃ e, read newBook = .ok e ∧
    e.body = "\x7b\n  \"tags\": [\n    \"new\"\n  ]\n\x7d" ∧
    Lays (requestLines (content newBook)) e.body ∧
    ∃ code body, LastResponse (content newBook) code body ∧ e.code = some code ∧
      Lays body e.response := by
  have hread : read newBook = .ok ⟨"Adds a book", "/books",
      "\x7b\n  \"tags\": [\n    \"new\"\n  ]\n\x7d", some 201, "\x7b\n  \"id\": 1\n\x7d"⟩ := by
    decide +kernel
  have hnewline : ∀ l ∈ content newBook, '\n' ∉ l := by decide +kernel
  obtain ⟨-, -, hlays⟩ := read_lays (List.cons_ne_nil _ _) hnewline
  obtain ⟨hrequest, ⟨-, hcode, -⟩ | hresponse⟩ := hlays _ hread
  · exact absurd hcode (by simp)
  · exact ⟨_, hread, rfl, hrequest, hresponse⟩

/-- A response whose code is written with ones. -/
def onesLine (n : Nat) : List Char := List.replicate n '1' ++ [':', ' ', 'o', 'k']

theorem responseLine_onesLine {n : Nat} (h : n ≠ 0) :
    ResponseLine (onesLine n) (List.replicate n '1') ['o', 'k'] where
  digits_ne_nil := by simpa using h
  digits_decimal c hc := by
    rw [List.eq_of_mem_replicate hc]
    decide
  rest_head c hc := by
    obtain rfl := Option.some.inj hc
    decide
  rest_newline := by decide
  line_eq := ⟨[' '], List.forall_mem_singleton.2 (by decide), by simp, rfl⟩

theorem content_onesLine (n : Nat) : content [String.ofList (onesLine n)] = [onesLine n] := by
  have hstrip : Chars.strip (onesLine n) = onesLine n := by
    refine Chars.strip_eq_self (fun c hc => ?_) fun c hc => ?_
    · cases n <;> obtain rfl := Option.some.inj hc <;> decide
    · rw [onesLine, List.getLast?_append_of_ne_nil _ (by simp)] at hc
      obtain rfl := Option.some.inj hc
      decide
  simp only [content, List.map_cons, List.map_nil, String.toList_ofList, hstrip]
  exact List.filter_eq_self.2 (by simp [onesLine])

/-- A code of more digits than are read is refused, although it is not zero. -/
theorem read_onesLine : ∃ lines, content lines = [onesLine 4301] ∧
    (∀ l ∈ content lines, '\n' ∉ l ∧ ∃ digits rest, ResponseLine l digits rest ∧
      Numeral.ofDecimals digits ≠ 0) ∧
    read lines = .error .overlongNumber := by
  have hresponse := responseLine_onesLine (n := 4301) (by decide)
  refine ⟨[String.ofList (onesLine 4301)], content_onesLine _, ?_, ?_⟩
  · rw [content_onesLine, List.forall_mem_singleton]
    refine ⟨?_, _, _, hresponse, Numeral.ofDecimals_cons_ne_zero (d := 1) rfl (by decide) _⟩
    rw [onesLine, List.mem_append, List.mem_replicate]
    decide
  · rw [read_eq_error_iff (List.cons_ne_nil _ _), draft, content_onesLine, Draft.steps,
      Draft.step_of_overlong hresponse (by rw [List.length_replicate]; decide)]

end Example

end RouteDoc
