import RouteDoc.Proofs.Dict
import RouteDoc.Proofs.Raml.Place

/-!
# Where a document shows examples

The responses of a method stand under their status codes, and those of examples share the place of
a declared one with the same code.  The examples of requests stand in the body of the method.

* `Tree.get?_foldl_addAnswer`: examples add theirs to the part of their code, and nothing else is
  changed.  `Tree.get?_responseParts_eq_some_iff`: **the declared response and the examples add up
  to `Tree.partFor`**, in any order and with any sharing of codes.
* `Tree.Once`: the keys of a path lead to one tree at most.
* `Tree.at_responsesTree`, `Tree.at_responseExample`, `Tree.at_requestExample`: the trees at the
  places for responses and for examples.
* `Tree.ShowsExamples`, `Tree.showsExamples_ofMethod`: **every example stands in its own place**,
  and the declared response is shown as it is.
-/

namespace RouteDoc

namespace Tree

variable {k m n : Key} {p : List Key} {u v t : Tree} {r : Route} {media name : String} {code : Nat}
  {part : ResponsePart} {d : Dict Nat ResponsePart} {e : String × Example}
  {es : List (String × Example)}

/-! ## Responses by code -/

/-- An example with a text for the response of a code. -/
def Answers (code : Nat) (e : Example) : Prop := e.code = some code ∧ e.response ≠ ""

instance : DecidablePred (Answers code) := fun _ => inferInstanceAs (Decidable (_ ∧ _))

/-- The examples with a text for the response of a code, by name. -/
def answersFor (code : Nat) (es : List (String × Example)) : List (String × Tree) :=
  (es.filter fun e => Answers code e.2).map fun e => (e.1, ofExample e.2 e.2.response)

theorem answersFor_cons_of_pos (h : e.2.code = some code) : answersFor code (e :: es) =
    (if e.2.response = "" then [] else [(e.1, ofExample e.2 e.2.response)]) ++
      answersFor code es := by
  by_cases hresponse : e.2.response = ""
  · rw [if_pos hresponse, answersFor, List.filter_cons_of_neg (by simp [Answers, hresponse])]
    rfl
  · rw [if_neg hresponse, answersFor, List.filter_cons_of_pos (by simp [Answers, h, hresponse])]
    rfl

theorem answersFor_cons_of_neg (h : e.2.code ≠ some code) :
    answersFor code (e :: es) = answersFor code es := by
  rw [answersFor, List.filter_cons_of_neg (by simp [Answers, h])]
  rfl

def addAnswer (d : Dict Nat ResponsePart) (e : String × Example) : Dict Nat ResponsePart :=
  match e.2.code with
  | some code => d.put code (((d.get? code).getD {}).addExample e.1 e.2)
  | none => d

/-- An example changes the part of its own code only. -/
theorem get?_addAnswer (d : Dict Nat ResponsePart) (e : String × Example) (code : Nat) :
    (addAnswer d e).get? code =
      if e.2.code = some code then some (((d.get? code).getD {}).addExample e.1 e.2)
      else d.get? code := by
  unfold addAnswer
  cases hcode : e.2.code with
  | none => rw [if_neg (by simp)]
  | some c =>
    rw [Dict.get?_put]
    by_cases hc : c = code
    · rw [if_pos hc, if_pos (congrArg some hc), hc]
    · rw [if_neg hc, if_neg (by simpa using hc)]

theorem addExample_eq (part : ResponsePart) (e : String × Example) :
    part.addExample e.1 e.2 = { part with
      examples := part.examples ++
        if e.2.response = "" then [] else [(e.1, ofExample e.2 e.2.response)] } := by
  unfold ResponsePart.addExample
  split
  · rw [List.append_nil]
  · rfl

/-- **Examples add theirs to the part of their code**, one behind the other, and change nothing
else of it.  The induction is on the examples still to come, whatever is there already. -/
theorem get?_foldl_addAnswer (es : List (String × Example)) (d : Dict Nat ResponsePart)
    (code : Nat) : (es.foldl addAnswer d).get? code =
      if (∃ e ∈ es, e.2.code = some code) ∨ (d.get? code).isSome = true then
        some { (d.get? code).getD {} with
          examples := ((d.get? code).getD {}).examples ++ answersFor code es }
      else none := by
  induction es generalizing d with
  | nil =>
    cases hd : d.get? code with
    | none => rw [List.foldl_nil, hd, if_neg (by simp)]
    | some part =>
      rw [List.foldl_nil, hd, if_pos (.inr rfl)]
      simp [answersFor]
  | cons e es ih =>
    rw [List.foldl_cons, ih, get?_addAnswer]
    by_cases hcode : e.2.code = some code
    · rw [if_pos hcode, if_pos (.inr rfl), if_pos (.inl ⟨e, List.mem_cons_self, hcode⟩),
        answersFor_cons_of_pos hcode, addExample_eq, Option.getD_some, List.append_assoc]
    · have hother : (∃ x ∈ e :: es, x.2.code = some code) ↔ ∃ x ∈ es, x.2.code = some code := by
        rw [List.exists_mem_cons_iff, or_iff_right hcode]
      rw [if_neg hcode, answersFor_cons_of_neg hcode, if_congr (or_congr_left hother.symm) rfl rfl]

def declaredParts (r : Route) : Dict Nat ResponsePart :=
  match r.response with
  | some x => (∅ : Dict Nat ResponsePart).put x.code (.ofResponse x)
  | none => ∅

theorem get?_declaredParts_eq_some_iff : (declaredParts r).get? code = some part ↔
    ∃ x, r.response = some x ∧ x.code = code ∧ part = .ofResponse x := by
  unfold declaredParts
  cases r.response with
  | none => exact ⟨fun h => absurd h (by simp [Dict.get?, Dict.findIn]), by simp⟩
  | some x =>
    by_cases hx : x.code = code
    · rw [Dict.get?_put, if_pos hx]
      simp [hx, eq_comm]
    · rw [Dict.get?_put, if_neg hx]
      exact ⟨fun h => absurd h (by simp [Dict.get?, Dict.findIn]), by simp [hx]⟩

/-- A code is that of the declared response, or that of an example. -/
def HasCode (r : Route) (code : Nat) : Prop :=
  (∃ x, r.response = some x ∧ x.code = code) ∨
    ∃ name e, r.examples.get? name = some e ∧ e.code = some code

/-- What a route says about the response of a code: what it declares, and the examples. -/
def partFor (r : Route) (code : Nat) : ResponsePart :=
  { ((declaredParts r).get? code).getD {} with examples := answersFor code r.examples.entries }

theorem examples_declaredParts :
    (((declaredParts r).get? code).getD {}).examples = [] := by
  cases h : (declaredParts r).get? code with
  | none => rfl
  | some part =>
    obtain ⟨x, -, -, rfl⟩ := get?_declaredParts_eq_some_iff.1 h
    rfl

theorem hasCode_iff : HasCode r code ↔ (∃ e ∈ r.examples.entries, e.2.code = some code) ∨
    ((declaredParts r).get? code).isSome = true := by
  rw [HasCode, or_comm, Option.isSome_iff_exists]
  refine or_congr ⟨?_, ?_⟩ ⟨?_, ?_⟩
  · rintro ⟨name, e, he, hcode⟩
    exact ⟨(name, e), Dict.get?_eq_some_iff.1 he, hcode⟩
  · rintro ⟨⟨name, e⟩, he, hcode⟩
    exact ⟨name, e, Dict.get?_eq_some_iff.2 he, hcode⟩
  · rintro ⟨x, hx, hcode⟩
    exact ⟨_, get?_declaredParts_eq_some_iff.2 ⟨x, hx, hcode, rfl⟩⟩
  · rintro ⟨part, hpart⟩
    obtain ⟨x, hx, hcode, -⟩ := get?_declaredParts_eq_some_iff.1 hpart
    exact ⟨x, hx, hcode⟩

/-- **The declared response and the examples share the part of their code**, in any order of the
examples. -/
theorem get?_responseParts_eq_some_iff :
    (responseParts r).get? code = some part ↔ HasCode r code ∧ part = partFor r code := by
  have hparts : responseParts r = r.examples.entries.foldl addAnswer (declaredParts r) := rfl
  rw [hparts, get?_foldl_addAnswer, examples_declaredParts, List.nil_append]
  by_cases hcode : HasCode r code
  · rw [if_pos (hasCode_iff.1 hcode), Option.some.injEq, and_iff_right hcode, eq_comm]
    rfl
  · rw [if_neg fun h => hcode (hasCode_iff.2 h)]
    exact ⟨fun h => absurd h (by simp), fun h => absurd h.1 hcode⟩

/-! ## Paths without a fork -/

/-- At each step of a path there is at most one tree to go on with. -/
def Once : Tree → List Key → Prop
  | _, [] => True
  | t, k :: p => (∀ u v, t.At [k] u → t.At [k] v → u = v) ∧ ∀ s, t.At [k] s → s.Once p

theorem once_cons {x : Tree} (h : ∀ s, t.At [k] s → s = x) (hx : x.Once p) : t.Once (k :: p) := by
  constructor
  · intro u v hu hv
    rw [h u hu, h v hv]
  · intro s hs
    rw [h s hs]
    exact hx

theorem once_of_not_at (h : ∀ s, ¬ t.At [k] s) : t.Once (k :: p) :=
  ⟨fun u _ hu => absurd hu (h u), fun s hs => absurd hs (h s)⟩

theorem once_text {s : String} : (text s).Once p := by
  cases p with
  | nil => trivial
  | cons k p => exact once_of_not_at fun u hu => by simp [At] at hu

/-! ## Keys with one entry -/

variable {c : Prop} {s : String} {x : Tree} {xs : List (String × Tree)}

/-- A key with one entry leads to the trees below that. -/
theorem at_object_iff (h : ∀ t, (s, t) ∈ xs ↔ c ∧ t = x) :
    (object xs).At (.text s :: p) u ↔ c ∧ x.At p u := by
  rw [at_object_text]
  constructor
  · rintro ⟨t, ht, hu⟩
    obtain ⟨hc, rfl⟩ := (h t).1 ht
    exact ⟨hc, hu⟩
  · rintro ⟨hc, hu⟩
    exact ⟨x, (h x).2 ⟨hc, rfl⟩, hu⟩

/-! ## Examples by name -/

variable {P : Example → Prop} [DecidablePred P] {f : Example → Tree}
  {examples : Dict String Example}

/-- The examples that pass a test, by name. -/
theorem at_filter_examples : (object ((examples.entries.filter fun e => P e.2).map
      fun e => (e.1, f e.2))).At (k :: p) u ↔
    ∃ name e, k = .text name ∧ examples.get? name = some e ∧ P e ∧ (f e).At p u := by
  rw [at_object]
  constructor
  · rintro ⟨name, t, rfl, ht, hu⟩
    obtain ⟨⟨name, e⟩, he, heq⟩ := List.mem_map.1 ht
    obtain ⟨rfl, rfl⟩ := Prod.mk.inj heq
    obtain ⟨he, hP⟩ := List.mem_filter.1 he
    exact ⟨name, e, rfl, Dict.get?_eq_some_iff.2 he, of_decide_eq_true hP, hu⟩
  · rintro ⟨name, e, rfl, he, hP, hu⟩
    have hmem : (name, e) ∈ examples.entries.filter fun e => P e.2 :=
      List.mem_filter.2 ⟨Dict.get?_eq_some_iff.1 he, decide_eq_true hP⟩
    exact ⟨name, f e, rfl, List.mem_map.2 ⟨(name, e), hmem, rfl⟩, hu⟩

/-- The names of examples are different. -/
theorem once_filter_examples (h : ∀ e, (f e).Once p) : (object ((examples.entries.filter
      fun e => P e.2).map fun e => (e.1, f e.2))).Once (k :: p) := by
  by_cases hk : ∃ name e, k = .text name ∧ examples.get? name = some e
  · obtain ⟨name, e, rfl, he⟩ := hk
    refine once_cons (x := f e) (fun s hs => ?_) (h e)
    obtain ⟨name', e', hname, he', -, hs⟩ := at_filter_examples.1 hs
    obtain rfl := Key.text.inj hname
    obtain rfl := Option.some.inj (he.symm.trans he')
    exact hs
  · refine once_of_not_at fun s hs => hk ?_
    obtain ⟨name, e, hname, he, -⟩ := at_filter_examples.1 hs
    exact ⟨name, e, hname, he⟩

/-- The examples of a response. -/
theorem at_answers : (object (partFor r code).examples).At (k :: p) u ↔
    ∃ name e, k = .text name ∧ r.examples.get? name = some e ∧ Answers code e ∧
      (ofExample e e.response).At p u :=
  at_filter_examples (P := Answers code) (f := fun e => ofExample e e.response)

/-- The examples of a request. -/
theorem at_requests : (object (requestExamples r)).At (k :: p) u ↔
    ∃ name e, k = .text name ∧ r.examples.get? name = some e ∧ e.body ≠ "" ∧
      (ofExample e e.body).At p u :=
  at_filter_examples (P := fun e => e.body ≠ "") (f := fun e => ofExample e e.body)

/-- An example shows its text. -/
theorem at_value_ofExample {e : Example} {value : String} :
    (ofExample e value).At (.text "value" :: p) u ↔ (text value).At p u := by
  refine (at_object_iff (c := True) fun t => ?_).trans (iff_of_eq (true_and _))
  simp [mem_textEntry]

/-! ## Responses and bodies -/

theorem at_description_toTree : (part.toTree media).At (.text "description" :: p) u ↔
    part.description ≠ "" ∧ (text part.description).At p u := by
  refine at_object_iff fun t => ?_
  rw [List.mem_append, mem_textEntry, mem_unless]
  simp

def bodyOf (part : ResponsePart) : Tree :=
  object (optionEntry "type" .text part.type ++ examplesEntry part.examples)

theorem at_body_toTree : (part.toTree media).At (.text "body" :: p) u ↔
    ¬ (part.type.isNone ∧ part.examples = []) ∧ (object [(media, bodyOf part)]).At p u := by
  refine at_object_iff fun t => ?_
  rw [List.mem_append, mem_textEntry, mem_unless]
  simp [bodyOf]

theorem at_type_bodyOf : (bodyOf part).At [.text "type"] u ↔
    ∃ name, part.type = some name ∧ u = .text name := by
  rw [bodyOf, at_object_text]
  constructor
  · rintro ⟨t, ht, hu⟩
    obtain rfl := at_nil.1 hu
    rcases List.mem_append.1 ht with ht | ht
    · exact (mem_optionEntry.1 ht).2
    · exact absurd (mem_examplesEntry.1 ht).1 (by decide)
  · rintro ⟨name, hname, rfl⟩
    exact ⟨_, List.mem_append_left _ (mem_optionEntry.2 ⟨rfl, name, hname, rfl⟩), rfl⟩

theorem at_examples_bodyOf : (bodyOf part).At (.text "examples" :: p) u ↔
    part.examples ≠ [] ∧ (object part.examples).At p u := by
  refine at_object_iff fun t => ?_
  rw [List.mem_append, mem_optionEntry, mem_examplesEntry]
  simp

/-- The examples of a request stand beside the parameters. -/
theorem at_examples_ofBody {ps : Dict String Parameter} :
    (ofBody ps xs).At (.text "examples" :: p) u ↔ xs ≠ [] ∧ (object xs).At p u := by
  refine at_object_iff fun t => ?_
  rw [List.mem_append, mem_examplesEntry]
  constructor
  · rintro (ht | ⟨-, ht⟩)
    · exfalso
      split at ht
      · exact absurd ht List.not_mem_nil
      · rcases List.mem_append.1 ht with ht | ht
        · exact absurd (Prod.mk.inj (List.mem_singleton.1 ht)).1 (by decide)
        · exact absurd (mem_textEntry.1 ht).1 (by decide)
      · rcases List.mem_cons.1 ht with ht | ht
        · exact absurd (Prod.mk.inj ht).1 (by decide)
        · exact absurd (Prod.mk.inj (List.mem_singleton.1 ht)).1 (by decide)
    · exact ht
  · exact fun ht => .inr ⟨rfl, ht⟩

/-! ## Methods -/

def responsesTree (r : Route) (media : String) : Tree :=
  map ((responseParts r).entries.map fun e => (.int (Int.ofNat e.1), e.2.toTree media))

/-- **A code leads to what the route says about its response.** -/
theorem at_responsesTree : (responsesTree r media).At (k :: p) u ↔
    ∃ code, k = .int (Int.ofNat code) ∧ HasCode r code ∧
      ((partFor r code).toTree media).At p u := by
  rw [responsesTree, at_map]
  constructor
  · rintro ⟨s, hs, hu⟩
    obtain ⟨⟨code, part⟩, he, heq⟩ := List.mem_map.1 hs
    obtain ⟨rfl, rfl⟩ := Prod.mk.inj heq
    obtain ⟨hcode, rfl⟩ := get?_responseParts_eq_some_iff.1 (Dict.get?_eq_some_iff.2 he)
    exact ⟨code, rfl, hcode, hu⟩
  · rintro ⟨code, rfl, hcode, hu⟩
    have he := Dict.get?_eq_some_iff.1 (get?_responseParts_eq_some_iff.2 ⟨hcode, rfl⟩)
    exact ⟨_, List.mem_map.2 ⟨_, he, rfl⟩, hu⟩

theorem at_responses : (ofMethod r media).At (.text "responses" :: p) u ↔
    (responseParts r).entries ≠ [] ∧ (responsesTree r media).At p u := by
  refine at_object_iff fun t => ?_
  simp only [List.mem_append, mem_textEntry, mem_parametersEntry, mem_unless]
  simp [responsesTree]

/-- The request of a method. -/
theorem at_body : (ofMethod r media).At (.text "body" :: p) u ↔
    ¬ (r.bodyParameters.isEmpty ∧ requestExamples r = []) ∧
      (object [(media, ofBody r.bodyParameters (requestExamples r))]).At p u := by
  refine at_object_iff fun t => ?_
  simp only [List.mem_append, mem_textEntry, mem_parametersEntry, mem_unless]
  simp

theorem at_response : (ofMethod r media).At (.text "responses" :: k :: p) u ↔
    ∃ code, k = .int (Int.ofNat code) ∧ HasCode r code ∧
      ((partFor r code).toTree media).At p u := by
  rw [at_responses, at_responsesTree, and_iff_right_of_imp]
  rintro ⟨code, -, hcode, -⟩
  exact List.ne_nil_of_mem
    (Dict.get?_eq_some_iff.1 (get?_responseParts_eq_some_iff.2 ⟨hcode, rfl⟩))

/-- A mapping of one media type. -/
theorem at_media {x : Tree} :
    (object [(media, x)]).At (m :: p) u ↔ m = .text media ∧ x.At p u := by
  rw [at_object]
  constructor
  · rintro ⟨s, t, rfl, ht, hu⟩
    obtain ⟨rfl, rfl⟩ := Prod.mk.inj (List.mem_singleton.1 ht)
    exact ⟨rfl, hu⟩
  · rintro ⟨rfl, hu⟩
    exact ⟨media, x, rfl, List.mem_singleton.2 rfl, hu⟩

/-! ## What is declared and what examples add -/

theorem declaredParts_cases (r : Route) (code : Nat) :
    (∃ x, r.response = some x ∧ x.code = code ∧
      ((declaredParts r).get? code).getD {} = .ofResponse x) ∨
    ((∀ x, r.response = some x → x.code ≠ code) ∧
      ((declaredParts r).get? code).getD {} = {}) := by
  cases h : (declaredParts r).get? code with
  | some part =>
    obtain ⟨x, hx, hcode, rfl⟩ := get?_declaredParts_eq_some_iff.1 h
    exact .inl ⟨x, hx, hcode, rfl⟩
  | none =>
    refine .inr ⟨fun x hx hcode => ?_, rfl⟩
    rw [get?_declaredParts_eq_some_iff.2 ⟨x, hx, hcode, rfl⟩] at h
    exact absurd h (by simp)

/-- Only the declared response gives a description. -/
theorem description_partFor_iff {d : String} (hd : d ≠ "") : (partFor r code).description = d ↔
    ∃ x, r.response = some x ∧ x.code = code ∧ x.description = d := by
  have hpart : (partFor r code).description =
    (((declaredParts r).get? code).getD {}).description := rfl
  rw [hpart]
  obtain ⟨x, hx, hcode, h⟩ | ⟨hnone, h⟩ := declaredParts_cases r code
  · rw [h, hx]
    simp [ResponsePart.ofResponse, hcode]
  · rw [h]
    refine ⟨fun h => absurd h.symm hd, ?_⟩
    rintro ⟨x, hx, hcode, -⟩
    exact absurd hcode (hnone x hx)

/-- Only the declared response gives a type, if it has a body. -/
theorem type_partFor_eq_some_iff : (partFor r code).type = some name ↔
    ∃ x, r.response = some x ∧ x.code = code ∧ x.type.kind ≠ .nil ∧ x.type.name = name := by
  have hpart : (partFor r code).type = (((declaredParts r).get? code).getD {}).type := rfl
  rw [hpart]
  obtain ⟨x, hx, hcode, h⟩ | ⟨hnone, h⟩ := declaredParts_cases r code
  · rw [h, hx]
    by_cases hnil : x.type.kind = .nil
    · simp [ResponsePart.ofResponse, hnil]
    · simp [ResponsePart.ofResponse, hnil, hcode]
  · rw [h]
    refine ⟨fun h => absurd h (by simp), ?_⟩
    rintro ⟨x, hx, hcode, -⟩
    exact absurd hcode (hnone x hx)

/-! ## Examples in their places -/

/-- The paths in a method that lead to what a response declares, and to the texts of examples. -/
inductive AnswerPlace : List Key → Prop
  | description (code : Key) : AnswerPlace [.text "responses", code, .text "description"]
  | type (code media : Key) :
      AnswerPlace [.text "responses", code, .text "body", media, .text "type"]
  | response (code media name : Key) : AnswerPlace
      [.text "responses", code, .text "body", media, .text "examples", name, .text "value"]
  | request (media name : Key) :
      AnswerPlace [.text "body", media, .text "examples", name, .text "value"]

/-- A tree shows the examples of a route, each in its own place, and the declared response. -/
structure ShowsExamples (r : Route) (media : String) (t : Tree) : Prop where
  /-- No path to what is shown forks. -/
  once : ∀ {p}, AnswerPlace p → t.Once p
  /-- The codes are that of the declared response and those of the examples. -/
  code_iff : ∀ {k}, (∃ u, t.At [.text "responses", k] u) ↔
    ∃ code, k = .int (Int.ofNat code) ∧ HasCode r code
  /-- An example with a code and a text stands under the code, the media type and its name. -/
  value_response : ∀ {name e code}, r.examples.get? name = some e → e.code = some code →
    e.response ≠ "" → t.At [.text "responses", .int (Int.ofNat code), .text "body", .text media,
      .text "examples", .text name, .text "value"] (.text e.response)
  /-- Nothing else stands among the examples of responses. -/
  response_iff : ∀ {k m n u},
    t.At [.text "responses", k, .text "body", m, .text "examples", n] u ↔
      ∃ code name e, k = .int (Int.ofNat code) ∧ m = .text media ∧ n = .text name ∧
        r.examples.get? name = some e ∧ e.code = some code ∧ e.response ≠ "" ∧
        u = ofExample e e.response
  /-- An example with a body stands under its name in the request. -/
  value_request : ∀ {name e}, r.examples.get? name = some e → e.body ≠ "" →
    t.At [.text "body", .text media, .text "examples", .text name, .text "value"] (.text e.body)
  /-- Nothing else stands among the examples of the request. -/
  request_iff : ∀ {m n u}, t.At [.text "body", m, .text "examples", n] u ↔
    ∃ name e, m = .text media ∧ n = .text name ∧ r.examples.get? name = some e ∧ e.body ≠ "" ∧
      u = ofExample e e.body
  /-- A response has the description that is declared, and examples give it none. -/
  description_iff : ∀ {k u}, t.At [.text "responses", k, .text "description"] u ↔
    ∃ x, r.response = some x ∧ k = .int (Int.ofNat x.code) ∧ x.description ≠ "" ∧
      u = .text x.description
  /-- The body of a response has the type that is declared, and examples give it none. -/
  type_iff : ∀ {k m u}, t.At [.text "responses", k, .text "body", m, .text "type"] u ↔
    ∃ x, r.response = some x ∧ k = .int (Int.ofNat x.code) ∧ m = .text media ∧
      x.type.kind ≠ .nil ∧ u = .text x.type.name

/-- The examples of a response, below its body. -/
theorem at_responseExample : (ofMethod r media).At
      (.text "responses" :: k :: .text "body" :: m :: .text "examples" :: n :: p) u ↔
    ∃ code name e, k = .int (Int.ofNat code) ∧ m = .text media ∧ n = .text name ∧
      r.examples.get? name = some e ∧ e.code = some code ∧ e.response ≠ "" ∧
      (ofExample e e.response).At p u := by
  rw [at_response]
  constructor
  · rintro ⟨code, rfl, -, hpart⟩
    obtain ⟨rfl, hbody⟩ := at_media.1 (at_body_toTree.1 hpart).2
    obtain ⟨name, e, rfl, he, ⟨hcode, hresponse⟩, hu⟩ :=
      at_answers.1 (at_examples_bodyOf.1 hbody).2
    exact ⟨code, name, e, rfl, rfl, rfl, he, hcode, hresponse, hu⟩
  · rintro ⟨code, name, e, rfl, rfl, rfl, he, hcode, hresponse, hu⟩
    have hanswers : (object (partFor r code).examples).At (.text name :: p) u :=
      at_answers.2 ⟨name, e, rfl, he, ⟨hcode, hresponse⟩, hu⟩
    have hne : (partFor r code).examples ≠ [] := by
      obtain ⟨s, t, -, hmem, -⟩ := at_object.1 hanswers
      exact List.ne_nil_of_mem hmem
    refine ⟨code, rfl, .inr ⟨name, e, he, hcode⟩, at_body_toTree.2 ⟨fun h => hne h.2, ?_⟩⟩
    exact at_media.2 ⟨rfl, at_examples_bodyOf.2 ⟨hne, hanswers⟩⟩

/-- The examples of a request, below its body. -/
theorem at_requestExample :
    (ofMethod r media).At (.text "body" :: m :: .text "examples" :: n :: p) u ↔
    ∃ name e, m = .text media ∧ n = .text name ∧ r.examples.get? name = some e ∧ e.body ≠ "" ∧
      (ofExample e e.body).At p u := by
  rw [at_body, at_media]
  constructor
  · rintro ⟨-, rfl, hrequest⟩
    obtain ⟨name, e, rfl, he, hbody, hu⟩ := at_requests.1 (at_examples_ofBody.1 hrequest).2
    exact ⟨name, e, rfl, rfl, he, hbody, hu⟩
  · rintro ⟨name, e, rfl, rfl, he, hbody, hu⟩
    have hrequests : (object (requestExamples r)).At (.text name :: p) u :=
      at_requests.2 ⟨name, e, rfl, he, hbody, hu⟩
    have hne : requestExamples r ≠ [] := by
      obtain ⟨s, t, -, hmem, -⟩ := at_object.1 hrequests
      exact List.ne_nil_of_mem hmem
    exact ⟨fun h => hne h.2, rfl, at_examples_ofBody.2 ⟨hne, hrequests⟩⟩

theorem once_media {x : Tree} (hx : x.Once p) : (object [(media, x)]).Once (m :: p) := by
  by_cases hm : m = .text media
  · exact once_cons (fun s hs => (at_media.1 hs).2) hx
  · exact once_of_not_at fun s hs => hm (at_media.1 hs).1

/-- A path does not fork at the responses and at their codes. -/
theorem once_responses (h : ∀ code, ((partFor r code).toTree media).Once p) :
    (ofMethod r media).Once (.text "responses" :: k :: p) := by
  refine once_cons (fun s hs => (at_responses.1 hs).2) ?_
  by_cases hk : ∃ code, k = .int (Int.ofNat code)
  · obtain ⟨code, rfl⟩ := hk
    refine once_cons (x := (partFor r code).toTree media) (fun s hs => ?_) (h code)
    obtain ⟨code', hcode, -, hs⟩ := at_responsesTree.1 hs
    obtain rfl := Int.ofNat.inj (Key.int.inj hcode)
    exact hs
  · refine once_of_not_at fun s hs => hk ?_
    obtain ⟨code, hcode, -⟩ := at_responsesTree.1 hs
    exact ⟨code, hcode⟩

theorem once_body (h : (bodyOf part).Once p) :
    (part.toTree media).Once (.text "body" :: m :: p) :=
  once_cons (fun _ hs => (at_body_toTree.1 hs).2) (once_media h)

/-- An example has one text. -/
theorem once_value {e : Example} {value : String} :
    (ofExample e value).Once [.text "value"] :=
  once_cons (fun _ hs => at_value_ofExample.1 hs) once_text

/-- No path to what a method shows forks. -/
theorem once_of_answerPlace (hp : AnswerPlace p) : (ofMethod r media).Once p := by
  cases hp with
  | description k =>
    refine once_responses fun code => ?_
    exact once_cons (fun s hs => (at_description_toTree.1 hs).2) once_text
  | type k m =>
    refine once_responses fun code => once_body ⟨fun u v hu hv => ?_, fun s _ => trivial⟩
    obtain ⟨name, hname, rfl⟩ := at_type_bodyOf.1 hu
    obtain ⟨name', hname', rfl⟩ := at_type_bodyOf.1 hv
    rw [Option.some.inj (hname.symm.trans hname')]
  | response k m n =>
    refine once_responses fun code => once_body ?_
    refine once_cons (fun s hs => (at_examples_bodyOf.1 hs).2) ?_
    exact once_filter_examples (P := Answers code) (f := fun e => ofExample e e.response)
      fun e => once_value
  | request m n =>
    refine once_cons (fun s hs => (at_body.1 hs).2) (once_media ?_)
    refine once_cons (fun s hs => (at_examples_ofBody.1 hs).2) ?_
    exact once_filter_examples (P := fun e => e.body ≠ "") (f := fun e => ofExample e e.body)
      fun e => once_value

/-- **Every example stands in its own place**, under its code or in the request, and the declared
response is shown as it is, whatever examples share its code. -/
theorem showsExamples_ofMethod (r : Route) (media : String) :
    ShowsExamples r media (ofMethod r media) where
  once := once_of_answerPlace
  code_iff := by
    intro k
    constructor
    · rintro ⟨u, hu⟩
      obtain ⟨code, rfl, hcode, -⟩ := at_response.1 hu
      exact ⟨code, rfl, hcode⟩
    · rintro ⟨code, rfl, hcode⟩
      exact ⟨_, at_response.2 ⟨code, rfl, hcode, rfl⟩⟩
  value_response := fun he hcode hresponse => at_responseExample.2
    ⟨_, _, _, rfl, rfl, rfl, he, hcode, hresponse, at_value_ofExample.2 rfl⟩
  response_iff := at_responseExample
  value_request := fun he hbody => at_requestExample.2
    ⟨_, _, rfl, rfl, he, hbody, at_value_ofExample.2 rfl⟩
  request_iff := at_requestExample
  description_iff := by
    intro k u
    rw [at_response]
    constructor
    · rintro ⟨code, rfl, -, hu⟩
      obtain ⟨hd, hu⟩ := at_description_toTree.1 hu
      obtain ⟨x, hx, rfl, hdescription⟩ := (description_partFor_iff hd).1 rfl
      refine ⟨x, hx, rfl, hdescription ▸ hd, ?_⟩
      rw [at_nil.1 hu, hdescription]
    · rintro ⟨x, hx, rfl, hd, rfl⟩
      have hdescription := (description_partFor_iff hd).2 ⟨x, hx, rfl, rfl⟩
      refine ⟨x.code, rfl, .inl ⟨x, hx, rfl⟩, at_description_toTree.2 ?_⟩
      rw [hdescription]
      exact ⟨hd, rfl⟩
  type_iff := by
    intro k m u
    rw [at_response]
    constructor
    · rintro ⟨code, rfl, -, hpart⟩
      obtain ⟨rfl, hbody⟩ := at_media.1 (at_body_toTree.1 hpart).2
      obtain ⟨name, hname, rfl⟩ := at_type_bodyOf.1 hbody
      obtain ⟨x, hx, rfl, hkind, rfl⟩ := type_partFor_eq_some_iff.1 hname
      exact ⟨x, hx, rfl, rfl, hkind, rfl⟩
    · rintro ⟨x, hx, rfl, rfl, hkind, rfl⟩
      have htype := type_partFor_eq_some_iff.2 ⟨x, hx, rfl, hkind, rfl⟩
      refine ⟨x.code, rfl, .inl ⟨x, hx, rfl⟩, at_body_toTree.2 ⟨fun h => ?_, ?_⟩⟩
      · rw [htype] at h
        exact absurd h.1 (by simp)
      · exact at_media.2 ⟨rfl, at_type_bodyOf.2 ⟨_, htype, rfl⟩⟩

end Tree

end RouteDoc
