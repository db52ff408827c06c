import RouteDoc.Annotation.Resolved
import RouteDoc.Proofs.Annotation.TypeToken

/-!
# Spellings of a definition

A definition can be written in one field, or with its parts in fields of their own.

* `spellings`: the ways to write a type, what stands behind it (the name of a parameter or the code
  of a response), and a description.
* `ParameterDraft.ofFields_spelling`, `ResponseDraft.ofFields_spelling`: what each of them says.
* `Context.reads_spellings`: **all spellings define the same parameter or response**, or have the
  same fault.
-/

namespace RouteDoc

/-- The ways to write a definition: in one field, with the description in a field of its own, with
all parts in fields of their own, and then without the braces as well, unless the type begins with
one. -/
def spellings (type slot description : String) : List (List String) :=
  [[braced type ++ (" " ++ (slot ++ (" - " ++ description)))],
    [braced type ++ (" " ++ slot), description],
    [braced type, slot, description]] ++
  if type.toList.head? = some '{' then [] else [[type, slot, description]]

section Parts

variable {type slot description : String}

/-- The parts of a definition that can be told apart in each spelling. -/
structure Separable (type slot description : String) : Prop where
  type_trimmed : Chars.Trimmed type.toList
  type_balanced : Chars.Balanced type.toList
  slot_solid : Chars.Solid slot.toList
  description_trimmed : Chars.Trimmed description.toList
  description_dash : description.toList.head? ≠ some '-'

namespace Separable

variable (h : Separable type slot description)

include h

theorem slot_trimmed : Text.strip (" " ++ slot) = slot := by
  rw [Text.strip, String.toList_append, show " ".toList = [' '] from rfl, List.singleton_append,
    Chars.strip_cons_of_pos (by decide), h.slot_solid.strip_eq, String.ofList_toList]

theorem strip_inline :
    Text.strip (" " ++ (slot ++ (" - " ++ description))) = slot ++ (" - " ++ description) := by
  have htrimmed := h.slot_solid.trimmed.append " - ".toList h.description_trimmed
  rw [Text.strip, String.toList_append, show " ".toList = [' '] from rfl, List.singleton_append,
    Chars.strip_cons_of_pos (by decide), String.toList_append, String.toList_append,
    htrimmed.strip_eq, ← String.toList_append, ← String.toList_append, String.ofList_toList]

/-- A definition is cut behind its type into the text behind it, or into the two other parts. -/
theorem typed_of_mem {fields : List String} (hf : fields ∈ spellings type slot description) :
    Typed.ofFields fields = .ok ⟨type, .inline (slot ++ (" - " ++ description))⟩ ∨
      Typed.ofFields fields = .ok ⟨type, .fields [slot, description]⟩ := by
  have htype : Text.strip type = type := by
    rw [Text.strip, h.type_trimmed.strip_eq, String.ofList_toList]
  have hslot : slot ≠ "" := by
    rintro rfl
    exact h.slot_solid.1 rfl
  simp only [spellings, List.cons_append, List.nil_append, List.mem_cons] at hf
  rcases hf with rfl | rfl | rfl | hf
  · left
    rw [Typed.ofFields_braced h.type_balanced, if_pos rfl, h.strip_inline, htype]
  · right
    rw [Typed.ofFields_braced h.type_balanced, if_neg (by simp), h.slot_trimmed, if_neg hslot,
      htype]
  · right
    have hbraced := Typed.ofFields_braced h.type_balanced "" [slot, description]
    rw [String.append_empty] at hbraced
    rw [hbraced, if_neg (by simp), if_pos (by rfl), htype]
  · right
    split at hf
    · exact absurd hf List.not_mem_nil
    · rename_i hbrace
      rw [List.mem_singleton.1 hf]
      exact Typed.ofFields_bare h.type_trimmed hbrace (by simp)

end Separable

/-! ## Parameters -/

namespace ParameterDraft

variable {token : NameToken} {fields : List String}

/-- The name ends in front of the dash, for a parameter of the body as well. -/
theorem cutInline_dashed (h : Separable type slot description)
    (hname : NameToken.read? slot.toList = some token) (hdash : slot.toList.head? ≠ some '-')
    (isBody : Bool) :
    cutInline isBody (slot ++ (" - " ++ description)) = (some slot, description) := by
  have htext : (slot ++ (" - " ++ description)).toList =
      slot.toList ++ ' ' :: ("- " ++ description).toList := by simp
  have htrimmed := h.slot_solid.trimmed.append " - ".toList h.description_trimmed
  rw [← String.toList_append, ← String.toList_append, htext] at htrimmed
  have hword : Chars.firstWord (slot.toList ++ ' ' :: ("- " ++ description).toList) =
      (slot.toList, ("- " ++ description).toList) := by
    rw [Chars.firstWord_append h.slot_solid.2 (by decide)]
    congr 1
    exact Chars.dropWhile_eq_self (by simp; decide)
  have hhead : (slot.toList ++ ' ' :: ("- " ++ description).toList).head? ≠ some '-' := by
    rwa [List.head?_append_of_ne_nil _ h.slot_solid.1]
  have hdashed : ("- " ++ description).toList.head? = some '-' := by simp
  unfold cutInline
  simp only [htext, htrimmed.strip_eq, hword, hname, hdashed]
  rw [if_neg htrimmed.ne_nil, if_neg hhead, if_neg (by simp), String.ofList_toList,
    String.ofList_toList, stripDash_dash h.description_trimmed]

/-- Each spelling says the same about a parameter. -/
theorem ofFields_spelling (h : Separable type slot description)
    (hname : NameToken.read? slot.toList = some token) (hdash : slot.toList.head? ≠ some '-')
    (isBody : Bool) (hf : fields ∈ spellings type slot description) :
    ofFields isBody fields = .ok ⟨some slot, description, EnumToken.read type⟩ := by
  unfold ofFields
  rcases h.typed_of_mem hf with htyped | htyped
  · rw [htyped]
    simp only [bind, Except.bind, cutInline_dashed h hname hdash isBody]
    rfl
  · rw [htyped]
    simp only [bind, Except.bind, cutFields,
      stripDash_eq_self h.description_trimmed h.description_dash]

end ParameterDraft

/-! ## Responses -/

namespace ResponseDraft

variable {fields : List String}

/-- A code of three digits, of any script. -/
def IsCode (code : String) : Prop :=
  code.toList.length = 3 ∧ code.toList.all Chars.isDecimal = true

instance : DecidablePred IsCode := fun _ => inferInstanceAs (Decidable (_ ∧ _))

theorem IsCode.readCode?_eq (h : IsCode slot) : readCode? slot = some (codeOf slot.toList) := by
  have htake : slot.toList.take 3 = slot.toList := List.take_of_length_le h.1.le
  have hdrop : slot.toList.drop 3 = [] := List.drop_of_length_le h.1.le
  unfold readCode?
  simp only [htake, hdrop]
  rw [if_pos ⟨h.1, h.2, .inl trivial⟩]

/-- The code ends in front of the blank, and the description begins behind the dash. -/
theorem ofInline_dashed (h : Separable type slot description) (hcode : IsCode slot) :
    ofInline type (slot ++ (" - " ++ description)) =
      ⟨type, description, codeOf slot.toList⟩ := by
  have htext : (slot ++ (" - " ++ description)).toList =
      slot.toList ++ ' ' :: '-' :: ' ' :: description.toList := by simp
  have htake : (slot.toList ++ ' ' :: '-' :: ' ' :: description.toList).take 3 = slot.toList :=
    List.take_left' hcode.1
  have hdrop : (slot.toList ++ ' ' :: '-' :: ' ' :: description.toList).drop 3 =
      ' ' :: '-' :: ' ' :: description.toList := List.drop_left' hcode.1
  have hcut : cutCode? (slot.toList ++ ' ' :: '-' :: ' ' :: description.toList) =
      some (codeOf slot.toList, '-' :: ' ' :: description.toList) := by
    unfold cutCode?
    simp only [htake, hdrop]
    rw [if_pos ⟨hcode.1, hcode.2, by rfl⟩, List.dropWhile_cons_of_pos (by decide),
      List.dropWhile_cons_of_neg (by decide)]
  unfold ofInline
  rw [htext, hcut]
  show ResponseDraft.mk type (String.ofList (Chars.strip (' ' :: description.toList))) _ = _
  rw [Chars.strip_cons_of_pos (by decide), h.description_trimmed.strip_eq, String.ofList_toList]

/-- Each spelling says the same about a response. -/
theorem ofFields_spelling (h : Separable type slot description) (hcode : IsCode slot)
    (hf : fields ∈ spellings type slot description) :
    ofFields fields = .ok ⟨type, description, codeOf slot.toList⟩ := by
  unfold ofFields
  rcases h.typed_of_mem hf with htyped | htyped
  · rw [htyped]
    simp only [bind, Except.bind, ofInline_dashed h hcode]
  · rw [htyped]
    simp only [bind, Except.bind, hcode.readCode?_eq,
      stripDash_eq_self h.description_trimmed h.description_dash]

end ResponseDraft

/-! ## Types resolved -/

namespace Context

/-- The fields of a parameter are read through what they say. -/
theorem readParameter_congr (c : Context) {isBody : Bool} {fields fields' : List String}
    (h : ParameterDraft.ofFields isBody fields = ParameterDraft.ofFields isBody fields')
    (keyword : String) : c.readParameter isBody keyword fields =
      c.readParameter isBody keyword fields' := by
  unfold readParameter
  rw [h]

/-- The fields of a response are read through what they say. -/
theorem readResponse_congr (c : Context) {fields fields' : List String}
    (h : ResponseDraft.ofFields fields = ResponseDraft.ofFields fields') :
    c.readResponse fields = c.readResponse fields' := by
  unfold readResponse
  rw [h]

/-- **All spellings define the same parameter or response, or have the same fault**: each of them
says that the type, the name or the code, and the description are the given ones. -/
theorem reads_spellings (c : Context) (h : Separable type slot description) :
    (∀ token, NameToken.read? slot.toList = some token → slot.toList.head? ≠ some '-' →
      ∀ isBody keyword, ∀ fields ∈ spellings type slot description,
        ParameterDraft.ofFields isBody fields =
          .ok ⟨some slot, description, EnumToken.read type⟩ ∧
        ∀ fields' ∈ spellings type slot description,
          c.readParameter isBody keyword fields = c.readParameter isBody keyword fields') ∧
    (ResponseDraft.IsCode slot → ∀ fields ∈ spellings type slot description,
      ResponseDraft.ofFields fields =
        .ok ⟨type, description, ResponseDraft.codeOf slot.toList⟩ ∧
      ∀ fields' ∈ spellings type slot description,
        c.readResponse fields = c.readResponse fields') := by
  constructor
  · intro token hname hdash isBody keyword fields hf
    have hdraft : ∀ fs ∈ spellings type slot description, ParameterDraft.ofFields isBody fs =
        .ok ⟨some slot, description, EnumToken.read type⟩ := fun _ hfs =>
      ParameterDraft.ofFields_spelling h hname hdash isBody hfs
    refine ⟨hdraft fields hf, fun fields' hf' => c.readParameter_congr ?_ keyword⟩
    rw [hdraft fields hf, hdraft fields' hf']
  · intro hcode fields hf
    have hdraft : ∀ fs ∈ spellings type slot description, ResponseDraft.ofFields fs =
        .ok ⟨type, description, ResponseDraft.codeOf slot.toList⟩ := fun _ hfs =>
      ResponseDraft.ofFields_spelling h hcode hfs
    refine ⟨hdraft fields hf, fun fields' hf' => c.readResponse_congr ?_⟩
    rw [hdraft fields hf, hdraft fields' hf']

/-- An optional parameter of the body with allowed values, and a response whose type has braces of
its own. -/
theorem reads_spellings_level :
    let c : Context := {}
    Separable "int:0|1" "[level=0]" "How far - or not" ∧
    Separable "interface\x7b\x7d" "201" "The new book" ∧
    (∀ fields ∈ spellings "int:0|1" "[level=0]" "How far - or not",
      ((c.readParameter true "body" fields).outcome.map fun p => (p.name, p.allowed, p.default)) =
        .ok ("level", some [.int 0, .int 1], some "0")) ∧
    ∀ fields ∈ spellings "interface\x7b\x7d" "201" "The new book",
      (c.readResponse fields).outcome = .ok ⟨.anything, "The new book", 201⟩ := by
  intro c
  have hlevel : Separable "int:0|1" "[level=0]" "How far - or not" :=
    ⟨by decide +kernel, by decide +kernel, by decide +kernel, by decide +kernel, by decide⟩
  have hbook : Separable "interface\x7b\x7d" "201" "The new book" :=
    ⟨by decide +kernel, by decide +kernel, by decide +kernel, by decide +kernel, by decide⟩
  have hname : NameToken.read? "[level=0]".toList = some ⟨"level", false, some "0"⟩ := by
    decide +kernel
  have hparameter := (reads_spellings c hlevel).1 _ hname (by decide) true "body"
  have hresponse := (reads_spellings c hbook).2 (by decide +kernel)
  refine ⟨hlevel, hbook, fun fields hf => ?_, fun fields hf => ?_⟩
  · rw [(hparameter fields hf).2 ["int:0|1", "[level=0]", "How far - or not"] (by decide +kernel)]
    decide +kernel
  · rw [(hresponse fields hf).2 ["interface\x7b\x7d", "201", "The new book"] (by decide +kernel)]
    decide +kernel

end Context

-- a type that begins with a brace loses it when it stands bare
example : Typed.ofFields ["\x7bint\x7d", "id"] = .ok ⟨"int", .fields ["id"]⟩ ∧
    Typed.ofFields [braced "\x7bint\x7d", "id"] = .ok ⟨"\x7bint\x7d", .fields ["id"]⟩ := by
  decide +kernel

end Parts

end RouteDoc
