import RouteDoc.Annotation.Resolved
import RouteDoc.Proofs.Text.Split
import RouteDoc.Proofs.Text.Trim

/-!
# Allowed values and examples

A parameter is completed from what the text of its definition says, once its type is known.

* `Context.exists_draft_of_readParameter`: the parameter that comes out of a definition.
* `EnumToken.comma_not_mem_of_combinable`: values that may be combined hold no comma, so a
  combination is cut into its values again.
* `Parameter.mentioned`: the values that the examples of a parameter name, alone or combined.
* `Context.mentioned_readParameter`: **the allowed values are those that can be read as values of
  the base type, but the examples name the first two values, whether they can be read or not.**
-/

namespace RouteDoc

/-! ## Values in the text -/

namespace EnumToken

/-- A type has values behind it, or none at all. -/
theorem read_eq (token : String) :
    (∃ type values, read token = ofValues type values) ∨ read token = { expression := token } := by
  unfold read
  split
  · exact .inl ⟨_, _, rfl⟩
  · split
    · exact .inl ⟨_, _, rfl⟩
    · exact .inr rfl

theorem comma_not_mem_ofValues {type values : List Char} {v : String}
    (h : (ofValues type values).combinable = true) (hv : v ∈ (ofValues type values).values) :
    ',' ∉ v.toList := by
  have hcombinable : '|' ∉ values ∧ ',' ∈ values := of_decide_eq_true h
  simp only [ofValues, hcombinable, List.mem_map, List.mem_filter] at hv
  obtain ⟨_, ⟨⟨piece, hpiece, rfl⟩, -⟩, rfl⟩ := hv
  rw [String.toList_ofList]
  exact fun hmem => Chars.not_mem_of_mem_splitAt hpiece ((Chars.strip_isInfix piece).subset hmem)

/-- Values that may be combined are parted by commas, so they hold none. -/
theorem comma_not_mem_of_combinable {token v : String} (h : (read token).combinable = true)
    (hv : v ∈ (read token).values) : ',' ∉ v.toList := by
  rcases read_eq token with ⟨type, values, heq⟩ | heq
  · rw [heq] at h hv
    exact comma_not_mem_ofValues h hv
  · rw [heq] at h
    exact absurd h (by simp)

end EnumToken

/-! ## Values in examples -/

namespace Parameter

/-- The values that one example names, alone or combined. -/
def valuesOf (e : String) : List String := (Chars.splitAt ',' e.toList).map String.ofList

/-- The values that the examples of a parameter name. -/
def mentioned (p : Parameter) : List String := p.examples.flatMap valuesOf

theorem valuesOf_eq_singleton {v : String} (h : ',' ∉ v.toList) : valuesOf v = [v] := by
  rw [valuesOf, Chars.splitAt_eq_singleton h, List.map_singleton, String.ofList_toList]

/-- A combination is cut into what it is made of. -/
theorem valuesOf_append (v w : String) : valuesOf (v ++ "," ++ w) = valuesOf v ++ valuesOf w := by
  have htext : (v ++ "," ++ w).toList = v.toList ++ ',' :: w.toList := by simp
  rw [valuesOf, htext, Chars.splitAt_append, List.map_append, valuesOf, valuesOf]

end Parameter

namespace ParameterDraft

open Parameter

/-- The examples name the first two values, if there are two. -/
theorem mem_valuesOf_combinations {values : List String} (h : ∀ v ∈ values, ',' ∉ v.toList)
    (v : String) :
    v ∈ (combinations values).flatMap valuesOf ↔ 2 ≤ values.length ∧ v ∈ values.take 2 := by
  match values with
  | [] => simp [combinations]
  | [_] => simp [combinations]
  | first :: second :: rest =>
    have hfirst := valuesOf_eq_singleton (h first (by simp))
    have hsecond := valuesOf_eq_singleton (h second (by simp))
    have hnamed : (combinations (first :: second :: rest)).flatMap valuesOf =
        [first, second] ++ [first, second] := by
      simp [combinations, valuesOf_append, hfirst, hsecond]
    rw [hnamed, List.mem_append, or_self]
    simp

/-- The type of a parameter and its values are read from one part of the text. -/
theorem exists_read_of_ofFields {isBody : Bool} {fields : List String} {draft : ParameterDraft}
    (h : ofFields isBody fields = .ok draft) : ∃ token, draft.type = EnumToken.read token := by
  unfold ofFields at h
  simp only [bind, Except.bind] at h
  split at h
  · exact absurd h (by simp)
  rename_i typed _
  refine ⟨typed.type, ?_⟩
  split at h
  · split at h
    · exact absurd h (by simp)
    · rw [← Except.ok.inj h]
  · split at h
    · exact absurd h (by simp)
    · rw [← Except.ok.inj h]

/-- The parts of a parameter that do not depend on how its name is written. -/
theorem of_complete {draft : ParameterDraft} {type : Descriptor} {base : String} {p : Parameter}
    (h : draft.complete type base = .ok p) : p.type = type ∧
      p.allowed = (if draft.type.values = [] then none
        else some (draft.type.values.filterMap (EnumValue.read? base))) ∧
      p.examples = if draft.type.combinable then combinations draft.type.values else [] := by
  simp only [complete, bind, Except.bind] at h
  split at h
  · exact absurd h (by simp)
  · rw [← Except.ok.inj h]
    exact ⟨rfl, rfl, rfl⟩

end ParameterDraft

namespace Context

variable {c : Context} {isBody : Bool} {keyword : String} {fields : List String} {p : Parameter}

/-- A parameter is completed from what the fields say, for what the expression resolves to. -/
theorem exists_draft_of_readParameter
    (h : (c.readParameter isBody keyword fields).outcome = .ok p) :
    ∃ draft, ParameterDraft.ofFields isBody fields = .ok draft ∧
      c.resolve draft.type.expression =
        ((c.readParameter isBody keyword fields).context, .ok p.type) ∧
      draft.complete p.type
        ((c.readParameter isBody keyword fields).context.registry.baseOf p.type) = .ok p := by
  unfold readParameter at h ⊢
  split at h
  · exact absurd h (by simp)
  rename_i draft hdraft
  split at h
  · exact absurd h (by simp)
  rename_i c' type hres
  refine ⟨draft, hdraft, ?_⟩
  simp only at h ⊢
  split at h
  · exact absurd h (by simp)
  · rename_i p' hcomplete
    obtain rfl := Except.ok.inj h
    obtain rfl := (ParameterDraft.of_complete hcomplete).1
    simp only [hres, hcomplete, true_and]

/-- **The allowed values are those that can be read as values of the base type, in their order, but
the examples name the first two values, whether they can be read or not.**  So the examples name
allowed values only if the first two values can both be read, or there is one value at most. -/
theorem mentioned_readParameter {draft : ParameterDraft}
    (hdraft : ParameterDraft.ofFields isBody fields = .ok draft)
    (hcombinable : draft.type.combinable = true)
    (h : (c.readParameter isBody keyword fields).outcome = .ok p) :
    let base := (c.readParameter isBody keyword fields).context.registry.baseOf p.type
    let values := draft.type.values
    (p.allowed = if values = [] then none else some (values.filterMap (EnumValue.read? base))) ∧
    (∀ v, v ∈ p.mentioned ↔ 2 ≤ values.length ∧ v ∈ values.take 2) ∧
    ((∀ v ∈ p.mentioned, v ∈ values ∧ (EnumValue.read? base v).isSome = true) ↔
      (2 ≤ values.length → ∀ v ∈ values.take 2, (EnumValue.read? base v).isSome = true)) := by
  intro base values
  obtain ⟨draft', hdraft', -, hcomplete⟩ := exists_draft_of_readParameter h
  obtain rfl : draft = draft' := Except.ok.inj (hdraft.symm.trans hdraft')
  obtain ⟨-, hallowed, hexamples⟩ := ParameterDraft.of_complete hcomplete
  obtain ⟨token, htoken⟩ := ParameterDraft.exists_read_of_ofFields hdraft
  have hcomma : ∀ v ∈ values, ',' ∉ v.toList := fun v hv =>
    EnumToken.comma_not_mem_of_combinable (htoken ▸ hcombinable) (htoken ▸ hv)
  have hmentioned : ∀ v, v ∈ p.mentioned ↔ 2 ≤ values.length ∧ v ∈ values.take 2 := fun v => by
    rw [Parameter.mentioned, hexamples, if_pos hcombinable]
    exact ParameterDraft.mem_valuesOf_combinations hcomma v
  refine ⟨hallowed, hmentioned, fun hall htwo v hv => ?_, fun hall v hv => ?_⟩
  · exact (hall v ((hmentioned v).2 ⟨htwo, hv⟩)).2
  · obtain ⟨htwo, hv⟩ := (hmentioned v).1 hv
    exact ⟨List.mem_of_mem_take hv, hall htwo v hv⟩

/-- The value that cannot be read stands behind the first two. -/
theorem mentioned_readParameter_level :
    let c : Context := {}
    let fields := ["\x7bint:1, 2,x\x7d level - Level"]
    let draft : ParameterDraft := ⟨some "level", "Level", ⟨"int", ["1", "2", "x"], true⟩⟩
    let p : Parameter :=
      { name := "level", type := ⟨.scalar, "integer", []⟩, description := "Level",
        allowed := some [.int 1, .int 2], examples := ["1", "2", "1,2"] }
    ParameterDraft.ofFields false fields = .ok draft ∧
    (c.readParameter false "query" fields).outcome = .ok p ∧
    ∀ v ∈ p.mentioned, v ∈ ["1", "2", "x"] ∧ (EnumValue.read? "integer" v).isSome = true := by
  intro c fields draft p
  have hdraft : ParameterDraft.ofFields false fields = .ok draft := by decide +kernel
  have h : (c.readParameter false "query" fields).outcome = .ok p := by decide +kernel
  have hbase : (c.readParameter false "query" fields).context.registry.baseOf p.type =
      "integer" := by decide +kernel
  have hexact := (mentioned_readParameter hdraft rfl h).2.2
  rw [hbase] at hexact
  exact ⟨hdraft, h, hexact.2 fun _ => by decide +kernel⟩

/-- The value that cannot be read stands in front: it is dropped, and the examples name it. -/
theorem mentioned_of_first_unreadable :
    let c : Context := {}
    let result := c.readParameter false "query" ["\x7bint:a,1,2\x7d level - Level"]
    result.notices = [.enumValueDropped "query" "a" "integer"] ∧
    result.outcome.map (fun p => (p.allowed, p.examples)) =
      .ok (some [.int 1, .int 2], ["a", "1", "a,1"]) ∧
    result.outcome.map Parameter.mentioned = .ok ["a", "1", "a", "1"] ∧
    EnumValue.read? "integer" "a" = none := by
  decide +kernel

end Context

end RouteDoc
