import RouteDoc.Proofs.Resolution.Acyclic
import RouteDoc.Proofs.Text.Trim

/-!
# More aliases

A further alias can change how an expression reads, since it takes the place of a name.  It does not
if all names in the expression are known already.

* `Registry.MapFree`: no map is written in the targets of the aliases.  `MapFree.resolve_eq`: then
  the resolution of an expression without a map changes nothing.
* `Registry.Widens`: one registry has the aliases of the other, and further ones under plain names
  that were not defined.
* `Registry.Accepts`, `Registry.Awaits`: an expression reads without a fault, and all names in it
  are known, or some are not.
* `Registry.Widens.accepts`: **what is accepted stays accepted when aliases are added.**
* `Registry.Widens.exists_read`: what reads without a fault afterwards did so before, since a new
  alias removes no fault.
-/

namespace RouteDoc

/-! ## Expressions without maps -/

namespace Chars

variable {s t : List Char}

/-- No map is written in a text. -/
def MapFree (s : List Char) : Prop := ¬ "map[".toList <:+: s

instance (s : List Char) : Decidable (MapFree s) := inferInstanceAs (Decidable (¬ _))

theorem MapFree.of_infix (h : MapFree t) (hs : s <:+: t) : MapFree s :=
  fun hmap => h (hmap.trans hs)

theorem MapFree.strip (h : MapFree s) : MapFree (strip s) := h.of_infix (strip_isInfix s)

end Chars

namespace Form

variable {r : Registry} {e p k v : String}

/-- A map is written like one. -/
theorem infix_of_eq_map (h : of r e = .map k v) : "map[".toList <:+: e.toList := by
  rcases of_cases r e with ⟨-, hf⟩ | ⟨-, hf⟩ | ⟨-, hf⟩ | ⟨-, hf⟩ | ⟨t, -, hf⟩ | ⟨-, -, -, -, hf⟩
  · exact absurd (hf.symm.trans h) (by simp)
  · exact absurd (hf.symm.trans h) (by simp)
  · exact absurd (hf.symm.trans h) (by simp)
  · exact absurd (hf.symm.trans h) (by simp)
  · exact absurd (hf.symm.trans h) (by simp)
  have hshape := hf.symm.trans h
  simp only [ofShape] at hshape
  split at hshape
  · exact absurd hshape (by simp)
  split at hshape
  · exact absurd hshape (by simp)
  split at hshape
  · exact absurd hshape (by simp)
  split at hshape
  · rename_i hstart
    exact (List.isPrefixOf_iff_prefix.1 hstart).isInfix
  split at hshape
  · exact absurd hshape (by simp)
  · split at hshape <;> exact absurd hshape (by simp)

/-- The parts of an expression without a map are such expressions. -/
theorem mapFree_of_mem_parts (he : Chars.MapFree e.toList) (hp : p ∈ (of r e).parts) :
    Chars.MapFree p.toList := by
  obtain ⟨s, hs, rfl⟩ := exists_strip_of_mem_parts hp
  rw [String.toList_ofList]
  exact (he.of_infix hs).strip

end Form

namespace Registry

variable {r s t : Registry} {e p n : String} {seen : List String} {maps : List MapType}
  {d : Descriptor}

/-- No map is written in the targets of the aliases. -/
def MapFree (r : Registry) : Prop := ∀ t ∈ r.aliases.values, Chars.MapFree t.toList

instance (r : Registry) : Decidable r.MapFree := inferInstanceAs (Decidable (∀ t ∈ _, _))

namespace MapFree

theorem of_leads (hr : r.MapFree) (he : Chars.MapFree e.toList) (hp : r.Leads e p) :
    Chars.MapFree p.toList := by
  cases hf : Form.of r e with
  | aliasOf name target =>
    obtain ⟨t, ht, rfl⟩ := Form.exists_target hf
    obtain rfl : p = Text.strip t := by simpa [Leads, hf, Form.next] using hp
    rw [Text.toList_strip]
    exact (hr t ht).strip
  | _ =>
    refine Form.mapFree_of_mem_parts (r := r) he ?_
    simpa only [Leads, hf, Form.next] using hp

theorem of_reaches (hr : r.MapFree) (he : Chars.MapFree e.toList) (hp : r.Reaches e p) :
    Chars.MapFree p.toList := by
  induction hp with
  | refl => exact he
  | tail _ hq ih => exact hr.of_leads ih hq

/-- No map type is met where no map is written. -/
theorem maps_eq_nil (hr : r.MapFree) (he : Chars.MapFree e.toList) (seen : List String) :
    (r.readFrom seen e).maps = [] := by
  refine List.eq_nil_iff_forall_not_mem.2 fun m hm => ?_
  obtain ⟨p, key, value, -, -, -, -, -, hp, hf, -⟩ := mapWithin_of_mem_maps hm
  exact hr.of_reaches he hp (Form.infix_of_eq_map hf)

/-- Without map types resolution is reading. -/
theorem resolve_eq (hr : r.MapFree) (he : Chars.MapFree e.toList) :
    r.resolve e = (r, (r.read e).outcome) := by
  have hmaps : (r.read e).maps = [] := hr.maps_eq_nil (Text.toList_strip e ▸ he.strip) []
  simp only [resolve, hmaps, register]

end MapFree

/-! ## Further aliases -/

/-- One registry has the definitions and the aliases of the other, and further aliases under plain
names that are not defined. -/
structure Widens (r s : Registry) : Prop where
  definitions_eq : s.definitions = r.definitions
  target?_eq_some : ∀ n t, r.target? n = some t → s.target? n = some t
  fresh : ∀ n t, r.target? n = none → s.target? n = some t →
    Form.IsPlainName n ∧ n ∉ r.definitions.keys

namespace Widens

theorem refl (r : Registry) : Widens r r :=
  ⟨rfl, fun _ _ h => h, fun _ _ hnone h => absurd (hnone.symm.trans h) (by simp)⟩

theorem trans (h : Widens r s) (g : Widens s t) : Widens r t where
  definitions_eq := g.definitions_eq.trans h.definitions_eq
  target?_eq_some n u hn := g.target?_eq_some n u (h.target?_eq_some n u hn)
  fresh n u hnone hn := by
    cases hs : s.target? n with
    | none => exact h.definitions_eq ▸ g.fresh n u hs hn
    | some v => exact h.fresh n v hnone hs

/-- Each has the aliases of the other. -/
theorem alike_aliases (h : Widens r s) (g : Widens s r) : r.aliases.Alike s.aliases :=
  Dict.alike_iff.2 fun n => Option.ext fun t => ⟨h.target?_eq_some n t, g.target?_eq_some n t⟩

theorem primitive?_eq (h : Widens r s) (n : String) : s.primitive? n = r.primitive? n := by
  simp only [primitive?, definition?, h.definitions_eq]

theorem knows (h : Widens r s) (hn : r.knows n = true) : s.knows n = true := by
  simp only [Registry.knows, h.definitions_eq, Bool.or_eq_true] at hn ⊢
  refine hn.imp_right fun ha => ?_
  obtain ⟨t, ht⟩ := Option.isSome_iff_exists.1 ha
  exact Option.isSome_iff_exists.2 ⟨t, h.target?_eq_some n t ht⟩

/-- The form of an expression stays the same, unless it is a name that was not known. -/
theorem form_or (h : Widens r s) (e : String) : Form.of s e = Form.of r e ∨
    Form.of r e = .named e ∧ r.knows e = false := by
  cases hr : r.target? e with
  | some t => exact .inl (by simp only [Form.of, h.primitive?_eq, hr, h.target?_eq_some e t hr])
  | none =>
    cases hs : s.target? e with
    | none => exact .inl (by simp only [Form.of, h.primitive?_eq, hr, hs])
    | some t =>
      obtain ⟨hplain, hdef⟩ := h.fresh e t hr hs
      have hnone := Dict.get?_eq_none_iff.2 hdef
      refine .inr ⟨form_named hplain ?_ hr, ?_⟩
      · rw [primitive?, definition?, hnone]
      · simp [Registry.knows, Dict.contains, hnone, show r.aliases.get? e = none from hr]

/-- A name that is not known is not read any further, so no step is lost. -/
theorem leads (h : Widens r s) (hp : r.Leads e p) : s.Leads e p := by
  rcases h.form_or e with hf | ⟨hf, -⟩
  · rwa [Leads, hf]
  · exact absurd hp (by simp [Leads, hf, Form.next, Form.parts])

theorem reaches (h : Widens r s) (hp : r.Reaches e p) : s.Reaches e p :=
  Relation.ReflTransGen.mono (fun _ _ => h.leads) _ _ hp

/-- What is read without a fault reads the same afterwards, if all its names are known. -/
theorem readFrom_eq (h : Widens r s) (hread : r.readFrom seen e = ⟨maps, .ok d⟩)
    (hknown : ∀ n ∈ d.dependents, r.knows n = true) : s.readFrom seen e = ⟨maps, .ok d⟩ := by
  rw [← hread]
  refine (readFrom_eq_of_reaches (fun p hp => ?_) seen).symm
  rcases h.form_or p with hf | ⟨hf, hunknown⟩
  · exact hf.symm
  -- all names that the reading comes to are among the dependents
  · have hp := hknown p ((sound_of_readFrom hread p hp).2.2 p hf)
    exact absurd (hp.symm.trans hunknown) (by simp)

/-- What reads without a fault afterwards did so before: a cycle and a text that is no type stay
such. -/
theorem exists_readFrom (h : Widens r s) (hread : s.readFrom [] e = ⟨maps, .ok d⟩) :
    ∃ d', (r.readFrom [] e).outcome = .ok d' := by
  have hform : ∀ {p f}, Form.of r p = f → (∀ n, f ≠ .named n) → Form.of s p = f := by
    rintro p f rfl hnamed
    exact (h.form_or p).resolve_right fun hp => hnamed p hp.1
  cases hr : (r.readFrom [] e).outcome with
  | ok d' => exact ⟨d', rfl⟩
  | error fault =>
    exfalso
    cases faultWithin_of_error hr with
    | aliasCycle hp hcycle =>
      refine not_cycle_of_readFrom hread (h.reaches hp) ?_
      exact Relation.TransGen.mono (fun _ _ => h.leads) _ _ (hcycle.resolve_left List.not_mem_nil)
    | @malformedMap p hp hf =>
      exact (sound_of_readFrom hread p (h.reaches hp)).1 (hform hf (by simp))
    | @invalid p hp hf =>
      exact (sound_of_readFrom hread p (h.reaches hp)).2.1 (hform hf (by simp))

end Widens

/-! ## Acceptance -/

/-- The expression reads without a fault, and all names in it are known. -/
def Accepts (r : Registry) (e : String) : Prop :=
  ∃ d, (r.read e).outcome = .ok d ∧ ∀ n ∈ d.dependents, r.knows n = true

/-- The expression reads without a fault, and some name in it is not known yet. -/
def Awaits (r : Registry) (e : String) : Prop :=
  ∃ d, (r.read e).outcome = .ok d ∧ ∃ n ∈ d.dependents, r.knows n = false

theorem Awaits.not_accepts (h : r.Awaits e) : ¬ r.Accepts e := by
  obtain ⟨d, hd, n, hn, hunknown⟩ := h
  rintro ⟨d', hd', hknown⟩
  obtain rfl := Except.ok.inj (hd.symm.trans hd')
  exact absurd ((hknown n hn).symm.trans hunknown) (by simp)

theorem accepts_or_awaits (h : (r.read e).outcome = .ok d) : r.Accepts e ∨ r.Awaits e := by
  by_cases hknown : ∀ n ∈ d.dependents, r.knows n = true
  · exact .inl ⟨d, h, hknown⟩
  · simp only [not_forall, Bool.not_eq_true] at hknown
    obtain ⟨n, hn, hunknown⟩ := hknown
    exact .inr ⟨d, h, n, hn, hunknown⟩

theorem Accepts.exists_read (h : r.Accepts e) : ∃ d, (r.read e).outcome = .ok d :=
  h.imp fun _ hd => hd.1

theorem Awaits.exists_read (h : r.Awaits e) : ∃ d, (r.read e).outcome = .ok d :=
  h.imp fun _ hd => hd.1

/-- **What is accepted stays accepted when aliases are added.** -/
theorem Widens.accepts (h : Widens r s) (he : r.Accepts e) : s.Accepts e := by
  obtain ⟨d, hd, hknown⟩ := he
  have hread : r.read e = ⟨(r.read e).maps, .ok d⟩ := hd ▸ rfl
  exact ⟨d, by rw [read, h.readFrom_eq hread hknown], fun n hn => h.knows (hknown n hn)⟩

theorem Widens.exists_read (h : Widens r s) (hread : (s.read e).outcome = .ok d) :
    ∃ d', (r.read e).outcome = .ok d' :=
  h.exists_readFrom (show s.read e = ⟨(s.read e).maps, .ok d⟩ from hread ▸ rfl)

end Registry

end RouteDoc
