import RouteDoc.Proofs.Resolution.Extension
import RouteDoc.Proofs.Resolution.Member

/-!
# Registries without cycles

Reading comes back to an expression only through an alias.

* `Registry.Acyclic`: reading comes back to no expression.
* `Registry.faultWithin_of_error`: where the faults of reading come from.  One about a cycle names
  an alias that leads back to itself.  `Acyclic.resolve_ne_aliasCycle`: **without cycles, resolution
  reports none.**  `not_cycle_of_readFrom`: what is read without a fault comes to no cycle.
* `Registry.Sound`: all that reading comes to is well-formed, and the names among it are known.
  `sound_of_readFrom`: this holds of what is read without a fault.
* `Registry.Acyclic.of_edge`: one more step closes no cycle, if it does not lead back.
* `Form.isGiven`: the forms that need no registration.  `Acyclic.addAlias`: an alias for a known
  target keeps the registry acyclic, if it takes the place of no such form.
-/

namespace RouteDoc

namespace Form

variable {r : Registry} {e : String}

/-- The forms of built-in types, and of types that are made of others. -/
def isGiven : Form → Bool
  | .pointer _ | .array _ | .map _ _ | .scalar _ => true
  | _ => false

theorem of_eq_of_unregistered (hp : r.primitive? e = none) (ht : r.target? e = none) :
    of r e = of {} e := by
  have hp' : ({} : Registry).primitive? e = none := rfl
  have ht' : ({} : Registry).target? e = none := rfl
  simp only [of, hp, ht, hp', ht']

/-- An identifier that is no alias is not read any further. -/
theorem next_of_isIdentifier (hid : isIdentifier e.toList = true) (ht : r.target? e = none) :
    (of r e).next = [] := by
  have hsp : ' ' ∉ e.toList := Chars.not_mem_of_isIdentifier hid (by decide) (by decide)
  rcases of_cases r e with ⟨hlen, -⟩ | ⟨-, hf⟩ | ⟨-, hf⟩ | ⟨-, hf⟩ | ⟨t, ht', -⟩ | ⟨-, -, -, -, hf⟩
  · exact absurd hlen (by simp [Chars.splitUnion_eq_singleton hsp])
  · simp [hf, next, parts]
  · simp [hf, next, parts]
  · simp [hf, next, parts]
  · exact absurd (ht.symm.trans ht') (by simp)
  · rw [hf, ofShape_eq_of_isIdentifier hid]
    split <;> rfl

end Form

namespace Registry

variable {r s : Registry} {e p q a b name target : String} {seen names names' : List String}

/-! ## Cycles -/

/-- Reading comes back to no expression. -/
def Acyclic (r : Registry) : Prop := ∀ e, ¬ Relation.TransGen r.Leads e e

/-- The faults of reading, at what reading comes to: an alias that was followed before or leads back
to itself, or a text that is no type. -/
inductive FaultWithin (r : Registry) (seen : List String) (e : String) : TypeFault → Prop
  | aliasCycle {a : String} : r.Reaches e a → a ∈ seen ∨ Relation.TransGen r.Leads a a →
      FaultWithin r seen e (.aliasCycle a)
  | malformedMap {p : String} : r.Reaches e p → Form.of r p = .malformedMap →
      FaultWithin r seen e (.malformedMap p)
  | invalid {p : String} : r.Reaches e p → Form.of r p = .invalid →
      FaultWithin r seen e (.invalidExpression p)

theorem FaultWithin.of_leads {fault : TypeFault} (hp : r.Leads e p)
    (h : r.FaultWithin seen p fault) : r.FaultWithin seen e fault := by
  cases h with
  | aliasCycle hreach h => exact .aliasCycle (.head hp hreach) h
  | malformedMap hreach hf => exact .malformedMap (.head hp hreach) hf
  | invalid hreach hf => exact .invalid (.head hp hreach) hf

theorem faultWithin_of_error {fault : TypeFault}
    (h : (r.readFrom seen e).outcome = .error fault) : r.FaultWithin seen e fault := by
  induction seen, e using readFrom.induct r with
  | case1 seen e parts hf ih =>
    rw [readFrom_eq, hf] at h
    rcases Reading.outcome_bind_eq_error h with h | ⟨ds, h⟩
    · obtain ⟨x, hx, h⟩ := Reading.outcome_all_eq_error h
      obtain ⟨p, hp, rfl⟩ := List.mem_map.1 hx
      exact .of_leads (leads_of_mem_parts hf hp) (ih p hp h)
    · exact absurd h (by simp [Reading.pure])
  | case5 seen e name target hf hs =>
    rw [readFrom_eq, hf] at h
    simp only [if_pos hs, Reading.fault, Except.error.injEq] at h
    subst h
    obtain ⟨rfl, -⟩ := Form.mem_aliases hf
    refine .aliasCycle .refl (hs.imp_right fun ht => ?_)
    subst ht
    exact .single (leads_of_alias hf)
  | case6 seen e name target hf hs _ ih =>
    rw [readFrom_eq, hf] at h
    simp only [if_neg hs] at h
    have hlead := leads_of_alias hf
    obtain ⟨rfl, -⟩ := Form.mem_aliases hf
    cases ih h with
    | aliasCycle hreach hseen =>
      refine .aliasCycle (.head hlead hreach) ?_
      rcases hseen with hseen | hcycle
      · rcases List.mem_cons.1 hseen with rfl | hseen
        · exact .inr (.head' hlead hreach)
        · exact .inl hseen
      · exact .inr hcycle
    | malformedMap hreach hp => exact .malformedMap (.head hlead hreach) hp
    | invalid hreach hp => exact .invalid (.head hlead hreach) hp
  | case7 seen e inner hf _ ih =>
    rw [readFrom_eq, hf] at h
    exact .of_leads (leads_of_mem_parts hf (by simp [Form.parts])) (ih h)
  | case8 seen e item hf _ ih =>
    rw [readFrom_eq, hf] at h
    rcases Reading.outcome_bind_eq_error h with h | ⟨d, h⟩
    · exact .of_leads (leads_of_mem_parts hf (by simp [Form.parts])) (ih h)
    · exact absurd h (by simp [Reading.pure])
  | case9 seen e key value hf _ _ ihk ihv =>
    rw [readFrom_eq, hf] at h
    rcases Reading.outcome_bind_eq_error h with h | ⟨k, h⟩
    · exact .of_leads (leads_of_mem_parts hf (by simp [Form.parts])) (ihk h)
    rcases Reading.outcome_bind_eq_error h with h | ⟨v, h⟩
    · exact .of_leads (leads_of_mem_parts hf (by simp [Form.parts])) (ihv h)
    · exact absurd h (by simp [Reading.bind, Reading.meet, Reading.pure])
  | case10 seen e hf =>
    rw [readFrom_eq, hf] at h
    obtain rfl := Except.error.inj h
    exact .malformedMap .refl hf
  | case13 seen e hf =>
    rw [readFrom_eq, hf] at h
    obtain rfl := Except.error.inj h
    exact .invalid .refl hf
  | _ => simp_all [readFrom_eq, Reading.pure]

/-- What is read without a fault comes back to nothing. -/
theorem not_cycle_of_readFrom {maps : List MapType} {d : Descriptor}
    (h : r.readFrom seen e = ⟨maps, .ok d⟩) (hp : r.Reaches e p) :
    ¬ Relation.TransGen r.Leads p p := by
  have hacc : Acc (fun q p => r.Leads p q) e :=
    leads_induct (motive := Acc fun q p => r.Leads p q) (fun e _ _ ih => ⟨e, ih⟩) h
  have hacc' : Acc (fun q p => r.Leads p q) p := by
    induction hp with
    | refl => exact hacc
    | tail _ hq ih => exact ih.inv hq
  clear hp
  intro hcycle
  induction hacc' with
  | intro p _ ih =>
    -- the cycle goes through the next expression as well
    obtain ⟨q, hq, hqp⟩ := Relation.TransGen.head'_iff.1 hcycle
    exact ih q hq (.tail' hqp hq)

/-- **Without cycles, resolution reports none.** -/
theorem Acyclic.resolve_ne_aliasCycle (hr : r.Acyclic) (e a : String) :
    (r.resolve e).2 ≠ .error (.aliasCycle a) := by
  intro h
  have hread : (r.read e).outcome = .error (.aliasCycle a) := by
    rw [resolve_eq] at h
    split at h
    · exact h
    · rename_i hreg
      obtain ⟨name, rfl⟩ := exists_of_register_eq_error hreg
      exact absurd h (by simp)
  cases faultWithin_of_error hread with
  | aliasCycle _ h => exact hr a (h.resolve_left List.not_mem_nil)

/-! ## What a successful reading comes to -/

/-- All that reading `e` comes to is well-formed, and the names among it are those given. -/
def Sound (r : Registry) (e : String) (names : List String) : Prop :=
  ∀ p, r.Reaches e p → Form.of r p ≠ .malformedMap ∧ Form.of r p ≠ .invalid ∧
    ∀ n, Form.of r p = .named n → n ∈ names

theorem Sound.of_leads
    (he : Form.of r e ≠ .malformedMap ∧ Form.of r e ≠ .invalid ∧
      ∀ n, Form.of r e = .named n → n ∈ names)
    (h : ∀ p, r.Leads e p → r.Sound p names) : r.Sound e names := by
  intro p hp
  rcases hp.cases_head with rfl | ⟨q, hq, hp⟩
  · exact he
  · exact h q hq p hp

theorem Sound.mono (h : r.Sound e names) (hs : names ⊆ names') : r.Sound e names' := fun p hp =>
  ⟨(h p hp).1, (h p hp).2.1, fun n hn => hs ((h p hp).2.2 n hn)⟩

/-- What is read without a fault is sound, for its dependents. -/
theorem sound_of_readFrom {maps : List MapType} {d : Descriptor}
    (h : r.readFrom seen e = ⟨maps, .ok d⟩) : r.Sound e d.dependents := by
  -- a form that is not read any further
  have single : ∀ {e : String} {f : Form} {names : List String}, Form.of r e = f → f.next = [] →
      f ≠ .malformedMap → f ≠ .invalid → (∀ n, f = .named n → n ∈ names) → r.Sound e names := by
    rintro e f names rfl hnext hmap hinvalid hnamed
    exact .of_leads ⟨hmap, hinvalid, hnamed⟩ fun p hp => absurd hp (by simp [Leads, hnext])
  refine readFrom_ok_induct (motive := fun e _ d => r.Sound e d.dependents)
    ?union ?nothing ?anything ?primitive ?aliasOf ?pointer ?array ?map ?scalar ?named h
  case union =>
    intro e rs hf ih
    refine .of_leads (by simp [hf]) fun p hp => ?_
    simp only [Leads, hf, Form.next, Form.parts] at hp
    obtain ⟨x, hx, rfl⟩ := List.mem_map.1 hp
    refine (ih x hx).mono fun n hn => mem_mergeNames.2 ⟨x.2.2.dependents, ?_, hn⟩
    exact List.mem_map_of_mem (List.mem_map_of_mem hx)
  case nothing => exact fun e hf => single hf rfl (by simp) (by simp) (by simp)
  case anything => exact fun e hf => single hf rfl (by simp) (by simp) (by simp)
  case primitive => exact fun e n hf => single hf rfl (by simp) (by simp) (by simp)
  case aliasOf =>
    intro e n t maps d hf ih
    refine .of_leads (by simp [hf]) fun p hp => ?_
    simp only [Leads, hf, Form.next, List.mem_singleton] at hp
    exact hp ▸ ih
  case pointer =>
    intro e inner maps d hf ih
    refine .of_leads (by simp [hf]) fun p hp => ?_
    simp only [Leads, hf, Form.next, Form.parts, List.mem_singleton] at hp
    exact hp ▸ ih
  case array =>
    intro e item maps d hf ih
    refine .of_leads (by simp [hf]) fun p hp => ?_
    simp only [Leads, hf, Form.next, Form.parts, List.mem_singleton] at hp
    exact hp ▸ ih
  case map =>
    intro e key value ms ns k v hf _ _ ihk ihv
    refine .of_leads (by simp [hf]) fun p hp => ?_
    simp only [Leads, hf, Form.next, Form.parts, List.mem_cons, List.not_mem_nil, or_false] at hp
    rcases hp with rfl | rfl
    · exact ihk.mono fun n hn => mem_mergeNames.2 ⟨k.dependents, by simp [MapType.ofParts], hn⟩
    · exact ihv.mono fun n hn => mem_mergeNames.2 ⟨v.dependents, by simp [MapType.ofParts], hn⟩
  case scalar => exact fun e n hf => single hf rfl (by simp) (by simp) (by simp)
  case named =>
    exact fun e n hf => single hf rfl (by simp) (by simp) fun m hm =>
      List.mem_singleton.2 (Form.named.inj hm).symm

/-! ## What keeps a registry acyclic -/

theorem Acyclic.of_leads (hr : r.Acyclic) (h : ∀ e p, s.Leads e p → r.Leads e p) : s.Acyclic :=
  fun e hcycle => hr e (Relation.TransGen.mono h _ _ hcycle)

/-- In a fresh registry each step shortens the expression. -/
theorem acyclic_empty : Acyclic {} := by
  have hlt : ∀ {e p}, ({} : Registry).Leads e p → p.length < e.length := by
    intro e p hp
    refine Form.length_lt (r := {}) (e := e) ?_
    cases hf : Form.of {} e with
    | aliasOf name target => exact absurd (Form.mem_aliases hf).2 List.not_mem_nil
    | _ => simpa only [Leads, hf, Form.next] using hp
  have hlt' : ∀ {e p}, Relation.TransGen ({} : Registry).Leads e p → p.length < e.length := by
    intro e p hp
    induction hp with
    | single hp => exact hlt hp
    | tail _ hp ih => exact Nat.lt_trans (hlt hp) ih
  exact fun e hcycle => absurd (hlt' hcycle) (Nat.lt_irrefl _)

/-- More definitions give no new steps: a name may become that of a narrowed built-in type, and
then it is not read any further. -/
theorem Acyclic.of_extends (hr : r.Acyclic) (hs : Extends r s) (ha : s.aliases = r.aliases) :
    s.Acyclic := by
  refine hr.of_leads fun e p h => ?_
  have hf : Form.of s e = Form.of r e ∨ Form.of s e = .primitive e := by
    by_cases he : (r.primitive? e).isSome
    · exact .inl (by simp only [Form.of, target?, ha, he, hs.isSome_primitive? he])
    · simp only [Form.of, target?, ha, he]
      by_cases he' : (s.primitive? e).isSome
      · repeat' split
        all_goals simp_all
      · simp [he']
  rcases hf with hf | hf
  · rwa [Leads, ← hf]
  · exact absurd h (by simp [Leads, hf, Form.next, Form.parts])

theorem Acyclic.resolve (hr : r.Acyclic) (e : String) : (r.resolve e).1.Acyclic :=
  hr.of_extends (extends_resolve r e) (resolve_grows r e).aliases_eq

theorem Acyclic.add {d : Definition} {isNew : Bool} (hr : r.Acyclic)
    (h : r.add d = .ok (s, isNew)) : s.Acyclic := by
  refine hr.of_extends (extends_add h) ?_
  obtain ⟨-, ⟨-, rfl, -⟩ | ⟨-, rfl, -⟩⟩ := add_eq_ok_iff.1 h <;> rfl

/-- One more step closes no cycle, if it does not lead back. -/
theorem Acyclic.of_edge (hr : r.Acyclic) (hback : ¬ r.Reaches b a)
    (h : ∀ e p, s.Leads e p → r.Leads e p ∨ e = a ∧ p = b) : s.Acyclic := by
  -- a way that takes the new step does so once: in front of it and behind it are old ways
  have hway : ∀ {e p}, Relation.TransGen s.Leads e p →
      Relation.TransGen r.Leads e p ∨ r.Reaches e a ∧ r.Reaches b p := by
    intro e p hp
    induction hp with
    | single hp =>
      rcases h _ _ hp with hp | ⟨rfl, rfl⟩
      · exact .inl (.single hp)
      · exact .inr ⟨.refl, .refl⟩
    | tail _ hp ih =>
      rcases h _ _ hp with hp | ⟨rfl, rfl⟩
      · exact ih.imp (·.tail hp) fun ⟨hea, hbp⟩ => ⟨hea, hbp.tail hp⟩
      · rcases ih with hea | ⟨-, hba⟩
        · exact .inr ⟨hea.to_reflTransGen, .refl⟩
        · exact absurd hba hback
  intro e hcycle
  rcases hway hcycle with hcycle | ⟨hea, hbe⟩
  · exact hr e hcycle
  · exact hback (hbe.trans hea)

theorem form_putAlias_of_ne (r : Registry) (target : String) (h : e ≠ name) :
    Form.of { r with aliases := r.aliases.put name target } e = Form.of r e := by
  have ht : ({ r with aliases := r.aliases.put name target } : Registry).target? e = r.target? e :=
    (Dict.get?_put ..).trans (if_neg h.symm)
  simp only [Form.of, ht]
  rfl

/-- Under its own name a new alias either does not count, or takes the place of a form that is read
off the shape of the name. -/
theorem form_putAlias_self (target : String) (ht : r.target? name = none) :
    let s : Registry := { r with aliases := r.aliases.put name target }
    Form.of s name = Form.of r name ∨
      Form.of s name = .aliasOf name (Text.strip target) ∧ Form.of r name = Form.ofShape name := by
  intro s
  have ht' : s.target? name = some target := (Dict.get?_put ..).trans (if_pos rfl)
  have hp : s.primitive? name = r.primitive? name := rfl
  simp only [Form.of, ht, ht', hp]
  repeat' split
  all_goals simp

/-- An alias closes no cycle, if its target does not come to it. -/
theorem Acyclic.of_addAlias {isNew : Bool} (hr : r.Acyclic)
    (hback : name ∉ r.definitions.keys → r.target? name = none →
      Form.of r name = Form.ofShape name → ¬ r.Reaches (Text.strip target) name)
    (h : r.addAlias name target = .ok (s, isNew)) : s.Acyclic := by
  obtain ⟨hdef, ⟨-, rfl, -⟩ | ⟨ht, rfl, -⟩⟩ := addAlias_eq_ok_iff.1 h
  · exact hr
  rcases form_putAlias_self target ht with hsame | ⟨hnew, hshape⟩
  · refine hr.of_leads fun e p hp => ?_
    by_cases he : e = name
    · subst he
      rwa [Leads, ← hsame]
    · rwa [Leads, ← form_putAlias_of_ne r target he]
  · refine hr.of_edge (hback hdef ht hshape) fun e p hp => ?_
    by_cases he : e = name
    · subst he
      refine .inr ⟨rfl, ?_⟩
      simpa [Leads, hnew, Form.next] using hp
    · exact .inl (by rwa [Leads, ← form_putAlias_of_ne r target he])

/-- **An alias for a target whose names are known closes no cycle**, if it does not take the place
of a form that needs no registration. -/
theorem Acyclic.addAlias {isNew : Bool} (hr : r.Acyclic) (hs : r.Sound (Text.strip target) names)
    (hknown : ∀ n ∈ names, r.knows n = true) (hgiven : (Form.of {} name).isGiven = false)
    (h : r.addAlias name target = .ok (s, isNew)) : s.Acyclic := by
  refine hr.of_addAlias (fun hdef ht hshape hback => ?_) h
  -- the target comes to `name`, so `name` must have been known before
  obtain ⟨hmap, hinvalid, hnamed⟩ := hs name hback
  have hunknown : r.knows name = false := by
    simp [knows, Dict.contains, Dict.get?_eq_none_iff.2 hdef,
      show r.aliases.get? name = none from ht]
  have hprim : r.primitive? name = none := by
    rw [primitive?, definition?, Dict.get?_eq_none_iff.2 hdef]
  rw [← Form.of_eq_of_unregistered hprim ht, hshape] at hgiven
  rw [hshape] at hmap hinvalid hnamed
  rcases Form.ofShape_cases name with ⟨_, hf⟩ | ⟨_, hf⟩ | ⟨_, _, hf⟩ | hf | ⟨_, _, hf⟩ |
    ⟨-, -, hf⟩ | hf
  · exact absurd hgiven (by simp [hf, Form.isGiven])
  · exact absurd hgiven (by simp [hf, Form.isGiven])
  · exact absurd hgiven (by simp [hf, Form.isGiven])
  · exact hmap hf
  · exact absurd hgiven (by simp [hf, Form.isGiven])
  · exact absurd (hknown name (hnamed name hf)) (by simp [hunknown])
  · exact hinvalid hf

/-- An alias for an identifier that is not one itself closes no cycle. -/
theorem Acyclic.addAlias_of_isIdentifier {isNew : Bool} (hr : r.Acyclic)
    (hid : Form.isIdentifier target.toList = true) (ht : r.target? target = none)
    (hne : name ≠ target) (h : r.addAlias name target = .ok (s, isNew)) : s.Acyclic := by
  refine hr.of_addAlias (fun _ _ _ hback => ?_) h
  have hstrip : Text.strip target = target := by
    rw [Text.strip, (Chars.namelike_of_isIdentifier hid).solid.strip_eq, String.ofList_toList]
  rw [hstrip] at hback
  rcases hback.cases_head with heq | ⟨q, hq, -⟩
  · exact hne heq.symm
  · exact absurd hq (by simp [Leads, Form.next_of_isIdentifier hid ht])

end Registry

end RouteDoc
