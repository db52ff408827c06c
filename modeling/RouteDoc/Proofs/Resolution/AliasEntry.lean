import RouteDoc.Proofs.Resolution.Widening

/-!
# Entries of a table of aliases

Whether an entry can be registered depends on those that were registered before it.

* `Registry.Takes`, `Registry.Delays`, `Registry.Refuses`: the entry is registered since its target
  is accepted; it is put off since a name in its target is not known yet; or neither.
* `Registry.Defines`: entries that are registered one after the other.  `Defines.holds`: they stay
  registered.
* `Registry.Settles`: every entry of a table is registered or put off.
  `Settles.widens_of_defines`: **registering entries in any order does not get beyond a registry
  that settles them**, and `Settles.takes_or_delays`: on the way to it no entry is refused.
-/

namespace RouteDoc

/-- An entry of a table of aliases whose name is plain, and with no map in its target. -/
structure IsPlainAlias (e : String × String) : Prop where
  name : Form.IsPlainName e.1
  target : Chars.MapFree e.2.toList

instance (e : String × String) : Decidable (IsPlainAlias e) :=
  decidable_of_iff (Form.IsPlainName e.1 ∧ Chars.MapFree e.2.toList)
    ⟨fun h => ⟨h.1, h.2⟩, fun h => ⟨h.name, h.target⟩⟩

namespace Registry

variable {r s t : Registry} {e : String × String} {es done : List (String × String)}

/-! ## Single entries -/

/-- The entry is registered: it is no alias for itself, its target is accepted, and its name is not
taken for anything else. -/
structure Takes (r : Registry) (e : String × String) (s : Registry) : Prop where
  ne : e.1 ≠ Text.strip e.2
  accepts : r.Accepts (Text.strip e.2)
  added : ∃ isNew, r.addAlias e.1 (Text.strip e.2) = .ok (s, isNew)

/-- The entry is put off, since its target is not known yet. -/
structure Delays (r : Registry) (e : String × String) : Prop where
  ne : e.1 ≠ Text.strip e.2
  awaits : r.Awaits (Text.strip e.2)

/-- The entry is neither registered nor put off. -/
structure Refuses (r : Registry) (e : String × String) : Prop where
  not_takes : ∀ s, ¬ r.Takes e s
  not_delays : ¬ r.Delays e

/-- The entry is one of the aliases, and its target is known. -/
structure Holds (r : Registry) (e : String × String) : Prop where
  ne : e.1 ≠ Text.strip e.2
  accepts : r.Accepts (Text.strip e.2)
  target?_eq : r.target? e.1 = some (Text.strip e.2)
  not_defined : e.1 ∉ r.definitions.keys

theorem Holds.not_delays (h : r.Holds e) : ¬ r.Delays e := fun hd => hd.awaits.not_accepts h.accepts

theorem Holds.mono (h : r.Holds e) (hs : Widens r s) : s.Holds e where
  ne := h.ne
  accepts := hs.accepts h.accepts
  target?_eq := hs.target?_eq_some _ _ h.target?_eq
  not_defined := hs.definitions_eq ▸ h.not_defined

namespace Takes

theorem not_defined (h : r.Takes e s) : e.1 ∉ r.definitions.keys := by
  obtain ⟨isNew, hadd⟩ := h.added
  exact (addAlias_eq_ok_iff.1 hadd).1

theorem eq_putAlias (h : r.Takes e s) : s = { r with aliases := s.aliases } := by
  obtain ⟨isNew, hadd⟩ := h.added
  obtain ⟨-, ⟨-, rfl, -⟩ | ⟨-, rfl, -⟩⟩ := addAlias_eq_ok_iff.1 hadd <;> rfl

theorem definitions_eq (h : r.Takes e s) : s.definitions = r.definitions := by
  rw [h.eq_putAlias]

/-- The alias of the entry comes to those that are there. -/
theorem target?_eq_some_iff (h : r.Takes e s) {n u : String} : s.target? n = some u ↔
    r.target? n = some u ∨ e.1 = n ∧ Text.strip e.2 = u := by
  obtain ⟨isNew, hadd⟩ := h.added
  obtain ⟨-, ⟨ht, rfl, -⟩ | ⟨ht, rfl, -⟩⟩ := addAlias_eq_ok_iff.1 hadd
  · refine ⟨.inl, fun hn => hn.elim id ?_⟩
    rintro ⟨rfl, rfl⟩
    exact ht
  · rw [show target? { r with aliases := r.aliases.put e.1 (Text.strip e.2) } n = _ from
      Dict.get?_put ..]
    by_cases hn : e.1 = n
    · subst hn
      simp [ht]
    · simp [hn, target?]

theorem widens (h : r.Takes e s) (he : Form.IsPlainName e.1) : Widens r s where
  definitions_eq := h.definitions_eq
  target?_eq_some _ _ hn := h.target?_eq_some_iff.2 (.inl hn)
  fresh n u hnone hn := by
    obtain ⟨rfl, -⟩ := (h.target?_eq_some_iff.1 hn).resolve_left (by simp [hnone])
    exact ⟨he, h.not_defined⟩

theorem holds (h : r.Takes e s) (he : Form.IsPlainName e.1) : s.Holds e where
  ne := h.ne
  accepts := (h.widens he).accepts h.accepts
  target?_eq := h.target?_eq_some_iff.2 (.inr ⟨rfl, rfl⟩)
  not_defined := h.definitions_eq ▸ h.not_defined

theorem mapFree (h : r.Takes e s) (hr : r.MapFree) (he : Chars.MapFree e.2.toList) :
    s.MapFree := by
  intro u hu
  obtain ⟨n, hn⟩ := Dict.mem_values_iff.1 hu
  rcases h.target?_eq_some_iff.1 hn with hn | ⟨-, rfl⟩
  · exact hr u (Dict.mem_values_iff.2 ⟨n, hn⟩)
  · rw [Text.toList_strip]
    exact he.strip

/-- An entry that is registered is not put off later. -/
theorem not_delays_of_widens (h : r.Takes e s) (ht : Widens r t) : ¬ t.Delays e := fun hd =>
  hd.awaits.not_accepts (ht.accepts h.accepts)

end Takes

/-! ## Entries one after the other -/

/-- The entries are registered one after the other. -/
inductive Defines : Registry → List (String × String) → Registry → Prop
  | nil {r : Registry} : Defines r [] r
  | cons {r s t : Registry} {e : String × String} {es : List (String × String)} :
      r.Takes e s → Defines s es t → Defines r (e :: es) t

namespace Defines

theorem append (h : r.Defines done s) (g : s.Defines es t) : r.Defines (done ++ es) t := by
  induction h with
  | nil => exact g
  | cons htake _ ih => exact .cons htake (ih g)

theorem eq_putAliases (h : r.Defines done s) : s = { r with aliases := s.aliases } := by
  induction h with
  | nil => rfl
  | cons htake _ ih => rw [ih, htake.eq_putAlias]

theorem target?_eq_some_iff (h : r.Defines done s) {n u : String} : s.target? n = some u ↔
    r.target? n = some u ∨ ∃ e ∈ done, e.1 = n ∧ Text.strip e.2 = u := by
  induction h with
  | nil => simp
  | cons htake _ ih => simp only [ih, htake.target?_eq_some_iff, List.exists_mem_cons_iff, or_assoc]

theorem widens (h : r.Defines done s) (hplain : ∀ e ∈ done, IsPlainAlias e) : Widens r s := by
  induction h with
  | nil => exact .refl _
  | cons htake _ ih =>
    obtain ⟨he, hplain⟩ := List.forall_mem_cons.1 hplain
    exact (htake.widens he.name).trans (ih hplain)

/-- What was registered at some time is among the aliases in the end. -/
theorem holds (h : r.Defines done s) (hplain : ∀ e ∈ done, IsPlainAlias e) :
    ∀ e ∈ done, s.Holds e := by
  induction h with
  | nil => exact fun e he => absurd he List.not_mem_nil
  | cons htake hdefines ih =>
    obtain ⟨he, hplain⟩ := List.forall_mem_cons.1 hplain
    exact List.forall_mem_cons.2
      ⟨(htake.holds he.name).mono (hdefines.widens hplain), ih hplain⟩

theorem mapFree (h : r.Defines done s) (hr : r.MapFree) (hplain : ∀ e ∈ done, IsPlainAlias e) :
    s.MapFree := by
  induction h with
  | nil => exact hr
  | cons htake _ ih =>
    obtain ⟨he, hplain⟩ := List.forall_mem_cons.1 hplain
    exact ih (htake.mapFree hr he.target) hplain

end Defines

/-! ## Registries that settle a table -/

/-- Every entry is one of the aliases, or is put off. -/
def Settles (r : Registry) (es : List (String × String)) : Prop := ∀ e ∈ es, r.Holds e ∨ r.Delays e

namespace Settles

/-- To register an entry does not get beyond a registry that settles it. -/
theorem widens_of_takes (ht : t.Settles es) (he : e ∈ es) (h : r.Takes e s) (hrt : Widens r t) :
    Widens s t where
  definitions_eq := hrt.definitions_eq.trans h.definitions_eq.symm
  target?_eq_some n u hn := by
    rcases h.target?_eq_some_iff.1 hn with hn | ⟨rfl, rfl⟩
    · exact hrt.target?_eq_some n u hn
    · -- what is accepted now cannot be put off in `t`, so `t` has this alias
      exact ((ht e he).resolve_right (h.not_delays_of_widens hrt)).target?_eq
  fresh n u hnone hn := by
    have hnone' : r.target? n = none := by
      rw [Option.eq_none_iff_forall_ne_some] at hnone ⊢
      exact fun u hn => hnone u (h.target?_eq_some_iff.2 (.inl hn))
    rw [h.definitions_eq]
    exact hrt.fresh n u hnone' hn

/-- **Registering entries in any order does not get beyond a registry that settles them.** -/
theorem widens_of_defines (ht : t.Settles es) (h : r.Defines done s) (hdone : done ⊆ es)
    (hrt : Widens r t) : Widens s t := by
  induction h with
  | nil => exact hrt
  | cons htake _ ih =>
    obtain ⟨he, hdone⟩ := List.cons_subset.1 hdone
    exact ih hdone (ht.widens_of_takes he htake hrt)

/-- **On the way to a registry that settles them no entry is refused.** -/
theorem takes_or_delays (ht : t.Settles es) (he : e ∈ es) (hrt : Widens r t) :
    (∃ s, r.Takes e s) ∨ r.Delays e := by
  have hne : e.1 ≠ Text.strip e.2 := (ht e he).elim Holds.ne Delays.ne
  -- the target reads without a fault at the end, so it did before
  obtain ⟨d, hd⟩ := (ht e he).elim (fun h => h.accepts.exists_read) (fun h => h.awaits.exists_read)
  obtain ⟨d', hd'⟩ := hrt.exists_read hd
  rcases accepts_or_awaits hd' with haccepts | hawaits
  · -- then `t` has the alias, and nothing before it can have taken the name for anything else
    have hholds := (ht e he).resolve_right fun h => h.awaits.not_accepts (hrt.accepts haccepts)
    have hdef : e.1 ∉ r.definitions.keys := hrt.definitions_eq ▸ hholds.not_defined
    cases htarget : r.target? e.1 with
    | some u =>
      obtain rfl : u = Text.strip e.2 := by
        simpa [hholds.target?_eq, eq_comm] using hrt.target?_eq_some _ _ htarget
      exact .inl ⟨r, hne, haccepts, false, addAlias_eq_ok_iff.2 ⟨hdef, .inl ⟨htarget, rfl, rfl⟩⟩⟩
    | none =>
      exact .inl ⟨_, hne, haccepts, true, addAlias_eq_ok_iff.2 ⟨hdef, .inr ⟨htarget, rfl, rfl⟩⟩⟩
  · exact .inr ⟨hne, hawaits⟩

theorem not_refuses (ht : t.Settles es) (he : e ∈ es) (hrt : Widens r t) : ¬ r.Refuses e := by
  intro h
  rcases ht.takes_or_delays he hrt with ⟨s, hs⟩ | hd
  · exact h.not_takes s hs
  · exact h.not_delays hd

/-- What one registry puts off, another with the same aliases does. -/
theorem delays (ht : t.Settles es) (he : e ∈ es) (hts : Widens t s) (h : s.Delays e) :
    t.Delays e :=
  (ht e he).resolve_left fun hholds => h.awaits.not_accepts (hts.accepts hholds.accepts)

end Settles

end Registry

end RouteDoc
