import RouteDoc.Config.Bundled
import RouteDoc.Proofs.Configuration.Run
import RouteDoc.Proofs.Resolution.Acyclic
import Mathlib.Control.Monad.Basic

/-!
# Configuration closes no cycles

An alias is accepted if its target can be resolved at that time.  Later an alias may take the place
of a form that the target relies on; so the names of aliases matter.

* `Context.Call.KeepsForms`: the call takes the place of no form that needs no registration.
* `Context.acyclic_defineAlias`, `Context.acyclic_defineType`: such definitions close no cycle, also
  if they fail.
* `Context.configured_resolve_ne_aliasCycle`: **after such calls, resolution reports no cycle.**
* `Context.resolve_alias_for_scalar`: an alias under the name of a built-in type can close one.
-/

namespace RouteDoc

namespace Context

variable {c : Context} {t : ClassTable} {name : String} {calls : List Call}

/-- Aliases have names that are neither built-in types nor made of other types; and a class that is
registered under another name gets an identifier for it. -/
def Call.KeepsForms (t : ClassTable) : Call → Prop
  | .defineAlias name _ => (Form.of {} name).isGiven = false
  | .defineType name sample => ∀ cls ∈ sample.class?,
    Form.isIdentifier name.toList = true ∨ t.className cls = name
  | _ => True

instance : (k : Call) → Decidable (k.KeepsForms t)
  | .defineAlias name _ => inferInstanceAs (Decidable ((Form.of {} name).isGiven = false))
  | .defineType _ sample => inferInstanceAs (Decidable (∀ cls ∈ sample.class?, _ ∨ _))
  | .defineKeyword _ _ => .isTrue trivial
  | .definePrimitive _ _ _ => .isTrue trivial
  | .resolve _ => .isTrue trivial
  | .close => .isTrue trivial

/-! ## Single definitions -/

theorem acyclic_defineAlias {target : String} (hc : c.registry.Acyclic)
    (hname : (Form.of {} name).isGiven = false) : (c.defineAlias name target).1.registry.Acyclic := by
  have hres := hc.resolve (Text.strip target)
  rcases registry_defineAlias c name target with h | h | ⟨d, isNew, hd, hknown, hadd⟩
  · rwa [h]
  · rwa [h]
  -- the map types of the target, added by now, do not change how it reads
  have hgrows := Registry.resolve_grows c.registry (Text.strip target)
  obtain ⟨maps, hread, -⟩ := Registry.resolve_eq_ok_iff.1 (Registry.resolve_eq_mk hd)
  rw [hgrows.readsAlike.read_eq] at hread
  exact hres.addAlias (Registry.sound_of_readFrom hread) hknown hname hadd

theorem acyclic_defineType {sample : Sample} (hc : c.registry.Acyclic)
    (hname : Call.KeepsForms t (.defineType name sample)) :
    (c.defineType t name sample).1.registry.Acyclic := by
  have hbind : (c.bindSample name sample).registry.Acyclic := by
    unfold bindSample
    split
    · exact hc
    · exact hc.of_extends (Registry.precedes_bind _ _ name).toExtends rfl
  have hres : ∀ layout : Layout,
      ((c.bindSample name sample).resolveFields layout.fields).1.registry.Acyclic := fun layout =>
    resolveFields_induct hbind (fun _ e hr => hr.resolve e) layout.fields
  rcases registry_defineType c t name sample with h | h | ⟨layout, h | ⟨_, s, _, -, hadd, h⟩⟩
  · rwa [h]
  · rwa [h]
  · exact h ▸ hres layout
  have hadded := (hres layout).add hadd
  rcases h with h | ⟨cls, _, hcls, hne, halias⟩
  · rwa [h]
  · -- the name is that of a type by now, so it is no alias
    obtain ⟨hfree, hs⟩ := Registry.add_eq_ok_iff.1 hadd
    have htarget : s.target? name = none := by
      rw [← Dict.get?_eq_none_iff] at hfree
      obtain ⟨-, rfl, -⟩ | ⟨-, rfl, -⟩ := hs <;> exact hfree
    exact hadded.addAlias_of_isIdentifier ((hname cls hcls).resolve_right hne) htarget hne halias

theorem acyclic_call {k : Call} (hc : c.registry.Acyclic) (hk : k.KeepsForms t) :
    (c.call t k).registry.Acyclic := by
  cases k with
  | defineKeyword name category => exact (registry_call_defineKeyword t c name category).symm ▸ hc
  | definePrimitive name base facets =>
    rcases registry_call_definePrimitive t c name base facets with h | ⟨p, isNew, -, hadd⟩
    · exact h.symm ▸ hc
    · exact hc.add hadd
  | defineAlias name target => exact acyclic_defineAlias hc hk
  | defineType name sample => exact acyclic_defineType hc hk
  | resolve e => exact hc.resolve e
  | close => exact hc

/-! ## Runs -/

/-- **A configured context has no cycles**, if no alias takes the place of a form that needs no
registration: so resolution reports none. -/
theorem configured_resolve_ne_aliasCycle (hcalls : ∀ k ∈ calls, k.KeepsForms t) (e a : String) :
    ((configured t calls).resolve e).2 ≠ .error (.aliasCycle a) := by
  have hacyclic : (configured t calls).registry.Acyclic :=
    configured_induct (P := fun c => c.registry.Acyclic) Registry.acyclic_empty
      fun k hk c hc => acyclic_call hc (hcalls k hk)
  exact hacyclic.resolve_ne_aliasCycle e a

/-- An alias for a map to a type that is not known yet, and one that would close a cycle, are refused;
and a class is registered under another name. -/
theorem configured_resolve_ne_aliasCycle_shelves :
    let calls : List Call := [.definePrimitive "uuid" "string" {}, .defineAlias "BookId" "uuid",
      .defineAlias "Shelf" "map[BookId]Book", .defineType "Book" (.fields ∅),
      .defineAlias "Shelf" "[]map[BookId]*Book", .defineAlias "Book" "Shelf",
      .defineType "Sample" (.class (.declared 0))]
    let c := configured Imports.bundled.classes calls
    (∀ k ∈ calls, k.KeepsForms Imports.bundled.classes) ∧
      c.registry.aliases.entries =
        [("BookId", "uuid"), ("Shelf", "[]map[BookId]*Book"), ("Example", "Sample")] ∧
      (∀ e a, (c.resolve e).2 ≠ .error (.aliasCycle a)) ∧
      (c.resolve "Shelf | Example").2 = .ok ⟨.any, "map_uuid_Book[] | Sample",
        ["map_uuid_Book", "uuid", "Book", "Sample"]⟩ := by
  intro calls c
  have hcalls : ∀ k ∈ calls, k.KeepsForms Imports.bundled.classes := by decide +kernel
  exact ⟨hcalls, by decide +kernel, configured_resolve_ne_aliasCycle hcalls, by decide +kernel⟩

/-- An alias under the name of a built-in type takes its place in the targets that were accepted
before, and can close a cycle. -/
theorem resolve_alias_for_scalar :
    let c := configured [] [.defineAlias "A" "int", .defineAlias "int" "A"]
    c.registry.aliases.entries = [("A", "int"), ("int", "A")] ∧
      (c.resolve "int").2 = .error (.aliasCycle "int") := by
  intro c
  exact ⟨by decide +kernel, by decide +kernel⟩

end Context

end RouteDoc
