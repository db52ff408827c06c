import RouteDoc.Config.Bundled
import RouteDoc.Proofs.Configuration.Run
import RouteDoc.Proofs.Resolution.AliasEntry

/-!
# Tables of aliases

A table of aliases is gone through again and again, as long as some of its entries are registered.

* `Context.Ready.defineAlias_cases`: an entry is registered, put off or refused.
* `Config.Proceeds`: what passes over a table come to.  `aliasPass_proceeds` for a single pass,
  `defineAliases_proceeds` for all of them.
* `Config.Completes`: all entries are registered but those that are put off in the end.
  `Completes.widens_of_proceeds`: then other passes get no further, and meet no fault.
* `Config.defineAliases_perm`: **the order of the entries makes no difference** to whether there is
  a fault, to the aliases that are registered, and to the entries that are left.
-/

namespace RouteDoc

namespace Context

variable {c : Context} {e : String × String}

/-- The context is open, and no map is written in the targets of its aliases. -/
structure Ready (c : Context) : Prop where
  isSealed : c.isSealed = false
  mapFree : c.registry.MapFree

/-- **An entry is registered, put off or refused**, and only the first changes the context. -/
theorem Ready.defineAlias_cases (hc : c.Ready) (he : Chars.MapFree e.2.toList) :
    (∃ s, c.registry.Takes e s ∧ c.defineAlias e.1 e.2 = ({ c with registry := s }, .ok ())) ∨
      (c.registry.Delays e ∧ c.defineAlias e.1 e.2 =
        (c, .error (.type (.unknownTarget e.1 (Text.strip e.2))))) ∨
      (c.registry.Refuses e ∧ ∃ fault, c.defineAlias e.1 e.2 = (c, .error fault) ∧
        ∀ n u, fault ≠ .type (.unknownTarget n u)) := by
  have hopen : c.resolveOpen (Text.strip e.2) =
      (c, (c.registry.read (Text.strip e.2)).outcome) := by
    have hfree : Chars.MapFree (Text.strip e.2).toList := Text.toList_strip e.2 ▸ he.strip
    simp only [resolveOpen, hc.mapFree.resolve_eq hfree]
  have hcheck : ∀ what, c.checkOpen what = .ok () := fun what => by
    simp [checkOpen, hc.isSealed]
  simp only [defineAlias, hcheck, hopen]
  by_cases hne : e.1 = Text.strip e.2
  · rw [if_pos hne]
    exact .inr (.inr ⟨⟨fun s h => h.ne hne, fun h => h.ne hne⟩, _, rfl, by simp⟩)
  rw [if_neg hne]
  cases hd : (c.registry.read (Text.strip e.2)).outcome with
  | error fault =>
    refine .inr (.inr ⟨⟨fun s h => ?_, fun h => ?_⟩, _, rfl, fun n u h => ?_⟩)
    · obtain ⟨d, hd'⟩ := h.accepts.exists_read
      exact absurd (hd.symm.trans hd') (by simp)
    · obtain ⟨d, hd'⟩ := h.awaits.exists_read
      exact absurd (hd.symm.trans hd') (by simp)
    · -- reading has other faults only
      obtain rfl := ConfigFault.type.inj h
      cases Registry.faultWithin_of_error hd
  | ok d =>
    simp only
    by_cases hall : d.dependents.all c.registry.knows = false
    · rw [if_pos hall]
      obtain ⟨n, hn, hunknown⟩ := List.all_eq_false.1 hall
      exact .inr (.inl ⟨⟨hne, d, hd, n, hn, Bool.not_eq_true _ ▸ hunknown⟩, rfl⟩)
    rw [if_neg hall]
    have haccepts : c.registry.Accepts (Text.strip e.2) := by
      rw [Bool.not_eq_false, List.all_eq_true] at hall
      exact ⟨d, hd, hall⟩
    cases hadd : c.registry.addAlias e.1 (Text.strip e.2) with
    | ok p => exact .inl ⟨p.1, ⟨hne, haccepts, p.2, hadd⟩, rfl⟩
    | error fault =>
      refine .inr (.inr ⟨⟨fun s h => ?_, fun h => h.awaits.not_accepts haccepts⟩, _, rfl,
        fun n u h => ?_⟩)
      · obtain ⟨isNew, hadd'⟩ := h.added
        exact absurd (hadd.symm.trans hadd') (by simp)
      · obtain rfl := ConfigFault.type.inj h
        unfold Registry.addAlias at hadd
        repeat' split at hadd
        all_goals simp at hadd

/-- An entry that is put off has a target that is not known. -/
theorem Ready.defineAlias_of_delays (hc : c.Ready) (he : Chars.MapFree e.2.toList)
    (h : c.registry.Delays e) : c.defineAlias e.1 e.2 =
      (c, .error (.type (.unknownTarget e.1 (Text.strip e.2)))) := by
  rcases hc.defineAlias_cases he with ⟨s, htakes, -⟩ | ⟨-, heq⟩ | ⟨hrefuses, -⟩
  · exact absurd h (htakes.not_delays_of_widens (.refl _))
  · exact heq
  · exact absurd h hrefuses.not_delays

/-- The context stays ready when an entry is registered. -/
theorem Ready.of_takes {s : Registry} (hc : c.Ready) (h : c.registry.Takes e s)
    (he : Chars.MapFree e.2.toList) : Ready { c with registry := s } :=
  ⟨hc.isSealed, h.mapFree hc.mapFree he⟩

theorem Ready.of_defines {s : Registry} {done : List (String × String)} (hc : c.Ready)
    (h : c.registry.Defines done s) (hplain : ∀ e ∈ done, IsPlainAlias e) :
    Ready { c with registry := s } :=
  ⟨hc.isSealed, h.mapFree hc.mapFree hplain⟩

end Context

namespace Config

open Registry

variable {c c' : Context} {r s t : Registry} {es es' rest : List (String × String)}
  {outcome : Except ConfigFault (List (String × String))}

/-! ## Passes over a table -/

/-- Some entries are registered one after the other, and the others are left; or then one of them is
refused. -/
inductive Proceeds (r : Registry) (es : List (String × String)) (s : Registry) :
    Except ConfigFault (List (String × String)) → Prop
  | left {done rest : List (String × String)} : r.Defines done s → es.Perm (done ++ rest) →
      Proceeds r es s (.ok rest)
  | refused {done : List (String × String)} {e : String × String} {fault : ConfigFault} :
      r.Defines done s → done ⊆ es → e ∈ es → s.Refuses e → Proceeds r es s (.error fault)

/-- What is left goes through another time. -/
theorem Proceeds.trans (h : Proceeds r es s (.ok rest)) (g : Proceeds s rest t outcome) :
    Proceeds r es t outcome := by
  obtain ⟨hdone, hperm⟩ := h
  cases g with
  | left hdone' hperm' =>
    refine .left (hdone.append hdone') ?_
    rw [List.append_assoc]
    exact hperm.trans (hperm'.append_left _)
  | refused hdone' hsub he hrefuses =>
    have hrest : rest ⊆ es := fun e he => hperm.mem_iff.2 (List.mem_append_right _ he)
    refine .refused (hdone.append hdone') ?_ (hrest he) hrefuses
    refine List.append_subset.2 ⟨fun e he => ?_, List.Subset.trans hsub hrest⟩
    exact hperm.mem_iff.2 (List.mem_append_left _ he)

theorem Proceeds.of_perm (h : Proceeds r es s outcome) (hperm : es.Perm es') :
    Proceeds r es' s outcome := by
  cases h with
  | left hdone hleft => exact .left hdone (hperm.symm.trans hleft)
  | refused hdone hsub he hrefuses =>
    exact .refused hdone (List.Subset.trans hsub hperm.subset) (hperm.mem_iff.1 he) hrefuses

/-- The first entry is registered. -/
theorem Proceeds.cons_takes {e : String × String} (he : r.Takes e s)
    (h : Proceeds s es t outcome) : Proceeds r (e :: es) t outcome := by
  cases h with
  | left hdone hperm => exact .left (.cons he hdone) (hperm.cons e)
  | refused hdone hsub he' hrefuses =>
    exact .refused (.cons he hdone) (List.cons_subset_cons e hsub) (List.mem_cons_of_mem e he')
      hrefuses

/-- The first entry is put off. -/
theorem Proceeds.cons_delays (e : String × String) (h : Proceeds r es s outcome) :
    Proceeds r (e :: es) s (outcome.map (e :: ·)) := by
  cases h with
  | left hdone hperm => exact .left hdone ((hperm.cons e).trans List.perm_middle.symm)
  | refused hdone hsub he' hrefuses =>
    exact .refused hdone (List.subset_cons_of_subset e hsub) (List.mem_cons_of_mem e he') hrefuses

theorem aliasPass_proceeds (hc : c.Ready) (hes : ∀ e ∈ es, IsPlainAlias e) :
    ∃ s, (aliasPass c es).1 = { c with registry := s } ∧
      Proceeds c.registry es s (aliasPass c es).2 := by
  induction es generalizing c with
  | nil => exact ⟨c.registry, rfl, .left .nil .nil⟩
  | cons e es ih =>
    obtain ⟨he, hes⟩ := List.forall_mem_cons.1 hes
    rcases hc.defineAlias_cases he.target with
      ⟨s, htakes, heq⟩ | ⟨hdelays, heq⟩ | ⟨hrefuses, fault, heq, hfault⟩
    · obtain ⟨t, ht, hproceeds⟩ := ih (hc.of_takes htakes he.target) hes
      simp only [aliasPass, heq]
      exact ⟨t, ht, hproceeds.cons_takes htakes⟩
    · obtain ⟨t, ht, hproceeds⟩ := ih hc hes
      simp only [aliasPass, heq]
      exact ⟨t, ht, hproceeds.cons_delays e⟩
    · have hpass : aliasPass c (e :: es) = (c, .error fault) := by
        simp only [aliasPass, heq]
      rw [hpass]
      exact ⟨c.registry, rfl, .refused .nil (List.nil_subset _) List.mem_cons_self hrefuses⟩

/-- A pass that leaves all entries has put off all of them. -/
theorem aliasPass_stuck (hc : c.Ready) (hes : ∀ e ∈ es, IsPlainAlias e)
    (h : aliasPass c es = (c', .ok rest)) (hlen : es.length ≤ rest.length) :
    c' = c ∧ rest = es ∧ ∀ e ∈ es, c.registry.Delays e := by
  induction es generalizing c rest with
  | nil =>
    obtain ⟨rfl, hrest⟩ := Prod.mk.injEq .. ▸ h
    obtain rfl := Except.ok.inj hrest
    exact ⟨rfl, rfl, by simp⟩
  | cons e es ih =>
    obtain ⟨he, hes⟩ := List.forall_mem_cons.1 hes
    rcases hc.defineAlias_cases he.target with
      ⟨s, htakes, heq⟩ | ⟨hdelays, heq⟩ | ⟨hrefuses, fault, heq, hfault⟩
    · -- the others are too few
      simp only [aliasPass, heq] at h
      obtain ⟨t, -, hproceeds⟩ := aliasPass_proceeds (hc.of_takes htakes he.target) hes
      rw [h] at hproceeds
      obtain ⟨-, hperm⟩ := hproceeds
      have := hperm.length_eq
      simp only [List.length_append, List.length_cons] at this hlen
      omega
    · simp only [aliasPass, heq] at h
      obtain ⟨hcontext, hrest⟩ := Prod.mk.injEq .. ▸ h
      obtain ⟨rest', hpass, rfl⟩ := map_eq_ok_iff.1 hrest
      have hpass' : aliasPass c es = (c', .ok rest') := Prod.ext hcontext hpass
      obtain ⟨rfl, rfl, hall⟩ := ih hc hes hpass' (by simpa using hlen)
      exact ⟨rfl, rfl, List.forall_mem_cons.2 ⟨hdelays, hall⟩⟩
    · simp [aliasPass, heq] at h

/-! ## All passes -/

/-- Registers aliases in a number of passes at most. -/
def defineAliasesWithin : Nat → Context → List (String × String) →
    Option (Context × Except ConfigFault (List (String × String)))
  | 0, _, _ => none
  | n + 1, c, pending =>
    match aliasPass c pending with
    | (c', .error fault) => some (c', .error fault)
    | (c', .ok rest) =>
      if rest.length < pending.length then defineAliasesWithin n c' rest else some (c', .ok rest)

/-- One pass more than there are entries is enough. -/
theorem defineAliasesWithin_eq {n : Nat} (h : es.length < n) :
    defineAliasesWithin n c es = some (defineAliases c es) := by
  induction n generalizing c es with
  | zero => exact absurd h (Nat.not_lt_zero _)
  | succ n ih =>
    rw [defineAliases, defineAliasesWithin]
    rcases aliasPass c es with ⟨c', fault | rest⟩
    · rfl
    · simp only
      by_cases hlt : rest.length < es.length
      · rw [if_pos hlt, if_pos hlt]
        exact ih (by omega)
      · rw [if_neg hlt, if_neg hlt]

theorem defineAliases_proceeds (hc : c.Ready) (hes : ∀ e ∈ es, IsPlainAlias e) :
    ∃ s, (defineAliases c es).1 = { c with registry := s } ∧
      Proceeds c.registry es s (defineAliases c es).2 ∧
      ∀ rest, (defineAliases c es).2 = .ok rest → ∀ e ∈ rest, s.Delays e := by
  induction c, es using defineAliases.induct with
  | case1 c es c' fault hpass =>
    obtain ⟨s, hcontext, hproceeds⟩ := aliasPass_proceeds hc hes
    rw [defineAliases, hpass]
    rw [hpass] at hcontext hproceeds
    exact ⟨s, hcontext, hproceeds, by simp⟩
  | case2 c es c' rest hpass hlt ih =>
    obtain ⟨s, hcontext, hproceeds⟩ := aliasPass_proceeds hc hes
    rw [hpass] at hcontext hproceeds
    obtain rfl : c' = { c with registry := s } := hcontext
    obtain ⟨hdone, hperm⟩ := id hproceeds
    have hes' := fun e he => hes e (hperm.mem_iff.2 he)
    simp only [List.mem_append, or_imp, forall_and] at hes'
    obtain ⟨t, hcontext, hproceeds', hrest⟩ :=
      ih (hc.of_defines hdone hes'.1) hes'.2
    rw [defineAliases, hpass]
    simp only [hlt, if_true]
    exact ⟨t, hcontext, hproceeds.trans hproceeds', hrest⟩
  | case3 c es c' rest hpass hle =>
    obtain ⟨s, hcontext, hproceeds⟩ := aliasPass_proceeds hc hes
    rw [hpass] at hcontext hproceeds
    obtain ⟨rfl, rfl, hall⟩ := aliasPass_stuck hc hes hpass (Nat.le_of_not_lt hle)
    rw [defineAliases, hpass]
    simp only [hle, if_false]
    refine ⟨s, hcontext, hproceeds, fun rest hrest e he => ?_⟩
    obtain rfl := Except.ok.inj hrest
    have hs : c'.registry = s := congrArg Context.registry hcontext
    exact hs ▸ hall e he

/-! ## Complete tables -/

/-- Some entries are registered, and all others are put off in the end. -/
structure Completes (r : Registry) (es : List (String × String)) (s : Registry)
    (done rest : List (String × String)) : Prop where
  defines : r.Defines done s
  perm : es.Perm (done ++ rest)
  delays : ∀ e ∈ rest, s.Delays e

namespace Completes

variable {done done' rest' : List (String × String)}

theorem done_subset (h : Completes r es s done rest) : done ⊆ es := fun _ he =>
  h.perm.mem_iff.2 (List.mem_append_left _ he)

theorem holds (h : Completes r es s done rest) (hes : ∀ e ∈ es, IsPlainAlias e) :
    ∀ e ∈ done, s.Holds e :=
  h.defines.holds fun e he => hes e (h.done_subset he)

theorem settles (h : Completes r es s done rest) (hes : ∀ e ∈ es, IsPlainAlias e) :
    s.Settles es := by
  intro e he
  rcases List.mem_append.1 (h.perm.mem_iff.1 he) with he | he
  · exact .inl (h.holds hes e he)
  · exact .inr (h.delays e he)

theorem mem_done_iff (h : Completes r es s done rest) (hes : ∀ e ∈ es, IsPlainAlias e)
    {e : String × String} : e ∈ done ↔ e ∈ es ∧ e ∉ rest := by
  rw [h.perm.mem_iff, List.mem_append]
  refine ⟨fun he => ⟨.inl he, fun hrest => ?_⟩, fun he => he.1.resolve_right he.2⟩
  exact (h.holds hes e he).not_delays (h.delays e hrest)

/-- Other passes over the table get no further, and meet no fault. -/
theorem widens_of_proceeds (h : Completes r es t done rest) (hes : ∀ e ∈ es, IsPlainAlias e)
    (g : Proceeds r es s outcome) : Widens s t ∧ ∃ rest', outcome = .ok rest' := by
  have hsettles := h.settles hes
  have hrt := h.defines.widens fun e he => hes e (h.done_subset he)
  cases g with
  | left hdone hperm =>
    have hsub : _ ⊆ es := fun e he => hperm.mem_iff.2 (List.mem_append_left _ he)
    exact ⟨hsettles.widens_of_defines hdone hsub hrt, _, rfl⟩
  | refused hdone hsub he hrefuses =>
    exact absurd hrefuses
      (hsettles.not_refuses he (hsettles.widens_of_defines hdone hsub hrt))

/-- What is left are the entries that are put off in the end. -/
theorem perm_rest (h : Completes r es s done rest) (hes : ∀ e ∈ es, IsPlainAlias e)
    (p : String × String → Prop) [DecidablePred p] (hp : ∀ e ∈ es, p e ↔ s.Delays e) :
    (es.filter p).Perm rest := by
  have hdone : done.filter p = [] := by
    rw [List.filter_eq_nil_iff]
    intro e he hpe
    rw [decide_eq_true_eq, hp e (h.done_subset he)] at hpe
    exact (h.holds hes e he).not_delays hpe
  have hrest : rest.filter p = rest := by
    rw [List.filter_eq_self]
    intro e he
    rw [decide_eq_true_eq, hp e (h.perm.mem_iff.2 (List.mem_append_right _ he))]
    exact h.delays e he
  have hfilter := h.perm.filter fun e => decide (p e)
  rwa [List.filter_append, hdone, hrest, List.nil_append] at hfilter

end Completes

/-- The table is complete if there is no fault. -/
theorem exists_completes (hc : c.Ready) (hes : ∀ e ∈ es, IsPlainAlias e)
    (h : (defineAliases c es).2 = .ok rest) :
    ∃ s done, (defineAliases c es).1 = { c with registry := s } ∧
      Completes c.registry es s done rest := by
  obtain ⟨s, hcontext, hproceeds, hdelays⟩ := defineAliases_proceeds hc hes
  rw [h] at hproceeds
  obtain ⟨hdefines, hperm⟩ := hproceeds
  exact ⟨s, _, hcontext, hdefines, hperm, hdelays rest h⟩

/-- If there is no fault in one order, there is none in another. -/
theorem exists_ok_of_perm (hc : c.Ready) (hes : ∀ e ∈ es, IsPlainAlias e) (hperm : es.Perm es')
    (h : (defineAliases c es).2 = .ok rest) : ∃ rest', (defineAliases c es').2 = .ok rest' := by
  have hes' : ∀ e ∈ es', IsPlainAlias e := fun e he => hes e (hperm.mem_iff.2 he)
  obtain ⟨s, done, -, hcomplete⟩ := exists_completes hc hes h
  obtain ⟨t, -, hproceeds, -⟩ := defineAliases_proceeds hc hes'
  exact (hcomplete.widens_of_proceeds hes (hproceeds.of_perm hperm.symm)).2

/-- **The order of a table of aliases makes no difference.**  The entries have plain names and, like
the aliases that are there already, no maps in their targets.  Then the passes come to an end after
one more than there are entries.  There is a fault in any order or in none.  If there is none, the
same entries are left in any order, up to their own order; the aliases are those that were there
before and all entries that are not left, in some order; and every entry that is left is still
refused because its target is not known. -/
theorem defineAliases_perm (hc : c.Ready) (hes : ∀ e ∈ es, IsPlainAlias e) (hperm : es.Perm es') :
    let x := defineAliases c es
    let y := defineAliases c es'
    defineAliasesWithin (es.length + 1) c es = some x ∧
      ((∃ fault, x.2 = .error fault) ↔ ∃ fault, y.2 = .error fault) ∧
      ∀ rest, x.2 = .ok rest →
        (∃ rest', y.2 = .ok rest' ∧ rest.Perm rest') ∧
          (∃ aliases, x.1.registry.aliases.Alike aliases ∧
            y.1 = { x.1 with registry := { x.1.registry with aliases := aliases } }) ∧
          (∀ n target, x.1.registry.target? n = some target ↔ c.registry.target? n = some target ∨
            ∃ e ∈ es, e ∉ rest ∧ e.1 = n ∧ Text.strip e.2 = target) ∧
          ∀ e ∈ rest, x.1.defineAlias e.1 e.2 =
            (x.1, .error (.type (.unknownTarget e.1 (Text.strip e.2)))) := by
  intro x y
  have hes' : ∀ e ∈ es', IsPlainAlias e := fun e he => hes e (hperm.mem_iff.2 he)
  refine ⟨defineAliasesWithin_eq (Nat.lt_succ_self _), ?_, fun rest hrest => ?_⟩
  · cases hx : x.2 with
    | ok rest =>
      obtain ⟨rest', hy⟩ := exists_ok_of_perm hc hes hperm hx
      simp [show y.2 = _ from hy]
    | error fault =>
      refine iff_of_true ⟨fault, rfl⟩ ?_
      cases hy : y.2 with
      | ok rest' =>
        obtain ⟨rest, hx'⟩ := exists_ok_of_perm hc hes' hperm.symm hy
        exact absurd (hx.symm.trans hx') (by simp)
      | error fault' => exact ⟨fault', rfl⟩
  -- the registries at the end, and what each of them says about the other
  obtain ⟨rest', hrest'⟩ := exists_ok_of_perm hc hes hperm hrest
  obtain ⟨s, done, hx, hs⟩ := exists_completes hc hes hrest
  obtain ⟨t, done', hy, ht⟩ := exists_completes hc hes' hrest'
  have hst : Widens s t :=
    (ht.widens_of_proceeds hes' (.left hs.defines (hperm.symm.trans hs.perm))).1
  have hts : Widens t s :=
    (hs.widens_of_proceeds hes (.left ht.defines (hperm.trans ht.perm))).1
  refine ⟨⟨rest', hrest', ?perm⟩, ⟨t.aliases, ?alike, ?context⟩, ?targets, ?refused⟩
  case perm =>
    classical
    have hleft := hs.perm_rest hes s.Delays fun _ _ => Iff.rfl
    have hleft' := ht.perm_rest hes' s.Delays fun e he =>
      ⟨(ht.settles hes').delays he hts, (hs.settles hes).delays (hperm.mem_iff.2 he) hst⟩
    exact hleft.symm.trans ((hperm.filter _).trans hleft')
  case alike => exact hx ▸ hst.alike_aliases hts
  case context =>
    have hregistry : t = { s with aliases := t.aliases } := calc
      t = { c.registry with aliases := t.aliases } := ht.defines.eq_putAliases
      _ = { s with aliases := t.aliases } := by rw [hs.defines.eq_putAliases]
    rw [show x.1 = _ from hx, show y.1 = _ from hy]
    exact congrArg (fun r => ({ c with registry := r } : Context)) hregistry
  case targets =>
    intro n target
    rw [show x.1.registry = s from congrArg Context.registry hx, hs.defines.target?_eq_some_iff]
    simp only [hs.mem_done_iff hes, and_assoc]
  case refused =>
    intro e he
    have hmem : e ∈ es := hs.perm.mem_iff.2 (List.mem_append_right _ he)
    rw [show x.1 = { c with registry := s } from hx]
    exact (hc.of_defines hs.defines fun e he => hes e (hs.done_subset he)).defineAlias_of_delays
      (hes e hmem).target (hs.delays e he)

/-- Four entries are registered in three passes or in one, and a fifth is left in any order. -/
theorem defineAliases_perm_shelves :
    let c := Context.configured []
      [.definePrimitive "uuid" "string" {}, .defineAlias "Key" " uuid "]
    let es := [("Shelf", "[]BookId | int"), ("BookId", "Id"), ("Cover", "Image | nil"),
      ("Page", "int"), ("Id", "Key")]
    let x := defineAliases c es
    let y := defineAliases c es.reverse
    (c.Ready ∧ ∀ e ∈ es, IsPlainAlias e) ∧
      x.2 = .ok [("Cover", "Image | nil")] ∧
      x.1.registry.aliases.keys = ["Key", "Page", "Id", "BookId", "Shelf"] ∧
      y.1.registry.aliases.keys = ["Key", "Id", "Page", "BookId", "Shelf"] ∧
      x.1.registry.aliases.Alike y.1.registry.aliases ∧
      (∃ rest, y.2 = .ok rest ∧ [("Cover", "Image | nil")].Perm rest) ∧
      x.1.defineAlias "Cover" "Image | nil" =
        (x.1, .error (.type (.unknownTarget "Cover" "Image | nil"))) := by
  intro c es x y
  have hc : c.Ready := ⟨by decide +kernel, by decide +kernel⟩
  have hes : ∀ e ∈ es, IsPlainAlias e := by decide +kernel
  have hx : x.2 = .ok [("Cover", "Image | nil")] := by decide +kernel
  obtain ⟨-, -, hok⟩ := defineAliases_perm hc hes es.reverse_perm.symm
  obtain ⟨hleft, ⟨aliases, halike, hy⟩, -, hrefused⟩ := hok _ hx
  refine ⟨⟨hc, hes⟩, hx, by decide +kernel, by decide +kernel, ?_, hleft, ?_⟩
  · have hy' : y.1.registry.aliases = aliases := congrArg (fun c => c.registry.aliases) hy
    exact hy' ▸ halike
  · have hstrip : Text.strip "Image | nil" = "Image | nil" := by decide +kernel
    have hcover := hrefused _ (List.mem_singleton.2 rfl)
    simpa only [hstrip] using hcover

/-- The order counts if an alias that is there already stands for a map, since its map type takes a
name when its target is read, also if the entry is put off then. -/
theorem defineAliases_order_of_map :
    let c := (({} : Context).defineType Imports.bundled.classes "map[string]Shelf" (.class (.declared 0))).1
    let es := [("map_string_Shelf", "int"), ("Shelf", "int"), ("Books", "Example")]
    (∀ e ∈ es, IsPlainAlias e) ∧
      c.registry.aliases.entries = [("Example", "map[string]Shelf")] ∧
      (defineAliases c es).2 = .ok [] ∧
      (defineAliases c es.reverse).2 = .error (.type (.conflict "map_string_Shelf")) := by
  decide +kernel

end Config

end RouteDoc
