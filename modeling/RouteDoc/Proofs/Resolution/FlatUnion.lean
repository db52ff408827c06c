import RouteDoc.Proofs.Resolution.Canonical

/-!
# Unions inside unions

A union that is a member of another one reads like its members in place of it: nothing of the inner
union is left.

* `Reading.bind_assoc`, `Reading.all_flatten`: readings inside readings.
* `mergeInto_mergeInto`: names that were merged before can be merged at once.
* `Descriptor.union_map_rejoin`: a union of unions is the union of all members.
* `Reading.join`: what pieces that are joined by bars read as, see `Registry.read_joinWith`.
* `Reading.union_map_join`: **a union of joined pieces reads like all pieces joined**.
-/

namespace RouteDoc

open Chars

/-! ## Readings inside readings -/

namespace Reading

variable {α β γ : Type}

theorem pure_bind (a : α) (f : α → Reading β) : (Reading.pure a).bind f = f a := rfl

theorem bind_pure (x : Reading α) : x.bind .pure = x := by
  obtain ⟨maps, fault | a⟩ := x
  · rfl
  · simp [Reading.bind, Reading.pure]

theorem bind_assoc (x : Reading α) (f : α → Reading β) (g : β → Reading γ) :
    (x.bind f).bind g = x.bind fun a => (f a).bind g := by
  obtain ⟨maps, fault | a⟩ := x
  · rfl
  · simp only [Reading.bind]
    cases (f a).outcome <;> simp [List.append_assoc]

/-- Only what is read without a fault matters to what comes next. -/
theorem bind_congr {x : Reading α} {f g : α → Reading β}
    (h : ∀ maps a, x = ⟨maps, .ok a⟩ → f a = g a) : x.bind f = x.bind g := by
  obtain ⟨maps, fault | a⟩ := x
  · rfl
  · simp only [Reading.bind, h maps a rfl]

theorem all_append (xs ys : List (Reading α)) :
    all (xs ++ ys) = (all xs).bind fun as => (all ys).bind fun bs => .pure (as ++ bs) := by
  induction xs with
  | nil => exact (bind_pure (all ys)).symm
  | cons x xs ih => simp only [List.cons_append, all, ih, bind_assoc, pure_bind]

theorem all_flatten (xss : List (List (Reading α))) :
    all xss.flatten = (all (xss.map all)).bind fun ass => .pure ass.flatten := by
  induction xss with
  | nil => rfl
  | cons xs xss ih =>
    simp only [List.flatten_cons, all_append, ih, List.map_cons, all, bind_assoc, pure_bind]

theorem all_map_bind_pure {ι : Type} (f : ι → Reading α) (g : α → β) (xs : List ι) :
    all (xs.map fun x => (f x).bind fun a => .pure (g a)) =
      (all (xs.map f)).bind fun as => .pure (as.map g) := by
  induction xs with
  | nil => rfl
  | cons x xs ih => simp only [List.map_cons, all, ih, bind_assoc, pure_bind]

theorem length_of_all {xs : List (Reading α)} {maps : List MapType} {as : List α}
    (h : all xs = ⟨maps, .ok as⟩) : as.length = xs.length := by
  rw [← List.map_id xs] at h
  obtain ⟨rs, hxs, -, -, rfl⟩ := exists_of_all_map_eq_ok h
  rw [hxs, List.length_map, List.length_map]

end Reading

/-! ## Names that are merged -/

theorem mergeInto_append (names ns ms : List String) :
    mergeInto names (ns ++ ms) = mergeInto (mergeInto names ns) ms := by
  induction ns generalizing names with
  | nil => rfl
  | cons n ns ih => rw [List.cons_append, mergeInto, ih, mergeInto]

/-- Names that were merged before can be merged at once. -/
theorem mergeInto_mergeInto (names ns ms : List String) :
    mergeInto names (mergeInto ns ms) = mergeInto (mergeInto names ns) ms := by
  induction ms generalizing ns with
  | nil => rfl
  | cons m ms ih =>
    rw [mergeInto, ih, mergeInto]
    congr 1
    split
    · rename_i hm
      rw [if_pos (mem_mergeInto.2 (.inr hm))]
    · rw [mergeInto_append]
      rfl

theorem mergeInto_mergeNames (names : List String) (lists : List (List String)) :
    mergeInto names (mergeNames lists) = mergeInto names lists.flatten :=
  mergeInto_mergeInto names [] lists.flatten

/-! ## Unions of unions -/

namespace Descriptor

variable {dss : List (List Descriptor)}

theorem kind_union_map_rejoin (hne : ∀ ds ∈ dss, ds ≠ []) :
    (union (dss.map rejoin)).kind = (union dss.flatten).kind := by
  rcases dss.eq_nil_or_concat with rfl | ⟨init, last, hdss⟩
  · rfl
  have hdss_ne : dss.map rejoin ≠ [] := by simp [hdss]
  have hflat : dss.flatten ≠ [] := by
    obtain ⟨ds, hds⟩ := List.exists_mem_of_ne_nil dss (by simpa using hdss_ne)
    exact fun hnil => hne ds hds (List.flatten_eq_nil_iff.1 hnil ds hds)
  rcases kind_union_cases hflat with hall | ⟨hany, m, hm, n, hn, hmn⟩
  · refine kind_union_of_forall hdss_ne fun d hd => ?_
    obtain ⟨ds, hds, rfl⟩ := List.mem_map.1 hd
    rw [kind_rejoin]
    exact kind_union_of_forall (hne ds hds) fun m hm => hall m (List.mem_flatten.2 ⟨ds, hds, hm⟩)
  · rw [hany]
    rcases kind_union_cases hdss_ne with hall | ⟨hany', -⟩
    · by_contra hK
      -- the unions inside agree in a kind that their members have, too
      have hkind : ∀ m ∈ dss.flatten, m.kind = (union (dss.map rejoin)).kind := by
        intro m hm
        obtain ⟨ds, hds, hm⟩ := List.mem_flatten.1 hm
        have hds' := hall (rejoin ds) (List.mem_map_of_mem hds)
        rw [kind_rejoin] at hds'
        rcases kind_union_cases (hne ds hds) with hall' | ⟨hany', -⟩
        · exact (hall' m hm).trans hds'
        · exact absurd (hds'.symm.trans hany') hK
      exact hmn ((hkind m hm).trans (hkind n hn).symm)
    · exact hany'

theorem mergeInto_dependents_rejoin (names : List String) (ds : List Descriptor) :
    mergeInto names (rejoin ds).dependents = mergeInto names (ds.map dependents).flatten := by
  unfold rejoin
  split
  · simp
  · exact mergeInto_mergeNames names _

theorem dependents_union_map_rejoin (dss : List (List Descriptor)) :
    (union (dss.map rejoin)).dependents = (union dss.flatten).dependents := by
  have key : ∀ names, mergeInto names ((dss.map rejoin).map dependents).flatten =
      mergeInto names (dss.flatten.map dependents).flatten := by
    induction dss with
    | nil => exact fun _ => rfl
    | cons ds dss ih =>
      intro names
      simp only [List.map_cons, List.flatten_cons, List.map_append, List.flatten_append,
        mergeInto_append, mergeInto_dependents_rejoin, ih]
  exact key []

theorem rejoin_of_one_lt {ds : List Descriptor} (h : 1 < ds.length) : rejoin ds = union ds := by
  unfold rejoin
  split
  · exact absurd h (by simp)
  · rfl

theorem rejoin_flatten (hlen : 1 < dss.length) (hne : ∀ ds ∈ dss, ds ≠ []) :
    rejoin dss.flatten = union dss.flatten := by
  rcases dss with _ | ⟨ds, _ | ⟨es, dss⟩⟩
  · exact absurd hlen (by simp)
  · exact absurd hlen (by simp)
  · have hds := List.length_pos_iff.2 (hne ds (by simp))
    have hes := List.length_pos_iff.2 (hne es (by simp))
    refine rejoin_of_one_lt ?_
    simp only [List.flatten_cons, List.length_append]
    omega

theorem name_union_map_rejoin (hne : ∀ ds ∈ dss, ds ≠ []) :
    (union (dss.map rejoin)).name = (union dss.flatten).name := by
  have hmap : (dss.map rejoin).map name =
      dss.map fun ds => Text.joinWith " | " (ds.map name) := by
    rw [List.map_map]
    exact List.map_congr_left fun ds _ => name_rejoin ds
  simp only [union, hmap, List.map_flatten]
  rw [Text.joinWith_flatMap fun ds hds => by simpa using hne ds hds, List.flatMap_def]

/-- A union of unions is the union of all members. -/
theorem union_map_rejoin (hne : ∀ ds ∈ dss, ds ≠ []) :
    union (dss.map rejoin) = union dss.flatten := by
  have hkind := kind_union_map_rejoin hne
  have hname := name_union_map_rejoin hne
  have hdependents := dependents_union_map_rejoin dss
  generalize union (dss.map rejoin) = d at *
  generalize union dss.flatten = d' at *
  cases d
  cases d'
  simp_all

end Descriptor

namespace Reading

/-- What pieces that are joined by bars read as: one piece as itself, several as a union. -/
def join (xs : List (Reading Descriptor)) : Reading Descriptor :=
  (all xs).bind fun ds => .pure (.rejoin ds)

theorem join_singleton (x : Reading Descriptor) : join [x] = x := by
  simp only [join, all, pure_bind, bind_assoc]
  exact bind_pure x

/-- **A union of joined pieces reads like all pieces joined.** -/
theorem union_map_join {xss : List (List (Reading Descriptor))} (hlen : 1 < xss.length)
    (hne : ∀ xs ∈ xss, xs ≠ []) :
    ((all (xss.map join)).bind fun ds => .pure (.union ds)) = join xss.flatten := by
  have hjoin : all (xss.map join) = (all (xss.map all)).bind fun dss =>
      .pure (dss.map Descriptor.rejoin) := all_map_bind_pure all Descriptor.rejoin xss
  rw [hjoin, join, all_flatten]
  simp only [bind_assoc, pure_bind]
  refine bind_congr fun maps dss h => ?_
  obtain ⟨rs, hxss, hrs, -, hdss⟩ := exists_of_all_map_eq_ok h
  have hds : ∀ ds ∈ dss, ds ≠ [] := by
    intro ds hds
    obtain ⟨x, hx, rfl⟩ := List.mem_map.1 (hdss ▸ hds)
    have hlen := length_of_all (hrs x hx)
    have hx' := hne x.1 (hxss ▸ List.mem_map_of_mem hx)
    intro hnil
    rw [hnil, List.length_nil] at hlen
    exact hx' (List.eq_nil_of_length_eq_zero hlen.symm)
  have hlong : 1 < dss.length := by rwa [hdss, List.length_map, ← List.length_map, ← hxss]
  rw [Descriptor.union_map_rejoin hds, Descriptor.rejoin_flatten hlong hds]

end Reading

namespace Registry

/-- Pieces without blanks that are joined by bars read one by one. -/
theorem read_joinWith (r : Registry) {ps : List String} (hne : ps ≠ [])
    (hps : ∀ p ∈ ps, Solid p.toList) :
    r.read (Text.joinWith " | " ps) = Reading.join (ps.map (r.readFrom [])) := by
  rw [read, Text.strip_joinWith hps]
  rcases ps with _ | ⟨p, _ | ⟨q, ps⟩⟩
  · exact absurd rfl hne
  · rw [Text.joinWith_singleton, List.map_singleton, Reading.join_singleton]
  · rw [readFrom_union (form_joinWith (by simp) hps), Reading.join]
    refine Reading.bind_congr fun maps ds h => ?_
    have hlen := Reading.length_of_all h
    rw [Descriptor.rejoin_of_one_lt (by simp [hlen])]

end Registry

end RouteDoc
