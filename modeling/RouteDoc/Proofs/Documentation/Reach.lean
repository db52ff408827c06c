import RouteDoc.Proofs.Documentation.Rebuild

/-!
# What a name reaches

Collecting a name stops at names that are collected already.  It still comes to all that the name
reaches, if the collection is closed.

* `TypeCollection.Collects`: the collection of names as a recursion, which collects all that a
  definition refers to before it goes on.  `collects_iff`: it comes to its end, whatever cycles there
  are, with what `TypeCollection.collect` gives.
* `TypeCollection.Closed`: the names that collected definitions refer to are collected, or rightly
  noted as missing.
* `TypeCollection.Gains`: what a collection gains by the names that some names need.
* `TypeCollection.Closed.gains_collect`: a closed collection gains all of them.
  `Closed.of_collects`: it is closed again.
* `Documentation.addType_gains`: **collecting a name gains exactly what the name reaches.**
-/

namespace RouteDoc

namespace TypeCollection

variable {defs : Dict String Definition} {c c' : TypeCollection} {todo rest roots : List String}
  {n m : String} {d : Definition}

/-! ## The recursion -/

/-- Some names are collected one after the other, each with all that its definition refers to before
the next one. -/
inductive Collects (defs : Dict String Definition) :
    List String → TypeCollection → TypeCollection → Prop
  | nil (c : TypeCollection) : Collects defs [] c c
  | collected {n : String} {rest : List String} {c c' : TypeCollection} : n ∈ c.types.keys →
      Collects defs rest c c' → Collects defs (n :: rest) c c'
  | undefined {n : String} {rest : List String} {c c' : TypeCollection} : n ∉ c.types.keys →
      defs.get? n = none → Collects defs rest (c.miss n) c' → Collects defs (n :: rest) c c'
  | defined {n : String} {rest : List String} {d : Definition} {c c₁ c' : TypeCollection} :
      n ∉ c.types.keys → defs.get? n = some d →
      Collects defs d.dependents { c with types := c.types.put n d } c₁ →
      Collects defs rest c₁ c' → Collects defs (n :: rest) c c'

/-- Names are collected in two parts, the second from where the first ends. -/
theorem collect_append (defs : Dict String Definition) (todo rest : List String)
    (c : TypeCollection) : c.collect defs (todo ++ rest) = (c.collect defs todo).collect defs rest := by
  induction todo, c using collect.induct defs with
  | case1 c => rw [List.nil_append, collect]
  | case2 n todo c hc ih => rw [List.cons_append, collect_of_contains hc, collect_of_contains hc, ih]
  | case3 n todo c hc hd ih =>
    rw [List.cons_append, collect_of_eq_none hc hd, collect_of_eq_none hc hd, ih]
  | case4 n todo c hc d hd _ ih =>
    rw [List.cons_append, collect_of_eq_some hc hd, collect_of_eq_some hc hd, ← List.append_assoc, ih]

theorem Collects.exists_of_append (h : Collects defs (todo ++ rest) c c') :
    ∃ c₁, Collects defs todo c c₁ ∧ Collects defs rest c₁ c' := by
  induction todo generalizing c with
  | nil => exact ⟨c, .nil c, h⟩
  | cons n todo ih =>
    cases h with
    | collected hn h =>
      obtain ⟨c₁, hfirst, hrest⟩ := ih h
      exact ⟨c₁, .collected hn hfirst, hrest⟩
    | undefined hn hd h =>
      obtain ⟨c₁, hfirst, hrest⟩ := ih h
      exact ⟨c₁, .undefined hn hd hfirst, hrest⟩
    | defined hn hd hdep h =>
      obtain ⟨c₁, hfirst, hrest⟩ := ih h
      exact ⟨c₁, .defined hn hd hdep hfirst, hrest⟩

theorem collects_collect (defs : Dict String Definition) (todo : List String) (c : TypeCollection) :
    Collects defs todo c (c.collect defs todo) := by
  induction todo, c using collect.induct defs with
  | case1 c =>
    rw [collect]
    exact .nil c
  | case2 n rest c hc ih =>
    rw [collect_of_contains hc]
    exact .collected (Dict.contains_iff.1 hc) ih
  | case3 n rest c hc hd ih =>
    rw [collect_of_eq_none hc hd]
    exact .undefined (mt Dict.contains_iff.2 hc) hd ih
  | case4 n rest c hc d hd _ ih =>
    rw [collect_of_eq_some hc hd]
    obtain ⟨c₁, hdep, hrest⟩ := ih.exists_of_append
    exact .defined (mt Dict.contains_iff.2 hc) hd hdep hrest

/-- The recursion comes to its end, with one result. -/
theorem collects_iff : Collects defs todo c c' ↔ c' = c.collect defs todo := by
  constructor
  · intro h
    induction h with
    | nil c => rw [collect]
    | collected hn _ ih => rw [ih, collect_of_contains (Dict.contains_iff.2 hn)]
    | undefined hn hd _ ih => rw [ih, collect_of_eq_none (mt Dict.contains_iff.1 hn) hd]
    | defined hn hd _ _ ihdep ihrest =>
      rw [ihrest, ihdep, ← collect_append, collect_of_eq_some (mt Dict.contains_iff.1 hn) hd]
  · rintro rfl
    exact collects_collect defs todo c

/-! ## Needed names only -/

/-- What a collection keeps when a needed name is noted or collected, it has in the end. -/
theorem collect_induct_needed {P : TypeCollection → Prop}
    (undefined : ∀ n c, Needed defs todo n → defs.get? n = none → P c → P (c.miss n))
    (defined : ∀ n c d, Needed defs todo n → n ∉ c.types.keys → defs.get? n = some d → P c →
      P { c with types := c.types.put n d })
    (h : P c) : P (c.collect defs todo) := by
  have hend : (∀ n ∈ [], Needed defs todo n) ∧ P (c.collect defs todo) :=
    collect_induct (P := fun names c => (∀ n ∈ names, Needed defs todo n) ∧ P c)
      ?collected ?undefined ?defined ⟨fun n hn => .root hn, h⟩
  · exact hend.2
  case collected => exact fun k names c _ h => ⟨fun n hn => h.1 n (List.mem_cons_of_mem k hn), h.2⟩
  case undefined =>
    rintro k names c - hd ⟨hnames, hc⟩
    exact ⟨fun n hn => hnames n (List.mem_cons_of_mem k hn),
      undefined k c (hnames k List.mem_cons_self) hd hc⟩
  case defined =>
    rintro k names c d hk hd ⟨hnames, hc⟩
    have hneeded := hnames k List.mem_cons_self
    refine ⟨fun n hn => ?_, defined k c d hneeded hk hd hc⟩
    rcases List.mem_append.1 hn with hn | hn
    · exact .dependent hneeded hd hn
    · exact hnames n (List.mem_cons_of_mem k hn)

/-- What is collected stays, in its place. -/
theorem types_prefix_collect : c.types.entries <+: (c.collect defs todo).types.entries :=
  collect_induct_needed (P := fun c' => c.types.entries <+: c'.types.entries)
    (fun n c' _ _ h => types_miss c' n ▸ h)
    (fun n _ d _ hn _ h => h.trans ⟨[(n, d)], (Dict.entries_put_of_not_mem hn).symm⟩)
    (List.prefix_refl _)

/-- What comes in is the definition of a needed name. -/
theorem get?_types_collect_or (h : (c.collect defs todo).types.get? n = some d) :
    c.types.get? n = some d ∨ Needed defs todo n ∧ defs.get? n = some d := by
  refine collect_induct_needed (P := fun c' => ∀ n d, c'.types.get? n = some d →
    c.types.get? n = some d ∨ Needed defs todo n ∧ defs.get? n = some d) ?_ ?_
    (fun _ _ h => .inl h) n d h
  · exact fun k c' _ _ hc n d h => hc n d (types_miss c' k ▸ h)
  · intro k c' e hneeded _ he hc n d h
    rw [Dict.get?_put] at h
    split at h
    · rename_i hkn
      exact .inr ⟨hkn ▸ hneeded, by rw [← hkn, he, h]⟩
    · exact hc n d h

/-- The names that are noted are needed and have no definition, and each is noted once. -/
theorem exists_missing_collect (defs : Dict String Definition) (todo : List String)
    (c : TypeCollection) : ∃ new, (c.collect defs todo).missing = c.missing ++ new ∧ new.Nodup ∧
      ∀ n ∈ new, Needed defs todo n ∧ n ∉ c.missing ∧ defs.get? n = none := by
  refine collect_induct_needed (P := fun c' => ∃ new, c'.missing = c.missing ++ new ∧ new.Nodup ∧
    ∀ n ∈ new, Needed defs todo n ∧ n ∉ c.missing ∧ defs.get? n = none) ?_
    (fun _ _ _ _ _ _ h => h) ⟨[], by simp⟩
  rintro k c' hneeded hd ⟨new, heq, hnodup, hnew⟩
  unfold miss
  split
  · exact ⟨new, heq, hnodup, hnew⟩
  · rename_i hk
    rw [heq, List.mem_append, not_or] at hk
    refine ⟨new ++ [k], by rw [heq, List.append_assoc], ?_, fun n hn => ?_⟩
    · exact List.nodup_append.2 ⟨hnodup, by simp, fun a ha b hb hab => hk.2 (by simp_all)⟩
    · rcases List.mem_append.1 hn with hn | hn
      · exact hnew n hn
      · obtain rfl := List.mem_singleton.1 hn
        exact ⟨hneeded, hk.1, hd⟩

/-! ## All needed names -/

/-- A name is collected, or it is noted as missing and has no definition. -/
def Settles (defs : Dict String Definition) (c : TypeCollection) (n : String) : Prop :=
  n ∈ c.types.keys ∨ n ∈ c.missing ∧ defs.get? n = none

theorem Settles.miss (h : c.Settles defs m) (n : String) : (c.miss n).Settles defs m :=
  h.imp (fun h => types_miss c n ▸ h) fun h => ⟨mem_missing_miss_iff.2 (.inr h.1), h.2⟩

theorem Settles.put (h : c.Settles defs m) (n : String) (d : Definition) :
    ({ c with types := c.types.put n d } : TypeCollection).Settles defs m :=
  h.imp_left fun h => Dict.mem_keys_put.2 (.inr h)

/-- What is settled stays settled. -/
theorem Collects.settles_of_settles (h : Collects defs todo c c') (hm : c.Settles defs m) :
    c'.Settles defs m := by
  induction h with
  | nil => exact hm
  | collected _ _ ih => exact ih hm
  | undefined _ _ _ ih => exact ih (hm.miss _)
  | defined _ _ _ _ ihdep ihrest => exact ihrest (ihdep (hm.put _ _))

/-- The names that are collected are settled then. -/
theorem Collects.settles_of_mem (h : Collects defs todo c c') (hm : m ∈ todo) :
    c'.Settles defs m := by
  induction h with
  | nil => exact absurd hm List.not_mem_nil
  | collected hn hrest ih =>
    rcases List.mem_cons.1 hm with rfl | hm
    · exact hrest.settles_of_settles (.inl hn)
    · exact ih hm
  | undefined hn hd hrest ih =>
    rcases List.mem_cons.1 hm with rfl | hm
    · exact hrest.settles_of_settles (.inr ⟨mem_missing_miss_iff.2 (.inl rfl), hd⟩)
    · exact ih hm
  | defined hn hd hdep hrest _ ihrest =>
    rcases List.mem_cons.1 hm with rfl | hm
    · exact hrest.settles_of_settles
        (hdep.settles_of_settles (.inl (Dict.mem_keys_put.2 (.inl rfl))))
    · exact ihrest hm

/-- A type that comes in is the definition of its name, and the names that it refers to are settled
in the end: they are collected right after it, before anything else. -/
theorem Collects.get?_types_or (h : Collects defs todo c c') (he : c'.types.get? n = some d) :
    c.types.get? n = some d ∨
      defs.get? n = some d ∧ ∀ m ∈ d.dependents, c'.Settles defs m := by
  induction h with
  | nil => exact .inl he
  | collected _ _ ih => exact ih he
  | undefined _ _ _ ih => exact types_miss _ _ ▸ ih he
  | @defined k _ e _ _ _ _ hd hdep hrest ihdep ihrest =>
    rcases ihrest he with he | he
    · rcases ihdep he with he | ⟨hn, hsettled⟩
      · rw [Dict.get?_put] at he
        split at he
        · rename_i hkn
          obtain rfl := Option.some.inj he
          exact .inr ⟨hkn ▸ hd, fun m hm => hrest.settles_of_settles (hdep.settles_of_mem hm)⟩
        · exact .inl he
      · exact .inr ⟨hn, fun m hm => hrest.settles_of_settles (hsettled m hm)⟩
    · exact .inr he

/-! ## Closed collections -/

/-- The collected types are the definitions of their names, and all names that they refer to are
settled. -/
structure Closed (defs : Dict String Definition) (c : TypeCollection) : Prop where
  definition : ∀ n d, c.types.get? n = some d → defs.get? n = some d
  dependents : ∀ n d, c.types.get? n = some d → ∀ m ∈ d.dependents, c.Settles defs m

theorem closed_empty (defs : Dict String Definition) : Closed defs {} where
  definition n d h := absurd h (by simp [Dict.get?, Dict.findIn])
  dependents n d h := absurd h (by simp [Dict.get?, Dict.findIn])

theorem Closed.of_collects (hc : Closed defs c) (h : Collects defs todo c c') : Closed defs c' where
  definition n d hd := (h.get?_types_or hd).elim (hc.definition n d) And.left
  dependents n d hd m hm := by
    rcases h.get?_types_or hd with hd | ⟨-, hsettled⟩
    · exact h.settles_of_settles (hc.dependents n d hd m hm)
    · exact hsettled m hm

/-- A closed collection has settled all that its settled names need. -/
theorem Closed.settles_of_needed (hc : Closed defs c) (hroots : ∀ n ∈ roots, c.Settles defs n)
    (h : Needed defs roots n) : c.Settles defs n := by
  induction h with
  | root h => exact hroots _ h
  | @dependent k m d _ hd hm ih =>
    rcases ih with hk | ⟨-, hnone⟩
    · obtain ⟨e, he⟩ := Dict.exists_get?_of_mem_keys hk
      obtain rfl := Option.some.inj (hd.symm.trans (hc.definition k e he))
      exact hc.dependents k d he m hm
    · exact absurd hnone (by simp [hd])

/-- A collection gains the definitions of the names that some names need, and notes those that have
none. -/
structure Gains (defs : Dict String Definition) (roots : List String) (c c' : TypeCollection) :
    Prop where
  kept : c.types.entries <+: c'.types.entries
  types : ∀ n d, c'.types.get? n = some d ↔
    c.types.get? n = some d ∨ Needed defs roots n ∧ defs.get? n = some d
  missing : ∃ new, c'.missing = c.missing ++ new ∧ new.Nodup ∧
    ∀ n, n ∈ new ↔ Needed defs roots n ∧ n ∉ c.missing ∧ defs.get? n = none

/-- A closed collection gains all that the collected names need: no more than that comes in, and
what they need is settled in the end. -/
theorem Closed.gains_collect (hc : Closed defs c) (todo : List String) :
    Gains defs todo c (c.collect defs todo) := by
  have hcollects := collects_collect defs todo c
  have hclosed : Closed defs (c.collect defs todo) := hc.of_collects hcollects
  have hsettled : ∀ n, Needed defs todo n → (c.collect defs todo).Settles defs n := fun _ =>
    hclosed.settles_of_needed fun _ => hcollects.settles_of_mem
  obtain ⟨new, heq, hnodup, hnew⟩ := exists_missing_collect defs todo c
  refine ⟨types_prefix_collect, fun n d => ⟨get?_types_collect_or, ?_⟩, new, heq, hnodup,
    fun n => ⟨hnew n, ?_⟩⟩
  · rintro (h | ⟨hneeded, hd⟩)
    · exact Dict.get?_of_prefix types_prefix_collect h
    · have hn := (hsettled n hneeded).resolve_right fun h => by simp [hd] at h
      obtain ⟨e, he⟩ := Dict.exists_get?_of_mem_keys hn
      rwa [Option.some.inj (hd.symm.trans (hclosed.definition n e he))]
  · rintro ⟨hneeded, hmissing, hnone⟩
    rcases hsettled n hneeded with hn | ⟨hn, -⟩
    · obtain ⟨e, he⟩ := Dict.exists_get?_of_mem_keys hn
      exact absurd (hclosed.definition n e he) (by simp [hnone])
    · rw [heq] at hn
      exact (List.mem_append.1 hn).resolve_left hmissing

end TypeCollection

namespace Documentation

open TypeCollection

/-- **Collecting a name gains exactly what the name reaches**, if the collection is closed; and it is
closed again.  The recursion over definitions comes to its end, also where they refer to each
other, and nothing but the collection changes. -/
theorem addType_gains (d : Documentation) (n : String) (h : d.collection.Closed d.definitions) :
    (∀ c, Collects d.definitions [n] d.collection c ↔ c = (d.addType n).1.collection) ∧
      (d.addType n).1 = { d with collection := (d.addType n).1.collection } ∧
      Gains d.definitions [n] d.collection (d.addType n).1.collection ∧
      (d.addType n).1.collection.Closed d.definitions :=
  ⟨fun _ => collects_iff, rfl, h.gains_collect [n], h.of_collects (collects_collect _ _ _)⟩

/-- A type that is collected already, two types that refer to each other, through a map, and a name
without a definition. -/
theorem addType_gains_books : ∃ d : Documentation, d.collection.Closed d.definitions ∧
    d.collection.types.keys = ["Isbn"] ∧
    Gains d.definitions ["Book"] d.collection (d.addType "Book").1.collection ∧
    (d.addType "Book").1.collection.Closed d.definitions ∧
    (d.addType "Book").1.collection.types.keys = ["Isbn", "Book", "Author", "map_string_Book"] ∧
    (d.addType "Book").1.collection.missing = ["Publisher"] := by
  let d : Documentation :=
    { context := Context.configured {}
        [.definePrimitive "Isbn" "string" {},
          .defineType "Book" (.fields (Dict.ofList [("isbn", "Isbn"), ("author", "Author")])),
          .defineType "Author"
            (.fields (Dict.ofList [("books", "map[string]Book"), ("publisher", "*Publisher")])),
          .defineType "Page" (.fields (Dict.ofList [("book", "Book")]))] }
  have hisbn := (addType_gains d "Isbn" (closed_empty _)).2.2.2
  have hbook := addType_gains (d.addType "Isbn").1 "Book" hisbn
  exact ⟨(d.addType "Isbn").1, hisbn, by decide +kernel, hbook.2.2.1, hbook.2.2.2,
    by decide +kernel, by decide +kernel⟩

end Documentation

end RouteDoc
