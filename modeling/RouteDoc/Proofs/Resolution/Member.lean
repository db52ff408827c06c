import RouteDoc.Proofs.Resolution.Name
import RouteDoc.Proofs.Resolution.Reading
import Mathlib.Tactic.Push
import Mathlib.Tactic.Choose

/-!
# The members of what is read

What reading prints is a list of members, joined by bars: unions inside unions and inside arrays are
printed flat.

* `MapType.isPlainName_nameFor`: the names of map types are identifiers.
* `Registry.Member`: the descriptors that are no unions: words, registered and other names, names of
  map types, and arrays of these.  Their names have no blanks: `Member.namelike`.
* `Descriptor.HasMembers`: the members that the name of a descriptor lists.  They need no more
  declarations than the descriptor.  Their kind is that of the descriptor, except if the descriptor
  is an array of a union.
* `Registry.exists_members`: **whatever is read without a fault has members.**
-/

namespace RouteDoc

open Chars

/-! ## Names of map types -/

theorem Chars.isWord_of_mem_spellOut {s : List Char} {c : Char} (hc : c ∈ spellOut s) :
    isWord c = true := by
  fun_induction spellOut s with
  | case1 r ih =>
    rcases List.mem_append.1 hc with hc | hc
    · exact List.all_eq_true.1 (by decide : "Array".toList.all isWord = true) c hc
    · exact ih hc
  | case2 r ih =>
    rcases List.mem_append.1 hc with hc | hc
    · exact List.all_eq_true.1 (by decide : "Or".toList.all isWord = true) c hc
    · exact ih hc
  | case3 d r _ _ hd ih =>
    rcases List.mem_cons.1 hc with rfl | hc
    · exact hd
    · exact ih hc
  | case4 d r _ _ _ ih => exact ih hc
  | case5 => exact absurd hc (by simp)

namespace MapType

theorem toList_nameFor (key value : String) : (nameFor key value).toList =
    "map_".toList ++ (spellOut key.toList ++ ('_' :: spellOut value.toList)) := by
  simp [nameFor]

/-- No word begins like the name of a map type. -/
theorem startsWith_words : ∀ w ∈ Form.nothingWords ++ Form.anythingWords ++
    Form.scalarWords.map Prod.fst, startsWith w.toList "map_".toList = false := by
  decide

theorem startsWith_nameFor (key value : String) :
    startsWith (nameFor key value).toList "map_".toList = true := by
  rw [toList_nameFor, startsWith, List.isPrefixOf_iff_prefix]
  exact List.prefix_append _ _

/-- The name of a map type is an identifier that is no word with a meaning of its own. -/
theorem isPlainName_nameFor (key value : String) : Form.IsPlainName (nameFor key value) := by
  have hword : nameFor key value ∉ Form.nothingWords ++ Form.anythingWords ++
      Form.scalarWords.map Prod.fst := by
    intro h
    have := startsWith_words _ h
    rw [startsWith_nameFor] at this
    exact absurd this (by simp)
  simp only [List.mem_append, not_or] at hword
  refine ⟨?_, ?_, hword.1.1, hword.1.2⟩
  · rw [toList_nameFor]
    have hall : ∀ c ∈ "ap_".toList ++ (spellOut key.toList ++ ('_' :: spellOut value.toList)),
        isWord c = true := by
      intro c hc
      simp only [List.mem_append, List.mem_cons] at hc
      rcases hc with hc | hc | rfl | hc
      · exact List.all_eq_true.1 (by decide : "ap_".toList.all isWord = true) c hc
      · exact isWord_of_mem_spellOut hc
      · decide
      · exact isWord_of_mem_spellOut hc
    have hm : (isAsciiLetter 'm' || 'm' == '_') = true := by decide
    refine Bool.and_eq_true_iff.2 ⟨hm, List.all_eq_true.2 fun c hc => ?_⟩
    rw [hall c hc, Bool.true_or]
  · rw [← Option.not_isSome_iff_eq_none, Option.isSome_iff_exists]
    rintro ⟨n, hn⟩
    obtain ⟨l₁, l₂, hl, -⟩ := List.lookup_eq_some_iff.1 hn
    exact hword.2 (List.mem_map.2 ⟨(nameFor key value, n), by rw [hl]; simp, rfl⟩)

end MapType

/-! ## The kind of a union -/

namespace Descriptor

variable {m n : Descriptor} {ms ns : List Descriptor} {k : Kind}

theorem kind_union_of_forall (hne : ms ≠ []) (h : ∀ m ∈ ms, m.kind = k) : (union ms).kind = k := by
  cases ms with
  | nil => exact absurd rfl hne
  | cons m ms =>
    have hm := h m List.mem_cons_self
    have hall : ms.all (·.kind == m.kind) = true := by
      rw [List.all_eq_true]
      exact fun n hn => beq_iff_eq.2 ((h n (List.mem_cons_of_mem m hn)).trans hm.symm)
    simp only [union, if_pos hall]
    exact hm

theorem kind_union_of_ne (hm : m ∈ ms) (hn : n ∈ ms) (h : m.kind ≠ n.kind) :
    (union ms).kind = .any := by
  cases ms with
  | nil => exact absurd hm (by simp)
  | cons a ms =>
    have hall : ms.all (·.kind == a.kind) = false := by
      rw [List.all_eq_false]
      by_cases hma : m.kind = a.kind
      · have hna : n.kind ≠ a.kind := fun hna => h (hma.trans hna.symm)
        rcases List.mem_cons.1 hn with rfl | hn
        · exact absurd rfl hna
        · exact ⟨n, hn, by simpa using hna⟩
      · rcases List.mem_cons.1 hm with rfl | hm
        · exact absurd rfl hma
        · exact ⟨m, hm, by simpa using hma⟩
    simp [union, hall]

/-- The members of a union agree in their kind, or the union is of any kind. -/
theorem kind_union_cases (hne : ms ≠ []) :
    (∀ m ∈ ms, m.kind = (union ms).kind) ∨
      ((union ms).kind = .any ∧ ∃ m ∈ ms, ∃ n ∈ ms, m.kind ≠ n.kind) := by
  by_cases h : ∃ m ∈ ms, ∃ n ∈ ms, m.kind ≠ n.kind
  · obtain ⟨m, hm, n, hn, hmn⟩ := h
    exact .inr ⟨kind_union_of_ne hm hn hmn, m, hm, n, hn, hmn⟩
  · push Not at h
    obtain ⟨a, ha⟩ := List.exists_mem_of_ne_nil ms hne
    have hall : ∀ m ∈ ms, m.kind = a.kind := fun m hm => h m hm a ha
    rw [kind_union_of_forall hne hall]
    exact .inl hall

theorem kind_union_singleton (m : Descriptor) : (union [m]).kind = m.kind :=
  kind_union_of_forall (by simp) (by simp)

/-! ## Members -/

theorem name_arrayOf (d : Descriptor) : d.arrayOf.name = d.name ++ "[]" := rfl

/-- The members that the name of a descriptor lists, from left to right. -/
structure HasMembers (d : Descriptor) (ms : List Descriptor) : Prop where
  ne_nil : ms ≠ []
  name_eq : d.name = Text.joinWith " | " (ms.map name)
  dependents_subset : ∀ m ∈ ms, m.dependents ⊆ d.dependents
  /-- The kind of the members, or an array of a union of which only the last member is an array. -/
  kind_cases : d.kind = (union ms).kind ∨
    (d.kind = .array ∧ (∃ m ∈ ms, m.kind = .array) ∧ ∃ m ∈ ms, m.kind ≠ .array)

theorem hasMembers_singleton (d : Descriptor) : d.HasMembers [d] where
  ne_nil := by simp
  name_eq := by simp [Text.joinWith, Chars.joinWith]
  dependents_subset := by simp
  kind_cases := .inl (kind_union_singleton d).symm

end Descriptor

theorem mem_mergeInto {names ns : List String} {n : String} :
    n ∈ mergeInto names ns ↔ n ∈ names ∨ n ∈ ns := by
  induction ns generalizing names with
  | nil => simp [mergeInto]
  | cons a ns ih =>
    rw [mergeInto, ih, List.mem_cons]
    split
    · rename_i ha
      constructor
      · exact Or.imp_right .inr
      · rintro (h | rfl | h)
        · exact .inl h
        · exact .inl ha
        · exact .inr h
    · rw [List.mem_append, List.mem_singleton, or_assoc]

theorem count_mergeInto (names ns : List String) (n : String) :
    (mergeInto names ns).count n = max (names.count n) (if n ∈ ns then 1 else 0) := by
  induction ns generalizing names with
  | nil => simp [mergeInto]
  | cons m ns ih =>
    rw [mergeInto, ih]
    by_cases hm : n = m
    · subst hm
      rw [if_pos List.mem_cons_self]
      split
      · rename_i hn
        have hcount := List.count_pos_iff.2 hn
        split <;> omega
      · rename_i hn
        have hcount := List.count_eq_zero.2 hn
        rw [List.count_append, List.count_singleton_self]
        split <;> omega
    · have hcount : (if m ∈ names then names else names ++ [m]).count n = names.count n := by
        split
        · rfl
        · rw [List.count_append, List.count_singleton, if_neg (by simpa using Ne.symm hm),
            Nat.add_zero]
      simp only [hcount, List.mem_cons, hm, false_or]

theorem nodup_mergeInto {names ns : List String} (h : names.Nodup) :
    (mergeInto names ns).Nodup := by
  induction ns generalizing names with
  | nil => exact h
  | cons n ns ih =>
    rw [mergeInto]
    refine ih ?_
    split
    · exact h
    · rename_i hn
      exact List.nodup_append.2 ⟨h, by simp, fun a ha b hb hab => by
        rw [List.mem_singleton.1 hb] at hab
        exact hn (hab ▸ ha)⟩

theorem nodup_mergeNames (lists : List (List String)) : (mergeNames lists).Nodup :=
  nodup_mergeInto List.nodup_nil

theorem perm_mergeInto {names names' : List String} (h : names.Perm names') (ns : List String) :
    (mergeInto names ns).Perm (mergeInto names' ns) := by
  rw [List.perm_iff_count] at h ⊢
  intro n
  rw [count_mergeInto, count_mergeInto, h]

/-- Names are merged in any order. -/
theorem mergeInto_comm (names ns ms : List String) :
    (mergeInto (mergeInto names ns) ms).Perm (mergeInto (mergeInto names ms) ns) := by
  rw [List.perm_iff_count]
  intro n
  rw [count_mergeInto, count_mergeInto, count_mergeInto, count_mergeInto, Nat.max_assoc,
    Nat.max_assoc, Nat.max_comm (if n ∈ ns then 1 else 0)]

theorem mem_mergeNames {lists : List (List String)} {n : String} :
    n ∈ mergeNames lists ↔ ∃ l ∈ lists, n ∈ l := by
  simp [mergeNames, mem_mergeInto]

namespace Descriptor

/-- The marks of an array stand behind the last member. -/
theorem HasMembers.arrayOf {d m : Descriptor} {init : List Descriptor}
    (h : d.HasMembers (init ++ [m])) : d.arrayOf.HasMembers (init ++ [m.arrayOf]) where
  ne_nil := by simp
  name_eq := by
    rw [name_arrayOf, h.name_eq]
    simp only [List.map_append, List.map_cons, List.map_nil]
    rcases init with _ | ⟨a, init⟩
    · simp only [List.map_nil, List.nil_append, Text.joinWith_singleton]
      rfl
    · rw [Text.joinWith_append (by simp) (by simp), Text.joinWith_append (by simp) (by simp),
        Text.joinWith_singleton, Text.joinWith_singleton, String.append_assoc]
      rfl
  dependents_subset := by
    intro a ha
    rcases List.mem_append.1 ha with ha | ha
    · exact h.dependents_subset a (List.mem_append_left _ ha)
    · obtain rfl := List.mem_singleton.1 ha
      exact h.dependents_subset m (by simp)
  kind_cases := by
    by_cases hall : ∀ a ∈ init ++ [m.arrayOf], a.kind = .array
    · exact .inl (kind_union_of_forall (by simp) hall).symm
    · push Not at hall
      exact .inr ⟨rfl, ⟨m.arrayOf, by simp, rfl⟩, hall⟩

/-- The members of a union are those of the descriptors in it. -/
theorem hasMembers_union {ι : Type} {xs : List ι} {D : ι → Descriptor} {M : ι → List Descriptor}
    (hne : xs ≠ []) (h : ∀ x ∈ xs, (D x).HasMembers (M x)) :
    (union (xs.map D)).HasMembers (xs.flatMap M) where
  ne_nil := by
    obtain ⟨x, hx⟩ := List.exists_mem_of_ne_nil xs hne
    intro hnil
    exact (h x hx).ne_nil (List.flatMap_eq_nil_iff.1 hnil x hx)
  name_eq := by
    have hname : (union (xs.map D)).name = Text.joinWith " | " ((xs.map D).map name) := rfl
    rw [hname, List.map_map, List.map_flatMap,
      ← Text.joinWith_flatMap fun x hx => by simpa using (h x hx).ne_nil]
    exact congrArg _ (List.map_congr_left fun x hx => (h x hx).name_eq)
  dependents_subset := by
    intro m hm n hn
    obtain ⟨x, hx, hm⟩ := List.mem_flatMap.1 hm
    refine mem_mergeNames.2 ⟨(D x).dependents, ?_, (h x hx).dependents_subset m hm hn⟩
    exact List.mem_map_of_mem (List.mem_map_of_mem hx)
  kind_cases := by
    have hneM : xs.flatMap M ≠ [] := by
      obtain ⟨x, hx⟩ := List.exists_mem_of_ne_nil xs hne
      exact fun hnil => (h x hx).ne_nil (List.flatMap_eq_nil_iff.1 hnil x hx)
    have hneD : xs.map D ≠ [] := by simpa using hne
    rcases kind_union_cases hneM with hall | ⟨hany, m, hm, n, hn, hmn⟩
    · -- all members agree, so none of the descriptors is an array of a mixed union
      refine .inl (kind_union_of_forall hneD fun d hd => ?_)
      obtain ⟨x, hx, rfl⟩ := List.mem_map.1 hd
      have hMx : ∀ m ∈ M x, m.kind = (union (xs.flatMap M)).kind :=
        fun m hm => hall m (List.mem_flatMap.2 ⟨x, hx, hm⟩)
      rcases (h x hx).kind_cases with hk | ⟨-, ⟨a, ha, hka⟩, b, hb, hkb⟩
      · rw [hk, kind_union_of_forall (h x hx).ne_nil hMx]
      · exact absurd ((hMx b hb).trans ((hMx a ha).symm.trans hka)) hkb
    · rcases kind_union_cases hneD with hall | ⟨hK, -⟩
      · by_cases hK : (union (xs.map D)).kind = .any
        · exact .inl (hK.trans hany.symm)
        -- a member of another kind than all descriptors comes from an array of a mixed union
        have hmix : ∃ x ∈ xs, ∃ b ∈ M x, b.kind ≠ (union (xs.map D)).kind := by
          by_contra hno
          push Not at hno
          have hk : ∀ b ∈ xs.flatMap M, b.kind = (union (xs.map D)).kind := by
            intro b hb
            obtain ⟨x, hx, hb⟩ := List.mem_flatMap.1 hb
            exact hno x hx b hb
          exact hmn ((hk m hm).trans (hk n hn).symm)
        obtain ⟨x, hx, b, hb, hbK⟩ := hmix
        have hDx : (D x).kind = (union (xs.map D)).kind := hall _ (List.mem_map_of_mem hx)
        rcases (h x hx).kind_cases with hk | ⟨harr, ⟨a, ha, hka⟩, c, hc, hkc⟩
        · rcases kind_union_cases (h x hx).ne_nil with hMx | ⟨hMany, -⟩
          · exact absurd ((hMx b hb).trans (hk.symm.trans hDx)) hbK
          · exact absurd (hDx.symm.trans (hk.trans hMany)) hK
        · exact .inr ⟨hDx.symm.trans harr, ⟨a, List.mem_flatMap.2 ⟨x, hx, ha⟩, hka⟩,
            c, List.mem_flatMap.2 ⟨x, hx, hc⟩, hkc⟩
      · exact .inl (hK.trans hany.symm)

end Descriptor

namespace Registry

/-- The descriptors that are printed without a bar, for the map types of a reading. -/
inductive Member (r : Registry) (maps : List MapType) : Descriptor → Prop
  | nothing : Member r maps .nothing
  | anything : Member r maps .anything
  | primitive {n : String} : Form.of r n = .primitive n → Member r maps ⟨.scalar, n, [n]⟩
  | scalar {w n : String} : Form.scalarName? w = some n → Member r maps ⟨.scalar, n, []⟩
  | named {n : String} : Form.of r n = .named n → Member r maps ⟨.object, n, [n]⟩
  | map {k v : Descriptor} : .ofParts k v ∈ maps →
      Member r maps ⟨.object, MapType.nameFor k.name v.name, [MapType.nameFor k.name v.name]⟩
  | array {d : Descriptor} : Member r maps d → Member r maps d.arrayOf

variable {r : Registry} {maps maps' : List MapType} {d m : Descriptor}

theorem Member.mono (h : r.Member maps m) (hs : maps ⊆ maps') : r.Member maps' m := by
  induction h with
  | nothing => exact .nothing
  | anything => exact .anything
  | primitive h => exact .primitive h
  | scalar h => exact .scalar h
  | named h => exact .named h
  | map h => exact .map (hs h)
  | array _ ih => exact .array ih

theorem Member.namelike (hm : r.Member maps m) (hr : r.IdentifierPrimitives) :
    Namelike m.name.toList := by
  induction hm with
  | nothing => decide
  | anything => decide
  | primitive h => exact namelike_of_isIdentifier (hr _ (Form.of_eq_primitive h).2)
  | scalar h =>
    obtain ⟨p, hp, rfl⟩ := Form.exists_of_scalarName? h
    exact (Form.scalarWords_closed p hp).1
  | named h => exact namelike_of_isIdentifier (Form.of_eq_named h).2
  | map h => exact namelike_of_isIdentifier (MapType.isPlainName_nameFor _ _).isIdentifier
  | @array d _ ih =>
    rw [Descriptor.name_arrayOf, Form.toList_append_marks]
    exact ih.append_marks

theorem solid_of_members {ms : List Descriptor} (hr : r.IdentifierPrimitives)
    (hms : ∀ m ∈ ms, r.Member maps m) : ∀ p ∈ ms.map Descriptor.name, Solid p.toList := by
  intro p hp
  obtain ⟨m, hm, rfl⟩ := List.mem_map.1 hp
  exact ((hms m hm).namelike hr).solid

/-- **Whatever is read without a fault has members.** -/
theorem exists_members {seen : List String} {e : String}
    (h : r.readFrom seen e = ⟨maps, .ok d⟩) :
    ∃ ms, (∀ m ∈ ms, r.Member maps m) ∧ d.HasMembers ms := by
  -- a descriptor that is a member itself
  have single : ∀ {maps : List MapType} {d : Descriptor}, r.Member maps d →
      ∃ ms, (∀ m ∈ ms, r.Member maps m) ∧ d.HasMembers ms :=
    fun hd => ⟨[_], by simpa using hd, Descriptor.hasMembers_singleton _⟩
  refine readFrom_ok_induct (motive := fun _ maps d =>
    ∃ ms, (∀ m ∈ ms, r.Member maps m) ∧ d.HasMembers ms)
    ?union ?nothing ?anything ?primitive ?aliasOf ?pointer ?array ?map ?scalar ?named h
  case union =>
    intro e rs hf ih
    choose! M hM hd using ih
    have hne : rs ≠ [] := by
      rintro rfl
      exact absurd (Form.of_eq_union hf) (by simp)
    refine ⟨rs.flatMap M, fun m hm => ?_, Descriptor.hasMembers_union hne hd⟩
    obtain ⟨x, hx, hm⟩ := List.mem_flatMap.1 hm
    exact (hM x hx m hm).mono fun a ha => List.mem_flatMap.2 ⟨x, hx, ha⟩
  case nothing => exact fun _ _ => single .nothing
  case anything => exact fun _ _ => single .anything
  case primitive =>
    intro e n hf
    obtain ⟨rfl, -⟩ := Form.of_eq_primitive hf
    exact single (.primitive hf)
  case aliasOf => exact fun _ _ _ _ _ _ ih => ih
  case pointer => exact fun _ _ _ _ _ ih => ih
  case array =>
    intro e item maps d _ ih
    obtain ⟨ms, hms, hd⟩ := ih
    rcases List.eq_nil_or_concat ms with rfl | ⟨init, m, rfl⟩
    · exact absurd rfl hd.ne_nil
    rw [List.concat_eq_append] at hms hd
    refine ⟨init ++ [m.arrayOf], fun a ha => ?_, hd.arrayOf⟩
    rcases List.mem_append.1 ha with ha | ha
    · exact hms a (List.mem_append_left _ ha)
    · obtain rfl := List.mem_singleton.1 ha
      exact .array (hms m (by simp))
  case map =>
    intro e key value ms ns k v _ _ _ _ _
    refine ⟨[⟨.object, MapType.nameFor k.name v.name, [MapType.nameFor k.name v.name]⟩], ?_,
      by simp, ?_, ?_, .inl rfl⟩
    · simpa only [List.mem_singleton, forall_eq] using Member.map (by simp)
    · rw [List.map_singleton, Text.joinWith_singleton]
      rfl
    · intro m hm n hn
      obtain rfl := List.mem_singleton.1 hm
      exact mem_mergeNames.2 ⟨[MapType.nameFor k.name v.name], List.mem_cons_self, hn⟩
  case scalar => exact fun _ _ hf => single (.scalar (Form.of_eq_scalar hf))
  case named =>
    intro e n hf
    obtain ⟨rfl, -⟩ := Form.of_eq_named hf
    exact single (.named hf)

end Registry

end RouteDoc
