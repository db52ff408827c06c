import RouteDoc.Proofs.Resolution.Hint

/-!
# Hints that lose their grouping

A mark in front of a union binds its first member, and no expression says otherwise.  This file
says what is lost by that: everything that a list or a dictionary over several types means.

* `Text.crossings`: how many closing brackets stand behind a bar, counted for each bar.
* `Text.Strays`: a text has more bars than another, or its brackets stand further to the front.
  Such texts are different, and a part that strays makes the whole stray.
* `Reading.listedName`: the name of the union of what is listed.
* `Hint.HasSense.strays`: it strays from the name of what is meant, if some list or dictionary goes
  over several types.
* `Hint.resolve_expression`: **when the expression for a hint resolves to what its structure
  gives**.
-/

namespace RouteDoc

open Chars

/-! ## Marks that stand too far in front -/

namespace Text

/-- The closing brackets behind each bar. -/
def crossingsIn : List Char → Nat
  | [] => 0
  | c :: s => (if c = '|' then s.count ']' else 0) + crossingsIn s

def bars (s : String) : Nat := s.toList.count '|'

def closings (s : String) : Nat := s.toList.count ']'

/-- The number of pairs of a bar and a closing bracket behind it. -/
def crossings (s : String) : Nat := crossingsIn s.toList

theorem bars_append (s t : String) : bars (s ++ t) = bars s + bars t := by
  simp [bars]

theorem closings_append (s t : String) : closings (s ++ t) = closings s + closings t := by
  simp [closings]

theorem crossings_append (s t : String) :
    crossings (s ++ t) = crossings s + crossings t + bars s * closings t := by
  simp only [crossings, bars, closings, String.toList_append]
  induction s.toList with
  | nil => simp [crossingsIn]
  | cons c s ih =>
    rw [List.cons_append, crossingsIn, crossingsIn, ih, List.count_append, List.count_cons]
    by_cases hc : c = '|'
    · simp only [hc, if_true, beq_self_eq_true, Nat.add_mul, Nat.one_mul]
      omega
    · simp only [hc, if_false, beq_iff_eq, Nat.zero_add, Nat.add_zero]

/-- The text `s` has more bars than `t`, or it has brackets further to the front. -/
def Strays (s t : String) : Prop :=
  bars t < bars s ∨ (bars t = bars s ∧ closings t = closings s ∧ crossings s < crossings t)

variable {s s' t t' : String}

theorem Strays.ne (h : Strays s t) : s ≠ t := by
  rintro rfl
  rcases h with h | ⟨-, -, h⟩ <;> exact absurd h (Nat.lt_irrefl _)

/-- A part that strays makes the whole stray. -/
theorem Strays.append_right (h : Strays s t) (h' : s' = t' ∨ Strays s' t') :
    Strays (s ++ s') (t ++ t') := by
  simp only [Strays, bars_append, closings_append, crossings_append]
  rcases h with h | ⟨hb, hc, h⟩
  · rcases h' with rfl | h' | ⟨hb', -, -⟩ <;> omega
  · rcases h' with rfl | h' | ⟨hb', hc', h'⟩
    · rw [hb, hc]
      omega
    · omega
    · rw [hb, hc, hb', hc']
      omega

theorem Strays.append_left (h : Strays s t) (h' : s' = t' ∨ Strays s' t') :
    Strays (s' ++ s) (t' ++ t) := by
  rcases h' with rfl | h'
  · simp only [Strays, bars_append, closings_append, crossings_append] at h ⊢
    rcases h with h | ⟨hb, hc, h⟩
    · omega
    · rw [hc, hb]
      omega
  · exact h'.append_right (.inr h)

theorem joinWith_cons_cons (sep s t : String) (ss : List String) :
    joinWith sep (s :: t :: ss) = s ++ (sep ++ joinWith sep (t :: ss)) := by
  have happend : joinWith sep ([s] ++ t :: ss) =
      joinWith sep [s] ++ sep ++ joinWith sep (t :: ss) := joinWith_append (by simp) (by simp)
  rwa [joinWith_singleton, String.append_assoc] at happend

/-- Joined parts stray, unless none of the parts does. -/
theorem eq_or_strays_joinWith {ι : Type} {sep : String} {xs : List ι} {f g : ι → String}
    (h : ∀ x ∈ xs, f x = g x ∨ Strays (f x) (g x)) :
    (∀ x ∈ xs, f x = g x) ∨ Strays (joinWith sep (xs.map f)) (joinWith sep (xs.map g)) := by
  induction xs with
  | nil => exact .inl fun _ hx => absurd hx List.not_mem_nil
  | cons x xs ih =>
    have hhead := h x List.mem_cons_self
    have htail := ih fun y hy => h y (List.mem_cons_of_mem x hy)
    cases xs with
    | nil => simpa [joinWith_singleton] using hhead
    | cons y ys =>
      simp only [List.map_cons, joinWith_cons_cons] at htail ⊢
      rcases htail with htail | htail
      · have hrest : (y :: ys).map f = (y :: ys).map g := List.map_congr_left htail
        rw [List.map_cons, List.map_cons] at hrest
        rcases hhead with hhead | hhead
        · exact .inl fun z hz => (List.mem_cons.1 hz).elim (fun hzx => hzx ▸ hhead) (htail z)
        · rw [hrest]
          exact .inr (hhead.append_right (.inl rfl))
      · exact .inr ((htail.append_left (.inl rfl)).append_left hhead)

/-- A mark on the first of several parts strays from the mark on all of them. -/
theorem strays_mark {u w : String} (h : s ++ (" | " ++ u) = w ∨ Strays (s ++ (" | " ++ u)) w) :
    Strays (s ++ "[]" ++ (" | " ++ u)) (w ++ "[]") := by
  have hmark : bars "[]" = 0 ∧ closings "[]" = 1 ∧ crossings "[]" = 0 := by decide
  have hbar : bars " | " = 1 ∧ closings " | " = 0 ∧ crossings " | " = 0 := by decide
  simp only [Strays, bars_append, closings_append, crossings_append, hmark, hbar, Nat.zero_add,
    Nat.add_zero, Nat.mul_one, Nat.one_mul] at h ⊢
  rcases h with rfl | h
  · simp only [bars_append, closings_append, crossings_append, hbar, Nat.zero_add, Nat.one_mul]
    exact .inr ⟨trivial, by omega, by omega⟩
  · omega

end Text

namespace Reading

variable {α β : Type}

/-- What the readings without a fault come to. -/
def values (xs : List (Reading α)) : List α := xs.filterMap (·.outcome.toOption)

theorem values_cons {x : Reading α} {a : α} (h : x.outcome = .ok a) (xs : List (Reading α)) :
    values (x :: xs) = a :: values xs := by
  simp [values, h, Except.toOption]

theorem outcome_bind_eq_ok_iff {x : Reading α} {f : α → Reading β} {b : β} :
    (x.bind f).outcome = .ok b ↔ ∃ a, x.outcome = .ok a ∧ (f a).outcome = .ok b := by
  obtain ⟨maps, fault | a⟩ := x <;> simp [Reading.bind]

theorem outcome_all_eq_ok_iff {xs : List (Reading α)} {as : List α} :
    (all xs).outcome = .ok as ↔ (∀ x ∈ xs, ∃ a, x.outcome = .ok a) ∧ as = values xs := by
  induction xs generalizing as with
  | nil => simp [all, Reading.pure, values, eq_comm]
  | cons x xs ih =>
    simp only [all, outcome_bind_eq_ok_iff, ih, List.forall_mem_cons]
    constructor
    · rintro ⟨a, ha, bs, ⟨hxs, rfl⟩, has⟩
      refine ⟨⟨⟨a, ha⟩, hxs⟩, ?_⟩
      rw [← Except.ok.inj has, values_cons ha]
    · rintro ⟨⟨⟨a, ha⟩, hxs⟩, rfl⟩
      refine ⟨a, ha, _, ⟨hxs, rfl⟩, ?_⟩
      rw [values_cons ha]
      rfl

end Reading

/-! ## Hints without grouping -/

theorem MapType.bars_nameFor (key value : String) : Text.bars (nameFor key value) = 0 :=
  List.count_eq_zero.2
    (not_mem_of_isIdentifier (isPlainName_nameFor key value).isIdentifier (by decide) (by decide))

namespace Reading

variable {x y : Reading Descriptor} {xs : List (Reading Descriptor)} {d d' : Descriptor}

/-- The name of the union of what the readings without a fault come to. -/
def listedName (xs : List (Reading Descriptor)) : String :=
  Text.joinWith " | " ((values xs).map Descriptor.name)

theorem listedName_cons_cons (hx : x.outcome = .ok d) (hy : y.outcome = .ok d') :
    listedName (x :: y :: xs) = d.name ++ (" | " ++ listedName (y :: xs)) := by
  rw [listedName, listedName, values_cons hx, values_cons hy, List.map_cons, List.map_cons,
    Text.joinWith_cons_cons]

theorem values_map {ι : Type} {hs : List ι} {f : ι → Reading Descriptor} {D : ι → Descriptor}
    (h : ∀ i ∈ hs, (f i).outcome = .ok (D i)) : values (hs.map f) = hs.map D := by
  induction hs with
  | nil => rfl
  | cons i hs ih =>
    rw [List.map_cons, values_cons (h i List.mem_cons_self), List.map_cons,
      ih fun j hj => h j (List.mem_cons_of_mem i hj)]

theorem listedName_flatMap {ι : Type} {hs : List ι} {f : ι → List (Reading Descriptor)}
    (hne : ∀ i ∈ hs, f i ≠ []) (hf : ∀ i ∈ hs, ∀ x ∈ f i, ∃ d, x.outcome = .ok d) :
    listedName (hs.flatMap f) = Text.joinWith " | " (hs.map fun i => listedName (f i)) := by
  have hvalues : values (hs.flatMap f) = hs.flatMap fun i => values (f i) :=
    List.filterMap_flatMap
  rw [listedName, hvalues, List.map_flatMap]
  refine (Text.joinWith_flatMap fun i hi => ?_).symm
  obtain ⟨x, hx⟩ := List.exists_mem_of_ne_nil _ (hne i hi)
  obtain ⟨d, hd⟩ := hf i hi x hx
  have hmem : d ∈ values (f i) := List.mem_filterMap.2 ⟨x, hx, by rw [hd]; rfl⟩
  exact List.ne_nil_of_mem (List.mem_map_of_mem hmem)

theorem outcome_arrayOf_eq_ok (h : x.arrayOf.outcome = .ok d) :
    ∃ e, x.outcome = .ok e ∧ d = e.arrayOf := by
  obtain ⟨e, he, hpure⟩ := outcome_bind_eq_ok_iff.1 h
  exact ⟨e, he, (Except.ok.inj hpure).symm⟩

theorem outcome_mapTo_eq_ok (h : (x.mapTo y).outcome = .ok d) :
    ∃ k v, x.outcome = .ok k ∧ y.outcome = .ok v ∧ d = .ofMap (.ofParts k v) := by
  obtain ⟨k, hk, hrest⟩ := outcome_bind_eq_ok_iff.1 h
  obtain ⟨v, hv, hlast⟩ := outcome_bind_eq_ok_iff.1 hrest
  obtain ⟨_, -, hpure⟩ := outcome_bind_eq_ok_iff.1 hlast
  exact ⟨k, v, hk, hv, (Except.ok.inj hpure).symm⟩

end Reading

namespace Hint

open Reading

variable {t : ClassTable} {r : Registry} {a b : Hint} {s : Sense} {d : Descriptor}

theorem HasSense.listed_ne_nil (hr : r.Unmarked) (h : HasSense t r a s) : s.listed ≠ [] :=
  (h.listedBy hr).ne_nil

/-- Some list or dictionary goes over several types, so several types are listed. -/
theorem HasSense.one_lt_length (hr : r.Unmarked) (h : HasSense t r a s) (hs : ¬ s.grouped) :
    1 < s.listed.length := by
  have haround : ∀ {a : Hint} {s : Sense} {f : Reading Descriptor → Reading Descriptor},
      HasSense t r a s → (¬ s.grouped → 1 < s.listed.length) → ¬ (s.around f).grouped →
        1 < (s.around f).listed.length := by
    intro a s f h ih hs
    have hpos := List.length_pos_iff.2 (h.listed_ne_nil hr)
    rw [Sense.around, List.length_modifyHead]
    by_cases hg : s.grouped
    · have hone : s.listed.length ≠ 1 := fun hone => hs ⟨hg, hone⟩
      omega
    · exact ih hg
  induction h with
  | of _ => exact absurd trivial hs
  | sequence _ h ih => exact haround h ih hs
  | dict _ h ih => exact haround h ih hs
  | optional _ _ ih => exact ih hs
  | @union isPlain members f hlen hmembers _ =>
    rw [Sense.union, List.flatMap_map]
    rcases hp : present members with _ | ⟨h, _ | ⟨h', hs⟩⟩
    · exact absurd (hp ▸ hlen) (by simp)
    · exact absurd (hp ▸ hlen) (by simp)
    · have hpos := List.length_pos_iff.2 ((hmembers h (by simp [hp])).listed_ne_nil hr)
      have hpos' := List.length_pos_iff.2 ((hmembers h' (by simp [hp])).listed_ne_nil hr)
      simp only [List.flatMap_cons, List.length_append]
      omega
  | annotated _ ih => exact ih hs

/-- A mark around a hint binds the first of several types. -/
theorem HasSense.exists_listed (hr : r.Unmarked) {f : Reading Descriptor → Reading Descriptor}
    (h : HasSense t r b (s.around f)) (hs : ¬ (s.around f).grouped)
    (hf : ∀ x d, (f x).outcome = .ok d → ∃ d, x.outcome = .ok d)
    (hlisted : ∀ x ∈ (s.around f).listed, ∃ d, x.outcome = .ok d) :
    ∃ x y xs, s.listed = x :: y :: xs ∧ (s.around f).listed = f x :: y :: xs ∧
      ∀ z ∈ s.listed, ∃ d, z.outcome = .ok d := by
  have hlen := h.one_lt_length hr hs
  rw [Sense.around, List.length_modifyHead] at hlen
  rcases hp : s.listed with _ | ⟨x, _ | ⟨y, xs⟩⟩
  · exact absurd (hp ▸ hlen) (by simp)
  · exact absurd (hp ▸ hlen) (by simp)
  · have haround : (s.around f).listed = f x :: y :: xs := by
      rw [Sense.around, hp, List.modifyHead_cons]
    rw [haround] at hlisted
    refine ⟨x, y, xs, rfl, haround, ?_⟩
    rintro z (_ | ⟨_, hz⟩)
    · obtain ⟨d, hd⟩ := hlisted (f x) List.mem_cons_self
      exact hf x d hd
    · exact hlisted z (List.mem_cons_of_mem _ hz)

/-- What is meant has the name of all that is listed, if each list and each dictionary goes over a
single type. -/
theorem HasSense.listedName_eq (hr : r.Unmarked) (h : HasSense t r a s) (hs : s.grouped)
    (hd : s.meant.outcome = .ok d) : listedName s.listed = d.name := by
  rw [← h.join_listed hr hs, join, outcome_bind_eq_ok_iff] at hd
  obtain ⟨ds, hds, hpure⟩ := hd
  obtain ⟨-, rfl⟩ := outcome_all_eq_ok_iff.1 hds
  rw [← Except.ok.inj hpure, Descriptor.name_rejoin]
  rfl

section Union

variable {hs : List Hint} {f : Hint → Sense}

theorem exists_of_union (hd : (Sense.union (hs.map f)).meant.outcome = .ok d) :
    ∀ h ∈ hs, ∃ e, (f h).meant.outcome = .ok e := by
  obtain ⟨ds, hds, -⟩ := outcome_bind_eq_ok_iff.1 hd
  rw [List.map_map] at hds
  exact fun h hh => (outcome_all_eq_ok_iff.1 hds).1 _ (List.mem_map_of_mem hh)

/-- A union strays, unless none of its members does. -/
theorem strays_union (hne : ∀ h ∈ hs, (f h).listed ≠ [])
    (hitems : ∀ h ∈ hs, ∀ x ∈ (f h).listed, ∃ d, x.outcome = .ok d)
    (hd : (Sense.union (hs.map f)).meant.outcome = .ok d)
    (hmember : ∀ h ∈ hs, ∀ e, (f h).meant.outcome = .ok e →
      listedName (f h).listed = e.name ∨ Text.Strays (listedName (f h).listed) e.name) :
    (∀ h ∈ hs, ∀ e, (f h).meant.outcome = .ok e → listedName (f h).listed = e.name) ∨
      Text.Strays (listedName (Sense.union (hs.map f)).listed) d.name := by
  have hD := exists_of_union hd
  choose! D hD using hD
  have hlisted : listedName (Sense.union (hs.map f)).listed =
      Text.joinWith " | " (hs.map fun h => listedName (f h).listed) := by
    rw [Sense.union, List.flatMap_map]
    exact listedName_flatMap hne hitems
  have hname : d.name = Text.joinWith " | " (hs.map fun h => (D h).name) := by
    obtain ⟨ds, hds, hpure⟩ := outcome_bind_eq_ok_iff.1 hd
    rw [List.map_map] at hds
    obtain ⟨-, rfl⟩ := outcome_all_eq_ok_iff.1 hds
    rw [← Except.ok.inj hpure, values_map (f := Sense.meant ∘ f) hD]
    simp only [Descriptor.union, List.map_map]
    rfl
  rw [hlisted, hname]
  refine (Text.eq_or_strays_joinWith fun h hh => hmember h hh (D h) (hD h hh)).imp_left ?_
  intro hall h hh e he
  rw [hall h hh, Except.ok.inj ((hD h hh).symm.trans he)]

end Union

/-- What is listed strays from what is meant, if some list or dictionary goes over several types. -/
theorem HasSense.strays (hr : r.Unmarked) (h : HasSense t r a s) (hs : ¬ s.grouped)
    (hlisted : ∀ x ∈ s.listed, ∃ d, x.outcome = .ok d) (hd : s.meant.outcome = .ok d) :
    Text.Strays (listedName s.listed) d.name := by
  have heq : ∀ {a : Hint} {s : Sense} {d : Descriptor}, HasSense t r a s →
      (¬ s.grouped → Text.Strays (listedName s.listed) d.name) → s.meant.outcome = .ok d →
      listedName s.listed = d.name ∨ Text.Strays (listedName s.listed) d.name := by
    intro a s d h ih hd
    by_cases hs : s.grouped
    · exact .inl (h.listedName_eq hr hs hd)
    · exact .inr (ih hs)
  induction h generalizing d with
  | of _ => exact absurd trivial hs
  | @sequence c item s hc hitem ih =>
    obtain ⟨e, he, rfl⟩ := outcome_arrayOf_eq_ok hd
    obtain ⟨x, y, xs, hxs, haround, hitems⟩ := (HasSense.sequence hc hitem).exists_listed hr hs
      (fun x d hx => (outcome_arrayOf_eq_ok hx).imp fun _ h => h.1) hlisted
    rw [haround] at hlisted ⊢
    obtain ⟨_, hx⟩ := hlisted _ List.mem_cons_self
    obtain ⟨_, hy⟩ := hlisted y (by simp)
    obtain ⟨m, hm, rfl⟩ := outcome_arrayOf_eq_ok hx
    have hname := heq hitem (fun hs => ih hs hitems he) he
    rw [hxs, listedName_cons_cons hm hy] at hname
    rw [listedName_cons_cons hx hy]
    exact Text.strays_mark hname
  | @dict key value s hk hvalue ih =>
    obtain ⟨k, v, -, hv, rfl⟩ := outcome_mapTo_eq_ok hd
    obtain ⟨x, y, xs, hxs, haround, hvalues⟩ := (HasSense.dict hk hvalue).exists_listed hr hs
      (fun x d hx => by
        obtain ⟨-, v, -, hv, -⟩ := outcome_mapTo_eq_ok hx
        exact ⟨v, hv⟩) hlisted
    rw [haround] at hlisted ⊢
    obtain ⟨_, hx⟩ := hlisted _ List.mem_cons_self
    obtain ⟨_, hy⟩ := hlisted y (by simp)
    rw [listedName_cons_cons hx hy]
    -- the name of a map has no bar in it
    refine .inl ?_
    have hbars : Text.bars (Descriptor.ofMap (.ofParts k v)).name = 0 :=
      MapType.bars_nameFor k.name v.name
    have hbar : Text.bars " | " = 1 := by decide
    rw [hbars, Text.bars_append, Text.bars_append, hbar]
    omega
  | optional _ _ ih => exact ih hs hlisted hd
  | @union isPlain members f hlen hmembers ih =>
    have hitems : ∀ h ∈ present members, ∀ x ∈ (f h).listed, ∃ d, x.outcome = .ok d :=
      fun h hh x hx => hlisted x (List.mem_flatMap.2 ⟨f h, List.mem_map_of_mem hh, hx⟩)
    refine (strays_union (fun h hh => (hmembers h hh).listed_ne_nil hr) hitems hd fun h hh e he =>
      heq (hmembers h hh) (fun hs => ih h hh hs (hitems h hh) he) he).resolve_left fun hall => ?_
    -- a member without grouping strays
    refine hs fun s' hs' => ?_
    obtain ⟨h, hh, rfl⟩ := List.mem_map.1 hs'
    obtain ⟨e, he⟩ := exists_of_union hd h hh
    by_contra hg
    exact (ih h hh hg (hitems h hh) he).ne (hall h hh e he)
  | annotated _ ih => exact ih hs hlisted hd

end Hint

/-! ## Resolution -/

namespace Registry

/-- Registers the map types of a reading, up to the first that conflicts. -/
def settle (r : Registry) (x : Reading Descriptor) : Registry × Except TypeFault Descriptor :=
  match r.register x.maps with
  | (r', .ok _) => (r', x.outcome)
  | (r', .error fault) => (r', .error fault)

theorem resolve_eq_settle (r : Registry) (e : String) : r.resolve e = r.settle (r.read e) := rfl

theorem outcome_of_settle {r : Registry} {x : Reading Descriptor} {d : Descriptor}
    (h : (r.settle x).2 = .ok d) : x.outcome = .ok d := by
  unfold settle at h
  split at h
  · exact h
  · exact absurd h (by simp)

end Registry

namespace Hint

open Reading

variable {t : ClassTable} {r : Registry} {a : Hint} {s : Sense}

theorem HasSense.read_expression (hr : r.Unmarked) (h : HasSense t r a s) :
    r.read (expression t r a) = join s.listed := by
  obtain ⟨ps, hne, hps, heq, hlisted⟩ := h.listedBy hr
  rw [heq, ← hlisted, r.read_joinWith hne fun p hp => (hps p hp).solid]

/-- **When the expression for a hint keeps its structure.**  It resolves to the union of the types
that it lists, where the marks of lists and dictionaries bind closer than the bars of unions.  So it
resolves to what the structure of the hint gives, if each list and each dictionary goes over a
single type, and to something else if one of them does not. -/
theorem resolve_expression (hr : r.Unmarked) (h : HasSense t r a s) :
    r.resolve (expression t r a) = r.settle (join s.listed) ∧
    (s.grouped → r.resolve (expression t r a) = r.settle s.meant) ∧
    ∀ d d', (r.resolve (expression t r a)).2 = .ok d → s.meant.outcome = .ok d' →
      (d = d' ↔ s.grouped) := by
  have hresolve : r.resolve (expression t r a) = r.settle (join s.listed) := by
    rw [Registry.resolve_eq_settle, h.read_expression hr]
  refine ⟨hresolve, fun hs => by rw [hresolve, h.join_listed hr hs], fun d d' hd hd' => ?_⟩
  have hjoin := Registry.outcome_of_settle (hresolve ▸ hd)
  constructor
  · rintro rfl
    by_contra hs
    obtain ⟨ds, hds, hpure⟩ := outcome_bind_eq_ok_iff.1 hjoin
    obtain ⟨hlisted, rfl⟩ := outcome_all_eq_ok_iff.1 hds
    have hname : d.name = listedName s.listed := by
      rw [← Except.ok.inj hpure, Descriptor.name_rejoin]
      rfl
    exact (h.strays hr hs hlisted hd').ne hname.symm
  · intro hs
    rw [h.join_listed hr hs, hd'] at hjoin
    exact (Except.ok.inj hjoin).symm

/-- A dictionary of lists of shelves that may be absent, or a number with a mark. -/
theorem resolve_expression_shelves :
    let r : Registry := ({} : Registry).bind (.declared 0) "Shelf"
    let shelf : Hint := .union false [.of (.declared 0), absent]
    let shelves : Hint := .generic .dict [.of (.builtin .str), .generic .list [shelf]]
    let number : Hint := .annotated (.of (.builtin .int)) 1
    let hint : Hint := .union false [shelves, number]
    r.Unmarked ∧ ∃ s, HasSense default r hint s ∧ s.grouped ∧
      r.resolve (expression default r hint) = r.settle s.meant ∧
      (r.settle s.meant).2 =
        .ok ⟨.any, "map_string_ShelfArray | integer", ["map_string_ShelfArray", "Shelf"]⟩ := by
  intro r shelf shelves number hint
  have hr : r.Unmarked := Registry.PlainNames.unmarked (by decide +kernel)
  have hscalar : ∀ b ∈ Builtin.scalars,
      Bare (ClassTable.typeExpression default r (.builtin b)).toList :=
    fun b hb => ClassTable.bare_of_scalar hb rfl
  have hname : Bare (ClassTable.typeExpression default r (.declared 0)).toList := by
    rw [ClassTable.typeExpression_of_className? (n := "Shelf") (by decide) (by decide +kernel)
      (by decide)]
    decide
  have hshelf : HasSense default r shelf _ := .optional rfl (.of hname)
  have hshelves : HasSense default r shelves _ :=
    .dict (hscalar .str (by decide)) (.sequence rfl hshelf)
  have hnumber : HasSense default r number _ := .annotated (.of (hscalar .int (by decide)))
  obtain ⟨s, hs, hgrouped⟩ : ∃ s, HasSense default r hint s ∧ s.grouped :=
    ⟨_, .union_pair rfl (by simp [shelves, number]) hshelves hnumber, by
      simp [Sense.union, Sense.around, Sense.single]⟩
  have heq := (resolve_expression hr hs).2.1 hgrouped
  refine ⟨hr, s, hs, hgrouped, heq, ?_⟩
  rw [← heq]
  decide +kernel

/-- A list of numbers and texts is not an array of a number or a text: the mark binds the number
only. -/
theorem resolve_list_of_union :
    let item : Hint := .union true [.of (.builtin .int), .of (.builtin .str)]
    let list : Hint := .generic .list [item]
    (({} : Registry).resolve (expression default {} item)).2 =
        .ok ⟨.scalar, "integer | string", []⟩ ∧
      (({} : Registry).resolve (expression default {} list)).2 =
        .ok ⟨.any, "integer[] | string", []⟩ ∧
      (⟨.any, "integer[] | string", []⟩ : Descriptor) ≠
        Descriptor.arrayOf ⟨.scalar, "integer | string", []⟩ := by
  decide +kernel

end Hint

end RouteDoc
