import RouteDoc.Schema.Resolve
import Mathlib.Logic.Relation

/-!
# Reading, form by form

* `Registry.readFrom_eq`: reading follows the form of an expression.
* `Registry.readFrom_ok_induct`: **what holds of every form holds of all that is read without a
  fault.**  The aliases on the way there do not matter.
* `Registry.Leads`, `Registry.Reaches`: the expressions that reading comes to on the way.
  `readFrom_eq_of_reaches`: reading depends on the forms of these only.
* `Registry.leads_induct`: what passes from the expressions that reading goes on with to one before
  them holds of all that is read without a fault.
* `Registry.mapWithin_of_mem_maps`: the map types met, and what their parts were read from.
* `Registry.ReadsAlike`: two registries with the same aliases, and narrowed built-in types under the
  same names.  `ReadsAlike.read_eq`: every expression reads the same in both.
-/

namespace RouteDoc

namespace Reading

variable {α β : Type}

theorem pure_eq_ok {a b : α} {maps : List MapType} :
    Reading.pure a = ⟨maps, .ok b⟩ ↔ maps = [] ∧ b = a := by
  simp [Reading.pure, eq_comm]

theorem meet_eq_ok {m : MapType} {maps : List MapType} {u : Unit} :
    meet m = ⟨maps, .ok u⟩ ↔ maps = [m] := by
  simp [meet, eq_comm]

theorem bind_eq_ok {x : Reading α} {f : α → Reading β} {maps : List MapType} {b : β} :
    x.bind f = ⟨maps, .ok b⟩ ↔
      ∃ a ms ns, x = ⟨ms, .ok a⟩ ∧ f a = ⟨ns, .ok b⟩ ∧ maps = ms ++ ns := by
  obtain ⟨ms, outcome⟩ := x
  cases outcome with
  | error fault => simp [Reading.bind]
  | ok a =>
    constructor
    · intro h
      simp only [Reading.bind, Reading.mk.injEq] at h
      obtain ⟨rfl, hf⟩ := h
      exact ⟨a, ms, (f a).maps, rfl, by rw [← hf], rfl⟩
    · rintro ⟨a', ms', ns, hx, hf, rfl⟩
      obtain ⟨rfl, ha⟩ := Reading.mk.injEq .. ▸ hx
      cases ha
      simp [Reading.bind, hf]

/-- Readings one after the other succeed if each of them does. -/
theorem exists_of_all_map_eq_ok {ι : Type} {f : ι → Reading α} {xs : List ι} {maps : List MapType}
    {as : List α} (h : all (xs.map f) = ⟨maps, .ok as⟩) :
    ∃ rs : List (ι × List MapType × α), xs = rs.map (·.1) ∧
      (∀ x ∈ rs, f x.1 = ⟨x.2.1, .ok x.2.2⟩) ∧ maps = rs.flatMap (·.2.1) ∧ as = rs.map (·.2.2) := by
  induction xs generalizing maps as with
  | nil =>
    obtain ⟨rfl, rfl⟩ := pure_eq_ok.1 h
    exact ⟨[], by simp⟩
  | cons x xs ih =>
    obtain ⟨a, ms, ns, hx, hrest, rfl⟩ := bind_eq_ok.1 h
    obtain ⟨as', ms', ns', hall, hpure, rfl⟩ := bind_eq_ok.1 hrest
    obtain ⟨rfl, rfl⟩ := pure_eq_ok.1 hpure
    obtain ⟨rs, rfl, hrs, rfl, rfl⟩ := ih hall
    refine ⟨(x, ms, a) :: rs, rfl, ?_, by simp, rfl⟩
    rintro y (_ | ⟨_, hy⟩)
    · exact hx
    · exact hrs y hy

theorem all_map_pure {ι : Type} (f : ι → α) (xs : List ι) :
    all (xs.map fun x => Reading.pure (f x)) = .pure (xs.map f) := by
  induction xs with
  | nil => rfl
  | cons x xs ih =>
    simp only [List.map_cons, all, ih]
    rfl

/-- The map types of two readings come from the first, or from the second if the first succeeds. -/
theorem mem_maps_bind {x : Reading α} {f : α → Reading β} {m : MapType}
    (h : m ∈ (x.bind f).maps) : m ∈ x.maps ∨ ∃ a, x = ⟨x.maps, .ok a⟩ ∧ m ∈ (f a).maps := by
  obtain ⟨ms, outcome⟩ := x
  cases outcome with
  | error fault => exact .inl h
  | ok a => exact (List.mem_append.1 h).imp_right fun h => ⟨a, rfl, h⟩

theorem mem_maps_all {xs : List (Reading α)} {m : MapType} (h : m ∈ (all xs).maps) :
    ∃ x ∈ xs, m ∈ x.maps := by
  induction xs with
  | nil => exact absurd h (by simp [all, Reading.pure])
  | cons x xs ih =>
    rcases mem_maps_bind h with h | ⟨a, -, h⟩
    · exact ⟨x, List.mem_cons_self, h⟩
    · rcases mem_maps_bind h with h | ⟨as, -, h⟩
      · obtain ⟨y, hy, h⟩ := ih h
        exact ⟨y, List.mem_cons_of_mem x hy, h⟩
      · exact absurd h (by simp [Reading.pure])

theorem outcome_bind_eq_error {x : Reading α} {f : α → Reading β} {fault : TypeFault}
    (h : (x.bind f).outcome = .error fault) :
    x.outcome = .error fault ∨ ∃ a, (f a).outcome = .error fault := by
  obtain ⟨maps, fault' | a⟩ := x
  · exact .inl (congrArg Except.error (Except.error.inj h))
  · exact .inr ⟨a, h⟩

theorem outcome_all_eq_error {xs : List (Reading α)} {fault : TypeFault}
    (h : (all xs).outcome = .error fault) : ∃ x ∈ xs, x.outcome = .error fault := by
  induction xs with
  | nil => exact absurd h (by simp [all, Reading.pure])
  | cons x xs ih =>
    rcases outcome_bind_eq_error h with h | ⟨a, h⟩
    · exact ⟨x, List.mem_cons_self, h⟩
    · rcases outcome_bind_eq_error h with h | ⟨as, h⟩
      · obtain ⟨y, hy, h⟩ := ih h
        exact ⟨y, List.mem_cons_of_mem x hy, h⟩
      · exact absurd h (by simp [Reading.pure])

end Reading

/-- The expressions that reading goes on with: the parts of a form, or what its alias stands for. -/
def Form.next : Form → List String
  | .aliasOf _ target => [target]
  | f => f.parts

theorem Form.mem_next_of_mem_parts {f : Form} {p : String} (h : p ∈ f.parts) : p ∈ f.next := by
  cases f with
  | aliasOf name target => exact absurd h List.not_mem_nil
  | _ => exact h

namespace Registry

/-- Reading, form by form. -/
theorem readFrom_eq (r : Registry) (seen : List String) (e : String) :
    r.readFrom seen e =
      match Form.of r e with
      | .union parts =>
        (Reading.all (parts.map (r.readFrom seen))).bind fun members => .pure (.union members)
      | .nothing => .pure .nothing
      | .anything => .pure .anything
      | .primitive name => .pure ⟨.scalar, name, [name]⟩
      | .aliasOf name target =>
        if name ∈ seen ∨ target = name then .fault (.aliasCycle name)
        else r.readFrom (name :: seen) target
      | .pointer inner => r.readFrom seen inner
      | .array item => (r.readFrom seen item).bind fun d => .pure (.arrayOf d)
      | .map key value =>
        (r.readFrom seen key).bind fun k =>
          (r.readFrom seen value).bind fun v =>
            (Reading.meet (.ofParts k v)).bind fun _ => .pure (.ofMap (.ofParts k v))
      | .malformedMap => .fault (.malformedMap e)
      | .scalar name => .pure ⟨.scalar, name, []⟩
      | .named name => .pure ⟨.object, name, [name]⟩
      | .invalid => .fault (.invalidExpression e) := by
  rw [readFrom]
  split <;> rename_i h <;> simp only [h, dite_eq_ite]
  simp only [List.map_attach_eq_pmap, List.pmap_eq_map]

theorem readFrom_union {r : Registry} {e : String} {parts : List String}
    (h : Form.of r e = .union parts) (seen : List String) : r.readFrom seen e =
      (Reading.all (parts.map (r.readFrom seen))).bind fun members => .pure (.union members) := by
  rw [readFrom_eq, h]

theorem readFrom_array {r : Registry} {e item : String} (h : Form.of r e = .array item)
    (seen : List String) :
    r.readFrom seen e = (r.readFrom seen item).bind fun d => .pure (.arrayOf d) := by
  rw [readFrom_eq, h]

/-- A map that is read without a fault has a key and a value that are. -/
theorem exists_parts_of_readFrom_map {r : Registry} {e key value : String} {seen : List String}
    {maps : List MapType} {d : Descriptor} (hf : Form.of r e = .map key value)
    (h : r.readFrom seen e = ⟨maps, .ok d⟩) :
    ∃ k v ms ns, r.readFrom seen key = ⟨ms, .ok k⟩ ∧ r.readFrom seen value = ⟨ns, .ok v⟩ ∧
      maps = ms ++ ns ++ [.ofParts k v] ∧ d = .ofMap (.ofParts k v) := by
  rw [readFrom_eq, hf] at h
  obtain ⟨k, ms, rest, hkey, hrest, rfl⟩ := Reading.bind_eq_ok.1 h
  obtain ⟨v, ns, last, hvalue, hlast, rfl⟩ := Reading.bind_eq_ok.1 hrest
  obtain ⟨_, met, ps, hmet, hpure, rfl⟩ := Reading.bind_eq_ok.1 hlast
  obtain ⟨rfl, rfl⟩ := Reading.pure_eq_ok.1 hpure
  obtain rfl := Reading.meet_eq_ok.1 hmet
  rw [List.append_nil, ← List.append_assoc]
  exact ⟨k, v, ms, ns, hkey, hvalue, rfl, rfl⟩

/-- Induction over what is read without a fault.  An alias or a pointer reads like what it stands
for, so the names followed on the way do not matter to what holds of the result. -/
theorem readFrom_ok_induct {r : Registry} {motive : String → List MapType → Descriptor → Prop}
    (union : ∀ e (rs : List (String × List MapType × Descriptor)),
      Form.of r e = .union (rs.map (·.1)) → (∀ x ∈ rs, motive x.1 x.2.1 x.2.2) →
      motive e (rs.flatMap (·.2.1)) (.union (rs.map (·.2.2))))
    (nothing : ∀ e, Form.of r e = .nothing → motive e [] .nothing)
    (anything : ∀ e, Form.of r e = .anything → motive e [] .anything)
    (primitive : ∀ e name, Form.of r e = .primitive name → motive e [] ⟨.scalar, name, [name]⟩)
    (aliasOf : ∀ e name target maps d, Form.of r e = .aliasOf name target →
      motive target maps d → motive e maps d)
    (pointer : ∀ e inner maps d, Form.of r e = .pointer inner →
      motive inner maps d → motive e maps d)
    (array : ∀ e item maps d, Form.of r e = .array item →
      motive item maps d → motive e maps (.arrayOf d))
    (map : ∀ e key value ms ns k v, Form.of r e = .map key value →
      (∃ seen, r.readFrom seen key = ⟨ms, .ok k⟩) → (∃ seen, r.readFrom seen value = ⟨ns, .ok v⟩) →
      motive key ms k → motive value ns v →
      motive e (ms ++ ns ++ [.ofParts k v]) (.ofMap (.ofParts k v)))
    (scalar : ∀ e name, Form.of r e = .scalar name → motive e [] ⟨.scalar, name, []⟩)
    (named : ∀ e name, Form.of r e = .named name → motive e [] ⟨.object, name, [name]⟩)
    {seen : List String} {e : String} {maps : List MapType} {d : Descriptor}
    (h : r.readFrom seen e = ⟨maps, .ok d⟩) : motive e maps d := by
  induction seen, e using readFrom.induct r generalizing maps d with
  | case1 seen e parts hf ih =>
    rw [readFrom_eq, hf] at h
    obtain ⟨ds, ms, ns, hall, hpure, rfl⟩ := Reading.bind_eq_ok.1 h
    obtain ⟨rfl, rfl⟩ := Reading.pure_eq_ok.1 hpure
    obtain ⟨rs, rfl, hrs, rfl, rfl⟩ := Reading.exists_of_all_map_eq_ok hall
    rw [List.append_nil]
    exact union e rs hf fun x hx => ih x.1 (List.mem_map_of_mem hx) (hrs x hx)
  | case2 seen e hf =>
    rw [readFrom_eq, hf] at h
    obtain ⟨rfl, rfl⟩ := Reading.pure_eq_ok.1 h
    exact nothing e hf
  | case3 seen e hf =>
    rw [readFrom_eq, hf] at h
    obtain ⟨rfl, rfl⟩ := Reading.pure_eq_ok.1 h
    exact anything e hf
  | case4 seen e name hf =>
    rw [readFrom_eq, hf] at h
    obtain ⟨rfl, rfl⟩ := Reading.pure_eq_ok.1 h
    exact primitive e name hf
  | case5 seen e name target hf hs =>
    rw [readFrom_eq, hf] at h
    simp [hs, Reading.fault] at h
  | case6 seen e name target hf hs _ ih =>
    rw [readFrom_eq, hf] at h
    simp only [hs, if_false] at h
    exact aliasOf e name target maps d hf (ih h)
  | case7 seen e inner hf _ ih =>
    rw [readFrom_eq, hf] at h
    exact pointer e inner maps d hf (ih h)
  | case8 seen e item hf _ ih =>
    rw [readFrom_eq, hf] at h
    obtain ⟨a, ms, ns, hitem, hpure, rfl⟩ := Reading.bind_eq_ok.1 h
    obtain ⟨rfl, rfl⟩ := Reading.pure_eq_ok.1 hpure
    rw [List.append_nil]
    exact array e item ms a hf (ih hitem)
  | case9 seen e key value hf _ _ ihk ihv =>
    obtain ⟨k, v, ms, ns, hkey, hvalue, rfl, rfl⟩ := exists_parts_of_readFrom_map hf h
    exact map e key value ms ns k v hf ⟨seen, hkey⟩ ⟨seen, hvalue⟩ (ihk hkey) (ihv hvalue)
  | case10 seen e hf =>
    rw [readFrom_eq, hf] at h
    simp [Reading.fault] at h
  | case11 seen e name hf =>
    rw [readFrom_eq, hf] at h
    obtain ⟨rfl, rfl⟩ := Reading.pure_eq_ok.1 h
    exact scalar e name hf
  | case12 seen e name hf =>
    rw [readFrom_eq, hf] at h
    obtain ⟨rfl, rfl⟩ := Reading.pure_eq_ok.1 h
    exact named e name hf
  | case13 seen e hf =>
    rw [readFrom_eq, hf] at h
    simp [Reading.fault] at h

/-! ## What reading looks at -/

def Leads (r : Registry) (e p : String) : Prop := p ∈ (Form.of r e).next

/-- Reading `e` comes to `p` after any number of steps. -/
def Reaches (r : Registry) : String → String → Prop := Relation.ReflTransGen r.Leads

theorem leads_of_mem_parts {r : Registry} {e p : String} {f : Form} (hf : Form.of r e = f)
    (hp : p ∈ f.parts) : r.Leads e p :=
  Form.mem_next_of_mem_parts (hf ▸ hp)

theorem leads_of_alias {r : Registry} {e name target : String}
    (hf : Form.of r e = .aliasOf name target) : r.Leads e target := by
  simp [Leads, hf, Form.next]

/-- Induction along the steps of what is read without a fault. -/
theorem leads_induct {r : Registry} {motive : String → Prop}
    (step : ∀ e, Form.of r e ≠ .malformedMap → Form.of r e ≠ .invalid →
      (∀ p, r.Leads e p → motive p) → motive e)
    {seen : List String} {e : String} {maps : List MapType} {d : Descriptor}
    (h : r.readFrom seen e = ⟨maps, .ok d⟩) : motive e := by
  -- a form with parts that the motive holds of
  have next : ∀ {e : String} {f : Form}, Form.of r e = f → f ≠ .malformedMap → f ≠ .invalid →
      (∀ p ∈ f.next, motive p) → motive e := by
    rintro e f rfl hmap hinvalid hnext
    exact step e hmap hinvalid hnext
  refine readFrom_ok_induct (motive := fun e _ _ => motive e)
    ?union ?nothing ?anything ?primitive ?aliasOf ?pointer ?array ?map ?scalar ?named h
  case union =>
    intro e rs hf ih
    refine next hf (by simp) (by simp) fun p hp => ?_
    obtain ⟨x, hx, rfl⟩ := List.mem_map.1 hp
    exact ih x hx
  case nothing => exact fun e hf => next hf (by simp) (by simp) (by simp [Form.next, Form.parts])
  case anything => exact fun e hf => next hf (by simp) (by simp) (by simp [Form.next, Form.parts])
  case primitive =>
    exact fun e _ hf => next hf (by simp) (by simp) (by simp [Form.next, Form.parts])
  case aliasOf =>
    exact fun e _ target _ _ hf ih => next hf (by simp) (by simp) (by simpa [Form.next] using ih)
  case pointer =>
    exact fun e _ _ _ hf ih =>
      next hf (by simp) (by simp) (by simpa [Form.next, Form.parts] using ih)
  case array =>
    exact fun e _ _ _ hf ih =>
      next hf (by simp) (by simp) (by simpa [Form.next, Form.parts] using ih)
  case map =>
    exact fun e _ _ _ _ _ _ hf _ _ ihk ihv =>
      next hf (by simp) (by simp) (by simpa [Form.next, Form.parts] using ⟨ihk, ihv⟩)
  case scalar => exact fun e _ hf => next hf (by simp) (by simp) (by simp [Form.next, Form.parts])
  case named => exact fun e _ hf => next hf (by simp) (by simp) (by simp [Form.next, Form.parts])

/-- The map type of an expression in the form of a map that reading `e` comes to, from what its key
and its value read as. -/
def MapWithin (r : Registry) (e : String) (m : MapType) : Prop :=
  ∃ p key value seen ks vs k v, r.Reaches e p ∧ Form.of r p = .map key value ∧
    r.readFrom seen key = ⟨ks, .ok k⟩ ∧ r.readFrom seen value = ⟨vs, .ok v⟩ ∧ m = .ofParts k v

theorem MapWithin.of_leads {r : Registry} {e p : String} {m : MapType} (hp : r.Leads e p)
    (h : r.MapWithin p m) : r.MapWithin e m := by
  obtain ⟨q, key, value, seen, ks, vs, k, v, hq, h⟩ := h
  exact ⟨q, key, value, seen, ks, vs, k, v, .head hp hq, h⟩

/-- Every map type met comes from an expression in the form of a map, also if the reading fails
later. -/
theorem mapWithin_of_mem_maps {r : Registry} {seen : List String} {e : String} {m : MapType}
    (h : m ∈ (r.readFrom seen e).maps) : r.MapWithin e m := by
  induction seen, e using readFrom.induct r with
  | case1 seen e parts hf ih =>
    rw [readFrom_eq, hf] at h
    rcases Reading.mem_maps_bind h with h | ⟨_, -, h⟩
    · obtain ⟨x, hx, h⟩ := Reading.mem_maps_all h
      obtain ⟨p, hp, rfl⟩ := List.mem_map.1 hx
      exact .of_leads (leads_of_mem_parts hf hp) (ih p hp h)
    · exact absurd h (by simp [Reading.pure])
  | case6 seen e name target hf hs _ ih =>
    rw [readFrom_eq, hf] at h
    simp only [hs, if_false] at h
    exact .of_leads (leads_of_alias hf) (ih h)
  | case7 seen e inner hf _ ih =>
    rw [readFrom_eq, hf] at h
    exact .of_leads (leads_of_mem_parts hf (by simp [Form.parts])) (ih h)
  | case8 seen e item hf _ ih =>
    rw [readFrom_eq, hf] at h
    rcases Reading.mem_maps_bind h with h | ⟨_, -, h⟩
    · exact .of_leads (leads_of_mem_parts hf (by simp [Form.parts])) (ih h)
    · exact absurd h (by simp [Reading.pure])
  | case9 seen e key value hf _ _ ihk ihv =>
    rw [readFrom_eq, hf] at h
    rcases Reading.mem_maps_bind h with h | ⟨k, hk, h⟩
    · exact .of_leads (leads_of_mem_parts hf (by simp [Form.parts])) (ihk h)
    rcases Reading.mem_maps_bind h with h | ⟨v, hv, h⟩
    · exact .of_leads (leads_of_mem_parts hf (by simp [Form.parts])) (ihv h)
    obtain rfl : m = .ofParts k v := by simpa [Reading.bind, Reading.meet, Reading.pure] using h
    exact ⟨e, key, value, seen, _, _, k, v, .refl, hf, hk, hv, rfl⟩
  | case5 seen e name target hf hs =>
    rw [readFrom_eq, hf] at h
    simp [hs, Reading.fault] at h
  | _ => simp_all [readFrom_eq, Reading.fault, Reading.pure]

/-- Reading depends only on the forms of the expressions that it comes to. -/
theorem readFrom_eq_of_reaches {r s : Registry} {e : String}
    (h : ∀ p, r.Reaches e p → Form.of r p = Form.of s p) (seen : List String) :
    r.readFrom seen e = s.readFrom seen e := by
  have next : ∀ {e p}, (∀ q, r.Reaches e q → Form.of r q = Form.of s q) → r.Leads e p →
      ∀ q, r.Reaches p q → Form.of r q = Form.of s q :=
    fun h hp q hq => h q (.head hp hq)
  induction seen, e using readFrom.induct r with
  | case1 seen e parts hf ih =>
    rw [readFrom_eq r, readFrom_eq s, ← h e .refl, hf]
    have hparts : ∀ p ∈ parts, r.readFrom seen p = s.readFrom seen p := fun p hp =>
      ih p hp (next h (leads_of_mem_parts hf hp))
    simp only
    rw [List.map_congr_left hparts]
  | case6 seen e name target hf hs _ ih =>
    rw [readFrom_eq r, readFrom_eq s, ← h e .refl, hf]
    simp only [ih (next h (leads_of_alias hf))]
  | case7 seen e inner hf _ ih =>
    rw [readFrom_eq r, readFrom_eq s, ← h e .refl, hf]
    exact ih (next h (leads_of_mem_parts hf (by simp [Form.parts])))
  | case8 seen e item hf _ ih =>
    rw [readFrom_eq r, readFrom_eq s, ← h e .refl, hf]
    simp only [ih (next h (leads_of_mem_parts hf (by simp [Form.parts])))]
  | case9 seen e key value hf _ _ ihk ihv =>
    rw [readFrom_eq r, readFrom_eq s, ← h e .refl, hf]
    simp only [ihk (next h (leads_of_mem_parts hf (by simp [Form.parts]))),
      ihv (next h (leads_of_mem_parts hf (by simp [Form.parts])))]
  | case5 seen e name target hf hs =>
    rw [readFrom_eq r, readFrom_eq s, ← h e .refl, hf]
    simp only [hs, if_true]
  | _ => simp only [readFrom_eq r, readFrom_eq s, ← h _ .refl, *]

/-- Two registries with the same aliases, and narrowed built-in types under the same names. -/
structure ReadsAlike (r s : Registry) : Prop where
  aliases_eq : r.aliases = s.aliases
  isSome_primitive? : ∀ n, (r.primitive? n).isSome = (s.primitive? n).isSome

namespace ReadsAlike

variable {r s : Registry}

theorem form_eq (h : ReadsAlike r s) (e : String) : Form.of r e = Form.of s e := by
  simp only [Form.of, h.isSome_primitive?, target?, h.aliases_eq]

theorem readFrom_eq (h : ReadsAlike r s) (seen : List String) (e : String) :
    r.readFrom seen e = s.readFrom seen e :=
  readFrom_eq_of_reaches (fun p _ => h.form_eq p) seen

/-- Every expression reads the same in both registries. -/
theorem read_eq (h : ReadsAlike r s) (e : String) : r.read e = s.read e :=
  h.readFrom_eq [] (Text.strip e)

end ReadsAlike

end Registry

end RouteDoc
