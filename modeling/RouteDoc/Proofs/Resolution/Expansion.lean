import RouteDoc.Proofs.Resolution.Reading
import RouteDoc.Proofs.Resolution.Registration
import Mathlib.Control.Monad.Basic
import Mathlib.Tactic.ByContra

/-!
# Expansion of aliases

Reading keeps a record of the aliases followed, and stops when it meets one of them again.  Here it
is compared with expansion, which keeps no record.  Expansion need not come to an end, so it is cut
off below a depth.

* `Progress`: what a bounded reading has come to.
* `Registry.readWithin`: reading, cut off below a depth.  `Registry.readWithin_of_lt`: a bound for its
  depth, for every table of aliases.
* `Registry.expand`: expansion, cut off below a depth.
* `Progress.Compatible`: a relation that each step of reading keeps.  All comparisons here are such
  relations: `Progress.StopsAt` for "the same, or stopped earlier", `Progress.LoopsIn` for "stopped
  at a cycle, so never at an end".
* `Registry.resolve_expansion`: **the record is exact.**  What expansion comes to is what resolution
  comes to, and expansion never comes to an end if and only if resolution reports a cycle.
-/

namespace RouteDoc

/-! ## Bounded readings -/

/-- Why a bounded reading stops without a result. -/
inductive Halt where
  | tooDeep
  | fault (f : TypeFault)
  deriving DecidableEq, Inhabited

/-- What a bounded reading has come to, and the map types met. -/
structure Progress (α : Type) where
  maps : List MapType := []
  outcome : Except Halt α

namespace Progress

variable {α β : Type}

protected def pure (a : α) : Progress α := ⟨[], .ok a⟩

/-- Goes on reading, unless it has stopped. -/
protected def bind (x : Progress α) (f : α → Progress β) : Progress β :=
  match x.outcome with
  | .ok a => ⟨x.maps ++ (f a).maps, (f a).outcome⟩
  | .error halt => ⟨x.maps, .error halt⟩

def cut : Progress α := ⟨[], .error .tooDeep⟩

def fault (f : TypeFault) : Progress α := ⟨[], .error (.fault f)⟩

def meet (m : MapType) : Progress Unit := ⟨[m], .ok ()⟩

def all : List (Progress α) → Progress (List α)
  | [] => .pure []
  | x :: xs => x.bind fun a => (all xs).bind fun as => .pure (a :: as)

end Progress

namespace Reading

variable {α β : Type}

def progress (x : Reading α) : Progress α :=
  ⟨x.maps, match x.outcome with
    | .ok a => .ok a
    | .error f => .error (.fault f)⟩

theorem progress_injective {x y : Reading α} (h : x.progress = y.progress) : x = y := by
  obtain ⟨ms, f | a⟩ := x <;> obtain ⟨ns, g | b⟩ := y <;> simp_all [progress]

theorem progress_bind (x : Reading α) (f : α → Reading β) :
    (x.bind f).progress = x.progress.bind fun a => (f a).progress := by
  obtain ⟨maps, outcome⟩ := x
  cases outcome <;> rfl

theorem progress_all (xs : List (Reading α)) :
    (Reading.all xs).progress = Progress.all (xs.map progress) := by
  induction xs with
  | nil => rfl
  | cons x xs ih =>
    simp only [Reading.all, List.map_cons, Progress.all, progress_bind, ih]
    rfl

end Reading

/-- What a form comes to, from what its parts come to and what an alias comes to. -/
def Form.progress (e : String) (part : String → Progress Descriptor)
    (follow : String → String → Progress Descriptor) : Form → Progress Descriptor
  | .union parts => (Progress.all (parts.map part)).bind fun members => .pure (.union members)
  | .nothing => .pure .nothing
  | .anything => .pure .anything
  | .primitive name => .pure ⟨.scalar, name, [name]⟩
  | .aliasOf name target => follow name target
  | .pointer inner => part inner
  | .array item => (part item).bind fun d => .pure (.arrayOf d)
  | .map key value =>
    (part key).bind fun k =>
      (part value).bind fun v =>
        (Progress.meet (.ofParts k v)).bind fun _ => .pure (.ofMap (.ofParts k v))
  | .malformedMap => .fault (.malformedMap e)
  | .scalar name => .pure ⟨.scalar, name, []⟩
  | .named name => .pure ⟨.object, name, [name]⟩
  | .invalid => .fault (.invalidExpression e)

namespace Registry

/-- Reads the trimmed expression `e`, at most `depth` forms deep, when the aliases `seen` were
followed to get to it. -/
def readWithin (r : Registry) : Nat → List String → String → Progress Descriptor
  | 0, _, _ => .cut
  | depth + 1, seen, e =>
    (Form.of r e).progress e (r.readWithin depth seen) fun name target =>
      if name ∈ seen ∨ target = name then .fault (.aliasCycle name)
      else r.readWithin depth (name :: seen) target

/-- Expands the trimmed expression `e`, at most `depth` forms deep.  Aliases are followed as often as
they are met. -/
def expand (r : Registry) : Nat → String → Progress Descriptor
  | 0, _ => .cut
  | depth + 1, e => (Form.of r e).progress e (r.expand depth) fun _ target => r.expand depth target

/-- Registers the map types met, up to the first that conflicts.  There is no result if the bound
was reached before. -/
def conclude (r : Registry) (x : Progress Descriptor) :
    Option (Registry × Except TypeFault Descriptor) :=
  match r.register x.maps with
  | (s, .error fault) => some (s, .error fault)
  | (s, .ok _) =>
    match x.outcome with
    | .ok d => some (s, .ok d)
    | .error (.fault f) => some (s, .error f)
    | .error .tooDeep => none

/-- Resolution, with reading cut off below a depth. -/
def resolveWithin (r : Registry) (depth : Nat) (e : String) :
    Option (Registry × Except TypeFault Descriptor) :=
  r.conclude (r.readWithin depth [] (Text.strip e))

/-- Resolution by expansion, cut off below a depth. -/
def resolveByExpansion (r : Registry) (depth : Nat) (e : String) :
    Option (Registry × Except TypeFault Descriptor) :=
  r.conclude (r.expand depth (Text.strip e))

end Registry

/-! ## Relations that each step keeps -/

namespace Progress

variable {α β ι : Type} {x y : Progress α} {f g : α → Progress β}

/-- Reading has met an alias that it was about to follow again. -/
def IsCycle (x : Progress α) : Prop := ∃ name, x.outcome = .error (.fault (.aliasCycle name))

/-- A relation that each step of reading keeps. -/
structure Compatible (R : ∀ {α : Type}, Progress α → Progress α → Prop) : Prop where
  refl : ∀ {α : Type} {x : Progress α}, ¬ x.IsCycle → R x x
  bind : ∀ {α β : Type} {x y : Progress α} {f g : α → Progress β}, R x y →
    (∀ a, R (f a) (g a)) → R (x.bind f) (y.bind g)

theorem not_isCycle_pure (a : α) : ¬ (Progress.pure a).IsCycle := by
  rintro ⟨name, h⟩
  exact absurd h (by simp [Progress.pure])

theorem bind_of_ok {maps : List MapType} {a : α} :
    (⟨maps, .ok a⟩ : Progress α).bind f = ⟨maps ++ (f a).maps, (f a).outcome⟩ := rfl

theorem bind_of_error {maps : List MapType} {halt : Halt} :
    (⟨maps, .error halt⟩ : Progress α).bind f = ⟨maps, .error halt⟩ := rfl

theorem maps_prefix_bind (x : Progress α) (f : α → Progress β) : x.maps <+: (x.bind f).maps := by
  obtain ⟨maps, a | a⟩ := x
  · exact List.prefix_rfl
  · exact List.prefix_append _ _

namespace Compatible

variable {R : ∀ {α : Type}, Progress α → Progress α → Prop}

theorem pure (hR : Compatible R) (a : α) : R (Progress.pure a) (Progress.pure a) :=
  hR.refl (not_isCycle_pure a)

theorem all (hR : Compatible R) {f g : ι → Progress α} {xs : List ι}
    (h : ∀ i ∈ xs, R (f i) (g i)) : R (Progress.all (xs.map f)) (Progress.all (xs.map g)) := by
  induction xs with
  | nil => exact hR.pure []
  | cons i xs ih =>
    have hrest := ih fun j hj => h j (List.mem_cons_of_mem i hj)
    exact hR.bind (h i List.mem_cons_self) fun a => hR.bind hrest fun as => hR.pure (a :: as)

/-- What holds of the parts of a form, and of what its alias stands for, holds of the form. -/
theorem form (hR : Compatible R) {e : String} {form : Form}
    {part part' : String → Progress Descriptor}
    {follow follow' : String → String → Progress Descriptor}
    (hpart : ∀ p ∈ form.parts, R (part p) (part' p))
    (hfollow : ∀ name target, form = .aliasOf name target →
      R (follow name target) (follow' name target)) :
    R (form.progress e part follow) (form.progress e part' follow') := by
  cases form with
  | union parts => exact hR.bind (hR.all hpart) fun members => hR.pure _
  | nothing => exact hR.pure _
  | anything => exact hR.pure _
  | primitive name => exact hR.pure _
  | aliasOf name target => exact hfollow name target rfl
  | pointer inner => exact hpart inner (by simp [Form.parts])
  | array item => exact hR.bind (hpart item (by simp [Form.parts])) fun d => hR.pure _
  | map key value =>
    have hmeet : ∀ m, R (Progress.meet m) (Progress.meet m) := fun m =>
      hR.refl (by rintro ⟨name, h⟩; exact absurd h (by simp [Progress.meet]))
    exact hR.bind (hpart key (by simp [Form.parts])) fun k =>
      hR.bind (hpart value (by simp [Form.parts])) fun v =>
        hR.bind (hmeet _) fun _ => hR.pure _
  | malformedMap =>
    refine hR.refl ?_
    rintro ⟨name, h⟩
    exact absurd h (by simp [Form.progress, Progress.fault])
  | scalar name => exact hR.pure _
  | named name => exact hR.pure _
  | invalid =>
    refine hR.refl ?_
    rintro ⟨name, h⟩
    exact absurd h (by simp [Form.progress, Progress.fault])

end Compatible

/-- The same, or stopped before for one of the reasons `P`. -/
def StopsAt (P : Halt → Prop) {α : Type} (x y : Progress α) : Prop :=
  x = y ∨ (∃ halt, P halt ∧ x.outcome = .error halt) ∧ x.maps <+: y.maps

theorem stopsAt_compatible (P : Halt → Prop) : Compatible (StopsAt P) where
  refl _ := .inl rfl
  bind := by
    rintro α β x y f g (rfl | ⟨⟨halt, hP, hx⟩, hmaps⟩) hfg
    · obtain ⟨maps, halt | a⟩ := x
      · exact .inl rfl
      · simp only [bind_of_ok]
        rcases hfg a with h | ⟨hstop, hmaps⟩
        · exact .inl (by rw [h])
        · exact .inr ⟨hstop, (List.prefix_append_right_inj maps).2 hmaps⟩
    · obtain ⟨maps, _⟩ := x
      subst hx
      exact .inr ⟨⟨halt, hP, rfl⟩, hmaps.trans (maps_prefix_bind y g)⟩

theorem StopsAt.trans {P : Halt → Prop} {z : Progress α} (h : StopsAt P x y)
    (g : StopsAt P y z) : StopsAt P x z := by
  rcases h with rfl | ⟨hstop, hmaps⟩
  · exact g
  · rcases g with rfl | ⟨-, hmaps'⟩
    · exact .inr ⟨hstop, hmaps⟩
    · exact .inr ⟨hstop, hmaps.trans hmaps'⟩

/-- Stopped too deep wherever the other one is a cycle, with no map types but `ms`; and else the
same, or stopped too deep before. -/
def LoopsIn (ms : List MapType) {α : Type} (x y : Progress α) : Prop :=
  (y.IsCycle → y.maps ⊆ ms → x.outcome = .error .tooDeep ∧ x.maps ⊆ ms) ∧
    (¬ y.IsCycle → StopsAt (· = .tooDeep) x y)

theorem isCycle_bind_of_error {maps : List MapType} {halt : Halt} :
    ((⟨maps, .error halt⟩ : Progress α).bind f).IsCycle ↔
      (⟨maps, .error halt⟩ : Progress α).IsCycle := by
  simp [IsCycle, bind_of_error]

theorem isCycle_bind_of_ok {maps : List MapType} {a : α} :
    ((⟨maps, .ok a⟩ : Progress α).bind f).IsCycle ↔ (f a).IsCycle := Iff.rfl

theorem loopsIn_compatible (ms : List MapType) : Compatible (LoopsIn ms) where
  refl h := ⟨fun hx => absurd hx h, fun _ => .inl rfl⟩
  bind := by
    intro α β x y f g hxy hfg
    obtain ⟨hcycle, helse⟩ := hxy
    obtain ⟨ns, halt | a⟩ := y
    · -- `y` has stopped, so nothing of `f` and `g` is looked at, unless `x` goes on
      rw [LoopsIn, isCycle_bind_of_error]
      refine ⟨fun hy hns => ?_, fun hy => ?_⟩
      · obtain ⟨hx, hmaps⟩ := hcycle hy hns
        obtain ⟨ks, _⟩ := x
        subst hx
        exact ⟨rfl, hmaps⟩
      · rcases helse hy with rfl | ⟨⟨_, rfl, hx⟩, hmaps⟩
        · exact .inl rfl
        · obtain ⟨ks, _⟩ := x
          subst hx
          exact .inr ⟨⟨_, rfl, rfl⟩, hmaps⟩
    · have hno : ¬ (⟨ns, .ok a⟩ : Progress α).IsCycle := by
        rintro ⟨name, h⟩
        exact absurd h (by simp)
      rw [LoopsIn, isCycle_bind_of_ok]
      rcases helse hno with rfl | ⟨⟨_, rfl, hx⟩, hmaps⟩
      · simp only [bind_of_ok]
        obtain ⟨hcycle', helse'⟩ := hfg a
        refine ⟨fun hy hns => ?_, fun hy => ?_⟩
        · rw [List.append_subset] at hns
          obtain ⟨hx, hmaps⟩ := hcycle' hy hns.2
          exact ⟨hx, List.append_subset.2 ⟨hns.1, hmaps⟩⟩
        · rcases helse' hy with h | ⟨hstop, hmaps⟩
          · exact .inl (by rw [h])
          · exact .inr ⟨hstop, (List.prefix_append_right_inj ns).2 hmaps⟩
      · obtain ⟨ks, _⟩ := x
        subst hx
        have hmaps' := hmaps.trans (maps_prefix_bind ⟨ns, .ok a⟩ g)
        exact ⟨fun _ hns => ⟨rfl, fun m hm => hns (hmaps'.subset hm)⟩,
          fun _ => .inr ⟨⟨_, rfl, rfl⟩, hmaps'⟩⟩

end Progress

/-! ## Bounded reading -/

namespace Registry

open Progress

variable {r s : Registry} {seen : List String} {e : String} {ms : List MapType} {n m : Nat}

/-- Reading, form by form, as bounded reading has it. -/
theorem progress_readFrom (r : Registry) (seen : List String) (e : String) :
    (r.readFrom seen e).progress =
      (Form.of r e).progress e (fun p => (r.readFrom seen p).progress) fun name target =>
        if name ∈ seen ∨ target = name then .fault (.aliasCycle name)
        else (r.readFrom (name :: seen) target).progress := by
  rw [readFrom_eq]
  cases Form.of r e with
  | union parts =>
    simp only [Reading.progress_bind, Reading.progress_all, List.map_map]
    rfl
  | array item =>
    simp only [Reading.progress_bind]
    rfl
  | map key value =>
    simp only [Reading.progress_bind]
    rfl
  | aliasOf name target =>
    simp only [Form.progress]
    split <;> rfl
  | _ => rfl

/-- **Reading stays within a bound**, whatever the aliases are. -/
theorem readWithin_of_lt (h : r.depthBound seen e < n) :
    r.readWithin n seen e = (r.readFrom seen e).progress := by
  induction n generalizing seen e with
  | zero => exact absurd h (Nat.not_lt_zero _)
  | succ n ih =>
    have heq : Compatible fun {α} (x y : Progress α) => x = y :=
      ⟨fun _ => rfl, fun hxy hfg => by rw [hxy, funext hfg]⟩
    rw [readWithin, progress_readFrom]
    refine heq.form (fun p hp => ih ?_) fun name target hf => ?_
    · have := depthBound_part_lt seen hp
      omega
    · by_cases hs : name ∈ seen ∨ target = name
      · simp only [if_pos hs]
      · simp only [if_neg hs]
        refine ih ?_
        have := depthBound_alias_lt hf fun hn => hs (.inl hn)
        omega

/-! ## Expansion against reading -/

/-- Expansion to a greater depth comes to the same, or goes on where the other stopped. -/
theorem expand_stopsAt_succ (r : Registry) (n : Nat) (e : String) :
    StopsAt (· = .tooDeep) (r.expand n e) (r.expand (n + 1) e) := by
  induction n generalizing e with
  | zero => exact .inr ⟨⟨_, rfl, rfl⟩, List.nil_prefix⟩
  | succ n ih =>
    rw [expand, expand]
    exact (stopsAt_compatible _).form (fun p _ => ih p) fun _ target _ => ih target

theorem expand_stopsAt_of_le (r : Registry) (e : String) (h : n ≤ m) :
    StopsAt (· = .tooDeep) (r.expand n e) (r.expand m e) := by
  induction h with
  | refl => exact .inl rfl
  | step _ ih => exact ih.trans (expand_stopsAt_succ r _ e)

/-- Reading comes to what expansion comes to, unless it stops at a cycle. -/
theorem readWithin_stopsAt_expand (r : Registry) (n : Nat) (seen : List String) (e : String) :
    StopsAt (fun halt => ∃ name, halt = .fault (.aliasCycle name)) (r.readWithin n seen e)
      (r.expand n e) := by
  induction n generalizing seen e with
  | zero => exact .inl rfl
  | succ n ih =>
    rw [readWithin, expand]
    refine (stopsAt_compatible _).form (fun p _ => ih seen p) fun name target _ => ?_
    by_cases hs : name ∈ seen ∨ target = name
    · simp only [if_pos hs]
      exact .inr ⟨⟨_, ⟨name, rfl⟩, rfl⟩, List.nil_prefix⟩
    · simp only [if_neg hs]
      exact ih (name :: seen) target

/-- Below the bound of reading, expansion comes to what reading comes to, unless that is a cycle. -/
theorem read_stopsAt_expand (h : r.depthBound seen e < n) :
    StopsAt (fun halt => ∃ name, halt = .fault (.aliasCycle name)) (r.readFrom seen e).progress
      (r.expand n e) :=
  readWithin_of_lt h ▸ readWithin_stopsAt_expand r n seen e

theorem expand_eq_of_not_isCycle (hc : ¬ (r.readFrom seen e).progress.IsCycle)
    (h : r.depthBound seen e < n) : r.expand n e = (r.readFrom seen e).progress := by
  rcases read_stopsAt_expand h with heq | ⟨⟨_, ⟨name, rfl⟩, hstop⟩, -⟩
  · exact heq.symm
  · exact absurd ⟨name, hstop⟩ hc

/-- What expansion has come to at any depth, if reading finds no cycle. -/
theorem expand_stopsAt_read (hc : ¬ (r.readFrom seen e).progress.IsCycle) (n : Nat) :
    StopsAt (· = .tooDeep) (r.expand n e) (r.readFrom seen e).progress := by
  have h := expand_stopsAt_of_le r e (Nat.le_max_left n (r.depthBound seen e + 1))
  rwa [expand_eq_of_not_isCycle hc (Nat.lt_of_succ_le (Nat.le_max_right n _))] at h

/-- Expansion has not come to an end, and has met no map types but `ms`. -/
def Unfinished (r : Registry) (ms : List MapType) (n : Nat) (e : String) : Prop :=
  (r.expand n e).outcome = .error .tooDeep ∧ (r.expand n e).maps ⊆ ms

theorem expand_succ_of_alias {name target : String} (hf : Form.of r e = .aliasOf name target) :
    r.expand (n + 1) e = r.expand n target := by
  rw [expand, hf, Form.progress]

/-- Where reading stops at a cycle, expansion goes round in it: it does not come to an end, and it
meets no other map types than reading.  The induction is on the depth: an alias on the way is read
again with less depth left, so it is known by then that its expansion is unfinished. -/
theorem expand_loopsIn (hseen : ∀ a ∈ seen, ∀ m ≤ n, r.Unfinished ms m a) :
    ∀ m ≤ n, LoopsIn ms (r.expand m e) (r.readFrom seen e).progress := by
  induction n generalizing seen e with
  | zero =>
    intro m hm
    obtain rfl := Nat.le_zero.1 hm
    exact ⟨fun _ _ => ⟨rfl, List.nil_subset ms⟩, fun _ => .inr ⟨⟨_, rfl, rfl⟩, List.nil_prefix⟩⟩
  | succ n ih =>
    intro m hm
    have hseen' : ∀ a ∈ seen, ∀ m ≤ n, r.Unfinished ms m a := fun a ha m hm =>
      hseen a ha m (Nat.le_succ_of_le hm)
    cases m with
    | zero => exact ih hseen' 0 (Nat.zero_le n)
    | succ m =>
      have hmn : m ≤ n := Nat.le_of_succ_le_succ hm
      have hself := progress_readFrom r seen e
      rw [hself, expand]
      refine (loopsIn_compatible ms).form (fun p _ => ih hseen' m hmn) fun name target hf => ?_
      obtain ⟨rfl, -⟩ := Form.mem_aliases hf
      simp only [hf, Form.progress] at hself
      by_cases hs : name ∈ seen ∨ target = name
      · simp only [if_pos hs] at hself ⊢
        have hcycle : (r.readFrom seen name).progress.IsCycle := ⟨name, by rw [hself]; rfl⟩
        refine ⟨fun _ _ => ?_, fun hno => absurd ⟨name, rfl⟩ hno⟩
        rcases hs with hs | rfl
        · have h := hseen name hs (m + 1) hm
          rwa [Unfinished, expand_succ_of_alias hf] at h
        · exact (ih hseen' m hmn).1 hcycle (by rw [hself]; exact List.nil_subset ms)
      · simp only [if_neg hs] at hself ⊢
        refine ⟨fun hcycle hms => ?_, fun hno => expand_stopsAt_read hno m⟩
        -- `name` goes round as well, since it reads like its target
        have hname : ∀ k ≤ n, r.Unfinished ms k name := fun k hk =>
          (ih hseen' k hk).1 (hself ▸ hcycle) (hself ▸ hms)
        refine (ih ?_ m hmn).1 hcycle hms
        rintro a (_ | ⟨_, ha⟩)
        · exact hname
        · exact hseen' a ha

theorem isCycle_progress_iff {α : Type} {x : Reading α} :
    x.progress.IsCycle ↔ ∃ name, x.outcome = .error (.aliasCycle name) := by
  obtain ⟨maps, fault | a⟩ := x <;> simp [IsCycle, Reading.progress]

theorem unfinished_of_isCycle (hc : (r.readFrom [] e).progress.IsCycle) (n : Nat) :
    r.Unfinished (r.readFrom [] e).maps n e :=
  (expand_loopsIn (by simp) n (Nat.le_refl n)).1 hc (List.Subset.refl _)

/-- What is read without a fault when some aliases were followed reads the same on its own. -/
theorem readFrom_nil_of_ok {maps : List MapType} {d : Descriptor}
    (h : r.readFrom seen e = ⟨maps, .ok d⟩) : r.readFrom [] e = ⟨maps, .ok d⟩ := by
  let N := max (r.depthBound seen e) (r.depthBound [] e) + 1
  have hseen : r.expand N e = (⟨maps, .ok d⟩ : Reading Descriptor).progress := by
    rw [← h]
    refine expand_eq_of_not_isCycle ?_ (Nat.lt_succ_of_le (Nat.le_max_left ..))
    rw [h, isCycle_progress_iff]
    simp
  have hc : ¬ (r.readFrom [] e).progress.IsCycle := fun hc => by
    have hstop := (unfinished_of_isCycle hc N).1
    rw [hseen] at hstop
    exact absurd hstop (by simp [Reading.progress])
  exact Reading.progress_injective
    ((expand_eq_of_not_isCycle hc (Nat.lt_succ_of_le (Nat.le_max_right ..))).symm.trans hseen)

/-! ## Resolution by expansion -/

/-- A conflict stays the first one when more map types follow. -/
theorem register_eq_error_mono {ns : List MapType} {fault : TypeFault} (hp : ms <+: ns)
    (h : r.register ms = (s, .error fault)) : r.register ns = (s, .error fault) := by
  obtain ⟨ks, rfl⟩ := hp
  rw [register_append, h]

theorem conclude_of_error {x : Progress Descriptor} {fault : TypeFault}
    (h : r.register x.maps = (s, .error fault)) : r.conclude x = some (s, .error fault) := by
  simp only [conclude, h]

theorem conclude_of_tooDeep {x : Progress Descriptor} (hx : x.outcome = .error .tooDeep)
    (h : r.register x.maps = (s, .ok ())) : r.conclude x = none := by
  simp only [conclude, h, hx]

theorem conclude_read (r : Registry) (e : String) :
    r.conclude (r.read e).progress = some (r.resolve e) := by
  rw [resolve_eq, conclude, Reading.progress]
  cases hreg : r.register (r.read e).maps with
  | mk s outcome =>
    cases outcome with
    | error fault => rfl
    | ok u => cases (r.read e).outcome <;> rfl

/-- Resolution reports a cycle if reading finds one and no map types conflict before. -/
theorem exists_aliasCycle_iff : (∃ name, (r.resolve e).2 = .error (.aliasCycle name)) ↔
    (∃ s, r.register (r.read e).maps = (s, .ok ())) ∧ (r.read e).progress.IsCycle := by
  rw [isCycle_progress_iff, resolve_eq]
  cases hreg : r.register (r.read e).maps with
  | mk s outcome =>
    cases outcome with
    | error fault =>
      obtain ⟨name, rfl⟩ := exists_of_register_eq_error hreg
      simp
    | ok u => simp

/-- Deep enough, expansion has met all map types that reading meets. -/
theorem maps_prefix_expand (h : r.depthBound [] (Text.strip e) < n) :
    (r.read e).maps <+: (r.expand n (Text.strip e)).maps := by
  rcases read_stopsAt_expand h with heq | ⟨-, hmaps⟩
  · exact (congrArg Progress.maps heq) ▸ List.prefix_rfl
  · exact hmaps

/-- Where resolution reports a cycle, expansion comes to no end. -/
theorem resolveByExpansion_of_aliasCycle {name : String}
    (h : (r.resolve e).2 = .error (.aliasCycle name)) (n : Nat) :
    r.resolveByExpansion n e = none := by
  obtain ⟨⟨s, hreg⟩, hc⟩ := exists_aliasCycle_iff.1 ⟨name, h⟩
  obtain ⟨hstop, hmaps⟩ := unfinished_of_isCycle hc n
  obtain ⟨t, ht⟩ := register_eq_ok_iff.2 ((register_eq_ok_iff.1 ⟨s, hreg⟩).of_subset hmaps)
  exact conclude_of_tooDeep hstop ht

/-- Where resolution reports no cycle, expansion comes to the same within the bound of reading. -/
theorem resolveByExpansion_of_ne_aliasCycle
    (h : ∀ name, (r.resolve e).2 ≠ .error (.aliasCycle name))
    (hn : r.depthBound [] (Text.strip e) < n) : r.resolveByExpansion n e = some (r.resolve e) := by
  rw [resolveByExpansion]
  cases hreg : r.register (r.read e).maps with
  | mk s outcome =>
    cases outcome with
    | error fault =>
      rw [conclude_of_error (register_eq_error_mono (maps_prefix_expand hn) hreg),
        resolve_eq, hreg]
    | ok u =>
      have hc : ¬ (r.read e).progress.IsCycle := fun hc =>
        not_exists.2 h (exists_aliasCycle_iff.2 ⟨⟨s, hreg⟩, hc⟩)
      rw [expand_eq_of_not_isCycle hc hn]
      exact conclude_read r e

/-- A result of expansion stays the same at greater depths. -/
theorem resolveByExpansion_mono {result : Registry × Except TypeFault Descriptor}
    (h : r.resolveByExpansion n e = some result) (hnm : n ≤ m) :
    r.resolveByExpansion m e = some result := by
  rw [resolveByExpansion] at h ⊢
  rcases expand_stopsAt_of_le r (Text.strip e) hnm with heq | ⟨⟨_, rfl, hstop⟩, hmaps⟩
  · rwa [← heq]
  · cases hreg : r.register (r.expand n (Text.strip e)).maps with
    | mk s outcome =>
      cases outcome with
      | ok u => exact absurd (h.symm.trans (conclude_of_tooDeep hstop hreg)) (by simp)
      | error fault =>
        rw [conclude_of_error hreg] at h
        rw [conclude_of_error (register_eq_error_mono hmaps hreg), h]

/-- **The record of aliases is exact.**  Resolution stays within a bound.  Resolution by expansion,
if it comes to an end, comes to what resolution comes to; and it comes to no end if and only if
resolution reports a cycle. -/
theorem resolve_expansion (r : Registry) (e : String) :
    r.resolveWithin (r.depthBound [] (Text.strip e) + 1) e = some (r.resolve e) ∧
      (∀ depth, r.resolveByExpansion depth e = none ∨
        r.resolveByExpansion depth e = some (r.resolve e)) ∧
      ((∀ depth, r.resolveByExpansion depth e = none) ↔
        ∃ name, (r.resolve e).2 = .error (.aliasCycle name)) := by
  refine ⟨?_, fun depth => ?_, fun hnone => ?_, fun ⟨name, h⟩ => ?_⟩
  · rw [resolveWithin, readWithin_of_lt (Nat.lt_succ_self _)]
    exact conclude_read r e
  · by_cases h : ∃ name, (r.resolve e).2 = .error (.aliasCycle name)
    · obtain ⟨name, h⟩ := h
      exact .inl (resolveByExpansion_of_aliasCycle h depth)
    · cases hres : r.resolveByExpansion depth e with
      | none => exact .inl rfl
      | some result =>
        -- a result at this depth is one at every greater depth
        let k := max depth (r.depthBound [] (Text.strip e) + 1)
        have hdeep := resolveByExpansion_of_ne_aliasCycle (not_exists.1 h)
          (Nat.lt_of_succ_le (Nat.le_max_right depth _) : r.depthBound [] (Text.strip e) < k)
        exact .inr ((resolveByExpansion_mono hres (Nat.le_max_left depth _)).symm.trans hdeep)
  · by_contra h
    have hdeep := resolveByExpansion_of_ne_aliasCycle (not_exists.1 h)
      (Nat.lt_succ_self (r.depthBound [] (Text.strip e)))
    exact absurd ((hnone _).symm.trans hdeep) (by simp)
  · exact resolveByExpansion_of_aliasCycle h

/-- Two aliases that lead to each other through an array, a map and a union, and one that is used
twice side by side. -/
theorem resolve_expansion_shelves :
    let r : Registry := { aliases := Dict.ofList [("Shelf", "map[string]Shelves | int"),
      ("Shelves", "*[]Shelf"), ("Code", "*string")] }
    ((∃ depth, r.resolveByExpansion depth "Code | map[Code]Code" =
        some (r.resolve "Code | map[Code]Code")) ∧
      (r.resolve "Code | map[Code]Code").2 =
        .ok ⟨.any, "string | map_string_string", ["map_string_string"]⟩) ∧
    (∀ depth, r.resolveByExpansion depth "map[Code]Shelves" = none) ∧
      (r.resolve "map[Code]Shelves").2 = .error (.aliasCycle "Shelves") := by
  intro r
  have hcode : (r.resolve "Code | map[Code]Code").2 =
      .ok ⟨.any, "string | map_string_string", ["map_string_string"]⟩ := by decide +kernel
  have hshelves : (r.resolve "map[Code]Shelves").2 = .error (.aliasCycle "Shelves") := by
    decide +kernel
  obtain ⟨-, hsame, hend⟩ := resolve_expansion r "Code | map[Code]Code"
  refine ⟨⟨?_, hcode⟩, (resolve_expansion r "map[Code]Shelves").2.2.2 ⟨_, hshelves⟩, hshelves⟩
  by_contra h
  have hnone := fun depth => (hsame depth).resolve_right (not_exists.1 h depth)
  obtain ⟨name, hname⟩ := hend.1 hnone
  exact absurd (hcode.symm.trans hname) (by simp)

end Registry

end RouteDoc
