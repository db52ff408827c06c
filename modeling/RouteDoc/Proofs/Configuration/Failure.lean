import RouteDoc.Proofs.Configuration.Run
import RouteDoc.Proofs.Resolution.Registration
import Mathlib.Control.Monad.Basic

/-!
# Failed definitions of types

To define a type of objects binds its class, resolves its fields, registers the type, and then an
alias for it.  Each of these steps can fail when the ones before it have changed the context.

* `Registry.given`: the definitions that no map type is.  Growth keeps them: `Grows.given_eq`.
* `Context.Keeps`: aliases, classes and given definitions are what they were.
* `Context.Registers`: the struct of a sample comes to be registered.
* `Context.grows_or_of_defineType_error`: how far a failed definition can get.
* `Context.defineType_error`: **what a failed definition leaves behind**: the class stays bound, and
  the struct stays registered if the alias for it fails.
-/

namespace RouteDoc

namespace Registry

variable {r s : Registry}

def given (r : Registry) : Dict String Definition := r.definitions.filter fun _ d => !d.isMap

theorem Grows.given_eq (h : Grows r s) : s.given = r.given := by
  obtain ⟨ms, hms⟩ := h.entries_eq
  refine Dict.ext_entries ?_
  have hmaps : (ms.map fun m => (m.name, Definition.map m)).filter (fun e => !e.2.isMap) = [] := by
    simp [Definition.isMap]
  simp only [given, Dict.filter, hms, List.filter_append, hmaps, List.append_nil]

/-- A new struct is given behind all others. -/
theorem entries_given_of_add {x : Struct} (h : r.add (.struct x) = .ok (s, true)) :
    s.aliases = r.aliases ∧ s.classes = r.classes ∧
      s.given.entries = r.given.entries ++ [(x.name, .struct x)] := by
  obtain ⟨-, ⟨-, -, h⟩ | ⟨hnone, rfl, -⟩⟩ := add_eq_ok_iff.1 h
  · exact absurd h (by simp)
  · refine ⟨rfl, rfl, ?_⟩
    have hnew : x.name ∉ r.definitions.keys := Dict.get?_eq_none_iff.1 hnone
    simp [given, Dict.filter, Definition.name, Dict.entries_put_of_not_mem hnew, Definition.isMap]

end Registry

namespace Context

variable {c c' c₁ : Context} {t : ClassTable} {name : String} {sample : Sample} {fault : ConfigFault}
  {layout : Layout} {notices : List Notice} {fields : List StructField} {s : Struct} {r : Registry}

/-- Aliases, classes, and all definitions but map types are what they were. -/
structure Keeps (c c' : Context) : Prop where
  aliases_eq : c'.registry.aliases = c.registry.aliases
  classes_eq : c'.registry.classes = c.registry.classes
  given_eq : c'.registry.given = c.registry.given

/-- The struct of a sample comes to be registered: the sample has a layout, all fields are resolved,
and the name is free. -/
def Registers (c : Context) (t : ClassTable) (name : String) (sample : Sample) (s : Struct)
    (r : Registry) : Prop :=
  ∃ layout notices c₁ fields,
    Layout.describe t (c.bindSample name sample).registry sample = .ok (layout, notices) ∧
    (c.bindSample name sample).resolveFields layout.fields = (c₁, .ok fields) ∧
    s = ⟨name, layout.source, fields⟩ ∧ c₁.registry.add (.struct s) = .ok (r, true)

/-! ## Single steps -/

theorem grows_resolveFields (c : Context) (specs : List FieldSpec) :
    Registry.Grows c.registry (c.resolveFields specs).1.registry :=
  resolveFields_induct (.refl _) (fun r e hr => hr.trans (Registry.resolve_grows r e)) specs

theorem add_of_ok {d : Definition} {isNew : Bool} (h : c.registry.add d = .ok (r, isNew)) :
    c.add d = .ok { c with registry := r } := by
  rw [add, h]

/-- Dictionaries have no class with a name of its own, so no alias can fail. -/
theorem exists_class?_of_aliasSample_error (h : c.aliasSample t name sample = .error fault) :
    ∃ cls, sample.class? = some cls := by
  unfold aliasSample at h
  split at h
  · exact absurd h (by simp)
  · exact ⟨_, ‹_›⟩

theorem aliases_bindSample (c : Context) (name : String) (sample : Sample) :
    (c.bindSample name sample).registry.aliases = c.registry.aliases := by
  cases sample <;> rfl

theorem given_bindSample (c : Context) (name : String) (sample : Sample) :
    (c.bindSample name sample).registry.given = c.registry.given := by
  cases sample <;> rfl

/-- The binding is no change if and only if the class was bound to the name before. -/
theorem classes_bindSample_eq_iff :
    (c.bindSample name sample).registry.classes = c.registry.classes ↔
      ∀ cls, sample.class? = some cls → c.registry.className? cls = some name := by
  unfold bindSample
  split
  · rename_i hcls
    exact iff_of_true rfl fun cls h => absurd (hcls.symm.trans h) (by simp)
  · rename_i cls hcls
    constructor
    · intro h cls' hcls'
      obtain rfl := Option.some.inj (hcls.symm.trans hcls')
      rw [Registry.className?, ← h]
      exact (Dict.get?_put ..).trans (if_pos rfl)
    · exact fun h => Dict.put_of_get?_eq_some (h cls hcls)

/-! ## Failed definitions -/

theorem registers_iff
    (hdescribe : Layout.describe t (c.bindSample name sample).registry sample =
      .ok (layout, notices))
    (hfields : (c.bindSample name sample).resolveFields layout.fields = (c₁, .ok fields)) :
    Registers c t name sample s r ↔
      s = ⟨name, layout.source, fields⟩ ∧ c₁.registry.add (.struct s) = .ok (r, true) := by
  constructor
  · rintro ⟨layout', notices', c₂, fields', hdescribe', hfields', hs, hadd⟩
    obtain ⟨rfl, -⟩ := Prod.mk.inj (Except.ok.inj (hdescribe'.symm.trans hdescribe))
    obtain ⟨rfl, heq⟩ := Prod.mk.inj (hfields'.symm.trans hfields)
    exact ⟨Except.ok.inj heq ▸ hs, hadd⟩
  · rintro ⟨hs, hadd⟩
    exact ⟨layout, notices, c₁, fields, hdescribe, hfields, hs, hadd⟩

/-- A failed definition binds the class and adds map types.  Either it ends there, or it registers
the struct as well, and the alias for its class fails. -/
theorem grows_or_of_defineType_error (hopen : c.isSealed = false)
    (h : c.defineType t name sample = (c', .error fault)) :
    (Registry.Grows (c.bindSample name sample).registry c'.registry ∧
      ∀ s r, ¬ Registers c t name sample s r) ∨
    ∃ cls s r, sample.class? = some cls ∧ s.name = name ∧ Registers c t name sample s c'.registry ∧
      Registry.Grows (c.bindSample name sample).registry r ∧
      r.add (.struct s) = .ok (c'.registry, true) := by
  simp only [defineType, checkOpen, hopen, Bool.false_eq_true, if_false] at h
  split at h
  · -- the sample has no layout
    rename_i hdescribe
    obtain ⟨rfl, -⟩ := Prod.mk.inj h
    refine .inl ⟨.refl _, ?_⟩
    rintro s r ⟨_, _, _, _, hok, -⟩
    exact absurd (hdescribe.symm.trans hok) (by simp)
  rename_i layout notices hdescribe
  have hgrows := grows_resolveFields (c.bindSample name sample) layout.fields
  split at h
  · -- a field is not resolved
    rename_i hfields
    obtain ⟨rfl, -⟩ := Prod.mk.inj h
    rw [hfields] at hgrows
    refine .inl ⟨hgrows, ?_⟩
    rintro s r ⟨layout', _, _, _, hdescribe', hok, -⟩
    obtain ⟨rfl, -⟩ := Prod.mk.inj (Except.ok.inj (hdescribe'.symm.trans hdescribe))
    exact absurd (hfields.symm.trans hok) (by simp)
  rename_i c₁ fields hfields
  rw [hfields] at hgrows
  split at h
  · -- the name is taken
    rename_i hadd
    obtain ⟨rfl, -⟩ := Prod.mk.inj h
    refine .inl ⟨hgrows, fun s r hregisters => ?_⟩
    obtain ⟨rfl, hok⟩ := (registers_iff hdescribe hfields).1 hregisters
    exact absurd ((add_of_ok hok).symm.trans hadd) (by simp)
  rename_i c₂ hadd
  obtain ⟨isNew, hadd⟩ := registry_of_add hadd
  split at h
  · -- the name of the class is taken
    rename_i halias
    obtain ⟨rfl, -⟩ := Prod.mk.inj h
    cases isNew with
    | true =>
      obtain ⟨cls, hcls⟩ := exists_class?_of_aliasSample_error halias
      exact .inr ⟨cls, _, c₁.registry, hcls, rfl,
        (registers_iff hdescribe hfields).2 ⟨rfl, hadd⟩, hgrows, hadd⟩
    | false =>
      have hsame : c₂.registry = c₁.registry := by
        obtain ⟨-, ⟨-, hsame, -⟩ | ⟨-, -, hnew⟩⟩ := Registry.add_eq_ok_iff.1 hadd
        · exact hsame
        · exact absurd hnew (by simp)
      refine .inl ⟨hsame ▸ hgrows, fun s r hregisters => ?_⟩
      obtain ⟨rfl, hok⟩ := (registers_iff hdescribe hfields).1 hregisters
      exact absurd (hadd.symm.trans hok) (by simp)
  · exact absurd h (by simp)

/-- **What a failed definition of a type leaves behind.**  Aliases are never changed, and by a
dictionary nothing is.  The class of any other sample stays bound, that of a mapping too, and a new
struct stays registered if the alias for its class fails; the definition keeps all if and only if it
does neither. -/
theorem defineType_error (hopen : c.isSealed = false)
    (h : c.defineType t name sample = (c', .error fault)) :
    (∀ entries, sample = .fields entries → Keeps c c') ∧
    c'.registry.aliases = c.registry.aliases ∧
    c'.registry.classes = (c.bindSample name sample).registry.classes ∧
    (c'.registry.given = c.registry.given ∨ ∃ s, Registers c t name sample s c'.registry ∧
      c'.registry.given.entries = c.registry.given.entries ++ [(name, .struct s)]) ∧
    (Keeps c c' ↔ (∀ cls, sample.class? = some cls → c.registry.className? cls = some name) ∧
      ∀ s r, ¬ Registers c t name sample s r) := by
  have haliases := aliases_bindSample c name sample
  have hgiven := given_bindSample c name sample
  rcases grows_or_of_defineType_error hopen h with
    ⟨hgrows, hnone⟩ | ⟨cls, s, r, hcls, hname, hregisters, hgrows, hadd⟩
  · have hkeeps : Keeps c c' ↔
        ∀ cls, sample.class? = some cls → c.registry.className? cls = some name := by
      rw [← classes_bindSample_eq_iff, ← hgrows.classes_eq]
      exact ⟨Keeps.classes_eq, fun hclasses =>
        ⟨hgrows.aliases_eq.trans haliases, hclasses, hgrows.given_eq.trans hgiven⟩⟩
    refine ⟨fun entries hs => hkeeps.2 fun cls hcls => ?_, hgrows.aliases_eq.trans haliases,
      hgrows.classes_eq, .inl (hgrows.given_eq.trans hgiven), ?_⟩
    · exact absurd hcls (by simp [hs, Sample.class?])
    · rw [hkeeps, and_iff_left hnone]
  · obtain ⟨hsame, hclasses, hentries⟩ := Registry.entries_given_of_add hadd
    rw [hgrows.given_eq, hgiven, hname] at hentries
    refine ⟨fun entries hs => absurd hcls (by simp [hs, Sample.class?]),
      hsame.trans (hgrows.aliases_eq.trans haliases), hclasses.trans hgrows.classes_eq,
      .inr ⟨s, hregisters, hentries⟩, fun hkeeps => ?_, fun hnone => ?_⟩
    · rw [hkeeps.given_eq] at hentries
      exact absurd hentries (by simp)
    · exact absurd hregisters (hnone.2 s c'.registry)

/-- The second field of a mapping cannot be resolved.  The map type of the first one stays, and
nothing else is changed. -/
theorem defineType_error_pages : ∃ (c c' : Context) (fault : ConfigFault), c.isSealed = false ∧
    c.defineType [] "Shelf" (.fields (Dict.ofList [("pages", "map[string]int"), ("books", "map[")])) =
      (c', .error fault) ∧
    c'.registry.definitions.keys = ["map_string_integer"] ∧ Keeps c c' := by
  have hfault : (({} : Context).defineType [] "Shelf"
      (.fields (Dict.ofList [("pages", "map[string]int"), ("books", "map[")]))).2 =
        .error (.type (.malformedMap "map[")) := by
    decide +kernel
  exact ⟨{}, _, _, rfl, Prod.ext rfl hfault, by decide +kernel,
    (defineType_error rfl (Prod.ext rfl hfault)).1 _ rfl⟩

/-- The class `Book` is to be defined as `Novel`, but its own name is taken.  The definition fails,
the struct stays registered, and the fields of other classes come to refer to it. -/
theorem defineType_error_novel :
    let book : Class :=
      { name := "Book", qualifiedName := "app.models.Book", kind := .record
        record := some (Dict.ofList [("title", ⟨"title", .of (.builtin .str), false, none, none⟩)]) }
    let shelf : Class :=
      { name := "Shelf", qualifiedName := "app.models.Shelf", kind := .record
        record := some (Dict.ofList [("first", ⟨"first", .of (.declared 0), false, none, none⟩)]) }
    let c : Context := configured [book, shelf] [.definePrimitive "Book" "string" {}]
    let failed := c.defineType [book, shelf] "Novel" (.class (.declared 0))
    c.isSealed = false ∧ failed.2 = .error (.type (.conflict "Book")) ∧ ¬ Keeps c failed.1 ∧
      c.registry.definitions.keys = ["Book"] ∧
      failed.1.registry.definitions.keys = ["Book", "Novel"] ∧
      (c.defineType [book, shelf] "Shelf" (.class (.declared 1))).2 =
        .ok ⟨"Shelf", "app.models.Shelf", [⟨"first", ⟨.scalar, "Book", ["Book"]⟩, false⟩]⟩ ∧
      (failed.1.defineType [book, shelf] "Shelf" (.class (.declared 1))).2 =
        .ok ⟨"Shelf", "app.models.Shelf", [⟨"first", ⟨.object, "Novel", ["Novel"]⟩, false⟩]⟩ := by
  intro book shelf c failed
  refine ⟨rfl, by decide +kernel, fun h => ?_, by decide +kernel, by decide +kernel,
    by decide +kernel, by decide +kernel⟩
  exact absurd (congrArg Dict.keys h.given_eq) (by decide +kernel)

end Context

end RouteDoc
