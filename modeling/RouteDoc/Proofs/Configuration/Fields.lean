import RouteDoc.Config.Bundled
import RouteDoc.Proofs.Configuration.Run
import RouteDoc.Proofs.Resolution.Extension
import Mathlib.Control.Monad.Basic
import Mathlib.Data.List.Forall2

/-!
# Fields of configured types

The fields of a type of objects are resolved when the type is registered.  Other types are registered
after it, and aliases whose targets are not known before.

* `Context.forall₂_resolveFields`: what the fields of a layout were resolved to is what they resolve
  to later, if no alias is followed then that was not there before.
* `Config.beforeType`: the context in which a configured type is registered.
* `Config.Applied.each_append`: several things are applied one part after the other.
* `Config.fields_of_apply`: **the fields of a configured type mean the same in the finished
  context**, if no alias is followed there that was registered after the type.
* `Config.apply_alias_for_type`: an alias for a configured type is registered after the types.
-/

namespace RouteDoc

/-! ## Single definitions -/

namespace Context

open Registry

variable {c c' : Context} {t : ClassTable} {name target : String}

theorem precedes_bindSample (c : Context) (name : String) (sample : Sample) :
    Precedes c.registry (c.bindSample name sample).registry := by
  unfold bindSample
  split
  · exact .refl _
  · exact precedes_bind _ _ name

theorem precedes_resolveFields (c : Context) (specs : List FieldSpec) :
    Precedes c.registry (c.resolveFields specs).1.registry :=
  resolveFields_induct (.refl _) (fun r e hr => hr.trans (precedes_resolve r e)) specs

theorem precedes_defineAlias (c : Context) (name target : String) :
    Precedes c.registry (c.defineAlias name target).1.registry := by
  have hres := precedes_resolve c.registry (Text.strip target)
  rcases registry_defineAlias c name target with h | h | ⟨d, isNew, -, -, hadd⟩
  · exact h.symm ▸ .refl _
  · exact h.symm ▸ hres
  · exact hres.trans (precedes_addAlias hadd)

theorem precedes_defineType (c : Context) (t : ClassTable) (name : String) (sample : Sample) :
    Precedes c.registry (c.defineType t name sample).1.registry := by
  have hbind := precedes_bindSample c name sample
  have hres : ∀ layout : Layout, Precedes c.registry
      ((c.bindSample name sample).resolveFields layout.fields).1.registry := fun layout =>
    hbind.trans (precedes_resolveFields _ layout.fields)
  rcases registry_defineType c t name sample with h | h | ⟨layout, h | ⟨_, s, _, -, hadd, h⟩⟩
  · exact h.symm ▸ .refl _
  · exact h.symm ▸ hbind
  · exact h.symm ▸ hres layout
  have hadded := (hres layout).trans (precedes_add (by simp) hadd)
  rcases h with h | ⟨cls, _, -, -, halias⟩
  · exact h.symm ▸ hadded
  · exact hadded.trans (precedes_addAlias halias)

/-- The fields of a layout resolve later to what they were resolved to, if no alias is followed then
that was not there before. -/
theorem forall₂_resolveFields {specs : List FieldSpec} {fields : List StructField} {s : Registry}
    (h : c.resolveFields specs = (c', .ok fields)) (hs : Precedes c'.registry s) :
    List.Forall₂ (fun spec f => f.name = spec.name ∧ f.optional = spec.optional ∧
      ((∀ a, s.Follows spec.expression a → a ∈ c.registry.aliases.keys) →
        s.resolve spec.expression = (s, .ok f.type))) specs fields := by
  induction specs generalizing c fields with
  | nil =>
    obtain ⟨-, hfields⟩ := Prod.mk.injEq .. ▸ h
    exact Except.ok.inj hfields ▸ .nil
  | cons spec specs ih =>
    unfold resolveFields at h
    split at h
    · exact absurd h (by simp)
    rename_i c₁ d hopen
    have hres := registry_resolveOpen hopen
    obtain ⟨hcontext, houtcome⟩ := Prod.mk.injEq .. ▸ h
    obtain ⟨rest, hspecs, rfl⟩ := map_eq_ok_iff.1 houtcome
    have hrest : c₁.resolveFields specs = (c', .ok rest) := Prod.ext hcontext hspecs
    have hlater : Precedes c₁.registry s := by
      have hstep := precedes_resolveFields c₁ specs
      rw [hrest] at hstep
      exact hstep.trans hs
    refine .cons ⟨rfl, rfl, fun hnew => hlater.resolve_eq hres hnew⟩ ?_
    rw [← (grows_of_resolve_eq hres).aliases_eq]
    exact ih hrest

/-- A type of objects stays registered, and the expressions of its fields resolve later to what they
were resolved to, if no alias is followed then that was not there before. -/
theorem exists_of_defineType_precedes {sample : Sample} {s : Struct} {r : Registry}
    (h : c.defineType t name sample = (c', .ok s)) (hr : Precedes c'.registry r) :
    ∃ layout notices, Layout.describe t (c.bindSample name sample).registry sample =
        .ok (layout, notices) ∧ r.definition? name = some (.struct s) ∧
      List.Forall₂ (fun spec f => f.name = spec.name ∧ f.optional = spec.optional ∧
        ((∀ a, r.Follows spec.expression a → a ∈ c.registry.aliases.keys) →
          r.resolve spec.expression = (r, .ok f.type))) layout.fields s.fields := by
  obtain ⟨layout, notices, c₁, fields, r₁, isNew, hlayout, hfields, rfl, hadd, h⟩ :=
    exists_of_defineType h
  have hlater : Precedes r₁ r := by
    rcases h with h | ⟨cls, _, halias⟩
    · exact h ▸ hr
    · exact (precedes_addAlias halias).trans hr
  have hd : r₁.definition? name = some (.struct ⟨name, layout.source, fields⟩) := by
    obtain ⟨-, ⟨hd, rfl, -⟩ | ⟨-, rfl, -⟩⟩ := add_eq_ok_iff.1 hadd
    · exact hd
    · exact (definition?_put _ _).trans (if_pos rfl)
  have haliases : (c.bindSample name sample).registry.aliases = c.registry.aliases := by
    cases sample <;> rfl
  refine ⟨layout, notices, hlayout, hlater.definition?_eq_some hd, ?_⟩
  exact haliases ▸ forall₂_resolveFields hfields ((precedes_add (by simp) hadd).trans hlater)

/-- What resolves in the registry without any effect resolves in a sealed context so. -/
theorem resolve_of_registry {e : String} {outcome : Except TypeFault Descriptor}
    (hc : c.isSealed = true) (h : c.registry.resolve e = (c.registry, outcome)) :
    c.resolve e = (c, outcome) := by
  have hsealed : c.sealed = c := by
    cases c
    simp_all [sealed]
  rw [resolve, hsealed, resolveOpen, h]

end Context

namespace Config

open Registry

/-! ## Application in parts -/

namespace Applied

variable {α : Type} {a : Applied} {f : Context → Applied} {g : Context → α → Applied}

theorem outcome_andThen_eq_ok : (a.andThen f).outcome = .ok () ↔
    a.outcome = .ok () ∧ (f a.context).outcome = .ok () := by
  unfold andThen
  split <;> simp_all

theorem context_andThen (h : a.outcome = .ok ()) : (a.andThen f).context = (f a.context).context := by
  simp [andThen, h]

theorem andThen_assoc (a : Applied) (f g : Context → Applied) :
    (a.andThen f).andThen g = a.andThen fun c => (f c).andThen g := by
  obtain ⟨c, notices, fault | u⟩ := a
  · rfl
  · simp only [andThen]
    cases h : (f c).outcome <;> simp [h, List.append_assoc]

/-- Several things are applied one part after the other. -/
theorem each_append (g : Context → α → Applied) (c : Context) (xs ys : List α) :
    each g c (xs ++ ys) = (each g c xs).andThen fun c => each g c ys := by
  induction xs generalizing c with
  | nil => rfl
  | cons x xs ih => simp only [List.cons_append, each, ih, andThen_assoc]

theorem precedes_each (hg : ∀ c x, Precedes c.registry (g c x).context.registry) (c : Context)
    (xs : List α) : Precedes c.registry (each g c xs).context.registry := by
  induction xs generalizing c with
  | nil => exact .refl _
  | cons x xs ih =>
    unfold each andThen
    split
    · exact (hg c x).trans (ih _)
    · exact hg c x

end Applied

/-! ## Stages of the application -/

variable {config : Config} {imports : Imports} {c : Context} {name : String} {tc : TypeConfig}

theorem applyType_cases (imports : Imports) (c : Context) (name : String) (tc : TypeConfig) :
    (applyType imports c (name, tc)).context = c ∧
        (applyType imports c (name, tc)).outcome ≠ .ok () ∨
      ∃ sample, tc.sample imports = .ok sample ∧
        (applyType imports c (name, tc)).context =
          (c.defineType imports.classes name sample).1 ∧
        ((applyType imports c (name, tc)).outcome = .ok () →
          ∃ s, (c.defineType imports.classes name sample).2 = .ok s) := by
  simp only [applyType]
  split
  · exact .inl ⟨rfl, by simp⟩
  rename_i sample hsample
  refine .inr ⟨sample, hsample, ?_⟩
  split
  · rename_i hs
    exact ⟨rfl, fun _ => ⟨_, hs⟩⟩
  · exact ⟨rfl, fun h => absurd h (by simp)⟩

theorem exists_of_applyType (h : (applyType imports c (name, tc)).outcome = .ok ()) :
    ∃ sample s, tc.sample imports = .ok sample ∧
      c.defineType imports.classes name sample =
        ((applyType imports c (name, tc)).context, .ok s) := by
  rcases applyType_cases imports c name tc with ⟨-, hnot⟩ | ⟨sample, htc, hcontext, hok⟩
  · exact absurd h hnot
  · obtain ⟨s, hs⟩ := hok h
    exact ⟨sample, s, htc, Prod.ext hcontext.symm hs⟩

theorem precedes_applyType (imports : Imports) (c : Context) (e : String × TypeConfig) :
    Precedes c.registry (applyType imports c e).context.registry := by
  rcases applyType_cases imports c e.1 e.2 with ⟨h, -⟩ | ⟨sample, -, h, -⟩
  · exact h.symm ▸ .refl _
  · exact h.symm ▸ c.precedes_defineType imports.classes e.1 sample

theorem precedes_applyAlias (c : Context) (e : String × String) :
    Precedes c.registry (applyAlias c e).context.registry :=
  c.precedes_defineAlias e.1 e.2

/-- The context in which the keywords, the narrowed built-in types and the aliases with known targets
are registered. -/
def beforeTypes (config : Config) (c : Context) : Context :=
  let keywords := Applied.each (fun c e => attempt c (c.defineKeyword e.1 e.2)) c
    config.keywords.entries
  let primitives := keywords.andThen fun c => Applied.each applyPrimitive c config.primitives.entries
  (defineAliases primitives.context config.aliases.entries).1

/-- The context in which the types of objects `before` are registered as well. -/
def beforeType (config : Config) (imports : Imports) (c : Context)
    (before : List (String × TypeConfig)) : Context :=
  (Applied.each (applyType imports) (config.beforeTypes c) before).context

theorem exists_of_applyTypes (h : (config.applyTypes imports c).outcome = .ok ()) :
    let types := Applied.each (applyType imports) (defineAliases c config.aliases.entries).1
      config.types.entries
    types.outcome = .ok () ∧ ∃ pending,
      (config.applyTypes imports c).context = (Applied.each applyAlias types.context pending).context := by
  simp only [applyTypes] at h ⊢
  split at h
  · exact absurd h (by simp)
  rename_i pending hpending
  have hrest := (Applied.outcome_andThen_eq_ok.1 h).2
  have htypes := (Applied.outcome_andThen_eq_ok.1 hrest).1
  refine ⟨htypes, pending, ?_⟩
  rw [Applied.context_andThen rfl, Applied.context_andThen htypes]

/-- After the types of objects only aliases are registered. -/
theorem exists_of_apply (h : (config.apply imports c).outcome = .ok ()) :
    (Applied.each (applyType imports) (config.beforeTypes c) config.types.entries).outcome =
        .ok () ∧
      ∃ pending, (config.apply imports c).context = (Applied.each applyAlias
        (config.beforeType imports c config.types.entries) pending).context.sealed := by
  unfold apply at h ⊢
  split at h
  · exact absurd h (by simp)
  rename_i hopen
  have happlied := (Applied.outcome_andThen_eq_ok.1 h).1
  obtain ⟨hprimitives, htypes⟩ := Applied.outcome_andThen_eq_ok.1 happlied
  rw [if_neg hopen, Applied.context_andThen happlied, Applied.context_andThen hprimitives]
  obtain ⟨hok, pending, hpending⟩ := exists_of_applyTypes htypes
  exact ⟨hok, pending, congrArg Context.sealed hpending⟩

/-- Each configured type is registered in the context before it, and what comes behind it adds no
narrowed built-in types. -/
theorem applyType_of_apply (h : (config.apply imports c).outcome = .ok ())
    {before after : List (String × TypeConfig)}
    (hsplit : config.types.entries = before ++ (name, tc) :: after) :
    let a := applyType imports (config.beforeType imports c before) (name, tc)
    a.outcome = .ok () ∧
      Precedes a.context.registry (config.apply imports c).context.registry := by
  intro a
  obtain ⟨hok, pending, hfinished⟩ := exists_of_apply h
  rw [hsplit, Applied.each_append, Applied.outcome_andThen_eq_ok] at hok
  obtain ⟨hbefore, hrest⟩ := hok
  obtain ⟨htype, -⟩ := Applied.outcome_andThen_eq_ok.1 hrest
  have htypes : config.beforeType imports c config.types.entries =
      (Applied.each (applyType imports) a.context after).context := by
    rw [beforeType, hsplit, Applied.each_append, Applied.context_andThen hbefore, Applied.each,
      Applied.context_andThen htype]
    rfl
  refine ⟨htype, ?_⟩
  rw [hfinished, htypes]
  exact (Applied.precedes_each (precedes_applyType imports) _ after).trans
    (Applied.precedes_each precedes_applyAlias _ pending)

/-! ## The finished context -/

/-- **The fields of a configured type mean the same in the finished context**, whatever can be
imported.  If a configuration is applied without a fault, then each of its types of objects is
registered with one field for each field of its layout, under the same name; and the expression of
that resolves in the finished context to the registered descriptor and without any effect, if no
alias is followed then that was not there before the type. -/
theorem fields_of_apply (config : Config) (imports : Imports) (c : Context)
    (h : (config.apply imports c).outcome = .ok ())
    {before after : List (String × TypeConfig)} {name : String} {tc : TypeConfig}
    (hsplit : config.types.entries = before ++ (name, tc) :: after) :
    let b := config.beforeType imports c before
    let finished := (config.apply imports c).context
    ∃ sample layout notices s, tc.sample imports = .ok sample ∧
      Layout.describe imports.classes (b.bindSample name sample).registry sample =
        .ok (layout, notices) ∧
      finished.registry.definition? name = some (.struct s) ∧
      List.Forall₂ (fun spec f => f.name = spec.name ∧ f.optional = spec.optional ∧
        ((∀ a, finished.registry.Follows spec.expression a → a ∈ b.registry.aliases.keys) →
          finished.resolve spec.expression = (finished, .ok f.type))) layout.fields s.fields := by
  intro b finished
  obtain ⟨htype, hlater⟩ := applyType_of_apply h hsplit
  obtain ⟨sample, s, hsample, hdefine⟩ := exists_of_applyType htype
  obtain ⟨layout, notices, hlayout, hd, hfields⟩ :=
    Context.exists_of_defineType_precedes hdefine hlater
  refine ⟨sample, layout, notices, s, hsample, hlayout, hd, ?_⟩
  refine hfields.imp fun spec f ⟨hname, hoptional, hres⟩ => ⟨hname, hoptional, fun hnew => ?_⟩
  have hsealed : finished.isSealed = true := by
    obtain ⟨-, pending, hfinished⟩ := exists_of_apply h
    rw [show finished = _ from hfinished]
    rfl
  exact Context.resolve_of_registry hsealed (hres hnew)

/-- A field that goes through an alias, beside another one whose alias is registered after the type;
and a field of a class that is imported. -/
theorem fields_of_apply_shelves :
    let author : TypeConfig :=
      .fields (Dict.ofList [("books?", "map[BookId][]Book"), ("shelf", "Shelf")])
    let book : TypeConfig := .imported "doc2raml.parser.base:Example"
    let config : Config :=
      { primitives := Dict.ofList [("uuid", {})]
        types := Dict.ofList [("Author", author), ("Book", book)]
        aliases := Dict.ofList [("Shelf", "[]Book"), ("BookId", "uuid")] }
    let finished := (config.apply .bundled {}).context
    let text (name : String) : StructField := ⟨name, ⟨.scalar, "string", []⟩, true⟩
    (config.apply .bundled {}).outcome = .ok () ∧
      config.types.entries = [] ++ ("Author", author) :: [("Book", book)] ∧
      finished.registry.definition? "Author" = some (.struct ⟨"Author", "",
        [⟨"books", ⟨.object, "map_uuid_BookArray", ["map_uuid_BookArray", "uuid", "Book"]⟩, true⟩,
          ⟨"shelf", ⟨.object, "Shelf", ["Shelf"]⟩, false⟩]⟩) ∧
      finished.resolve "map[BookId][]Book" = (finished, .ok
        ⟨.object, "map_uuid_BookArray", ["map_uuid_BookArray", "uuid", "Book"]⟩) ∧
      finished.registry.definition? "Book" = some (.struct ⟨"Book", "doc2raml.parser.base.Example",
        [text "description", text "uri", text "body", ⟨"code", ⟨.scalar, "integer", []⟩, true⟩,
          text "response"]⟩) ∧
      finished.resolve "*int" = (finished, .ok ⟨.scalar, "integer", []⟩) := by
  intro author book config finished text
  have hok : (config.apply .bundled {}).outcome = .ok () := by decide +kernel
  have hsplit : config.types.entries = [] ++ ("Author", author) :: [("Book", book)] := rfl
  have hd : finished.registry.definition? "Author" = some (.struct ⟨"Author", "",
      [⟨"books", ⟨.object, "map_uuid_BookArray", ["map_uuid_BookArray", "uuid", "Book"]⟩, true⟩,
        ⟨"shelf", ⟨.object, "Shelf", ["Shelf"]⟩, false⟩]⟩) := by decide +kernel
  have hd₂ : finished.registry.definition? "Book" = some (.struct
      ⟨"Book", "doc2raml.parser.base.Example", [text "description", text "uri", text "body",
        ⟨"code", ⟨.scalar, "integer", []⟩, true⟩, text "response"]⟩) := by decide +kernel
  refine ⟨hok, hsplit, hd, ?_, hd₂, ?_⟩
  · obtain ⟨sample, layout, notices, s, hsample, hlayout, hd', hfields⟩ :=
      fields_of_apply config .bundled {} hok hsplit
    obtain rfl := Except.ok.inj hsample
    obtain ⟨rfl, -⟩ := Prod.mk.injEq .. ▸ Except.ok.inj hlayout
    obtain rfl := Definition.struct.inj (Option.some.inj (hd'.symm.trans hd))
    refine (List.forall₂_cons.1 hfields).1.2.2 fun a ha => ?_
    have hall : ∀ a ∈ ["map[BookId][]Book", "BookId", "uuid", "[]Book", "Book"],
        a ∈ finished.registry.aliases.keys →
          a ∈ (config.beforeType .bundled {} []).registry.aliases.keys := by decide +kernel
    have hmem : a ∈ ["map[BookId][]Book", "BookId", "uuid", "[]Book", "Book"] ∧ _ :=
      mem_of_follows (by decide +kernel) (by decide +kernel) ha
    exact hall a hmem.1 hmem.2
  · have hsplit₂ : config.types.entries = [("Author", author)] ++ ("Book", book) :: [] := rfl
    obtain ⟨sample, layout, notices, s, hsample, hlayout, hd', hfields⟩ :=
      fields_of_apply config .bundled {} hok hsplit₂
    have hclass : book.sample .bundled = .ok (.class (.declared 0)) := by decide +kernel
    obtain rfl := Except.ok.inj (hclass.symm.trans hsample)
    have hdescribe : (Layout.describe Imports.bundled.classes
        ((config.beforeType .bundled {} [("Author", author)]).bindSample "Book"
          (.class (.declared 0))).registry (.class (.declared 0))) =
        .ok (⟨"doc2raml.parser.base.Example", [⟨"description", "string", true⟩,
          ⟨"uri", "string", true⟩, ⟨"body", "string", true⟩, ⟨"code", "*int", true⟩,
          ⟨"response", "string", true⟩]⟩, []) := by decide +kernel
    obtain ⟨rfl, -⟩ := Prod.mk.inj (Except.ok.inj (hdescribe.symm.trans hlayout))
    obtain rfl := Definition.struct.inj (Option.some.inj (hd'.symm.trans hd₂))
    simp only [List.forall₂_cons] at hfields
    refine hfields.2.2.2.1.2.2 fun a ha => ?_
    -- no alias is followed
    have hnone : ∀ a ∈ ["*int", "int"], a ∉ finished.registry.aliases.keys := by decide +kernel
    have hmem : a ∈ ["*int", "int"] ∧ _ :=
      mem_of_follows (by decide +kernel) (by decide +kernel) ha
    exact absurd hmem.2 (hnone a hmem.1)

/-- An alias for a configured type is registered after the types, so a field that names it keeps the
name of the alias, while the finished context resolves it to the type. -/
theorem apply_alias_for_type :
    let config : Config :=
      { types := Dict.ofList [("Author", .fields (Dict.ofList [("books", "[]BookRef")])),
          ("Book", .fields (Dict.ofList [("title", "string")]))]
        aliases := Dict.ofList [("BookRef", "Book")] }
    let finished := (config.apply .bundled {}).context
    (config.apply .bundled {}).outcome = .ok () ∧
      finished.registry.definition? "Author" = some (.struct ⟨"Author", "",
        [⟨"books", ⟨.array, "BookRef[]", ["BookRef"]⟩, false⟩]⟩) ∧
      (finished.resolve "[]BookRef").2 = .ok ⟨.array, "Book[]", ["Book"]⟩ := by
  intro config finished
  exact ⟨by decide +kernel, by decide +kernel, by decide +kernel⟩

end Config

end RouteDoc
