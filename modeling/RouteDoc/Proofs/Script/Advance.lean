import RouteDoc.Script.Rules
import Mathlib.Data.List.Infix

/-!
# Reading takes tokens from the front

Whatever reads a script leaves some of the last tokens that it is given, in their order.  Readings
that are put together keep this, so it holds of each rule if it holds of the rules that it refers
to, up to any depth of nesting.

* `Parse.Advances`: a reading leaves the last tokens.
* `Parse.Advances.bind`, `Parse.Advances.ite`, `Parse.Advances.list`: readings put together.
* `Rules.Advances`, `Rules.advances_ofDepth`: **expressions leave the last tokens.**
-/

namespace RouteDoc.Script

namespace Parse

variable {α β : Type} {ts base rest : List Token} {p q : Parse α} {a : α} {m : String}

/-- What is left is the end of the tokens, and of any list with those at its end. -/
def Advances (p : Parse α) : Prop :=
  ∀ ⦃ts base a rest⦄, p ts = some (a, rest) → ts <:+ base → rest <:+ base

/-! ## What succeeds -/

theorem of_bind {x : Option (α × List Token)} {f : α × List Token → Option β} {b : β}
    (h : x.bind f = some b) : ∃ a us, x = some (a, us) ∧ f (a, us) = some b := by
  obtain ⟨⟨a, us⟩, hx, hf⟩ := Option.bind_eq_some_iff.1 h
  exact ⟨a, us, hx, hf⟩

/-- What succeeds behind a choice between two readings. -/
theorem of_if_bind {c : Prop} [Decidable c] {x y : Option (α × List Token)}
    {f : α × List Token → Option β} {b : β} (h : (if c then x.bind f else y.bind f) = some b) :
    ∃ a us, (if c then x else y) = some (a, us) ∧ f (a, us) = some b := by
  rw [← apply_ite (Option.bind · f)] at h
  exact of_bind h

theorem of_map {x : Option (α × List Token)} {f : α × List Token → β} {b : β}
    (h : x.map f = some b) : ∃ a us, x = some (a, us) ∧ f (a, us) = b := by
  obtain ⟨⟨a, us⟩, hx, hf⟩ := Option.map_eq_some_iff.1 h
  exact ⟨a, us, hx, hf⟩

theorem suffix_of_cons {t : Token} (h : t :: ts <:+ base) : ts <:+ base :=
  (List.suffix_cons t ts).trans h

/-! ## Readings put together -/

namespace Advances

theorem fail : Advances fun _ => (none : Option (α × List Token)) := nofun

theorem give (a : α) : Advances fun ts => some (a, ts) := by
  intro ts base a' rest h hs
  cases h
  exact hs

/-- What stands behind some tokens is read. -/
theorem behind {f : List Token → List Token} (hp : Advances p) (hf : ∀ ts, f ts <:+ ts) :
    Advances fun ts => p (f ts) :=
  fun ts _ _ _ h hs => hp h ((hf ts).trans hs)

theorem tail (hp : Advances p) : Advances fun ts => p ts.tail := hp.behind List.tail_suffix

/-- A token is passed over. -/
theorem skip (a : α) : Advances fun ts => some (a, ts.tail) := (give a).tail

/-- What a reading depends on may be taken from the tokens, such as their number. -/
theorem of_all {γ : Type} {p : γ → Parse α} (hp : ∀ c, Advances (p c)) (f : List Token → γ) :
    Advances fun ts => p (f ts) ts :=
  fun _ _ _ _ h hs => hp _ h hs

theorem ite {c : List Token → Prop} {_ : ∀ ts, Decidable (c ts)} (hp : Advances p)
    (hq : Advances q) : Advances fun ts => if c ts then p ts else q ts := by
  intro ts base a rest h hs
  dsimp only at h
  split at h
  · exact hp h hs
  · exact hq h hs

/-- Reading goes on, in a way that may depend on the tokens in front of what was read. -/
theorem bind_of_all {f : List Token → α × List Token → Option (β × List Token)} (hp : Advances p)
    (hf : ∀ us a, Advances fun ts => f us (a, ts)) : Advances fun ts => (p ts).bind (f ts) := by
  intro ts base b rest h hs
  obtain ⟨a, us, ha, hb⟩ := of_bind h
  exact hf ts a hb (hp ha hs)

theorem bind {f : α × List Token → Option (β × List Token)} (hp : Advances p)
    (hf : ∀ a, Advances fun ts => f (a, ts)) : Advances fun ts => (p ts).bind f :=
  bind_of_all hp fun _ => hf

theorem map {f : α → β} (hp : Advances p) :
    Advances fun ts => (p ts).map fun (a, ts) => (f a, ts) := by
  intro ts base b rest h hs
  obtain ⟨a, us, ha, hb⟩ := of_map h
  cases hb
  exact hp ha hs

theorem orElse (hp : Advances p) (hq : Advances q) : Advances (orElse p q) := by
  intro ts base a rest h hs
  rw [Parse.orElse, Option.orElse_eq_or] at h
  rcases Option.or_eq_some_iff.1 h with h | ⟨-, h⟩
  · exact hp h hs
  · exact hq h hs

theorem listRest {trailing : Bool} {n : Nat} (hp : Advances p) :
    Advances (listRest p m trailing n) := by
  induction n with
  | zero => exact .give _
  | succ n ih =>
    intro ts base as rest h hs
    unfold Parse.listRest at h
    have htail := (List.tail_suffix ts).trans hs
    split at h
    · split at h
      next a us ha => exact ih.map h (hp ha htail)
      next =>
        obtain ⟨-, rfl⟩ := Prod.mk.inj (Option.some.inj h)
        split
        · exact htail
        · exact hs
    · exact give _ h hs

/-- As many items as there may be. -/
theorem items {trailing : Bool} (hp : Advances p) :
    Advances fun ts => Parse.listRest p m trailing ts.length ts :=
  of_all (p := fun n => Parse.listRest p m trailing n) (fun _ => hp.listRest) List.length

theorem list {trailing : Bool} (hp : Advances p) : Advances (list p m trailing) := by
  refine .bind hp fun _ => .bind_of_all hp.items fun _ _ => ?_
  exact .give _

end Advances

/-! ## Single tokens -/

theorem advances_mark (m : String) : Advances (mark m) := .ite (.skip _) .fail

theorem advances_word (w : String) : Advances (word w) := .ite (.skip _) .fail

/-- A mark at the end of some items, behind a comma or not. -/
theorem advances_markEnd (m : String) :
    Advances fun ts => mark m (if isMark "," ts then ts.tail else ts) := by
  refine (advances_mark m).behind fun ts => ?_
  split
  · exact List.tail_suffix ts
  · exact List.suffix_rfl

theorem of_kind {k : TokenKind} {u : Unit} (h : kind k ts = some (u, rest)) :
    ∃ t : Token, t.kind = k ∧ ts = t :: rest := by
  cases ts with
  | nil => cases h
  | cons t ts =>
    rw [kind, Option.ite_none_right_eq_some, Option.some.injEq, Prod.mk.injEq] at h
    obtain ⟨rfl, -, rfl⟩ := h
    exact ⟨t, rfl, rfl⟩

theorem advances_kind (k : TokenKind) : Advances (kind k) := by
  intro ts base u rest h hs
  obtain ⟨t, -, rfl⟩ := of_kind h
  exact suffix_of_cons hs

theorem advances_name : Advances name := by
  intro ts base w rest h hs
  unfold name at h
  split at h
  · rw [Option.ite_none_left_eq_some, Option.some.injEq, Prod.mk.injEq] at h
    obtain ⟨-, -, rfl⟩ := h
    exact suffix_of_cons hs
  · cases h

theorem advances_oneOf (ms : List (String × α)) : Advances (oneOf ms) := by
  intro ts base a rest h hs
  unfold oneOf at h
  split at h
  · obtain ⟨_, -, hrest⟩ := Option.map_eq_some_iff.1 h
    obtain ⟨-, rfl⟩ := Prod.mk.inj hrest
    exact suffix_of_cons hs
  · cases h

end Parse

open Parse

namespace Rules

variable {r : Rules} {p : Parse Expr} {close : String}

/-- The rules of the depth below leave the last tokens. -/
structure Advances (r : Rules) : Prop where
  sum : Parse.Advances r.sum
  disjunction : Parse.Advances r.disjunction
  expression : Parse.Advances r.expression

theorem advances_named (hr : r.Advances) : Parse.Advances r.named := by
  refine .ite ?_ ?_
  · refine .bind advances_name fun _ => .bind hr.expression.tail fun _ => ?_
    exact .give _
  · intro ts base a rest h hs
    dsimp only at h
    split at h
    next e us he =>
      rw [Option.ite_none_left_eq_some] at h
      exact Advances.give _ h.2 (hr.expression he hs)
    next => cases h

theorem advances_starOr (hr : r.Advances) (hp : Parse.Advances p) :
    Parse.Advances (r.starOr p) :=
  .ite hr.sum.tail.map hp

theorem advances_commaList (hp : Parse.Advances p) : Parse.Advances (commaList p) := by
  refine .bind hp.list fun _ => ?_
  exact .give _

theorem advances_starExpressions (hr : r.Advances) : Parse.Advances r.starExpressions :=
  advances_commaList (advances_starOr hr hr.expression)

theorem advances_yieldExpr (hr : r.Advances) : Parse.Advances r.yieldExpr := by
  refine .bind (advances_word _) fun _ => .ite ?_ ?_
  · refine .bind hr.expression.tail fun _ => ?_
    exact .give _
  · intro ts base a rest h hs
    dsimp only at h
    split at h
    next e us he => exact Advances.give _ h (advances_starExpressions hr he hs)
    next => exact Advances.give _ h hs

theorem advances_yieldOrStar (hr : r.Advances) : Parse.Advances r.yieldOrStar :=
  .ite (advances_yieldExpr hr) (advances_starExpressions hr)

theorem advances_targets (hr : r.Advances) : Parse.Advances r.targets := by
  refine .bind (advances_commaList (advances_starOr hr hr.sum)) fun _ => ?_
  exact .ite (.give _) .fail

/-! ## Collections -/

theorem advances_conditions (hr : r.Advances) (n : Nat) : Parse.Advances (r.conditions n) := by
  induction n with
  | zero => exact .give _
  | succ n ih =>
    refine .ite ?_ (.give _)
    refine .bind hr.disjunction.tail fun _ => .bind ih fun _ => ?_
    exact .give _

theorem advances_clauses (hr : r.Advances) (n : Nat) : Parse.Advances (r.clauses n) := by
  induction n with
  | zero => exact .give _
  | succ n ih =>
    have htarget : Parse.Advances fun ts =>
        r.targets (if isWord "async" ts then ts.tail.tail else ts.tail) := by
      refine (advances_targets hr).behind fun ts => ?_
      split
      · exact (List.tail_suffix ts.tail).trans (List.tail_suffix ts)
      · exact List.tail_suffix ts
    refine .ite ?_ (.give _)
    refine .bind_of_all htarget fun _ _ => .bind (advances_word _) fun _ =>
      .bind hr.disjunction fun _ => .bind (.of_all (advances_conditions hr) List.length) fun _ =>
        .bind ih fun _ => ?_
    exact .give _

theorem advances_comprehension {k : CollectionKind} {e : Expr} (hr : r.Advances) :
    Parse.Advances (r.comprehension k close e) := by
  refine .ite .fail ?_
  refine .bind (.of_all (advances_clauses hr) List.length) fun _ =>
    .bind (advances_mark _) fun _ => ?_
  exact .give _

theorem advances_displayRest {k : CollectionKind} {build : List Expr → Expr} {e : Expr}
    (hr : r.Advances) : Parse.Advances (r.displayRest k close build e) := by
  refine .ite (advances_comprehension hr) ?_
  refine .bind (advances_starOr hr (advances_named hr)).items
    fun _ => .bind (advances_mark _) fun _ => ?_
  exact .give _

theorem advances_display {k : CollectionKind} {build : List Expr → Expr} (hr : r.Advances) :
    Parse.Advances (r.display k close build) := by
  refine .ite (.skip _) ?_
  exact .bind (advances_starOr hr (advances_named hr)) fun _ => advances_displayRest hr

theorem advances_parenthesized (hr : r.Advances) : Parse.Advances r.parenthesized := by
  have hitem := advances_starOr hr (advances_named hr)
  refine .ite (.skip _) (.ite ?_ ?_)
  · refine .bind (advances_yieldExpr hr) fun _ => .bind (advances_mark _) fun _ => ?_
    exact .give _
  · refine .bind hitem fun _ => .ite (advances_comprehension hr) (.ite ?_ ?_)
    · refine .bind hitem.items fun _ =>
        .bind (advances_mark _) fun _ => ?_
      exact .give _
    · refine .ite .fail (.bind (advances_mark _) fun _ => ?_)
      exact .give _

theorem advances_entry (hr : r.Advances) : Parse.Advances r.entry := by
  refine .ite hr.sum.tail.map ?_
  refine .bind hr.expression fun _ => .bind (advances_mark _) fun _ =>
    .bind hr.expression fun _ => ?_
  exact .give _

theorem advances_entriesRest {e : Expr} (hr : r.Advances) :
    Parse.Advances (r.entriesRest e) := by
  refine .bind (advances_entry hr).items fun _ =>
    .bind (advances_mark _) fun _ => ?_
  exact .give _

theorem advances_braces (hr : r.Advances) : Parse.Advances r.braces := by
  refine .ite (.skip _) (.ite ?_ (.ite (advances_display hr) ?_))
  · exact .bind hr.sum.tail fun _ => advances_entriesRest hr
  · refine .bind hr.expression fun _ => .ite ?_ (.ite .fail (advances_displayRest hr))
    exact .bind hr.expression.tail fun _ =>
      .ite (advances_comprehension hr) (advances_entriesRest hr)

/-! ## Calls and parts -/

theorem advances_argument (hr : r.Advances) : Parse.Advances r.argument := by
  refine .ite hr.expression.tail.map (.ite hr.expression.tail.map ?_)
  intro ts base a rest h hs
  dsimp only at h
  split at h
  next w us hw =>
    split at h
    · exact hr.expression.tail.map h (advances_name hw hs)
    · exact advances_named hr h hs
  next => exact advances_named hr h hs

theorem advances_arguments {allowsGenerator : Bool} (hr : r.Advances) :
    Parse.Advances (r.arguments allowsGenerator) := by
  have hargument := advances_argument hr
  refine .ite (.skip _) (.bind hargument fun _ => .ite (.ite .fail ?_) ?_)
  · refine .bind (advances_comprehension hr) fun _ => ?_
    exact .give _
  · refine .bind hargument.items fun _ => .bind (advances_mark _) fun _ => ?_
    exact .ite (.give _) .fail

theorem advances_orNothing (hr : r.Advances) : Parse.Advances r.orNothing := by
  intro ts base a rest h hs
  unfold orNothing at h
  split at h
  next e us he => exact Advances.give _ h (hr.expression he hs)
  next => exact Advances.give _ h hs

theorem advances_bounds {e : Expr} (hr : r.Advances) : Parse.Advances (r.bounds e) := by
  refine .bind (advances_mark _) fun _ => .bind (advances_orNothing hr) fun _ => .ite ?_ (.give _)
  refine .bind (advances_orNothing hr).tail fun _ => ?_
  exact .give _

theorem advances_part (hr : r.Advances) : Parse.Advances r.part := by
  refine .ite hr.expression.tail.map (.ite (advances_named hr) ?_)
  intro ts base a rest h hs
  dsimp only at h
  split at h
  next e us he =>
    have hus := hr.expression he hs
    split at h
    · exact advances_bounds hr h hus
    · rw [Option.ite_none_left_eq_some] at h
      exact Advances.give _ h.2 hus
  next => exact advances_bounds hr h hs

theorem advances_parts (hr : r.Advances) : Parse.Advances r.parts := by
  refine .bind (advances_part hr).list fun _ => .bind (advances_mark _) fun _ => ?_
  exact .give _

theorem advances_trailers (hr : r.Advances) (n : Nat) (e : Expr) :
    Parse.Advances (r.trailers n e) := by
  induction n generalizing e with
  | zero => exact .give _
  | succ n ih =>
    refine .ite ?_ (.ite ?_ (.ite ?_ (.give _)))
    · exact .bind advances_name.tail fun _ => ih _
    · exact .bind (advances_arguments hr).tail fun _ => ih _
    · exact .bind (advances_parts hr).tail fun _ => ih _

/-! ## Operands and operators -/

theorem suffix_literals (ts : List Token) : (literals ts).2 <:+ ts := by
  fun_induction literals ts with
  | case1 l n ts ls us heq ih =>
    rw [heq] at ih
    exact ih.trans (List.suffix_cons _ ts)
  | case2 ts => exact List.suffix_rfl

theorem advances_joined : Parse.Advances r.joined := by
  intro ts base a rest h hs
  unfold joined at h
  dsimp only [bind, pure] at h
  split at h
  · exact absurd h (by simp)
  · obtain ⟨parts, -, h⟩ := Option.bind_eq_some_iff.1 h
    exact Advances.give _ h ((suffix_literals ts).trans hs)

theorem advances_atom (hr : r.Advances) : Parse.Advances r.atom := by
  intro ts base a rest h hs
  unfold atom at h
  split at h
  case h_1 =>
    split at h
    · exact Advances.give _ h (suffix_of_cons hs)
    · exact advances_name.map h hs
  case h_2 => exact Advances.give _ h (suffix_of_cons hs)
  case h_3 => exact advances_joined h hs
  case h_4 m _ us =>
    -- the rules for what stands in brackets go on behind the opening one
    have hmark : Parse.Advances fun us =>
        if m = "(" then r.parenthesized us
        else if m = "[" then r.display .list "]" .list us
        else if m = "\x7b" then r.braces us
        else if m = "..." then some (.constant .ellipsis, us)
        else none :=
      .ite (advances_parenthesized hr) (.ite (advances_display hr)
        (.ite (advances_braces hr) (.ite (.give _) .fail)))
    exact hmark h (suffix_of_cons hs)
  case h_5 => cases h

/-- An atom with what follows it directly. -/
theorem advances_trailed (hr : r.Advances) :
    Parse.Advances (fun ts => do
      let (e, ts) ← r.atom ts
      r.trailers ts.length e ts) :=
  .bind (advances_atom hr) fun e => .of_all (advances_trailers hr · e) List.length

theorem advances_primary (hr : r.Advances) : Parse.Advances r.primary :=
  .ite (advances_trailed hr).tail.map (advances_trailed hr)

theorem advances_operand (hr : r.Advances) (n : Nat) : Parse.Advances (r.operand n) := by
  induction n with
  | zero => exact .fail
  | succ n ih =>
    intro ts base a rest h hs
    unfold operand at h
    split at h
    next op us hop => exact ih.map h (advances_oneOf signs hop hs)
    next =>
      obtain ⟨e, us, he, h⟩ := of_bind h
      have hus := advances_primary hr he hs
      dsimp only at h
      split at h
      · obtain ⟨power, vs, hpower, h⟩ := of_bind h
        exact Advances.give _ h (ih.tail hpower hus)
      · exact Advances.give _ h hus

/-- Items behind the first one, with operators between them. -/
theorem advances_chainRest {α : Type} {operator : Parse α} {build : α → Expr → Expr → Expr}
    (hoperator : Parse.Advances operator) (hp : Parse.Advances p) (n : Nat) (e : Expr) :
    Parse.Advances (chain operator p build n e) := by
  induction n generalizing e with
  | zero => exact .give _
  | succ n ih =>
    intro ts base a rest h hs
    unfold chain at h
    split at h
    next op us hop =>
      obtain ⟨other, vs, hother, h⟩ := of_bind h
      exact ih _ h (hp hother (hoperator hop hs))
    next => exact Advances.give _ h hs

/-- Items with operators between them. -/
theorem advances_chain {α : Type} {operator : Parse α} {build : α → Expr → Expr → Expr}
    (hoperator : Parse.Advances operator) (hp : Parse.Advances p) :
    Parse.Advances (fun ts => do
      let (e, ts) ← p ts
      chain operator p build ts.length e ts) :=
  .bind hp fun e => .of_all (advances_chainRest hoperator hp · e) List.length

theorem advances_binary (hp : Parse.Advances p) (ops : List (List (String × BinaryOp))) :
    Parse.Advances (binary p ops) := by
  induction ops with
  | nil => exact hp
  | cons o ops ih => exact advances_chain (advances_oneOf o) ih

theorem advances_sumOf (hr : r.Advances) : Parse.Advances r.sumOf :=
  advances_binary (.of_all (advances_operand hr) fun ts => ts.length + 1) operators

theorem advances_comparison : Parse.Advances comparison := by
  intro ts base c rest h hs
  unfold comparison at h
  split at h
  next result hresult => exact advances_oneOf _ (hresult.trans h) hs
  next =>
    have hword : Parse.Advances fun ts =>
        if isWord "in" ts then some (Comparison.within, ts.tail)
        else if isWord "not" ts && isWord "in" ts.tail then some (.without, ts.tail.tail)
        else if isWord "is" ts then
          if isWord "not" ts.tail then some (.different, ts.tail.tail) else some (.same, ts.tail)
        else none :=
      .ite (.skip _) (.ite (Advances.skip _).tail
        (.ite (.ite (Advances.skip _).tail (.skip _)) .fail))
    exact hword h hs

theorem advances_comparisons (hr : r.Advances) (n : Nat) :
    Parse.Advances (r.comparisons n) := by
  induction n with
  | zero => exact .give _
  | succ n ih =>
    intro ts base found rest h hs
    unfold comparisons at h
    split at h
    next op us hop =>
      obtain ⟨e, vs, he, h⟩ := of_bind h
      obtain ⟨others, ws, hothers, h⟩ := of_bind h
      have hws := ih hothers (advances_sumOf hr he (advances_comparison hop hs))
      exact Advances.give _ h hws
    next => exact Advances.give _ h hs

theorem advances_negation (hr : r.Advances) (n : Nat) : Parse.Advances (r.negation n) := by
  induction n with
  | zero => exact .fail
  | succ n ih =>
    refine .ite ih.tail.map (.bind (advances_sumOf hr) fun _ => ?_)
    refine .bind (.of_all (advances_comparisons hr) List.length) fun _ => ?_
    exact .give _

theorem advances_disjunctionOf (hr : r.Advances) : Parse.Advances r.disjunctionOf :=
  advances_chain (advances_word "or") <| advances_chain (advances_word "and") <|
    .of_all (advances_negation hr) fun ts => ts.length + 1

/-! ## Parameters -/

theorem advances_hint {hasHints allowsStar : Bool} (hr : r.Advances) :
    Parse.Advances (r.hint hasHints allowsStar) :=
  .ite (.ite (hr.sum.tail.tail.map (f := fun _ => ())) (hr.expression.tail.map (f := fun _ => ())))
    (.give _)

/-- A parameter is followed by the closing mark, or by a comma and more parameters. -/
theorem advances_moreParameters {p : Parse Parameters} (hp : Parse.Advances p) (m : String)
    (seen : Seen) : Parse.Advances (fun ts =>
      if isMark m ts then (if seen.bareStar then none else some ({}, ts.tail))
      else do
        let (_, ts) ← mark "," ts
        p ts) :=
  .ite (.ite .fail (.skip _)) (.bind (advances_mark _) fun _ => hp)

theorem advances_parameters {hasHints : Bool} (hr : r.Advances) (n : Nat) (seen : Seen) :
    Parse.Advances (r.parameters hasHints close n seen) := by
  induction n generalizing seen with
  | zero => exact .fail
  | succ n ih =>
    have hmore (seen : Seen) := advances_moreParameters (ih seen) close seen
    refine .ite (.ite .fail ((advances_mark _).map (f := fun _ => ({} : Parameters))))
      (.ite (.ite .fail (hmore _).tail) (.ite (.ite .fail ?spread)
        (.ite (.ite .fail (.ite ?bareStar ?star)) ?plain)))
    case spread =>
      refine .bind advances_name.tail fun _ => .bind (advances_hint hr) fun _ =>
        .bind (advances_markEnd _) fun _ => ?_
      exact .give _
    case bareStar =>
      refine .bind (hmore _).tail fun _ => ?_
      exact .give _
    case star =>
      refine .bind advances_name.tail fun _ => .bind (advances_hint hr) fun _ =>
        .bind (hmore _) fun _ => ?_
      exact .give _
    case plain =>
      refine .bind advances_name fun _ => .bind (advances_hint hr) fun _ =>
        .ite (.bind hr.expression.tail fun _ => ?_) (.ite .fail ?_)
      · refine .bind (hmore _) fun _ => ?_
        exact .give _
      · refine .bind (hmore _) fun _ => ?_
        exact .give _

theorem advances_lambda (hr : r.Advances) : Parse.Advances r.lambda := by
  have hparameters : Parse.Advances fun ts => r.parameters false ":" (ts.length + 1) {} ts :=
    .of_all (advances_parameters hr · {}) fun ts => ts.length + 1
  refine .bind (advances_word _) fun _ => .bind hparameters fun _ => .bind hr.expression fun _ => ?_
  exact .give _

theorem advances_expressionOf (hr : r.Advances) : Parse.Advances r.expressionOf := by
  refine .ite (advances_lambda hr) (.bind (advances_disjunctionOf hr) fun _ => .ite ?_ (.give _))
  refine Advances.orElse ?_ (.give _)
  refine .bind hr.disjunction.tail fun _ => .bind (advances_word _) fun _ =>
    .bind hr.expression fun _ => ?_
  exact .give _

theorem Advances.next (hr : r.Advances) : r.next.Advances :=
  ⟨advances_sumOf hr, advances_disjunctionOf hr, advances_expressionOf hr⟩

/-- **Expressions leave the last tokens.** -/
theorem advances_ofDepth (n : Nat) : (ofDepth n).Advances := by
  induction n with
  | zero => exact ⟨.fail, .fail, .fail⟩
  | succ n ih => exact ih.next

end Rules

end RouteDoc.Script
