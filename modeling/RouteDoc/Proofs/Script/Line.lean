import RouteDoc.Proofs.Script.Advance
import RouteDoc.Script.Pattern
import RouteDoc.Script.Statement

/-!
# Lines and patterns take tokens from the front

The statements of a line leave some of the last tokens, behind the end of a line; patterns leave
some of the last tokens as well.

* `Pattern.advances_ofDepth`: patterns up to any depth of nesting.
* `Rules.line_suffix`: **a line is left behind a line end.**
-/

namespace RouteDoc.Script

open Parse

namespace Pattern

variable {r : Rules} {p : Parse Unit}

theorem advances_capture : Parse.Advances capture := by
  refine .bind advances_name fun _ => ?_
  exact .ite .fail (.give _)

theorem advances_number : Parse.Advances number := by
  intro ts base u rest h hs
  have hunsigned : (if isMark "-" ts then ts.tail else ts) <:+ base := by
    split
    · exact (List.tail_suffix ts).trans hs
    · exact hs
  unfold number at h
  split at h
  next n _ us heq =>
    rw [heq] at hunsigned
    have hus := suffix_of_cons hunsigned
    split at h
    · split at h
      next m _ vs heq' =>
        have hvs := (List.tail_suffix us).trans hus
        rw [heq'] at hvs
        rw [Option.ite_none_right_eq_some] at h
        exact Advances.give _ h.2 (suffix_of_cons hvs)
      next => cases h
    · exact Advances.give _ h hus
  next => cases h

theorem advances_literal : Parse.Advances (literal r) := by
  intro ts base u rest h hs
  unfold literal at h
  split at h
  case h_1 => exact (Rules.advances_joined.map (f := fun _ => ())) h hs
  case h_2 =>
    rw [Option.ite_none_right_eq_some] at h
    exact Advances.give _ h.2 (suffix_of_cons hs)
  case h_3 => exact advances_number h hs

theorem advances_attributes (n : Nat) : Parse.Advances (attributes n) := by
  induction n with
  | zero => exact .give _
  | succ n ih => exact .ite (.bind advances_name.tail fun _ => ih) (.give _)

theorem advances_key : Parse.Advances (key r) := by
  refine .orElse advances_literal (.bind advances_name fun _ => ?_)
  exact .ite (.of_all advances_attributes List.length) .fail

theorem advances_item (hp : Parse.Advances p) : Parse.Advances (item p) :=
  .ite (.ite (Advances.skip _).tail (advances_capture.tail.map (f := fun _ => true)))
    (hp.map (f := fun _ => false))

theorem advances_outermost (hp : Parse.Advances p) : Parse.Advances (outermost p) := by
  refine .bind (advances_item hp) fun _ => .ite ?_ (.ite .fail (.give _))
  refine .bind (advances_item hp).items fun _ => ?_
  exact .give _

theorem advances_entries (hp : Parse.Advances p) (n : Nat) : Parse.Advances (entries r p n) := by
  induction n with
  | zero => exact .fail
  | succ n ih =>
    refine .ite (.skip _) (.ite (.bind advances_capture.tail fun _ => advances_markEnd _) ?_)
    refine .bind advances_key fun _ => .bind (advances_mark _) fun _ => .bind hp fun _ => ?_
    exact .ite (.skip _) (.bind (advances_mark _) fun _ => ih)

/-- A part is followed by the closing mark, or by a comma and more parts. -/
theorem advances_partAndMore {q : Parse Unit} (hp : Parse.Advances p) (hq : Parse.Advances q) :
    Parse.Advances (fun ts => do
      let (_, ts) ← p ts
      if isMark ")" ts then return ((), ts.tail)
      let (_, ts) ← mark "," ts
      q ts) :=
  .bind hp fun _ => .ite (.skip _) (.bind (advances_mark _) fun _ => hq)

theorem advances_parts (hp : Parse.Advances p) (n : Nat) (hasName : Bool) :
    Parse.Advances (parts p hasName n) := by
  induction n generalizing hasName with
  | zero => exact .fail
  | succ n ih =>
    have hpart (hasName : Bool) := advances_partAndMore hp (ih hasName)
    exact .ite (.skip _)
      (.ite ((hpart true).behind (List.drop_suffix 2)) (.ite .fail (hpart false)))

theorem advances_namedPattern (hp : Parse.Advances p) : Parse.Advances (namedPattern p) := by
  refine .bind advances_name fun _ => .ite (.give _) ?_
  refine .bind (.of_all advances_attributes List.length) fun _ => .ite ?_ (.ite .fail (.give _))
  exact .of_all (p := fun n ts => parts p false n ts.tail) (fun n => (advances_parts hp n _).tail)
    fun ts => ts.length + 1

theorem advances_closed (hp : Parse.Advances p) : Parse.Advances (closed r p) := by
  refine .ite (.ite (Advances.skip _).tail ?_) (.ite (.ite (Advances.skip _).tail ?_)
    (.ite ?_ (.orElse advances_literal (advances_namedPattern hp))))
  · exact .bind (advances_outermost hp).tail fun _ => advances_mark _
  · exact .bind (advances_item hp).list.tail fun _ => advances_mark _
  · exact .of_all (p := fun n ts => entries r p n ts.tail) (fun n => (advances_entries hp n).tail)
      fun ts => ts.length + 1

theorem advances_next (hp : Parse.Advances p) : Parse.Advances (next r p) := by
  refine .bind (advances_closed hp).list fun _ => ?_
  exact .ite advances_capture.tail (.give _)

theorem advances_ofDepth (n : Nat) : Parse.Advances (ofDepth r n) := by
  induction n with
  | zero => exact .fail
  | succ n ih => exact advances_next ih

end Pattern

namespace Rules

variable {r : Rules}

/-! ## Assignments -/

theorem advances_assigned (hr : r.Advances) (n : Nat) (e : Expr) :
    Parse.Advances (r.assigned n e) := by
  induction n generalizing e with
  | zero => exact .fail
  | succ n ih =>
    refine .ite (.ite .fail (.ite ?_ ?_)) (.give _)
    · refine .bind (advances_yieldExpr hr).tail fun _ => ?_
      exact .give _
    · exact .bind (advances_starExpressions hr).tail fun _ => ih _

theorem advances_hinted (hr : r.Advances) : Parse.Advances r.hinted := by
  refine .bind hr.expression fun _ => .ite ?_ (.give _)
  refine .bind (advances_yieldOrStar hr).tail fun _ => ?_
  exact .give _

theorem advances_assignment (hr : r.Advances) : Parse.Advances r.assignment := by
  have hassigned (e : Expr) : Parse.Advances fun ts => r.assigned (ts.length + 1) e ts :=
    .of_all (advances_assigned hr · e) fun ts => ts.length + 1
  refine .bind (advances_yieldOrStar hr) fun _ =>
    .ite (.ite .fail ?_) (.ite ?_ (.ite (.ite .fail ?_) (.give _)))
  · refine .bind (advances_hinted hr).tail fun _ => ?_
    exact .give _
  · refine .bind (hassigned _) fun _ => ?_
    exact .give _
  · refine .bind (advances_yieldOrStar hr).tail fun _ => ?_
    exact .give _

/-! ## Statements that begin with a keyword -/

theorem advances_renamed : Parse.Advances renamed :=
  .ite (advances_name.tail.map (f := fun _ => ())) (.give _)

theorem advances_importedModule : Parse.Advances importedModule :=
  .bind advances_name.list fun _ => advances_renamed

theorem advances_importedName : Parse.Advances importedName :=
  .bind advances_name fun _ => advances_renamed

theorem advances_importedNames : Parse.Advances importedNames := by
  refine .ite (.skip _) (.ite ?_ (advances_importedName.list.map (f := fun _ => ())))
  exact .bind advances_importedName.list.tail fun _ => advances_mark _

theorem advances_importFrom : Parse.Advances importFrom := by
  intro ts base u rest h hs
  have hpoints := (ts.dropWhile_suffix
    fun t => t.kind == .mark "." || t.kind == .mark "...").trans hs
  unfold importFrom at h
  obtain ⟨_, us, hmodule, h⟩ := of_if_bind h
  have hus : us <:+ base := by
    split at hmodule
    · exact Advances.give _ hmodule hpoints
    · exact (advances_name.list.map (f := Prod.fst)) hmodule hpoints
  obtain ⟨_, vs, himport, h⟩ := of_bind h
  exact advances_importedNames h (advances_word _ himport hus)

theorem advances_pair {isBetween : List Token → Bool} (hr : r.Advances) :
    Parse.Advances (r.pair isBetween) :=
  .bind hr.expression fun _ => .ite (hr.expression.tail.map (f := fun _ => ())) (.give _)

/-- What follows a keyword leaves the last tokens, whatever the keyword is. -/
theorem advances_afterKeyword {w : String} {p : Parse Unit} (hr : r.Advances)
    (hp : r.afterKeyword? w = some p) : Parse.Advances p := by
  unfold afterKeyword? at hp
  split at hp <;> simp only [Option.some.injEq, reduceCtorEq] at hp <;> subst hp
  case h_1 | h_2 | h_3 => exact .give _
  case h_4 => exact .ite (.give _) ((advances_starExpressions hr).map (f := fun _ => ()))
  case h_5 => exact .ite (.give _) (advances_pair hr)
  case h_6 => exact advances_pair hr
  case h_7 | h_8 => exact advances_name.list.map (f := fun _ => ())
  case h_9 =>
    refine .bind (advances_starExpressions hr) fun _ => ?_
    exact .ite (.give _) .fail
  case h_10 => exact advances_importedModule.list.map (f := fun _ => ())
  case h_11 => exact advances_importFrom

theorem advances_statement (hr : r.Advances) : Parse.Advances r.statement := by
  intro ts base a rest h hs
  unfold statement at h
  split at h
  · split at h
    next p hp =>
      exact ((advances_afterKeyword hr hp).map (f := fun _ => none)) h (suffix_of_cons hs)
    next => exact advances_assignment hr h hs
  · exact advances_assignment hr h hs

/-- **A line is left behind a line end.** -/
theorem line_suffix {ts rest : List Token} {text : Option (List Char)} (hr : r.Advances)
    (h : r.line ts = some (text, rest)) : ∃ e : Token, e.kind = .lineEnd ∧ e :: rest <:+ ts := by
  have hstatement := advances_statement hr
  unfold line at h
  obtain ⟨_, us₁, hfirst, h⟩ := of_bind h
  obtain ⟨_, us₂, hlist, h⟩ := of_bind h
  obtain ⟨_, us₃, hend, h⟩ := of_bind h
  have hus := hstatement.listRest hlist (hstatement hfirst List.suffix_rfl)
  simp only [Option.pure_def, Option.some.injEq, Prod.mk.injEq] at h
  obtain ⟨-, rfl⟩ := h
  obtain ⟨e, he, rfl⟩ := of_kind hend
  exact ⟨e, he, hus⟩

end Rules

end RouteDoc.Script
