import RouteDoc.Proofs.Script.Line
import RouteDoc.Proofs.Script.Token
import RouteDoc.Script.Declaration

/-!
# The order of declarations

A function begins with a word and has the end of a line in front of whatever is declared in it or
behind it, so no two functions begin on one line.

* `Declares`: what is known of the functions that are read from tokens.
* `Rules.nested_blockOfDepth`: what a block declares stands behind the end of a line.
* `Rules.declares_steps`: what a run of statements declares.
* `Declaration.declares_ofScript`: **the functions of a script begin on different lines, in their
  order, each with a word that declares it.**
-/

namespace RouteDoc.Script

open Parse

namespace Token

theorem Ordered.suffix {ts us : List Token} (h : Ordered ts) (hs : us <:+ ts) : Ordered us :=
  List.Pairwise.sublist hs.sublist h

theorem Ordered.line_lt {t e u : Token} {ts us : List Token} (h : Ordered (t :: ts))
    (he : e.kind = .lineEnd) (hs : e :: us <:+ ts) (hu : u ∈ us) : t.line < u.line := by
  obtain ⟨ht, hts⟩ := List.pairwise_cons.1 h
  have hte := (ht e (hs.subset List.mem_cons_self)).1
  exact Nat.lt_of_le_of_lt hte ((List.rel_of_pairwise_cons (Ordered.suffix hts hs) hu).2 he)

/-- Whether a token is the first one of a function. -/
def Begins (t : Token) : Prop := t.kind = .word "def" ∨ t.kind = .word "async"

end Token

/-- Functions that are declared in the tokens `ts` up to `rest`: they begin on different lines, in
their order, and all before the tokens that are left. -/
structure Declares (ts : List Token) (ds : List Declaration) (rest : List Token) : Prop where
  suffix : rest <:+ ts
  sorted : ds.Pairwise fun d e => d.line < e.line
  begins : ∀ d ∈ ds, ∃ t ∈ ts, t.Begins ∧ t.line = d.line
  ends : ∀ d ∈ ds, ∀ u ∈ rest, d.line < u.line

namespace Declares

variable {ts us rest : List Token} {ds ds' : List Declaration}

theorem nil (h : rest <:+ ts) : Declares ts [] rest :=
  ⟨h, List.Pairwise.nil, by simp, by simp⟩

/-- What is declared in a part of the tokens. -/
theorem mono {ts' rest' : List Token} (h : Declares ts ds rest) (hts : ts <:+ ts')
    (hrest : rest' <:+ rest) : Declares ts' ds rest' where
  suffix := hrest.trans (h.suffix.trans hts)
  sorted := h.sorted
  begins d hd :=
    let ⟨t, ht, hbegins⟩ := h.begins d hd
    ⟨t, hts.subset ht, hbegins⟩
  ends d hd u hu := h.ends d hd u (hrest.subset hu)

theorem append (h : Declares ts ds us) (h' : Declares us ds' rest) :
    Declares ts (ds ++ ds') rest where
  suffix := h'.suffix.trans h.suffix
  sorted := List.pairwise_append.2 ⟨h.sorted, h'.sorted, fun d hd d' hd' => by
    obtain ⟨t, ht, -, hline⟩ := h'.begins d' hd'
    exact hline ▸ h.ends d hd t ht⟩
  begins d hd := by
    rcases List.mem_append.1 hd with hd | hd
    · exact h.begins d hd
    · exact (h'.mono h.suffix List.suffix_rfl).begins d hd
  ends d hd u hu := by
    rcases List.mem_append.1 hd with hd | hd
    · exact h.ends d hd u (h'.suffix.subset hu)
    · exact h'.ends d hd u hu

/-- A function begins before whatever is declared behind the end of a line. -/
theorem cons {t e : Token} {d : Declaration} (hts : Token.Ordered (t :: ts)) (ht : t.Begins)
    (he : e.kind = .lineEnd) (hs : e :: us <:+ ts) (h : Declares us ds rest)
    (hd : d.line = t.line) : Declares (t :: ts) (d :: ds) rest where
  suffix := (h.suffix.trans (suffix_of_cons hs)).trans (List.suffix_cons t ts)
  sorted := List.pairwise_cons.2 ⟨fun d' hd' => by
    obtain ⟨u, hu, -, hline⟩ := h.begins d' hd'
    exact hd ▸ hline ▸ hts.line_lt he hs hu, h.sorted⟩
  begins d' hd' := by
    rcases List.mem_cons.1 hd' with rfl | hd'
    · exact ⟨t, List.mem_cons_self, ht, hd.symm⟩
    · exact (h.mono ((suffix_of_cons hs).trans (List.suffix_cons t ts)) List.suffix_rfl).begins
        d' hd'
  ends d' hd' u hu := by
    rcases List.mem_cons.1 hd' with rfl | hd'
    · exact hd ▸ hts.line_lt he hs (h.suffix.subset hu)
    · exact h.ends d' hd' u hu

end Declares

namespace Parse

/-- Reads declarations from tokens that are in order. -/
def Declaring (p : Parse (List Declaration)) : Prop :=
  ∀ ⦃ts ds rest⦄, Token.Ordered ts → p ts = some (ds, rest) → Declares ts ds rest

/-- Reads a block, whose declarations stand behind the end of a line. -/
def Nested (block : Parse Block) : Prop :=
  ∀ ⦃ts b rest⦄, Token.Ordered ts → block ts = some (b, rest) →
    ∃ (e : Token) (us : List Token), e.kind = .lineEnd ∧ e :: us <:+ ts ∧
      Declares us b.functions rest

/-- What stands in front of declarations is passed over. -/
theorem Declaring.behind {p : Parse (List Declaration)} {ts us rest : List Token}
    {ds : List Declaration} (hp : Declaring p) (hts : Token.Ordered ts) (hus : us <:+ ts)
    (h : p us = some (ds, rest)) : Declares ts ds rest :=
  (hp (hts.suffix hus) h).mono hus List.suffix_rfl

end Parse

namespace Rules

variable {r : Rules} {block : Parse Block} {p : Parse (List Declaration)}
  {ts us rest : List Token} {ds ds' : List Declaration} {b : Block} {n : Nat}

/-- Reading goes on behind some declarations. -/
theorem declares_also (hts : Token.Ordered ts) (hds : Declares ts ds us) (hp : Declaring p)
    (h : also ds p us = some (ds', rest)) : Declares ts ds' rest := by
  unfold also at h
  obtain ⟨ds₁, us₁, hread, h⟩ := of_map h
  simp only [Prod.mk.injEq] at h
  obtain ⟨rfl, rfl⟩ := h
  exact hds.append (hp (hts.suffix hds.suffix) hread)

theorem declaring_body (hb : Nested block) : Declaring (body block) := by
  intro ts ds rest hts h
  unfold body at h
  obtain ⟨_, us, hcolon, h⟩ := of_bind h
  obtain ⟨b, vs, hblock, h⟩ := of_bind h
  simp only [Option.pure_def, Option.some.injEq, Prod.mk.injEq] at h
  obtain ⟨rfl, rfl⟩ := h
  have hus : us <:+ ts := advances_mark _ hcolon List.suffix_rfl
  obtain ⟨e, ws, -, hs, hdeclares⟩ := hb (hts.suffix hus) hblock
  exact hdeclares.mono ((suffix_of_cons hs).trans hus) List.suffix_rfl

theorem declaring_bodyAfter (hb : Nested block) (w : String) : Declaring (bodyAfter block w) := by
  intro ts ds rest hts h
  unfold bodyAfter at h
  split at h
  · have htail := List.tail_suffix ts
    exact (declaring_body hb (hts.suffix htail) h).mono htail List.suffix_rfl
  · obtain ⟨rfl, rfl⟩ : [] = ds ∧ ts = rest := by simpa using h
    exact .nil List.suffix_rfl

/-! ## Choices and loops -/

theorem declaring_choice (hr : r.Advances) (hb : Nested block) (n : Nat) :
    Declaring (r.choice block n) := by
  induction n with
  | zero => intro ts ds rest _ h; simp [choice] at h
  | succ n ih =>
    intro ts ds rest hts h
    unfold choice at h
    obtain ⟨_, us₁, htest, h⟩ := of_bind h
    obtain ⟨ds₁, us₂, hbody, h⟩ := of_bind h
    have hds := (declaring_body hb).behind hts (advances_named hr htest List.suffix_rfl) hbody
    dsimp only at h
    split at h
    · exact declares_also hts (hds.mono List.suffix_rfl (List.tail_suffix us₂)) ih h
    · exact declares_also hts hds (declaring_bodyAfter hb "else") h

theorem declaring_loop (hb : Nested block) : Declaring (loop block) := by
  intro ts ds rest hts h
  unfold loop at h
  obtain ⟨ds₁, us, hbody, h⟩ := of_bind h
  exact declares_also hts (declaring_body hb hts hbody) (declaring_bodyAfter hb "else") h

theorem declaring_forLoop (hr : r.Advances) (hb : Nested block) :
    Declaring (r.forLoop block) := by
  intro ts ds rest hts h
  unfold forLoop at h
  obtain ⟨_, us₁, htargets, h⟩ := of_bind h
  obtain ⟨_, us₂, hin, h⟩ := of_bind h
  obtain ⟨_, us₃, hitems, h⟩ := of_bind h
  have hus₂ := advances_word _ hin (advances_targets hr htargets List.suffix_rfl)
  exact (declaring_loop hb).behind hts (advances_starExpressions hr hitems hus₂) h

/-! ## Resources -/

theorem advances_heldItem (hr : r.Advances) : Parse.Advances r.heldItem := by
  refine .bind hr.expression fun _ => .ite ?_ (.give _)
  refine .bind (advances_starOr hr hr.sum).tail fun _ => ?_
  exact .ite (.give _) .fail

theorem advances_heldItems (hr : r.Advances) : Parse.Advances r.heldItems := by
  refine .orElse ?_ ((advances_heldItem hr).list.map (f := fun _ => ()))
  refine .bind (advances_mark _) fun _ => .bind (advances_heldItem hr).list fun _ =>
    .bind (advances_mark _) fun _ => ?_
  exact .ite (.give _) .fail

theorem declaring_held (hr : r.Advances) (hb : Nested block) : Declaring (r.held block) := by
  intro ts ds rest hts h
  unfold held at h
  obtain ⟨_, us, hitems, h⟩ := of_bind h
  exact (declaring_body hb).behind hts (advances_heldItems hr hitems List.suffix_rfl) h

/-! ## Failures -/

theorem advances_caught {isGroup : Bool} (hr : r.Advances) :
    Parse.Advances (r.caught isGroup) := by
  refine .ite (.give _) (.ite ?_ ?_)
  · exact .bind (advances_mark _) fun _ => .bind hr.expression fun _ => advances_renamed
  · exact .bind (.give _) fun _ => .bind hr.expression fun _ => advances_renamed

theorem declaring_handlers {isGroup : Bool} (hr : r.Advances) (hb : Nested block) (n : Nat) :
    Declaring (r.handlers block isGroup n) := by
  induction n with
  | zero =>
    intro ts ds rest _ h
    obtain ⟨rfl, rfl⟩ : [] = ds ∧ ts = rest := by simpa [handlers] using h
    exact .nil List.suffix_rfl
  | succ n ih =>
    intro ts ds rest hts h
    unfold handlers at h
    split at h
    · obtain ⟨_, us₁, hcaught, h⟩ := of_bind h
      obtain ⟨ds₁, us₂, hbody, h⟩ := of_bind h
      have hus := advances_caught hr hcaught (List.tail_suffix ts)
      exact declares_also hts ((declaring_body hb).behind hts hus hbody) ih h
    · obtain ⟨rfl, rfl⟩ : [] = ds ∧ ts = rest := by simpa using h
      exact .nil List.suffix_rfl

theorem declaring_guarded (hr : r.Advances) (hb : Nested block) :
    Declaring (r.guarded block) := by
  intro ts ds rest hts h
  unfold guarded at h
  obtain ⟨ds₁, us₁, hbody, h⟩ := of_bind h
  have hds := declaring_body hb hts hbody
  dsimp only at h
  split at h
  · obtain ⟨ds₂, us₂, hhandlers, h⟩ := of_bind h
    obtain ⟨ds₃, us₃, helse, h⟩ := of_bind h
    have hcaught := declaring_handlers hr hb us₁.length (hts.suffix hds.suffix) hhandlers
    have hds₂ := hds.append hcaught
    have helse := declaring_bodyAfter hb "else" (hts.suffix hds₂.suffix) helse
    exact declares_also hts (hds₂.append helse) (declaring_bodyAfter hb "finally") h
  · split at h
    · exact declares_also hts (hds.mono List.suffix_rfl (List.tail_suffix us₁))
        (declaring_body hb) h
    · exact absurd h (by simp)

/-! ## Functions and classes -/

/-- A function begins with the token in front. -/
theorem declares_function {t : Token} (hr : r.Advances) (hb : Nested block)
    (hts : Token.Ordered (t :: ts)) (ht : t.Begins) (hus : us <:+ ts)
    (h : r.function block t.line us = some (ds, rest)) : Declares (t :: ts) ds rest := by
  unfold function at h
  obtain ⟨w, us₁, hname, h⟩ := of_bind h
  obtain ⟨_, us₂, hopen, h⟩ := of_bind h
  obtain ⟨_, us₃, hparameters, h⟩ := of_bind h
  obtain ⟨_, us₄, hresult, h⟩ := of_if_bind h
  obtain ⟨_, us₅, hcolon, h⟩ := of_bind h
  obtain ⟨b, us₆, hblock, h⟩ := of_bind h
  have hus₂ := advances_mark _ hopen (advances_name hname hus)
  have hus₃ := advances_parameters hr _ _ hparameters hus₂
  have hus₄ : us₄ <:+ ts :=
    Advances.ite (c := fun us => isMark "->" us) hr.expression.tail (.give _) hresult hus₃
  have hus₅ := advances_mark _ hcolon hus₄
  obtain ⟨e, vs, he, hs, hdeclares⟩ :=
    hb (hts.suffix (hus₅.trans (List.suffix_cons t ts))) hblock
  simp only [Option.pure_def, Option.some.injEq, Prod.mk.injEq] at h
  obtain ⟨rfl, rfl⟩ := h
  exact .cons hts ht he (hs.trans hus₅) hdeclares rfl

theorem declaring_classBlock (hr : r.Advances) (hb : Nested block) :
    Declaring (r.classBlock block) := by
  intro ts ds rest hts h
  unfold classBlock at h
  obtain ⟨w, us₁, hname, h⟩ := of_bind h
  obtain ⟨_, us₂, hbases, h⟩ := of_if_bind h
  have hus₁ := advances_name hname List.suffix_rfl
  have hus₂ : us₂ <:+ ts :=
    Advances.ite (c := fun us => isMark "(" us) (advances_arguments hr).tail (.give _) hbases hus₁
  exact (declaring_body hb).behind hts hus₂ h

theorem declaring_decorated (hr : r.Advances) (hb : Nested block) :
    Declaring (r.decorated block) := by
  intro ts ds rest hts h
  unfold decorated at h
  split at h
  case h_1 => exact declares_function hr hb hts (.inl rfl) List.suffix_rfl h
  case h_2 => exact declares_function hr hb hts (.inr rfl) (List.suffix_cons _ _) h
  case h_3 => exact (declaring_classBlock hr hb).behind hts (List.suffix_cons _ _) h
  case h_4 => exact absurd h (by simp)

theorem declaring_decorators (hr : r.Advances) (hb : Nested block) (n : Nat) :
    Declaring (r.decorators block n) := by
  induction n with
  | zero => intro ts ds rest _ h; simp [decorators] at h
  | succ n ih =>
    intro ts ds rest hts h
    unfold decorators at h
    split at h
    · obtain ⟨_, us₁, hdecorator, h⟩ := of_bind h
      obtain ⟨_, us₂, hend, h⟩ := of_bind h
      have hus₁ := advances_named hr hdecorator (List.tail_suffix ts)
      exact ih.behind hts (advances_kind _ hend hus₁) h
    · exact declaring_decorated hr hb hts h

/-! ## Cases -/

theorem advances_subject (hr : r.Advances) : Parse.Advances r.subject := by
  have hitem := advances_starOr hr (advances_named hr)
  refine .bind hitem fun _ => .ite ?_ (.ite .fail (.give _))
  refine .bind hitem.items fun _ => ?_
  exact .give _

theorem declaring_cases {pattern : Parse Unit} (hr : r.Advances) (hb : Nested block)
    (hpattern : Parse.Advances pattern) (n : Nat) : Declaring (r.cases block pattern n) := by
  induction n with
  | zero =>
    intro ts ds rest _ h
    obtain ⟨rfl, rfl⟩ : [] = ds ∧ ts = rest := by simpa [cases] using h
    exact .nil List.suffix_rfl
  | succ n ih =>
    intro ts ds rest hts h
    unfold cases at h
    split at h
    · obtain ⟨_, us₁, hcase, h⟩ := of_bind h
      obtain ⟨_, us₂, hguard, h⟩ := of_if_bind h
      obtain ⟨ds₁, us₃, hbody, h⟩ := of_bind h
      have hus₁ := Pattern.advances_outermost hpattern hcase (List.tail_suffix ts)
      have hus₂ : us₂ <:+ ts :=
        Advances.ite (c := fun us => isWord "if" us) (advances_named hr).tail (.give _) hguard hus₁
      exact declares_also hts ((declaring_body hb).behind hts hus₂ hbody) ih h
    · obtain ⟨rfl, rfl⟩ : [] = ds ∧ ts = rest := by simpa using h
      exact .nil List.suffix_rfl

theorem declaring_matchBlock (hr : r.Advances) (hb : Nested block) :
    Declaring (r.matchBlock block) := by
  intro ts ds rest hts h
  unfold matchBlock at h
  obtain ⟨_, us₁, hsubject, h⟩ := of_bind h
  obtain ⟨_, us₂, hcolon, h⟩ := of_bind h
  obtain ⟨_, us₃, hend, h⟩ := of_bind h
  obtain ⟨_, us₄, hindent, h⟩ := of_bind h
  dsimp only at h
  split at h
  · exact absurd h (by simp)
  · obtain ⟨ds₁, us₅, hcases, h⟩ := of_bind h
    obtain ⟨_, us₆, hdedent, h⟩ := of_bind h
    have hus₁ := advances_subject hr hsubject List.suffix_rfl
    have hus₂ := advances_mark _ hcolon hus₁
    have hus₄ := advances_kind _ hindent (advances_kind _ hend hus₂)
    have hds := (declaring_cases hr hb (Pattern.advances_ofDepth _) _).behind hts hus₄ hcases
    simp only [Option.pure_def, Option.some.injEq, Prod.mk.injEq] at h
    obtain ⟨rfl, rfl⟩ := h
    exact hds.mono List.suffix_rfl (advances_kind _ hdedent List.suffix_rfl)

/-! ## Blocks -/

/-- A statement that holds others. -/
theorem declares_compound {result : Option (List Declaration × List Token)} (hr : r.Advances)
    (hb : Nested block) (hts : Token.Ordered ts) (hc : r.compound? block ts = some result)
    (h : result = some (ds, rest)) : Declares ts ds rest := by
  have hsuffix := List.suffix_cons (α := Token)
  unfold compound? at hc
  split at hc
  case h_1 => exact (declaring_choice hr hb _).behind hts (hsuffix _ _) (Option.some.inj hc ▸ h)
  case h_2 =>
    obtain rfl := Option.some.inj hc
    obtain ⟨_, us, htest, h⟩ := of_bind h
    exact (declaring_loop hb).behind hts (advances_named hr htest (hsuffix _ _)) h
  case h_3 => exact (declaring_forLoop hr hb).behind hts (hsuffix _ _) (Option.some.inj hc ▸ h)
  case h_4 => exact (declaring_held hr hb).behind hts (hsuffix _ _) (Option.some.inj hc ▸ h)
  case h_5 => exact (declaring_guarded hr hb).behind hts (hsuffix _ _) (Option.some.inj hc ▸ h)
  case h_6 =>
    exact (declaring_forLoop hr hb).behind hts ((hsuffix _ _).trans (hsuffix _ _))
      (Option.some.inj hc ▸ h)
  case h_7 =>
    exact (declaring_held hr hb).behind hts ((hsuffix _ _).trans (hsuffix _ _))
      (Option.some.inj hc ▸ h)
  case h_8 =>
    split at hc
    · exact declaring_decorated hr hb hts (Option.some.inj hc ▸ h)
    · exact absurd hc (by simp)
  case h_9 => exact declaring_decorators hr hb _ hts (Option.some.inj hc ▸ h)
  case h_10 => exact absurd hc (by simp)

theorem declares_step (hr : r.Advances) (hb : Nested block) (hts : Token.Ordered ts)
    (h : r.step block ts = some (b, rest)) : Declares ts b.functions rest := by
  unfold step at h
  split at h
  next result hc =>
    obtain ⟨ds, us, hds, h⟩ := of_map h
    simp only [Prod.mk.injEq] at h
    obtain ⟨rfl, rfl⟩ := h
    exact declares_compound hr hb hts hc hds
  next =>
    dsimp only at h
    split at h
    next ds us hmatch =>
      simp only [Option.some.injEq, Prod.mk.injEq] at h
      obtain ⟨rfl, rfl⟩ := h
      split at hmatch
      · exact (declaring_matchBlock hr hb).behind hts (List.tail_suffix ts) hmatch
      · exact absurd hmatch (by simp)
    next =>
      obtain ⟨text, us, hline, h⟩ := of_map h
      simp only [Prod.mk.injEq] at h
      obtain ⟨rfl, rfl⟩ := h
      obtain ⟨e, -, hs⟩ := line_suffix hr hline
      exact .nil (suffix_of_cons hs)

theorem declares_steps (hr : r.Advances) (hb : Nested block) (hts : Token.Ordered ts)
    (h : r.steps block n ts = some (b, rest)) : Declares ts b.functions rest := by
  induction n generalizing ts b with
  | zero =>
    obtain ⟨rfl, rfl⟩ : {} = b ∧ ts = rest := by simpa [steps] using h
    exact .nil List.suffix_rfl
  | succ n ih =>
    unfold steps at h
    split at h
    · obtain ⟨rfl, rfl⟩ : {} = b ∧ ts = rest := by simpa using h
      exact .nil List.suffix_rfl
    · obtain ⟨b₁, us₁, hstep, h⟩ := of_bind h
      obtain ⟨b₂, us₂, hsteps, h⟩ := of_bind h
      simp only [Option.pure_def, Option.some.injEq, Prod.mk.injEq] at h
      obtain ⟨rfl, rfl⟩ := h
      have hdeclares := declares_step hr hb hts hstep
      exact hdeclares.append (ih (hts.suffix hdeclares.suffix) hsteps)

theorem nested_nextBlock (hr : r.Advances) (hb : Nested block) : Nested (r.nextBlock block) := by
  intro ts b rest hts h
  unfold nextBlock at h
  split at h
  next us hend =>
    obtain ⟨e, he, rfl⟩ := of_kind hend
    obtain ⟨_, us₁, hindent, h⟩ := of_bind h
    obtain ⟨b₁, us₂, hsteps, h⟩ := of_bind h
    obtain ⟨_, us₃, hdedent, h⟩ := of_bind h
    simp only [Option.pure_def, Option.some.injEq, Prod.mk.injEq] at h
    obtain ⟨rfl, rfl⟩ := h
    have hus₁ := advances_kind _ hindent List.suffix_rfl
    have hdeclares :=
      declares_steps hr hb (hts.suffix (hus₁.trans (List.suffix_cons e us))) hsteps
    exact ⟨e, us, he, List.suffix_rfl,
      hdeclares.mono hus₁ (advances_kind _ hdedent List.suffix_rfl)⟩
  next =>
    obtain ⟨text, us, hline, h⟩ := of_map h
    simp only [Prod.mk.injEq] at h
    obtain ⟨rfl, rfl⟩ := h
    obtain ⟨e, he, hs⟩ := line_suffix hr hline
    exact ⟨e, us, he, hs, .nil List.suffix_rfl⟩

/-- What a block declares stands behind the end of a line. -/
theorem nested_blockOfDepth (hr : r.Advances) (n : Nat) : Nested (r.blockOfDepth n) := by
  induction n with
  | zero => simp [Nested, blockOfDepth, Nat.repeat]
  | succ n ih => exact nested_nextBlock hr ih

end Rules

/-- **The functions of a script begin on different lines, in their order, each with a word that
declares it.** -/
theorem Declaration.declares_ofScript {text : List Char} {ds : List Declaration}
    (h : ofScript? text = some ds) : ∃ ts, Token.scan? text = some ts ∧ Declares ts ds [] := by
  unfold ofScript? at h
  obtain ⟨ts, hscan, h⟩ := Option.bind_eq_some_iff.1 h
  obtain ⟨b, rest, hsteps, h⟩ := of_bind h
  have hr := Rules.advances_ofDepth (text.length + 1)
  have hdeclares := Rules.declares_steps hr (Rules.nested_blockOfDepth hr _)
    (Token.ordered_scan hscan) hsteps
  dsimp only at h
  split at h
  · exact ⟨ts, hscan, Option.some.inj h ▸ hdeclares.mono List.suffix_rfl List.nil_suffix⟩
  · exact absurd h (by simp)

end RouteDoc.Script
