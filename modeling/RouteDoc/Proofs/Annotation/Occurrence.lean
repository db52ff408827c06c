import RouteDoc.Annotation.Block
import Mathlib.Algebra.BigOperators.Group.List.Basic
import Mathlib.Algebra.GroupWithZero.Nat
import Mathlib.Algebra.Order.BigOperators.Group.List
import Mathlib.Data.List.Forall2
import Mathlib.Data.List.Induction

/-!
# Tags of a block

* `Block.perm_group`: grouping tags by their keywords loses the order of the tags only.
  `keys_group`, `getD_group`: what it has under each keyword.
* `Line.Unmarks`: how the reading of a marked line may change when its marker is dropped.
* `Block.Alike`: lines that say the same in two readings, each under the keyword it stands under.
* `Block.group_occurrencesFrom_eq_iff`: **lines without their markers give the same tags if and only
  if each of them says the same.**
-/

namespace RouteDoc

/-! ## Grouping -/

namespace Dict

variable {κ β : Type} [DecidableEq κ]

/-- One more value under a key. -/
theorem perm_spread_putIn (k : κ) (v : β) (es : List (κ × List β)) :
    ((putIn k ((findIn k es).getD [] ++ [v]) es).flatMap fun e => e.2.map (e.1, ·)).Perm
      ((es.flatMap fun e => e.2.map (e.1, ·)) ++ [(k, v)]) := by
  induction es with
  | nil => simp [putIn, findIn]
  | cons e es ih =>
    obtain ⟨j, ws⟩ := e
    by_cases hj : j = k
    · subst hj
      simp only [putIn, findIn, if_true, Option.getD_some, List.flatMap_cons, List.map_append,
        List.append_assoc]
      exact List.perm_append_comm.append_left _
    · simp only [putIn, findIn, if_neg hj, List.flatMap_cons, List.append_assoc]
      exact ih.append_left _

end Dict

namespace Block

theorem group_append_singleton (os : List (String × List String)) (o : String × List String) :
    group (os ++ [o]) = (group os).put o.1 (((group os).get? o.1).getD [] ++ [o.2]) := by
  rw [group, List.foldl_append]
  rfl

/-- Grouping loses the order of the tags only. -/
theorem perm_group (os : List (String × List String)) :
    ((group os).entries.flatMap fun e => e.2.map (e.1, ·)).Perm os := by
  induction os using List.reverseRecOn with
  | nil => exact .refl _
  | append_singleton os o ih =>
    rw [group_append_singleton]
    exact (Dict.perm_spread_putIn o.1 o.2 _).trans (ih.append_right _)

/-- Keywords keep the order in which they first occur. -/
theorem keys_group (os : List (String × List String)) :
    (group os).keys = (os.map Prod.fst).eraseDups := by
  induction os using List.reverseRecOn with
  | nil => rfl
  | append_singleton os o ih =>
    rw [group_append_singleton, Dict.keys_put, ih, List.map_append, List.eraseDups_append,
      List.map_singleton]
    by_cases ho : o.1 ∈ os.map Prod.fst
    · simp [List.removeAll, ho]
    · simp [List.removeAll, ho, List.eraseDups_cons]

/-- The groups of a keyword are those of its tags, in order. -/
theorem getD_group (os : List (String × List String)) (keyword : String) :
    ((group os).get? keyword).getD [] = (os.filter (·.1 = keyword)).map Prod.snd := by
  induction os using List.reverseRecOn with
  | nil => rfl
  | append_singleton os o ih =>
    rw [group_append_singleton, Dict.get?_put, List.filter_append, List.map_append, ← ih]
    by_cases ho : o.1 = keyword
    · simp [ho]
    · simp [ho]

/-- Every tag gives one group. -/
theorem sum_length_group (os : List (String × List String)) :
    ((group os).values.map List.length).sum = os.length := by
  rw [← (perm_group os).length_eq, List.length_flatMap, Dict.values, List.map_map]
  simp [Function.comp_def]

end Block

namespace Line

def isTag : Line → Bool
  | .tag _ _ => true
  | _ => false

@[simp] theorem isTag_delimiter : isTag .delimiter = false := rfl

@[simp] theorem isTag_tag (keyword : String) (fields : List String) :
    isTag (.tag keyword fields) = true := rfl

@[simp] theorem isTag_text (marked : Bool) (content : String) :
    isTag (.text marked content) = false := rfl

/-- The keyword under which the next line stands. -/
@[simp]
def next (keyword : String) : Line → String
  | .tag k _ => k
  | _ => keyword

/-- A text is lost if there is nothing in its place, a tag, or a shorter text. -/
inductive Loses (content : String) : Line → Prop
  | delimiter : Loses content .delimiter
  | tag (keyword fields) : Loses content (.tag keyword fields)
  | text (marked) {content'} (h : content'.length < content.length) :
    Loses content (.text marked content')

/-- How the reading of a marked line may change when its marker is dropped. -/
inductive Unmarks : Line → Line → Prop
  | tag (keyword fields) : Unmarks (.tag keyword fields) (.tag keyword fields)
  | marked (content) : Unmarks (.text true content) (.text true content)
  | unmarked (content) : Unmarks (.text true content) (.text false content)
  | lost {content b} (h : Loses content b) : Unmarks (.text true content) b

/-- Two readings of a line say the same under a keyword. -/
def Same (keyword : String) (a b : Line) : Prop :=
  b = a ∨ keyword = Keyword.description ∧
    ∃ content, a = .text true content ∧ b = .text false content

end Line

namespace Block

open Line

theorem length_occurrencesFrom (keyword : String) (fields : List String) (ls : List Line) :
    (occurrencesFrom keyword fields ls).length = ls.countP Line.isTag + 1 := by
  induction ls generalizing keyword fields with
  | nil => rfl
  | cons l ls ih =>
    cases l with
    | delimiter => simp [occurrencesFrom, ih]
    | tag k fs => simp [occurrencesFrom, ih, List.countP_cons]
    | text marked content =>
      rw [occurrencesFrom]
      split <;> simp [ih]

/-- Lines that say nothing can be left out. -/
theorem occurrencesFrom_filter (keyword : String) (fields : List String) (ls : List Line) :
    occurrencesFrom keyword fields (ls.filter fun l => !decide (l = .delimiter)) =
      occurrencesFrom keyword fields ls := by
  induction ls generalizing keyword fields with
  | nil => rfl
  | cons l ls ih => cases l <;> simp [occurrencesFrom, ih]

/-- Lines that say the same in two readings, each under the keyword it stands under. -/
def Alike (keyword : String) : List Line → List Line → Prop
  | [], [] => True
  | a :: as, b :: bs => Same keyword a b ∧ Alike (a.next keyword) as bs
  | _, _ => False

theorem Alike.delimiter_mem {keyword : String} {as bs : List Line} (h : Alike keyword as bs)
    (hmem : .delimiter ∈ bs) : .delimiter ∈ as := by
  induction as generalizing keyword bs with
  | nil =>
    cases bs with
    | nil => exact hmem
    | cons b bs => exact h.elim
  | cons a as ih =>
    cases bs with
    | nil => exact h.elim
    | cons b bs =>
      obtain ⟨hsame, hrest⟩ := h
      rcases List.mem_cons.1 hmem with rfl | hmem
      · obtain heq | ⟨-, _, -, heq⟩ := hsame
        · exact heq ▸ List.mem_cons_self
        · exact absurd heq (by simp)
      · exact List.mem_cons_of_mem a (ih hrest hmem)

/-- The keyword under which a line behind the given ones stands. -/
def keywordAfter (keyword : String) (ls : List Line) : String := ls.foldl next keyword

/-- What stands behind some lines is collected on its own. -/
theorem exists_occurrencesFrom_append (before : List Line) (keyword : String)
    (fields : List String) : ∃ os fields', ∀ ls, occurrencesFrom keyword fields (before ++ ls) =
      os ++ occurrencesFrom (keywordAfter keyword before) fields' ls := by
  induction before generalizing keyword fields with
  | nil => exact ⟨[], fields, fun ls => rfl⟩
  | cons b before ih =>
    cases b with
    | delimiter => exact ih keyword fields
    | tag k fs =>
      obtain ⟨os, fields', hos⟩ := ih k fs
      exact ⟨(keyword, fields) :: os, fields', fun ls => by
        rw [List.cons_append, occurrencesFrom, hos]; rfl⟩
    | text marked content =>
      by_cases hk : marked = true ∨ keyword = Keyword.description
      · obtain ⟨os, fields', hos⟩ := ih keyword (fields ++ [content])
        exact ⟨os, fields', fun ls => by rw [List.cons_append, occurrencesFrom, if_pos hk, hos]; rfl⟩
      · obtain ⟨os, fields', hos⟩ := ih keyword fields
        exact ⟨os, fields', fun ls => by rw [List.cons_append, occurrencesFrom, if_neg hk, hos]; rfl⟩

theorem alike_map_iff {α : Type} {f g : α → Line} {keyword : String} {xs : List α} :
    Alike keyword (xs.map f) (xs.map g) ↔ ∀ before x after, xs = before ++ x :: after →
      Same (keywordAfter keyword (before.map f)) (f x) (g x) := by
  induction xs generalizing keyword with
  | nil => simp [Alike]
  | cons x xs ih =>
    rw [List.map_cons, List.map_cons, Alike, ih]
    constructor
    · rintro ⟨hx, hxs⟩ (_ | ⟨y, before⟩) z after heq
      · obtain ⟨rfl, -⟩ := List.cons.inj heq
        exact hx
      · obtain ⟨rfl, htail⟩ := List.cons.inj heq
        exact hxs before z after htail
    · exact fun h => ⟨h [] x xs rfl, fun before z after heq =>
        h (x :: before) z after (by simp [heq])⟩

/-- The characters of fields, each with one more for its end. -/
def size (fields : List String) : Nat := (fields.map (·.length + 1)).sum

theorem size_append (fs gs : List String) : size (fs ++ gs) = size fs + size gs := by
  simp [size]

theorem size_singleton (f : String) : size [f] = f.length + 1 := by
  simp [size]

def total (os : List (String × List String)) : Nat := (os.map fun o => size o.2).sum

theorem total_cons (o : String × List String) (os : List (String × List String)) :
    total (o :: os) = size o.2 + total os := by
  simp [total]

theorem total_append (os os' : List (String × List String)) :
    total (os ++ os') = total os + total os' := by
  simp [total]

/-- More fields are all collected. -/
theorem total_occurrencesFrom_append (keyword : String) (fields more : List String)
    (ls : List Line) : total (occurrencesFrom keyword (fields ++ more) ls) =
      total (occurrencesFrom keyword fields ls) + size more := by
  induction ls generalizing keyword fields more with
  | nil => simp [occurrencesFrom, total, size_append]
  | cons l ls ih =>
    cases l with
    | delimiter => exact ih keyword fields more
    | tag k fs =>
      simp only [occurrencesFrom, total_cons, size_append]
      omega
    | text marked content =>
      rw [occurrencesFrom, occurrencesFrom]
      split
      · have hmore := ih keyword fields (more ++ [content])
        have hfields := ih keyword fields [content]
        rw [List.append_assoc, hmore, hfields, size_append]
        omega
      · exact ih keyword fields more

/-- Lines that say the same give the same tags. -/
theorem Alike.occurrencesFrom_eq {keyword : String} {as bs : List Line} (h : Alike keyword as bs)
    (fields : List String) :
    occurrencesFrom keyword fields as = occurrencesFrom keyword fields bs := by
  induction as generalizing keyword fields bs with
  | nil =>
    cases bs with
    | nil => rfl
    | cons b bs => exact h.elim
  | cons a as ih =>
    cases bs with
    | nil => exact h.elim
    | cons b bs =>
      obtain ⟨rfl | ⟨rfl, content, rfl, rfl⟩, hrest⟩ := h
      · have hnext := ih hrest
        cases b <;> simp only [next] at hnext <;> simp [occurrencesFrom, hnext]
      · have hnext := ih hrest
        simp only [next] at hnext
        simp [occurrencesFrom, hnext]

/-- No tag is lost with the markers; if none is gained, the same lines start tags. -/
theorem countP_isTag_le {as bs : List Line} (h : List.Forall₂ Unmarks as bs) :
    as.countP Line.isTag ≤ bs.countP Line.isTag ∧
      (as.countP Line.isTag = bs.countP Line.isTag →
        List.Forall₂ (fun a b => Unmarks a b ∧ a.isTag = b.isTag) as bs) := by
  induction h with
  | nil => exact ⟨Nat.le_refl _, fun _ => .nil⟩
  | @cons a b as bs hab _ ih =>
    obtain ⟨hle, hsame⟩ := ih
    have hkeeps : a.isTag = true → b.isTag = true := by
      cases hab <;> simp
    rw [List.countP_cons, List.countP_cons]
    cases ha : a.isTag with
    | true =>
      rw [hkeeps ha]
      refine ⟨by simpa using hle, fun heq => .cons ⟨hab, by rw [ha, hkeeps ha]⟩ (hsame ?_)⟩
      simpa using heq
    | false =>
      cases hb : b.isTag with
      | true =>
        simp only [Bool.false_eq_true, if_false, if_true]
        exact ⟨by omega, fun heq => by omega⟩
      | false =>
        refine ⟨by simpa using hle, fun heq => .cons ⟨hab, by rw [ha, hb]⟩ (hsame ?_)⟩
        simpa using heq

/-- Of the characters of the fields some are lost with the markers; if none is lost, the lines say
the same. -/
theorem total_le {as bs : List Line}
    (h : List.Forall₂ (fun a b => Unmarks a b ∧ a.isTag = b.isTag) as bs) (keyword : String)
    (fs gs : List String) :
    total (occurrencesFrom keyword gs bs) + size fs ≤
        total (occurrencesFrom keyword fs as) + size gs ∧
      (total (occurrencesFrom keyword gs bs) + size fs =
          total (occurrencesFrom keyword fs as) + size gs → Alike keyword as bs) := by
  induction h generalizing keyword fs gs with
  | nil => simp [occurrencesFrom, total, Alike, Nat.add_comm]
  | @cons a b as bs hab _ ih =>
    obtain ⟨hab, htag⟩ := hab
    cases hab with
    | tag k hs =>
      obtain ⟨hle, halike⟩ := ih k hs hs
      simp only [occurrencesFrom, total_cons]
      exact ⟨by omega, fun heq => ⟨.inl rfl, halike (by omega)⟩⟩
    | marked content =>
      obtain ⟨hle, halike⟩ := ih keyword (fs ++ [content]) (gs ++ [content])
      simp only [occurrencesFrom, true_or, if_true, size_append] at hle halike ⊢
      exact ⟨by omega, fun heq => ⟨.inl rfl, halike (by omega)⟩⟩
    | unmarked content =>
      by_cases hk : keyword = Keyword.description
      · obtain ⟨hle, halike⟩ := ih keyword (fs ++ [content]) (gs ++ [content])
        simp only [occurrencesFrom, hk, or_true, if_true, size_append] at hle halike ⊢
        exact ⟨by omega, fun heq => ⟨.inr ⟨rfl, content, rfl, rfl⟩, halike (by omega)⟩⟩
      · obtain ⟨hle, -⟩ := ih keyword (fs ++ [content]) gs
        simp only [occurrencesFrom, hk, or_false, if_true, Bool.false_eq_true, if_false, size_append,
          size_singleton] at hle ⊢
        exact ⟨by omega, fun heq => by omega⟩
    | @lost content _ hlost =>
      cases hlost with
      | delimiter =>
        obtain ⟨hle, -⟩ := ih keyword (fs ++ [content]) gs
        simp only [occurrencesFrom, true_or, if_true, size_append, size_singleton] at hle ⊢
        exact ⟨by omega, fun heq => by omega⟩
      | tag k hs => exact absurd htag (by simp)
      | @text marked content' hlength =>
        have hkept := (ih keyword (fs ++ [content]) (gs ++ [content'])).1
        have hdropped := (ih keyword (fs ++ [content]) gs).1
        simp only [occurrencesFrom, true_or, if_true, size_append, size_singleton]
          at hkept hdropped ⊢
        split <;> exact ⟨by omega, fun heq => by omega⟩

/-- **Lines without their markers give the same tags if and only if each of them says the same.** -/
theorem group_occurrencesFrom_eq_iff {as bs : List Line} (h : List.Forall₂ Unmarks as bs)
    (keyword : String) (fields : List String) :
    group (occurrencesFrom keyword fields as) = group (occurrencesFrom keyword fields bs) ↔
      Alike keyword as bs := by
  refine ⟨fun heq => ?_, fun halike => by rw [halike.occurrencesFrom_eq]⟩
  have hperm := (perm_group (occurrencesFrom keyword fields as)).symm.trans
    (heq ▸ perm_group (occurrencesFrom keyword fields bs))
  have hcount : as.countP Line.isTag = bs.countP Line.isTag := by
    have hlength := hperm.length_eq
    rwa [length_occurrencesFrom, length_occurrencesFrom, Nat.add_right_cancel_iff] at hlength
  refine (total_le ((countP_isTag_le h).2 hcount) keyword fields fields).2 ?_
  rw [total, total, (hperm.map _).sum_eq]

end Block

end RouteDoc
