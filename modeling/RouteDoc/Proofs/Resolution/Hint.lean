import RouteDoc.Proofs.Resolution.FlatUnion
import RouteDoc.Schema.Expression

/-!
# What the expressions for hints read as

The expression for a hint is flat.  The marks of arrays and maps stand in front of what they bind,
and the members of a union stand between bars, at whatever depth the union is.  Reading takes the
bars first.  So the text of a hint is read as pieces with bars between them, and a mark that stands
in front of a union binds its first member.

* `Form.isMarked`, `Registry.Unmarked`: a text with a mark in front reads by that mark.
* `Sense`: what an expression lists between the bars, and what its hint means.
* `Hint.HasSense`: the hints that are made from classes, by constructor.
* `Hint.HasSense.listedBy`: the expression for a hint is made of pieces that read as what is listed.
* `Hint.HasSense.join_listed`: what is listed joins to what is meant, if each list and each
  dictionary goes over a single type.
-/

namespace RouteDoc

open Chars

namespace Reading

def arrayOf (item : Reading Descriptor) : Reading Descriptor := item.bind fun d => .pure d.arrayOf

def mapTo (key value : Reading Descriptor) : Reading Descriptor :=
  key.bind fun k => value.bind fun v =>
    (meet (.ofParts k v)).bind fun _ => .pure (.ofMap (.ofParts k v))

end Reading

/-! ## Marks in front of a text -/

namespace Chars

variable {s t k : List Char}

/-- A text that has no blank in it and does not end in a bracket. -/
structure Piece (s : List Char) : Prop where
  solid : Solid s
  last : s.getLast? ≠ some ']'

theorem Piece.prepend (hs : Piece s) (ht : (t.all fun c => !isBlank c) = true) :
    Piece (t ++ s) where
  solid := by
    refine ⟨by simp [hs.solid.1], fun c hc => ?_⟩
    rcases List.mem_append.1 hc with hc | hc
    · simpa using List.all_eq_true.1 ht c hc
    · exact hs.solid.2 c hc
  last := by
    rw [List.getLast?_append, List.getLast?_eq_some_getLast hs.solid.1, Option.some_or,
      ← List.getLast?_eq_some_getLast hs.solid.1]
    exact hs.last

/-- A text that has no blank and no bracket in it. -/
structure Bare (s : List Char) : Prop where
  solid : Solid s
  opening : '[' ∉ s
  closing : ']' ∉ s

instance (s : List Char) : Decidable (Bare s) :=
  decidable_of_iff ((s ≠ [] ∧ s.all (fun c => !isBlank c) = true) ∧ '[' ∉ s ∧ ']' ∉ s)
    ⟨fun h => ⟨⟨h.1.1, by simpa using h.1.2⟩, h.2.1, h.2.2⟩,
      fun h => ⟨⟨h.solid.1, by simpa using h.solid.2⟩, h.opening, h.closing⟩⟩

theorem Bare.piece (hs : Bare s) : Piece s :=
  ⟨hs.solid, fun h => hs.closing (List.mem_of_getLast? h)⟩

theorem Piece.endsWith_marks (hs : Piece s) : endsWith s ['[', ']'] = false := by
  rw [← Bool.not_eq_true, endsWith, List.isSuffixOf_iff_suffix]
  rintro ⟨t, rfl⟩
  exact hs.last (by simp)

/-- A key without brackets ends at the first one. -/
theorem mapParts?_append (hk : Bare k) (hs : Solid s) :
    Form.mapParts? (k ++ ']' :: s) = some (k, s) := by
  have hnot : ∀ c ∈ k, (c != '[' && c != ']') = true := by
    intro c hc
    simp only [bne_iff_ne, ne_eq, Bool.and_eq_true]
    exact ⟨fun h => hk.opening (h ▸ hc), fun h => hk.closing (h ▸ hc)⟩
  have hblank : ∀ {t : List Char}, Solid t → isBlankText t = false := by
    intro t ht
    obtain ⟨c, hc⟩ := List.exists_mem_of_ne_nil t ht.1
    rw [isBlankText, List.all_eq_false]
    exact ⟨c, hc, by simp [ht.2 c hc]⟩
  have hfeed : '\n' ∉ s := fun h => absurd (hs.2 '\n' h) (by decide)
  rw [Form.mapParts?, List.takeWhile_append_of_pos hnot, List.dropWhile_append_of_pos hnot]
  simp [hblank hk.solid, hblank hs, hfeed, hk.solid.strip_eq, hs.strip_eq]

end Chars

theorem Text.append_joinWith (mark sep p : String) (ps : List String) :
    mark ++ joinWith sep (p :: ps) = joinWith sep ((mark ++ p) :: ps) := by
  cases ps with
  | nil => simp [joinWith_singleton]
  | cons q qs =>
    simp [joinWith, Chars.joinWith]

namespace Form

variable {r : Registry} {e p k : String}

/-- Whether a text begins with the mark of a pointer, of an array or of a map. -/
def isMarked (e : String) : Bool :=
  startsWith e.toList ['*'] || startsWith e.toList ['[', ']'] ||
    startsWith e.toList ['m', 'a', 'p', '[']

theorem isMarked_words : ∀ w ∈ nothingWords ++ anythingWords, isMarked w = false := by
  decide

theorem piece_pointer (hp : Piece p.toList) : Piece ("*" ++ p).toList := by
  rw [String.toList_append]
  exact hp.prepend (by decide)

theorem piece_items (hp : Piece p.toList) : Piece ("[]" ++ p).toList := by
  rw [String.toList_append]
  exact hp.prepend (by decide)

theorem piece_map (hk : Bare k.toList) (hp : Piece p.toList) :
    Piece ("map[" ++ k ++ "]" ++ p).toList := by
  rw [String.toList_append]
  refine hp.prepend ?_
  have hmap : ("map[".toList.all fun c => !isBlank c) = true := by decide
  have hclose : ("]".toList.all fun c => !isBlank c) = true := by decide
  have hkey : (k.toList.all fun c => !isBlank c) = true := by simpa using hk.solid.2
  rw [String.toList_append, String.toList_append, List.all_append, List.all_append, hmap, hkey,
    hclose]
  rfl

theorem ofShape_pointer (hp : Piece p.toList) : ofShape ("*" ++ p) = .pointer p := by
  have hshape := ofShape_star hp.solid.1
  have hlist : '*' :: p.toList = ("*" ++ p).toList := by simp
  rwa [hp.solid.strip_eq, hlist, String.ofList_toList, String.ofList_toList] at hshape

theorem ofShape_items (hp : Piece p.toList) : ofShape ("[]" ++ p) = .array p := by
  have hshape := ofShape_marks hp.solid.1
  have hlist : '[' :: ']' :: p.toList = ("[]" ++ p).toList := by simp
  rwa [hp.solid.strip_eq, hlist, String.ofList_toList, String.ofList_toList] at hshape

theorem ofShape_map (hk : Bare k.toList) (hp : Piece p.toList) :
    ofShape ("map[" ++ k ++ "]" ++ p) = .map k p := by
  have hlist : ("map[" ++ k ++ "]" ++ p).toList =
      ['m', 'a', 'p', '['] ++ (k.toList ++ ']' :: p.toList) := by simp
  have hdrop : (['m', 'a', 'p', '['] ++ (k.toList ++ ']' :: p.toList)).drop 4 =
      k.toList ++ ']' :: p.toList := rfl
  have hend := (piece_map hk hp).endsWith_marks
  rw [hlist] at hend
  simp only [ofShape, hlist]
  rw [hend, if_neg (by simp [startsWith]), if_neg (by simp [startsWith]), if_neg (by simp),
    if_pos (by simp [startsWith]), hdrop, mapParts?_append hk hp.solid]
  simp only [String.ofList_toList]

end Form

namespace Registry

theorem read_of_solid {r : Registry} {e : String} (he : Solid e.toList) :
    r.read e = r.readFrom [] e := by
  rw [read, Text.strip, he.strip_eq, String.ofList_toList]

/-- No narrowed built-in type and no alias has a name that begins with a mark. -/
structure Unmarked (r : Registry) : Prop where
  of_primitive : ∀ n, (r.primitive? n).isSome = true → Form.isMarked n = false
  of_alias : ∀ n ∈ r.aliases.keys, Form.isMarked n = false

variable {r : Registry} {p k : String}

/-- An identifier does not begin with a mark. -/
theorem PlainNames.unmarked (hr : r.PlainNames) : r.Unmarked := by
  have key : ∀ n, Form.IsPlainName n → Form.isMarked n = false := by
    intro n hn
    have hstar := not_mem_of_isIdentifier hn.isIdentifier (c := '*') (by decide) (by decide)
    have hopen := not_mem_of_isIdentifier hn.isIdentifier (c := '[') (by decide) (by decide)
    simp [Form.isMarked, startsWith_eq_false _ hstar, startsWith_eq_false _ hopen]
  exact ⟨fun n hn => key n (hr.of_primitive n hn), fun n hn => key n (hr.of_alias n hn)⟩

/-- A text with a mark in front reads by its shape. -/
theorem Unmarked.form_eq {e : String} (hr : r.Unmarked) (he : Piece e.toList)
    (hmark : Form.isMarked e = true) : Form.of r e = Form.ofShape e := by
  have hword : e ∉ Form.nothingWords ++ Form.anythingWords := fun h => by
    rw [Form.isMarked_words e h] at hmark
    exact absurd hmark (by simp)
  rw [List.mem_append, not_or] at hword
  refine Form.of_eq_ofShape he.solid.space_not_mem hword.1 hword.2 ?_ ?_
  · rw [← Option.not_isSome_iff_eq_none]
    intro h
    rw [hr.of_primitive e h] at hmark
    exact absurd hmark (by simp)
  · rw [target?, Dict.get?_eq_none_iff]
    intro h
    rw [hr.of_alias e h] at hmark
    exact absurd hmark (by simp)

theorem Unmarked.readFrom_pointer (hr : r.Unmarked) (hp : Piece p.toList) (seen : List String) :
    r.readFrom seen ("*" ++ p) = r.readFrom seen p := by
  have hmark : Form.isMarked ("*" ++ p) = true := by simp [Form.isMarked, startsWith]
  rw [readFrom_eq, hr.form_eq (Form.piece_pointer hp) hmark, Form.ofShape_pointer hp]

theorem Unmarked.readFrom_items (hr : r.Unmarked) (hp : Piece p.toList) (seen : List String) :
    r.readFrom seen ("[]" ++ p) = (r.readFrom seen p).arrayOf := by
  have hmark : Form.isMarked ("[]" ++ p) = true := by simp [Form.isMarked, startsWith]
  rw [readFrom_eq, hr.form_eq (Form.piece_items hp) hmark, Form.ofShape_items hp]
  rfl

theorem Unmarked.readFrom_map (hr : r.Unmarked) (hk : Bare k.toList) (hp : Piece p.toList)
    (seen : List String) : r.readFrom seen ("map[" ++ k ++ "]" ++ p) =
      (r.readFrom seen k).mapTo (r.readFrom seen p) := by
  have hmark : Form.isMarked ("map[" ++ k ++ "]" ++ p) = true := by simp [Form.isMarked, startsWith]
  rw [readFrom_eq, hr.form_eq (Form.piece_map hk hp) hmark, Form.ofShape_map hk hp]
  rfl

end Registry

/-! ## Classes -/

/-- The classes of scalar values. -/
def Builtin.scalars : List Builtin :=
  [.bool, .int, .float, .str, .bytes, .decimal, .datetime, .date, .time, .uuid]

namespace ClassTable

variable {t : ClassTable} {r : Registry}

theorem typeExpression_of_className? {c : ClassRef} {n : String} (hc : c ≠ .builtin .object)
    (hr : r.className? c = some n) (hn : n ≠ "") : t.typeExpression r c = n := by
  simp only [typeExpression, hr, if_neg hn]

theorem typeExpression_of_unregistered {b : Builtin} (hr : r.className? (.builtin b) = none) :
    t.typeExpression r (.builtin b) = b.typeExpression := by
  cases b <;> simp only [typeExpression, hr, typeExpression.unregistered]

/-- The expression for a class of scalar values has no bracket in it. -/
theorem bare_of_scalar {b : Builtin} (hb : b ∈ Builtin.scalars)
    (hr : r.className? (.builtin b) = none) :
    Bare (t.typeExpression r (.builtin b)).toList := by
  rw [typeExpression_of_unregistered hr]
  exact (by decide +kernel : ∀ b ∈ Builtin.scalars, Bare b.typeExpression.toList) b hb

end ClassTable

/-! ## What a hint means -/

/-- What a hint stands for. -/
structure Sense where
  /-- The types that its expression lists between the bars. -/
  listed : List (Reading Descriptor)
  /-- The type that its structure gives. -/
  meant : Reading Descriptor
  /-- Each list and each dictionary in it goes over a single type. -/
  grouped : Prop

namespace Sense

def single (x : Reading Descriptor) : Sense := ⟨[x], x, True⟩

/-- A list or a dictionary.  Its mark binds the first type listed only. -/
def around (f : Reading Descriptor → Reading Descriptor) (s : Sense) : Sense where
  listed := s.listed.modifyHead f
  meant := f s.meant
  grouped := s.grouped ∧ s.listed.length = 1

def union (ss : List Sense) : Sense where
  listed := ss.flatMap listed
  meant := (Reading.all (ss.map meant)).bind fun ds => .pure (.union ds)
  grouped := ∀ s ∈ ss, s.grouped

end Sense

namespace Hint

/-- The members of a union, less the absent value. -/
def present (members : List Hint) : List Hint := members.filter (!·.isAbsent)

/-- What the hints stand for that are made from classes by lists, sets, dictionaries, optional
values, unions and marks. -/
inductive HasSense (t : ClassTable) (r : Registry) : Hint → Sense → Prop
  | of {c : ClassRef} : Bare (t.typeExpression r c).toList →
      HasSense t r (.of c) (.single (r.read (t.typeExpression r c)))
  | sequence {c : Builtin} {item : Hint} {s : Sense} : c.isSequence = true →
      HasSense t r item s → HasSense t r (.generic c [item]) (s.around Reading.arrayOf)
  | dict {key : ClassRef} {value : Hint} {s : Sense} : Bare (t.typeExpression r key).toList →
      HasSense t r value s → HasSense t r (.generic .dict [.of key, value])
        (s.around (r.read (t.typeExpression r key)).mapTo)
  | optional {isPlain : Bool} {members : List Hint} {h : Hint} {s : Sense} :
      present members = [h] → HasSense t r h s → HasSense t r (.union isPlain members) s
  | union {isPlain : Bool} {members : List Hint} {f : Hint → Sense} :
      1 < (present members).length → (∀ h ∈ present members, HasSense t r h (f h)) →
      HasSense t r (.union isPlain members) (.union ((present members).map f))
  | annotated {h : Hint} {marks : Nat} {s : Sense} :
      HasSense t r h s → HasSense t r (.annotated h marks) s

variable {t : ClassTable} {r : Registry} {a h : Hint} {s : Sense}

theorem HasSense.union_pair {isPlain : Bool} {members : List Hint} {h' : Hint} {s' : Sense}
    (hm : present members = [h, h']) (hne : h' ≠ h) (hh : HasSense t r h s)
    (hh' : HasSense t r h' s') : HasSense t r (.union isPlain members) (.union [s, s']) := by
  classical
  let f : Hint → Sense := Function.update (fun _ => s') h s
  have hf : f h = s ∧ f h' = s' := ⟨Function.update_self .., Function.update_of_ne hne ..⟩
  have hmap : (present members).map f = [s, s'] := by simp [hm, hf]
  rw [← hmap]
  refine .union (by simp [hm]) fun x hx => ?_
  simp only [hm, List.mem_cons, List.not_mem_nil, or_false] at hx
  rcases hx with rfl | rfl
  · exact hf.1 ▸ hh
  · exact hf.2 ▸ hh'

theorem memberExpressions_eq (t : ClassTable) (r : Registry) (members : List Hint) :
    memberExpressions t r members = (present members).map (expression t r) := by
  induction members with
  | nil => rfl
  | cons h hs ih =>
    rw [memberExpressions, present, List.filter_cons]
    cases hh : h.isAbsent <;> simp [ih, present]

theorem expression_optional {isPlain : Bool} {members : List Hint}
    (hm : present members = [h]) :
    expression t r (.union isPlain members) = "*" ++ expression t r h := by
  rw [expression, memberExpressions_eq, hm]
  rfl

theorem expression_union {isPlain : Bool} {members : List Hint}
    (hlen : 1 < (present members).length) : expression t r (.union isPlain members) =
      Text.joinWith " | " ((present members).map (expression t r)) := by
  rw [expression, memberExpressions_eq]
  split
  · rename_i he
    have hone := congrArg List.length he
    rw [List.length_map] at hone
    exact absurd hone (by simp; omega)
  · rfl

/-- A text is made of pieces, joined by bars, that read as what is listed. -/
def ListedBy (r : Registry) (listed : List (Reading Descriptor)) (e : String) : Prop :=
  ∃ ps, ps ≠ [] ∧ (∀ p ∈ ps, Piece p.toList) ∧ e = Text.joinWith " | " ps ∧
    ps.map (r.readFrom []) = listed

/-- A mark in front of a text changes what its first piece reads as. -/
theorem ListedBy.mark {listed : List (Reading Descriptor)} {e mark : String}
    {f : Reading Descriptor → Reading Descriptor} (he : ListedBy r listed e)
    (hpiece : ∀ {p : String}, Piece p.toList → Piece (mark ++ p).toList)
    (hread : ∀ {p : String}, Piece p.toList → r.readFrom [] (mark ++ p) = f (r.readFrom [] p)) :
    ListedBy r (listed.modifyHead f) (mark ++ e) := by
  obtain ⟨ps, hne, hps, rfl, rfl⟩ := he
  cases ps with
  | nil => exact absurd rfl hne
  | cons p ps =>
    have hp := hps p List.mem_cons_self
    refine ⟨(mark ++ p) :: ps, by simp, ?_, Text.append_joinWith .., ?_⟩
    · rintro q (_ | ⟨_, hq⟩)
      · exact hpiece hp
      · exact hps q (List.mem_cons_of_mem p hq)
    · rw [List.map_cons, List.map_cons, List.modifyHead_cons, hread hp]

theorem ListedBy.joinWith {ι : Type} {xs : List ι} {f : ι → List (Reading Descriptor)}
    {e : ι → String} (hne : xs ≠ []) (h : ∀ x ∈ xs, ListedBy r (f x) (e x)) :
    ListedBy r (xs.flatMap f) (Text.joinWith " | " (xs.map e)) := by
  choose! ps hps using h
  refine ⟨xs.flatMap ps, ?_, fun p hp => ?_, ?_, ?_⟩
  · obtain ⟨x, hx⟩ := List.exists_mem_of_ne_nil xs hne
    exact fun hnil => (hps x hx).1 (List.flatMap_eq_nil_iff.1 hnil x hx)
  · obtain ⟨x, hx, hp⟩ := List.mem_flatMap.1 hp
    exact (hps x hx).2.1 p hp
  · rw [← Text.joinWith_flatMap fun x hx => (hps x hx).1]
    exact congrArg _ (List.map_congr_left fun x hx => (hps x hx).2.2.1)
  · rw [List.map_flatMap, List.flatMap_def, List.flatMap_def]
    exact congrArg _ (List.map_congr_left fun x hx => (hps x hx).2.2.2)

theorem HasSense.listedBy (hr : r.Unmarked) (h : HasSense t r a s) :
    ListedBy r s.listed (expression t r a) := by
  induction h with
  | @of c hc =>
    refine ⟨[t.typeExpression r c], by simp, by simpa using hc.piece,
      (Text.joinWith_singleton ..).symm, ?_⟩
    rw [List.map_singleton, ← Registry.read_of_solid hc.solid]
    rfl
  | @sequence c item s hc _ ih =>
    rw [expression, if_pos hc]
    exact ih.mark Form.piece_items fun hp => hr.readFrom_items hp []
  | @dict key value s hk _ ih =>
    have htext : expression t r (.generic .dict [.of key, value]) =
        "map[" ++ t.typeExpression r key ++ "]" ++ expression t r value := rfl
    rw [htext, Registry.read_of_solid hk.solid]
    exact ih.mark (Form.piece_map hk) fun hp => hr.readFrom_map hk hp []
  | @optional isPlain members h s hm _ ih =>
    rw [expression_optional hm]
    have hmark := ih.mark (f := id) Form.piece_pointer fun hp => hr.readFrom_pointer hp []
    rwa [List.modifyHead_id] at hmark
  | @union isPlain members f hlen _ ih =>
    rw [expression_union hlen, Sense.union, List.flatMap_map]
    exact ListedBy.joinWith (List.ne_nil_of_length_pos (by omega)) ih
  | annotated _ ih => exact ih

theorem ListedBy.ne_nil {listed : List (Reading Descriptor)} {e : String}
    (h : ListedBy r listed e) : listed ≠ [] := by
  obtain ⟨ps, hne, -, -, rfl⟩ := h
  simpa using hne

/-- What is listed reads as what is meant, if each list and each dictionary goes over a single
type. -/
theorem HasSense.join_listed (hr : r.Unmarked) (h : HasSense t r a s) (hs : s.grouped) :
    Reading.join s.listed = s.meant := by
  have haround : ∀ {s : Sense} (f : Reading Descriptor → Reading Descriptor),
      (s.grouped → Reading.join s.listed = s.meant) → (s.around f).grouped →
        Reading.join (s.around f).listed = (s.around f).meant := by
    intro s f ih hs
    obtain ⟨x, hx⟩ := List.length_eq_one_iff.1 hs.2
    have hmeant := ih hs.1
    rw [hx, Reading.join_singleton] at hmeant
    rw [Sense.around, hx, List.modifyHead_cons, Reading.join_singleton, hmeant]
  induction h with
  | of _ => exact Reading.join_singleton _
  | sequence _ _ ih => exact haround _ ih hs
  | dict _ _ ih => exact haround _ ih hs
  | optional _ _ ih => exact ih hs
  | @union isPlain members f hlen hmembers ih =>
    have hjoin : ((present members).map f).map Sense.meant =
        (((present members).map f).map Sense.listed).map Reading.join := by
      simp only [List.map_map]
      refine List.map_congr_left fun h hh => (ih h hh (hs (f h) (List.mem_map_of_mem hh))).symm
    rw [Sense.union, hjoin, List.flatMap_def, Reading.union_map_join]
    · simpa using hlen
    · intro xs hxs
      simp only [List.map_map, List.mem_map, Function.comp_apply] at hxs
      obtain ⟨h, hh, rfl⟩ := hxs
      exact ((hmembers h hh).listedBy hr).ne_nil
  | annotated _ ih => exact ih hs

end Hint

end RouteDoc
