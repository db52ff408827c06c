import RouteDoc.Proofs.Text.Split
import RouteDoc.Resource
import Mathlib.Data.List.Sort

/-!
# The resource above another one

* `Resource.IsBase`: a resource is cut off at a slash, with at least two segments on the left.
* `Resource.IsLongestBase`: the longest of several resources that are such bases of another one.
* `Resource.parent?_eq_some_iff`: **a resource is attached to the longest base there is**, and its
  path below it is the rest.  `Resource.parent?_eq_none_iff`: it stands alone if there is none.
* `Resource.pairwise_sort`: in the order of resources, each comes before those attached to it.
-/

namespace RouteDoc

namespace Resource

variable {uris : List String} {uri base suffix : String}

/-! ## Cuts -/

theorem mem_cuts_iff {segments l r : List (List Char)} :
    (l, r) ∈ cuts segments ↔ 2 ≤ l.length ∧ r ≠ [] ∧ segments = l ++ r := by
  simp only [cuts, List.mem_map, List.mem_filter, List.mem_reverse, List.mem_range,
    decide_eq_true_eq, Prod.mk.injEq]
  constructor
  · rintro ⟨i, ⟨hlt, hi⟩, rfl, rfl⟩
    refine ⟨by rw [List.length_take]; omega, ?_, (List.take_append_drop i segments).symm⟩
    rw [← List.length_pos_iff, List.length_drop]
    omega
  · rintro ⟨hl, hr, rfl⟩
    have hlen := List.length_pos_iff.2 hr
    exact ⟨l.length, ⟨by rw [List.length_append]; omega, hl⟩, List.take_left' rfl,
      List.drop_left' rfl⟩

/-- The longest left part comes first. -/
theorem pairwise_cuts (segments : List (List Char)) :
    (cuts segments).Pairwise fun a b => b.1.length < a.1.length := by
  have hrange : ((List.range segments.length).reverse.filter (2 ≤ ·)).Pairwise
      fun i j => j < i ∧ i < segments.length := by
    refine List.Pairwise.imp_of_mem (fun {i j} hi _ hij => ⟨hij, ?_⟩)
      ((List.pairwise_reverse.2 List.pairwise_lt_range).filter _)
    simpa using (List.mem_filter.1 hi).1
  refine List.pairwise_map.2 (hrange.imp fun {i j} h => ?_)
  simp only [List.length_take]
  omega

/-! ## Bases -/

/-- A resource is cut off at a slash, with at least two segments on the left. -/
def IsBase (base uri : String) : Prop :=
  2 ≤ (Chars.splitAt '/' base.toList).length ∧ ∃ rest, uri = base ++ "/" ++ rest

/-- The longest of several resources that are bases of another one. -/
structure IsLongestBase (uris : List String) (base uri : String) : Prop where
  mem : base ∈ uris
  isBase : IsBase base uri
  longest : ∀ b ∈ uris, IsBase b uri → b.length ≤ base.length

theorem IsBase.toList_prefix (h : IsBase base uri) : base.toList <+: uri.toList := by
  obtain ⟨-, rest, rfl⟩ := h
  exact ⟨'/' :: rest.toList, by simp⟩

/-- A base has fewer slashes. -/
theorem IsBase.slashes_lt (h : IsBase base uri) : slashes base < slashes uri := by
  obtain ⟨-, rest, rfl⟩ := h
  simp only [slashes, String.toList_append, List.count_append]
  have hslash : "/".toList.count '/' = 1 := rfl
  omega

theorem IsLongestBase.eq {b : String} (h : IsLongestBase uris base uri)
    (h' : IsLongestBase uris b uri) : b = base := by
  have hlen : b.toList.length = base.toList.length :=
    Nat.le_antisymm (h.longest b h'.mem h'.isBase) (h'.longest base h.mem h.isBase)
  have hstart := List.prefix_of_prefix_length_le h'.isBase.toList_prefix h.isBase.toList_prefix
    hlen.le
  exact String.toList_inj.1 (hstart.eq_of_length hlen)

/-- The left part of a cut is a base, and the right part is the rest. -/
theorem isBase_of_mem_cuts {l r : List (List Char)}
    (h : (l, r) ∈ cuts (Chars.splitAt '/' uri.toList)) :
    IsBase (String.ofList (Chars.joinWith ['/'] l)) uri ∧
      uri = String.ofList (Chars.joinWith ['/'] l) ++
        String.ofList ('/' :: Chars.joinWith ['/'] r) := by
  obtain ⟨hl, hr, heq⟩ := mem_cuts_iff.1 h
  have hne : l ≠ [] := by
    rintro rfl
    exact absurd hl (by simp)
  have huri : uri = String.ofList (Chars.joinWith ['/'] l) ++
      String.ofList ('/' :: Chars.joinWith ['/'] r) :=
    String.toList_inj.1 (by simpa using Chars.eq_of_splitAt_eq_append hne hr heq)
  have hpieces : Chars.splitAt '/' (Chars.joinWith ['/'] l) = l :=
    Chars.splitAt_joinWith hne fun p hp =>
      Chars.not_mem_of_mem_splitAt (heq ▸ List.mem_append_left r hp)
  refine ⟨⟨by rwa [String.toList_ofList, hpieces], String.ofList (Chars.joinWith ['/'] r), ?_⟩,
    huri⟩
  exact String.toList_inj.1 (by rw [huri]; simp)

/-- Each base is the left part of a cut. -/
theorem IsBase.exists_mem_cuts (h : IsBase base uri) :
    ∃ l r, (l, r) ∈ cuts (Chars.splitAt '/' uri.toList) ∧
      String.ofList (Chars.joinWith ['/'] l) = base := by
  obtain ⟨hbase, rest, rfl⟩ := h
  refine ⟨Chars.splitAt '/' base.toList, Chars.splitAt '/' rest.toList, mem_cuts_iff.2
    ⟨hbase, Chars.splitAt_ne_nil '/' _, ?_⟩, ?_⟩
  · rw [← Chars.splitAt_append]
    simp
  · rw [Chars.joinWith_splitAt, String.ofList_toList]

/-- More segments on the left make a longer base. -/
theorem length_joinWith_le {segments l r l' r' : List (List Char)} (h : (l, r) ∈ cuts segments)
    (h' : (l', r') ∈ cuts segments) (hlen : l'.length < l.length) :
    (Chars.joinWith ['/'] l').length ≤ (Chars.joinWith ['/'] l).length := by
  obtain ⟨-, -, heq⟩ := mem_cuts_iff.1 h
  obtain ⟨hl', -, heq'⟩ := mem_cuts_iff.1 h'
  obtain ⟨m, rfl⟩ : l' <+: l :=
    List.prefix_of_prefix_length_le ⟨r', heq'.symm⟩ ⟨r, heq.symm⟩ hlen.le
  have hne' : l' ≠ [] := List.length_pos_iff.1 (by omega)
  have hm : m ≠ [] := by
    rintro rfl
    simp at hlen
  rw [Chars.joinWith_append hne' hm, List.append_assoc, List.length_append]
  exact Nat.le_add_right _ _

/-! ## Parents -/

/-- What is found is the longest base, and the rest. -/
theorem isLongestBase_of_parent? (h : parent? uris uri = some (base, suffix)) :
    IsLongestBase uris base uri ∧ uri = base ++ suffix := by
  obtain ⟨before, ⟨l, r⟩, after, hcuts, hfound, hnone⟩ := List.findSome?_eq_some_iff.1 h
  have hmem : (l, r) ∈ cuts (Chars.splitAt '/' uri.toList) := by rw [hcuts]; simp
  obtain ⟨hbase, huri⟩ := isBase_of_mem_cuts hmem
  simp only [Option.ite_none_right_eq_some, Option.some.injEq, Prod.mk.injEq] at hfound
  obtain ⟨hin, rfl, rfl⟩ := hfound
  refine ⟨⟨hin, hbase, fun b hb hbbase => ?_⟩, huri⟩
  obtain ⟨l', r', hmem', rfl⟩ := hbbase.exists_mem_cuts
  have hpairwise := pairwise_cuts (Chars.splitAt '/' uri.toList)
  rw [hcuts] at hpairwise
  have hplace := hcuts ▸ hmem'
  rcases List.mem_append.1 hplace with hbefore | hplace
  · -- a longer base would have been found before
    have := hnone _ hbefore
    simp [hb] at this
  · rcases List.mem_cons.1 hplace with heq | hafter
    · obtain ⟨rfl, rfl⟩ := Prod.mk.inj heq
      exact le_rfl
    · have hlen := List.rel_of_pairwise_cons (List.pairwise_append.1 hpairwise).2.1 hafter
      simpa using length_joinWith_le hmem hmem' hlen

theorem parent?_eq_none_iff : parent? uris uri = none ↔ ∀ b ∈ uris, ¬ IsBase b uri := by
  simp only [parent?, List.findSome?_eq_none_iff, Prod.forall, ite_eq_right_iff, reduceCtorEq,
    imp_false]
  constructor
  · intro h b hb hbase
    obtain ⟨l, r, hmem, rfl⟩ := hbase.exists_mem_cuts
    exact h l r hmem hb
  · intro h l r hmem hin
    exact h _ hin (isBase_of_mem_cuts hmem).1

/-- **A resource is attached to the longest base there is**, and its path below it is the rest. -/
theorem parent?_eq_some_iff :
    parent? uris uri = some (base, suffix) ↔
      IsLongestBase uris base uri ∧ uri = base ++ suffix := by
  refine ⟨isLongestBase_of_parent?, ?_⟩
  rintro ⟨hbase, huri⟩
  cases hp : parent? uris uri with
  | none => exact absurd hbase.isBase (parent?_eq_none_iff.1 hp base hbase.mem)
  | some p =>
    obtain ⟨b, s⟩ := p
    obtain ⟨hb, hs⟩ := isLongestBase_of_parent? hp
    obtain rfl := hbase.eq hb
    rw [(String.append_right_inj b).1 (hs.symm.trans huri)]

-- a single slash has two segments, both empty, so it is a base of a path that begins with two
-- slashes
example : parent? ["/", "/a", "//a"] "//a" = some ("/", "/a") ∧
    parent? ["/", "/a", "//a"] "/a" = none := by
  decide +kernel

/-- Only which resources there are matters. -/
theorem parent?_congr {us vs : List String} (h : ∀ u, u ∈ us ↔ u ∈ vs) (uri : String) :
    parent? us uri = parent? vs uri := by
  simp only [parent?, h]

/-- The resource that another one is attached to. -/
def above (uris : List String) (uri : String) : Option String := (parent? uris uri).map Prod.fst

theorem above_eq_some_iff : above uris uri = some base ↔ IsLongestBase uris base uri := by
  rw [above, Option.map_eq_some_iff]
  constructor
  · rintro ⟨⟨b, s⟩, hp, rfl⟩
    exact (parent?_eq_some_iff.1 hp).1
  · intro h
    obtain ⟨rest, hrest⟩ := h.isBase.2
    exact ⟨(base, "/" ++ rest), parent?_eq_some_iff.2 ⟨h, by rw [hrest, String.append_assoc]⟩, rfl⟩

theorem above_ne_self (uris : List String) (uri : String) : above uris uri ≠ some uri := fun h =>
  Nat.lt_irrefl _ (above_eq_some_iff.1 h).isBase.slashes_lt

theorem above_eq_none_iff : above uris uri = none ↔ ∀ b ∈ uris, ¬ IsBase b uri := by
  rw [above, Option.map_eq_none_iff, parent?_eq_none_iff]

/-! ## Order -/

theorem before_trans (a b c : String) (hab : before a b = true) (hbc : before b c = true) :
    before a c = true := by
  simp only [before, Bool.or_eq_true, Bool.and_eq_true, decide_eq_true_eq, beq_iff_eq] at *
  rcases hab with hab | ⟨hab, hle⟩ <;> rcases hbc with hbc | ⟨hbc, hle'⟩
  · exact .inl (hab.trans hbc)
  · exact .inl (hbc ▸ hab)
  · exact .inl (hab ▸ hbc)
  · exact .inr ⟨hab.trans hbc, String.le_trans hle hle'⟩

theorem before_total (a b : String) : (before a b || before b a) = true := by
  simp only [before, Bool.or_eq_true, Bool.and_eq_true, decide_eq_true_eq, beq_iff_eq]
  rcases Nat.lt_trichotomy (slashes a) (slashes b) with h | h | h
  · exact .inl (.inl h)
  · exact (String.le_total a b).imp (fun hle => .inr ⟨h, hle⟩) fun hle => .inr ⟨h.symm, hle⟩
  · exact .inr (.inl h)

/-- In the order of resources, each comes before those attached to it. -/
theorem pairwise_sort (uris us : List String) :
    (sort us).Pairwise fun u v => above uris u ≠ some v := by
  have hsorted : (sort us).Pairwise fun u v => before u v = true :=
    List.pairwise_mergeSort before_trans before_total us
  refine hsorted.imp fun {u v} huv habove => ?_
  have hlt := (above_eq_some_iff.1 habove).isBase.slashes_lt
  simp only [before, Bool.or_eq_true, Bool.and_eq_true, decide_eq_true_eq, beq_iff_eq] at huv
  omega

end Resource

end RouteDoc
