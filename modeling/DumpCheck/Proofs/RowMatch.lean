import DumpCheck.Rows
import Mathlib.Data.List.Count

/-!
# Matching the rows of a block

Both ways to match rows decide whether one list is a rearrangement of the other
(`RowMatch.agree_iff_perm`). A balance holds, for each row, the difference of its two counts, so what
it lists as missing and as unexpected are the two multiset differences, in the order of their code
points (`Balance.missing_ofRows`, `Balance.unexpected_ofRows`).
-/

namespace DumpCheck

namespace Rows

/-- The order of rows by code points. -/
def Le (r s : Text) : Prop := (compare r s).isLE

theorem Le.antisymm {r s : Text} (h : Le r s) (h' : Le s r) : r = s :=
  Std.LawfulEqCmp.eq_of_compare (Std.OrientedCmp.isLE_antisymm h h')

theorem sort_perm (rows : List Text) : (sort rows).Perm rows :=
  List.mergeSort_perm _ _

theorem pairwise_sort (rows : List Text) : (sort rows).Pairwise Le := by
  apply List.pairwise_mergeSort
  · intro r s t hrs hst
    exact Std.TransCmp.isLE_trans hrs hst
  · intro r s
    by_cases h : (compare r s).isLE
    · simp [h]
    · simp [Ordering.isLE_of_eq_lt (Std.OrientedCmp.lt_of_not_isLE h)]

/-- A list in order is the only ordered rearrangement of its members. -/
theorem eq_sort {rows rows' : List Text} (ho : rows.Pairwise Le) (hp : rows.Perm rows') :
    rows = sort rows' :=
  List.Perm.eq_of_pairwise (fun _ _ _ _ => Le.antisymm) ho (pairwise_sort rows')
    (hp.trans (sort_perm rows').symm)

theorem sort_eq_sort_iff {rows rows' : List Text} : sort rows = sort rows' ↔ rows.Perm rows' := by
  constructor
  · intro h
    exact (sort_perm rows).symm.trans (h ▸ sort_perm rows')
  · intro h
    exact eq_sort (pairwise_sort rows) ((sort_perm rows).trans h)

end Rows

namespace Balance

variable {actual expected : List Text} {b : Balance} {row : Text}

/-- The count of a row, zero if it has no entry. -/
def count (b : Balance) (row : Text) : Int := b[row]?.getD 0

theorem count_add (n : Int) (b : Balance) (row row' : Text) :
    (b.add n row').count row = b.count row + if row' = row then n else 0 := by
  unfold count add
  rw [Std.TreeMap.getElem?_alter]
  by_cases h : row' = row
  · subst h; simp
  · have hne : compare row' row ≠ .eq := fun he => h (Std.LawfulEqCmp.eq_of_compare he)
    simp [h, hne]

theorem count_foldl_add (n : Int) (rows : List Text) (b : Balance) (row : Text) :
    (rows.foldl (add n) b).count row = b.count row + n * rows.count row := by
  induction rows generalizing b with
  | nil => simp
  | cons row' rows ih =>
    rw [List.foldl_cons, ih, count_add, List.count_cons]
    by_cases h : row' = row
    · simp [h, Int.mul_add]; omega
    · simp [h]

theorem count_empty (row : Text) : count ∅ row = 0 := by
  simp [count]

/-- An entry of the balance is a count that is not zero. -/
theorem getElem?_ofRows (actual expected : List Text) (row : Text) :
    (ofRows actual expected)[row]? =
      (some (expected.count row - actual.count row : Int)).filter (· ≠ 0) := by
  have hc : (actual.foldl (add (-1)) (expected.foldl (add 1) ∅)).count row =
      (expected.count row - actual.count row : Int) := by
    rw [count_foldl_add, count_foldl_add, count_empty]; omega
  rw [ofRows, Std.TreeMap.getElem?_filter', ← hc]
  unfold count
  cases (actual.foldl (add (-1)) (expected.foldl (add 1) ∅))[row]? <;> simp [Option.filter]

theorem mem_toList_ofRows {n : Int} :
    (row, n) ∈ (ofRows actual expected).toList ↔
      n = expected.count row - actual.count row ∧ n ≠ 0 := by
  rw [Std.TreeMap.mem_toList_iff_getElem?_eq_some, getElem?_ofRows, Option.filter_eq_some_iff,
    Option.some.injEq, decide_eq_true_iff, eq_comm]

theorem isEmpty_ofRows : (ofRows actual expected).isEmpty ↔ actual.Perm expected := by
  rw [← Std.TreeMap.isEmpty_toList, List.isEmpty_iff, List.eq_nil_iff_forall_not_mem,
    List.perm_iff_count]
  constructor
  · intro h row
    by_contra hne
    exact h (row, _) (mem_toList_ofRows.2 ⟨rfl, by omega⟩)
  · rintro h ⟨row, n⟩ hmem
    obtain ⟨hn, hne⟩ := mem_toList_ofRows.1 hmem
    exact hne (by rw [hn, h row]; omega)

/-- Every row of the balance, in order, as often as `f` says for its count. -/
def spread (f : Int → Nat) (b : Balance) : List Text :=
  b.toList.flatMap fun p => List.replicate (f p.2) p.1

theorem missing_eq_spread (b : Balance) : b.missing = b.spread Int.toNat := rfl

theorem unexpected_eq_spread (b : Balance) : b.unexpected = b.spread fun n => (-n).toNat := rfl

theorem pairwise_spread (f : Int → Nat) (b : Balance) : (b.spread f).Pairwise Rows.Le := by
  rw [spread, List.pairwise_flatMap]
  refine ⟨fun p _ => ?_, b.ordered_keys_toList.imp fun {p q} hlt r hr s hs => ?_⟩
  · rw [List.pairwise_replicate]
    exact .inr (by simp [Rows.Le, Std.ReflCmp.compare_self])
  · rw [List.eq_of_mem_replicate hr, List.eq_of_mem_replicate hs]
    simp [Rows.Le, hlt]

/-- In a list of distinct rows with counts, a row is spread as often as its own count says. -/
theorem count_flatMap_replicate (f : Int → Nat) (entries : List (Text × Int))
    (hd : entries.Pairwise fun p q => ¬ compare p.1 q.1 = .eq) (row : Text) :
    (∀ n, (row, n) ∈ entries →
      (entries.flatMap fun p => List.replicate (f p.2) p.1).count row = f n) ∧
    ((∀ n, (row, n) ∉ entries) →
      (entries.flatMap fun p => List.replicate (f p.2) p.1).count row = 0) := by
  induction entries with
  | nil => simp
  | cons p entries ih =>
    obtain ⟨row', m⟩ := p
    obtain ⟨hp, hd⟩ := List.pairwise_cons.1 hd
    obtain ⟨ihmem, ihnot⟩ := ih hd
    simp only [List.flatMap_cons, List.count_append, List.count_replicate]
    by_cases h : row' = row
    · subst h
      have hnot : ∀ n, (row', n) ∉ entries := fun n hn =>
        hp (row', n) hn Std.ReflCmp.compare_self
      refine ⟨fun n hn => ?_, fun hno => absurd (List.mem_cons_self ..) (hno m)⟩
      rcases List.mem_cons.1 hn with heq | hn
      · obtain ⟨-, rfl⟩ := Prod.mk.inj heq
        simp [ihnot hnot]
      · exact absurd hn (hnot n)
    · have hne : ∀ n, (row, n) ∈ (row', m) :: entries ↔ (row, n) ∈ entries := by
        intro n; simp [Ne.symm h]
      simp only [hne, beq_iff_eq, h, if_false, Nat.zero_add]
      exact ⟨ihmem, ihnot⟩

theorem count_spread_ofRows (f : Int → Nat) (hf : f 0 = 0) (row : Text) :
    ((ofRows actual expected).spread f).count row = f (expected.count row - actual.count row) := by
  obtain ⟨hmem, hnot⟩ := count_flatMap_replicate f (ofRows actual expected).toList
    Std.TreeMap.distinct_keys_toList row
  by_cases h : (expected.count row - actual.count row : Int) = 0
  · rw [h, hf]
    exact hnot fun n hn => (mem_toList_ofRows.1 hn).2 ((mem_toList_ofRows.1 hn).1.trans h)
  · exact hmem _ (mem_toList_ofRows.2 ⟨rfl, h⟩)

/-- Missing are the expected rows less the actual ones, in order. -/
theorem missing_ofRows (actual expected : List Text) :
    (ofRows actual expected).missing = Rows.sort (expected.diff actual) := by
  rw [missing_eq_spread]
  refine Rows.eq_sort (pairwise_spread _ _) (List.perm_iff_count.2 fun row => ?_)
  rw [count_spread_ofRows _ rfl, List.count_diff]
  omega

/-- Unexpected are the actual rows less the expected ones, in order. -/
theorem unexpected_ofRows (actual expected : List Text) :
    (ofRows actual expected).unexpected = Rows.sort (actual.diff expected) := by
  rw [unexpected_eq_spread]
  refine Rows.eq_sort (pairwise_spread _ _) (List.perm_iff_count.2 fun row => ?_)
  rw [count_spread_ofRows _ rfl, List.count_diff]
  omega

end Balance

namespace RowMatch

theorem arrange_perm (m : RowMatch) (rows : List Text) : (m.arrange rows).Perm rows := by
  cases m with
  | sorted => exact Rows.sort_perm rows
  | multiset => exact .refl rows

/-- Both ways to match rows ask whether the two sides are rearrangements of each other. -/
theorem agree_iff_perm (m : RowMatch) {actual expected : List Text} :
    m.agree (m.arrange actual) (m.arrange expected) ↔ actual.Perm expected := by
  cases m with
  | sorted => simp only [agree, decide_eq_true_eq]; exact Rows.sort_eq_sort_iff
  | multiset => exact Balance.isEmpty_ofRows

/-- A balance of arranged rows lists as missing what the rows themselves lack. -/
theorem missing_arrange (m : RowMatch) (actual expected : List Text) :
    (Balance.ofRows (m.arrange actual) (m.arrange expected)).missing =
      Rows.sort (expected.diff actual) := by
  rw [Balance.missing_ofRows, Rows.sort_eq_sort_iff]
  exact (m.arrange_perm expected).diff (m.arrange_perm actual)

theorem unexpected_arrange (m : RowMatch) (actual expected : List Text) :
    (Balance.ofRows (m.arrange actual) (m.arrange expected)).unexpected =
      Rows.sort (actual.diff expected) := by
  rw [Balance.unexpected_ofRows, Rows.sort_eq_sort_iff]
  exact (m.arrange_perm actual).diff (m.arrange_perm expected)

end RowMatch
end DumpCheck
