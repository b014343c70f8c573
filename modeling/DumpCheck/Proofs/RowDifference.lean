import DumpCheck.Proofs.Blocks
import Mathlib.Data.Multiset.AddSub

/-!
# The rows that a failing block lacks and those that it has too many of

A mismatch of rows lists by how much either side of its block exceeds the other, as multisets and in
the order of code points (`Comparator.exactDifference_of_value_rowSet`). The two sides of a block are
filled line by line, so they hold equally many rows. Hence the lists are equally long, and neither is
empty, for otherwise the sides would be rearrangements of each other
(`Rows.ExactDifference.of_not_perm`).
-/

namespace DumpCheck

namespace Rows

variable {actual expected missing unexpected : List Text}

theorem compare_char (c d : Char) : compare c d = compare c.toNat d.toNat := by
  have hlt : c < d ↔ c.toNat < d.toNat := Iff.rfl
  have heq : c = d ↔ c.toNat = d.toNat := Char.toNat_inj.symm
  simp only [compare, compareOfLessAndEq, hlt, heq]

/-- By their code points, the first row comes before the second one or is the same. -/
def InOrder (r s : Text) : Prop :=
  r = s ∨ List.Lex (· < ·) (r.map Char.toNat) (s.map Char.toNat)

theorem inOrder_cons_cons {c d : Char} {r s : Text} :
    InOrder (c :: r) (d :: s) ↔ c.toNat < d.toNat ∨ c.toNat = d.toNat ∧ InOrder r s := by
  unfold InOrder
  rw [List.map_cons, List.map_cons, List.cons_lex_cons_iff, List.cons.injEq, Char.toNat_inj]
  tauto

theorem le_iff_inOrder {r s : Text} : Le r s ↔ InOrder r s := by
  induction r generalizing s with
  | nil =>
    cases s <;> simp [Le, InOrder]
  | cons c r ih =>
    cases s with
    | nil => simp [Le, InOrder]
    | cons d s =>
      rw [inOrder_cons_cons, ← ih, Le, Le, List.compare_cons_cons, compare_char]
      rcases Nat.lt_trichotomy c.toNat d.toNat with h | h | h
      · simp [Nat.compare_eq_lt.2 h, h]
      · simp [h]
      · simp [Nat.compare_eq_gt.2 h, Nat.lt_asymm h, Nat.ne_of_gt h]

/-- The lists name, in order, the rows of either side that the other side does not have, each as often
as it is in excess. -/
structure ExactDifference (actual expected missing unexpected : List Text) : Prop where
  missing_eq : (missing : Multiset Text) = expected - actual
  unexpected_eq : (unexpected : Multiset Text) = actual - expected
  missing_ordered : missing.Pairwise InOrder
  unexpected_ordered : unexpected.Pairwise InOrder
  disjoint : missing.Disjoint unexpected
  balanced : (actual ++ missing).Perm (expected ++ unexpected)
  length_eq : missing.length = unexpected.length
  one_le_length : 1 ≤ missing.length

theorem pairwise_inOrder_sort (rows : List Text) : (sort rows).Pairwise InOrder :=
  (pairwise_sort rows).imp le_iff_inOrder.1

/-- What is added to either side makes up for what only the other one has. -/
theorem append_diff_perm (actual expected : List Text) :
    (actual ++ expected.diff actual).Perm (expected ++ actual.diff expected) := by
  rw [List.perm_iff_count]
  intro row
  rw [List.count_append, List.count_append, List.count_diff, List.count_diff]
  omega

theorem coe_diff (rows rows' : List Text) : (rows.diff rows' : Multiset Text) = rows - rows' := by
  -- rows are compared character by character on the left, and by deciding equality on the right
  have hbeq : (List.instBEq : BEq Text) = instBEqOfDecidableEq := lawful_beq_subsingleton ..
  rw [Multiset.coe_sub, hbeq]

theorem disjoint_diff (actual expected : List Text) :
    (expected.diff actual).Disjoint (actual.diff expected) := by
  intro row hexpected hactual
  have hmore := List.count_pos_iff.2 hexpected
  have hless := List.count_pos_iff.2 hactual
  rw [List.count_diff] at hmore hless
  omega

theorem length_diff_eq (h : actual.length = expected.length) :
    (expected.diff actual).length = (actual.diff expected).length := by
  have hboth := (append_diff_perm actual expected).length_eq
  rw [List.length_append, List.length_append, h] at hboth
  exact Nat.add_left_cancel hboth

theorem one_le_length_diff (h : actual.length = expected.length) (hperm : ¬ actual.Perm expected) :
    1 ≤ (expected.diff actual).length := by
  by_contra hzero
  have hnil : expected.diff actual = [] := List.eq_nil_of_length_eq_zero (by omega)
  have hnil' : actual.diff expected = [] := by
    refine List.eq_nil_of_length_eq_zero ?_
    rw [← length_diff_eq h, hnil]
    rfl
  have hboth := append_diff_perm actual expected
  rw [hnil, hnil', List.append_nil, List.append_nil] at hboth
  exact hperm hboth

theorem ExactDifference.of_not_perm (h : actual.length = expected.length)
    (hperm : ¬ actual.Perm expected) :
    ExactDifference actual expected (sort (expected.diff actual)) (sort (actual.diff expected)) := by
  have hmissing := sort_perm (expected.diff actual)
  have hunexpected := sort_perm (actual.diff expected)
  refine ⟨?_, ?_, pairwise_inOrder_sort _, pairwise_inOrder_sort _, ?_, ?_, ?_, ?_⟩
  · rw [← coe_diff]
    exact Multiset.coe_eq_coe.2 hmissing
  · rw [← coe_diff]
    exact Multiset.coe_eq_coe.2 hunexpected
  · intro row hm hu
    exact disjoint_diff actual expected (hmissing.subset hm) (hunexpected.subset hu)
  · exact ((hmissing.append_left actual).trans (append_diff_perm actual expected)).trans
      (hunexpected.symm.append_left expected)
  · rw [hmissing.length_eq, hunexpected.length_eq, length_diff_eq h]
  · rw [hmissing.length_eq]
    exact one_le_length_diff h hperm

end Rows

namespace Mismatch

variable {q q' : Nat} {missing unexpected : List Text}

theorem ofHeaders?_ne_rowSet {a e : Text} : ofHeaders? q a e ≠ some (.rowSet q' missing unexpected) := by
  unfold ofHeaders?
  split <;> exact nofun

theorem exactDifference_of_ofRows? {as es : List Text} (h : as.length = es.length)
    (hm : ofRows? q as es = some (.rowSet q' missing unexpected)) :
    q = q' ∧ Rows.ExactDifference as es missing unexpected := by
  unfold ofRows? at hm
  split at hm
  · cases hm
  · next hperm =>
    cases hm
    exact ⟨rfl, .of_not_perm h hperm⟩

end Mismatch

namespace Layout

variable {layout : Layout} {shared : Nat → Bool} {pairs : List (Text × Text)} {i n : Nat}

/-- The positions, among the first `n` lines, of the rows in front of which `q` blocks are closed. -/
def blockRows (layout : Layout) (shared : Nat → Bool) (n q : Nat) : List Nat :=
  (List.range n).filter fun i => layout.roleAt shared i = .row ∧ layout.closersBefore shared i = q

/-- The rows of a block stand in front of its closer. -/
theorem blockRows_of_closer (h : layout.roleAt shared i = .closer) (hi : i ≤ n) :
    layout.blockRows shared n (layout.closersBefore shared i) = layout.openRows shared i := by
  obtain ⟨k, rfl⟩ := Nat.exists_eq_add_of_le hi
  have hbehind : ((List.range k).map (i + ·)).filter (fun j => layout.roleAt shared j = .row ∧
      layout.closersBefore shared j = layout.closersBefore shared i) = [] := by
    rw [List.filter_eq_nil_iff]
    intro j hj
    obtain ⟨d, -, rfl⟩ := List.mem_map.1 hj
    rw [decide_eq_true_eq]
    intro hrow
    have hopen := (mem_openRows_of_closer h).2 hrow
    have hlt := (mem_openRows.1 hopen).1
    omega
  rw [blockRows, List.range_add, List.filter_append, hbehind, List.append_nil, openRows]

theorem closer_of_faultAt_rowSet {q : Nat} {missing unexpected : List Text}
    (h : layout.faultAt pairs i = some (.rowSet q missing unexpected)) :
    layout.roleAt (sharedAt pairs) i = .closer ∧ layout.closersBefore (sharedAt pairs) i = q ∧
      Rows.ExactDifference ((layout.rowsSince pairs i).map Prod.fst)
        ((layout.rowsSince pairs i).map Prod.snd) missing unexpected := by
  rcases cases_of_faultAt h with ⟨-, p, -, hheaders⟩ | ⟨hcloser, hrows⟩
  · exact absurd hheaders Mismatch.ofHeaders?_ne_rowSet
  · have hlength : ((layout.rowsSince pairs i).map Prod.fst).length =
        ((layout.rowsSince pairs i).map Prod.snd).length := by
      rw [List.length_map, List.length_map]
    exact ⟨hcloser, Mismatch.exactDifference_of_ofRows? hlength hrows⟩

end Layout

namespace Comparator

variable {c : Comparator} {actual expected : Lines} {q : Nat} {missing unexpected : List Text}

/-- A mismatch of rows is found at the closer of its block, as the first fault of the two dumps. Of all
rows of that block, it lists those that one side has in excess of the other. -/
theorem exactDifference_of_value_rowSet
    (h : (c.compare actual expected).value = .differ (.rowSet q missing unexpected)) :
    let pairs := actual.toList.zip expected.toList
    let block := c.layout.blockRows (sharedAt pairs) actual.size q
    (∃ i < actual.size, c.layout.roleAt (sharedAt pairs) i = .closer ∧
      c.layout.closersBefore (sharedAt pairs) i = q ∧ ∀ j < i, c.layout.faultAt pairs j = none) ∧
    Rows.ExactDifference (block.filterMap actual.get?) (block.filterMap expected.get?)
      missing unexpected := by
  intro pairs block
  have hsize : actual.size = expected.size := by
    by_contra hne
    rw [value_of_size_ne hne] at h
    cases h
  obtain ⟨i, hi, hfault, hok⟩ := first_fault_of_value_differ hsize h
  obtain ⟨hcloser, hq, hdifference⟩ := Layout.closer_of_faultAt_rowSet hfault
  have hblock : block = c.layout.openRows (sharedAt pairs) i := by
    have hrows := Layout.blockRows_of_closer hcloser (Nat.le_of_lt hi)
    rwa [hq] at hrows
  have hne : c.layout.roleAt (sharedAt pairs) i ≠ .header := by
    rw [hcloser]
    exact nofun
  have hactual : pairs.map Prod.fst = actual.toList := List.map_fst_zip (Nat.le_of_eq hsize)
  have hexpected : pairs.map Prod.snd = expected.toList := List.map_snd_zip (Nat.le_of_eq hsize.symm)
  rw [Layout.map_rowsSince _ hne, Layout.map_rowsSince _ hne, hactual, hexpected, ← hblock] at hdifference
  exact ⟨⟨i, hi, hcloser, hq, hok⟩, hdifference⟩

/-- In the second block, one side has a row twice in excess and the other one another row. -/
theorem exactDifference_of_value_rowSet_repeated :
    let c : Comparator := ⟨.underlined, .multiset⟩
    let actual := Lines.ofList
      (["h", "-", "a", "-", "k", "-", "x", "y", "x", "x", "-"].map String.toList)
    let expected := Lines.ofList
      (["h", "-", "a", "-", "k", "-", "z", "x", "z", "y", "-"].map String.toList)
    (c.compare actual expected).value =
        .differ (.rowSet 1 (["z", "z"].map String.toList) (["x", "x"].map String.toList)) ∧
      Rows.ExactDifference (["x", "y", "x", "x"].map String.toList)
        (["z", "x", "z", "y"].map String.toList) (["z", "z"].map String.toList)
        (["x", "x"].map String.toList) := by
  intro c actual expected
  have hvalue : (c.compare actual expected).value =
      .differ (.rowSet 1 (["z", "z"].map String.toList) (["x", "x"].map String.toList)) := by
    decide +kernel
  have hblock : c.layout.blockRows (sharedAt (actual.toList.zip expected.toList)) actual.size 1 =
      [6, 7, 8, 9] := by
    decide +kernel
  obtain ⟨-, hdifference⟩ := exactDifference_of_value_rowSet hvalue
  rw [hblock] at hdifference
  exact ⟨hvalue, hdifference⟩

end Comparator
end DumpCheck
