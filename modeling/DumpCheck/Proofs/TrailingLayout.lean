import DumpCheck.Proofs.Position

/-!
# The trailing layout, told by neighbouring lines

Of what a scan in the trailing layout has passed, only the last line matters, and of that line only
whether it is a shared separator (`Layout.after_trailing_eq_atHeader_iff`). So a header stands at the
beginning and behind every shared separator, and a block is closed by a shared separator behind a line
that is none. `Comparator.compare_trailing_by_neighbours` counts blocks and rows by this rule, without
any state.
-/

namespace DumpCheck

/-- The line is a shared separator, and the line before it is not. -/
def ClosesAt (shared : Nat → Bool) (i : Nat) : Prop :=
  1 ≤ i ∧ shared i ∧ ¬ shared (i - 1)

instance (shared : Nat → Bool) (i : Nat) : Decidable (ClosesAt shared i) :=
  inferInstanceAs (Decidable (1 ≤ i ∧ shared i ∧ ¬ shared (i - 1)))

/-- Neither the line nor the one before it is a shared separator, but one of the lines behind it is. -/
def ClosedRowAt (shared : Nat → Bool) (n i : Nat) : Prop :=
  1 ≤ i ∧ ¬ shared i ∧ ¬ shared (i - 1) ∧ ∃ j < n, i < j ∧ shared j

instance (shared : Nat → Bool) (n i : Nat) : Decidable (ClosedRowAt shared n i) :=
  inferInstanceAs (Decidable (1 ≤ i ∧ ¬ shared i ∧ ¬ shared (i - 1) ∧ ∃ j < n, i < j ∧ shared j))

namespace Layout

variable {layout : Layout} {shared : Nat → Bool} {i n : Nat}

theorem role_trailing_eq_closer_iff {phase : Phase} {here : Bool} :
    trailing.role phase here = .closer ↔ phase ≠ .atHeader ∧ here := by
  cases phase <;> cases here <;> decide

theorem role_trailing_eq_row_iff {phase : Phase} {here : Bool} :
    trailing.role phase here = .row ↔ phase ≠ .atHeader ∧ ¬ here := by
  cases phase <;> cases here <;> decide

/-- A header comes next exactly if the line just passed is a shared separator, whatever was before. -/
theorem after_trailing_eq_atHeader_iff {phase : Phase} {here : Bool} :
    trailing.after here (trailing.role phase here) = .atHeader ↔ here := by
  cases phase <;> cases here <;> decide

theorem phaseAt_trailing_eq_atHeader_iff :
    trailing.phaseAt shared i = .atHeader ↔ i = 0 ∨ shared (i - 1) := by
  cases i with
  | zero => simp [phaseAt]
  | succ i =>
    rw [phaseAt, ← role_phaseAt, after_trailing_eq_atHeader_iff]
    simp

theorem phaseAt_trailing_ne_atHeader_iff :
    trailing.phaseAt shared i ≠ .atHeader ↔ 1 ≤ i ∧ ¬ shared (i - 1) := by
  rw [ne_eq, phaseAt_trailing_eq_atHeader_iff, not_or, Nat.one_le_iff_ne_zero]

theorem roleAt_trailing_eq_closer_iff : trailing.roleAt shared i = .closer ↔ ClosesAt shared i := by
  rw [← role_phaseAt, role_trailing_eq_closer_iff, phaseAt_trailing_ne_atHeader_iff, ClosesAt, and_right_comm,
    and_assoc]

theorem roleAt_trailing_eq_row_iff :
    trailing.roleAt shared i = .row ↔ 1 ≤ i ∧ ¬ shared i ∧ ¬ shared (i - 1) := by
  rw [← role_phaseAt, role_trailing_eq_row_iff, phaseAt_trailing_ne_atHeader_iff, and_right_comm, and_assoc]

/-- Behind a line that is no shared separator, the first one that is closes a block. -/
theorem exists_closesAt {j : Nat} (hi : ¬ shared i) (hij : i < j) (hj : shared j) :
    ∃ k ≤ j, i < k ∧ ClosesAt shared k := by
  have hex : ∃ k, i < k ∧ shared k := ⟨j, hij, hj⟩
  have hspec := Nat.find_spec hex
  have hmin := @Nat.find_min _ _ hex
  have hle := Nat.find_min' hex ⟨hij, hj⟩
  generalize Nat.find hex = k at hspec hmin hle
  obtain ⟨hik, hk⟩ := hspec
  refine ⟨k, hle, hik, by omega, hk, fun hbefore => ?_⟩
  by_cases hnext : k - 1 = i
  · rw [hnext] at hbefore
    exact hi hbefore
  · exact hmin (by omega : k - 1 < k) ⟨by omega, hbefore⟩

theorem closersBefore_trailing (shared : Nat → Bool) (n : Nat) :
    trailing.closersBefore shared n = (List.range n).countP fun i => ClosesAt shared i := by
  simp only [closersBefore, roleAt_trailing_eq_closer_iff]

theorem closedRows_trailing (shared : Nat → Bool) (n : Nat) :
    trailing.closedRows shared n = (List.range n).countP fun i => ClosedRowAt shared n i := by
  rw [closedRows]
  refine List.countP_congr fun i _ => ?_
  rw [decide_eq_true_iff, decide_eq_true_iff, roleAt_trailing_eq_row_iff]
  simp only [roleAt_trailing_eq_closer_iff]
  constructor
  · rintro ⟨⟨hpos, hhere, hbefore⟩, k, hk, hik, hcloses⟩
    exact ⟨hpos, hhere, hbefore, k, hk, hik, hcloses.2.1⟩
  · rintro ⟨hpos, hhere, hbefore, j, hj, hij, hshared⟩
    obtain ⟨k, hkj, hik, hcloses⟩ := exists_closesAt hhere hij hshared
    exact ⟨⟨hpos, hhere, hbefore⟩, k, by omega, hik, hcloses⟩

end Layout

namespace Scan

theorem step_trailing (m : RowMatch) (s : Scan) (p : Text × Text) :
    step ⟨.trailing, m⟩ s p =
      if s.phase = .atHeader then
        s.header (if sharedSeparator p then .atHeader else .afterHeader) p.1 p.2
      else if sharedSeparator p then s.close m
      else .ok { s with phase := .inRows, pending := p :: s.pending } := by
  by_cases hphase : s.phase = .atHeader
  · rw [if_pos hphase, step_header (Layout.role_eq_header_iff.2 hphase)]
    cases sharedSeparator p <;> rfl
  · rw [if_neg hphase]
    by_cases hhere : sharedSeparator p
    · rw [if_pos hhere, step_closer (Layout.role_trailing_eq_closer_iff.2 ⟨hphase, hhere⟩)]
    · rw [if_neg hhere, step_row (Layout.role_trailing_eq_row_iff.2 ⟨hphase, hhere⟩)]

end Scan

namespace Comparator

/-- In the trailing layout, a line to which a scan comes is taken for a header exactly at the beginning
and behind a shared separator, and for a closer exactly if it is a shared separator behind a line that
is none; every other line is a row. So the neighbours of each line tell how many blocks and rows are
counted, and how many blocks are counted in front of the line at which two dumps are found to differ. -/
theorem compare_trailing_by_neighbours (m : RowMatch) {actual expected : Lines}
    (h : actual.size = expected.size) :
    let c : Comparator := ⟨.trailing, m⟩
    let pairs := actual.toList.zip expected.toList
    let shared := sharedAt pairs
    (∀ i p s, pairs[i]? = some p → c.scan (pairs.take i) = .ok s →
      (c.layout.role s.phase (sharedSeparator p) = .header ↔ i = 0 ∨ shared (i - 1)) ∧
      (c.layout.role s.phase (sharedSeparator p) = .closer ↔ ClosesAt shared i) ∧
      Scan.step c s p =
        if i = 0 ∨ shared (i - 1) then
          s.header (if shared i then .atHeader else .afterHeader) p.1 p.2
        else if shared i then s.close m
        else .ok { s with phase := .inRows, pending := p :: s.pending }) ∧
    (∀ t, (c.compare actual expected).value = .agree t →
      t.queries = ((List.range actual.size).countP fun i => ClosesAt shared i) ∧
      t.rows = (List.range actual.size).countP fun i => ClosedRowAt shared actual.size i) ∧
    ∀ mismatch, (c.compare actual expected).value = .differ mismatch →
      ∃ i p s r, pairs[i]? = some p ∧ c.scan (pairs.take i) = .ok s ∧ Scan.step c s p = .error r ∧
        r.mismatch = mismatch ∧
        mismatch.queryIndex = some ((List.range i).countP fun j => ClosesAt shared j) := by
  intro c pairs shared
  refine ⟨fun i p s hp hs => ?_, fun t ht => ?_, fun mismatch hm => ?_⟩
  · have hi : i < pairs.length := (List.getElem?_eq_some_iff.1 hp).1
    have hphase : s.phase = Layout.trailing.phaseAt shared i := (Reached.of_run_take (Nat.le_of_lt hi) hs).phase
    have hhere : sharedSeparator p = shared i := by simp [shared, sharedAt, hp]
    refine ⟨?_, ?_, ?_⟩
    · rw [Layout.role_eq_header_iff, hphase, Layout.phaseAt_trailing_eq_atHeader_iff]
    · rw [hphase, hhere, Layout.role_phaseAt, Layout.roleAt_trailing_eq_closer_iff]
    · rw [Scan.step_trailing, hphase, hhere]
      simp only [Layout.phaseAt_trailing_eq_atHeader_iff]
  · obtain ⟨-, hok⟩ := no_fault_of_value_agree ht
    rw [value_of_no_fault h hok] at ht
    cases ht
    exact ⟨Layout.closersBefore_trailing shared actual.size,
      Layout.closedRows_trailing shared actual.size⟩
  · obtain ⟨i, hi, hfault, hok⟩ := first_fault_of_value_differ h hm
    have hlength : i < pairs.length := by
      rw [length_zip h]
      exact hi
    have hp : pairs[i]? = some pairs[i] := List.getElem?_eq_getElem hlength
    obtain ⟨s, hs, hreached⟩ := Reached.run c (Nat.le_of_lt hlength) hok
    have hstep := hreached.step hp
    rw [hfault] at hstep
    obtain ⟨log, hlog, -⟩ := hstep
    refine ⟨i, pairs[i], s, ⟨mismatch, log⟩, hp, hs, hlog, rfl, ?_⟩
    rw [Layout.queryIndex_of_faultAt hfault, ← Layout.closersBefore_trailing]

/-- Two separators begin the dumps and two follow the first block, so three of the four are headers. -/
theorem compare_trailing_by_neighbours_of_separators :
    let actual := Lines.ofList
      (["-", "a-b", "h", "y", "x", "-", "-", "k", "-", "t"].map String.toList)
    let expected := Lines.ofList
      (["-", "a-b", "H", "x", "y", "-", "-", "k", "-", "t"].map String.toList)
    let shared := sharedAt (actual.toList.zip expected.toList)
    (compare ⟨.trailing, .multiset⟩ actual expected).value = .agree ⟨2, 2⟩ ∧
      ((List.range 10).countP fun i => ClosesAt shared i) = 2 ∧
      ((List.range 10).countP fun i => ClosedRowAt shared 10 i) = 2 := by
  intro actual expected shared
  have hsize : actual.size = expected.size := rfl
  have hvalue : (compare ⟨.trailing, .multiset⟩ actual expected).value = .agree ⟨2, 2⟩ := by
    decide +kernel
  obtain ⟨-, hagree, -⟩ := compare_trailing_by_neighbours .multiset hsize
  obtain ⟨hqueries, hrows⟩ := hagree _ hvalue
  exact ⟨hvalue, hqueries.symm, hrows.symm⟩

end Comparator
end DumpCheck
