import DumpCheck.Proofs.Position

/-!
# The rows of one block

Two rows stand in the same block if equally many blocks are closed in front of them
(`Layout.SameBlock`). The rows that a closer finds are told by position: they are all the rows of its
block (`Layout.rowsSince_eq`, `Layout.mem_openRows_of_closer`).
-/

namespace DumpCheck
namespace Layout

variable {layout : Layout} {shared : Nat → Bool} {pairs : List (Text × Text)} {i j k : Nat}

def SameBlock (layout : Layout) (shared : Nat → Bool) (i j : Nat) : Prop :=
  layout.roleAt shared i = .row ∧ layout.roleAt shared j = .row ∧
    layout.closersBefore shared i = layout.closersBefore shared j

/-- The positions in front of `i` of the rows of the block to which `i` belongs. -/
def openRows (layout : Layout) (shared : Nat → Bool) (i : Nat) : List Nat :=
  (List.range i).filter fun j =>
    layout.roleAt shared j = .row ∧ layout.closersBefore shared j = layout.closersBefore shared i

theorem mem_openRows :
    j ∈ layout.openRows shared i ↔ j < i ∧ layout.roleAt shared j = .row ∧
      layout.closersBefore shared j = layout.closersBefore shared i := by
  simp [openRows]

theorem nodup_openRows (layout : Layout) (shared : Nat → Bool) (i : Nat) :
    (layout.openRows shared i).Nodup :=
  List.nodup_range.filter _

theorem shared_eq_false_of_row (h : layout.roleAt shared i = .row) : shared i = false := by
  rw [← role_phaseAt] at h
  generalize layout.phaseAt shared i = phase at h
  revert h
  cases shared i <;> cases layout <;> cases phase <;> simp [role]

/-! ### Counting closers -/

theorem closersBefore_mono (layout : Layout) (shared : Nat → Bool) (h : i ≤ j) :
    layout.closersBefore shared i ≤ layout.closersBefore shared j := by
  induction h with
  | refl => exact le_rfl
  | step _ ih =>
    rw [closersBefore_succ]
    omega

theorem closersBefore_lt (hk : layout.roleAt shared k = .closer) (hik : i ≤ k) (hkj : k < j) :
    layout.closersBefore shared i < layout.closersBefore shared j := by
  have hi := layout.closersBefore_mono shared hik
  have hj := layout.closersBefore_mono shared (Nat.succ_le_of_lt hkj)
  rw [closersBefore_succ, if_pos hk] at hj
  omega

theorem closersBefore_eq (h : i ≤ j) (hk : ∀ k, i ≤ k → k < j → layout.roleAt shared k ≠ .closer) :
    layout.closersBefore shared j = layout.closersBefore shared i := by
  induction h with
  | refl => rfl
  | @step j hij ih =>
    rw [closersBefore_succ, if_neg (hk j hij (Nat.lt_succ_self j)), Nat.add_zero]
    exact ih fun k hik hkj => hk k hik (Nat.lt_succ_of_lt hkj)

theorem openRows_of_header (h : layout.roleAt shared i = .header) : layout.openRows shared i = [] := by
  rw [List.eq_nil_iff_forall_not_mem]
  intro j hj
  obtain ⟨hji, hrow, hcount⟩ := mem_openRows.1 hj
  clear hj
  induction i with
  | zero => omega
  | succ i ih =>
    -- in front of a header stands the closer of another block, or a header that is a shared separator
    rcases roleAt_succ_eq_header_iff.1 h with hcloser | ⟨hheader, -⟩
    · have hlt := closersBefore_lt hcloser (Nat.le_of_lt_succ hji) (Nat.lt_succ_self i)
      exact absurd hcount (Nat.ne_of_lt hlt)
    · have hne : j ≠ i := by
        rintro rfl
        rw [hheader] at hrow
        cases hrow
      have hsame : layout.closersBefore shared (i + 1) = layout.closersBefore shared i := by
        rw [closersBefore_succ, hheader]
        rfl
      exact ih hheader (by omega) (hcount.trans hsame)

theorem openRows_succ (h : layout.roleAt shared i ≠ .closer) :
    layout.openRows shared (i + 1) =
      layout.openRows shared i ++ if layout.roleAt shared i = .row then [i] else [] := by
  have hsame : layout.closersBefore shared (i + 1) = layout.closersBefore shared i := by
    rw [closersBefore_succ, if_neg h, Nat.add_zero]
  rw [openRows, hsame, List.range_succ, List.filter_append, openRows]
  by_cases hrow : layout.roleAt shared i = .row <;> simp [hrow]

theorem rowsSince_eq (h : layout.roleAt (sharedAt pairs) i ≠ .header) :
    layout.rowsSince pairs i = (layout.openRows (sharedAt pairs) i).filterMap (pairs[·]?) := by
  induction i with
  | zero => exact absurd rfl h
  | succ i ih =>
    have hcloser : layout.roleAt (sharedAt pairs) i ≠ .closer := by
      intro hcloser
      simp [roleAt, hcloser] at h
    rw [openRows_succ hcloser, List.filterMap_append, rowsSince]
    -- a header starts `rowsSince` anew, and `openRows` has nothing to drop there
    cases hr : layout.roleAt (sharedAt pairs) i with
    | header => simp [openRows_of_header hr]
    | underline => simp [ih (by rw [hr]; decide)]
    | row =>
      rw [ih (by rw [hr]; decide), if_pos rfl]
      cases hp : pairs[i]? <;> simp [hp]
    | closer => exact absurd hr hcloser

theorem map_rowsSince {β : Type} (f : Text × Text → β) (h : layout.roleAt (sharedAt pairs) i ≠ .header) :
    (layout.rowsSince pairs i).map f =
      (layout.openRows (sharedAt pairs) i).filterMap ((pairs.map f)[·]?) := by
  rw [rowsSince_eq h, List.map_filterMap]
  simp only [List.getElem?_map]

/-- A closer has all rows of its block in front of it. -/
theorem mem_openRows_of_closer (h : layout.roleAt shared i = .closer) :
    j ∈ layout.openRows shared i ↔ layout.roleAt shared j = .row ∧
      layout.closersBefore shared j = layout.closersBefore shared i := by
  rw [mem_openRows, and_iff_right_iff_imp]
  rintro ⟨hrow, hcount⟩
  -- a row behind the closer would stand in a later block
  by_contra hij
  have hne : i ≠ j := by
    rintro rfl
    rw [h] at hrow
    cases hrow
  have hlt := closersBefore_lt h le_rfl (by omega : i < j)
  omega

end Layout
end DumpCheck
