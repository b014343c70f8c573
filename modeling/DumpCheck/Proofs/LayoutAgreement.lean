import DumpCheck.Proofs.Position

/-!
# Dumps on which the layouts agree

The layouts take a shared separator for different things only where a header stands, or comes right
behind one. If every shared separator leaves room for a header and a row behind it, and so does the
beginning of the dumps, no separator is met there (`Phase.Clear`). Then the two layouts go through the
same states (`Scan.run_underlined_eq_run_trailing`), so it does not matter which one is chosen
(`Comparator.compare_underlined_eq_compare_trailing`).
-/

namespace DumpCheck

/-- Behind each shared separator come two lines that are none, if there are so many. -/
def Spaced (shared : Nat → Bool) : Prop :=
  ∀ i, shared i → shared (i + 1) = false ∧ shared (i + 2) = false

/-- Every block has a header and a row in front of its first shared separator. -/
structure NoEmptyBlock (shared : Nat → Bool) : Prop where
  zero : shared 0 = false
  one : shared 1 = false
  spaced : Spaced shared

theorem Spaced.tail {shared : Nat → Bool} (h : Spaced shared) : Spaced fun i => shared (i + 1) :=
  fun i hi => h (i + 1) hi

namespace Layout

theorem role_underlined_eq_role_trailing {phase : Phase} {shared : Bool}
    (h : phase ≠ .inRows → shared = false) :
    underlined.role phase shared = trailing.role phase shared := by
  cases phase with
  | atHeader => rfl
  | afterHeader => rw [h (by decide)]; rfl
  | inRows => cases shared <;> rfl

theorem after_underlined_eq_after_trailing {phase : Phase} {shared : Bool}
    (h : phase ≠ .inRows → shared = false) :
    underlined.after shared (trailing.role phase shared) =
      trailing.after shared (trailing.role phase shared) := by
  cases phase with
  | atHeader => rw [h (by decide)]; rfl
  | afterHeader => rw [h (by decide)]; rfl
  | inRows => cases shared <;> rfl

end Layout

namespace Phase

variable {phase : Phase} {shared : Nat → Bool}

/-- No shared separator stands ahead where the layouts would take it for different things. -/
def Clear (phase : Phase) (shared : Nat → Bool) : Prop :=
  match phase with
  | atHeader => shared 0 = false ∧ shared 1 = false
  | afterHeader => shared 0 = false
  | inRows => True

theorem Clear.head (h : phase.Clear shared) (hphase : phase ≠ .inRows) : shared 0 = false := by
  cases phase with
  | atHeader => exact h.1
  | afterHeader => exact h
  | inRows => exact absurd rfl hphase

theorem Clear.tail (h : phase.Clear shared) (hspaced : Spaced shared) (layout : Layout) :
    (layout.after (shared 0) (layout.role phase (shared 0))).Clear fun i => shared (i + 1) := by
  cases phase with
  | atHeader =>
    rw [Layout.role_atHeader, h.1, Layout.after_header_false]
    exact h.2
  | afterHeader =>
    have hshared : shared 0 = false := h
    rw [hshared, Layout.role_false (by decide), Layout.after_row]
    exact trivial
  | inRows =>
    cases hshared : shared 0 with
    | false =>
      rw [Layout.role_false (by decide), Layout.after_row]
      exact trivial
    | true =>
      -- only behind a closer does a block begin, and there the spacing makes room for it
      rw [Layout.role_inRows_true, Layout.after_closer]
      exact hspaced 0 hshared

end Phase

namespace Scan

theorem step_underlined_eq_step_trailing (m : RowMatch) {s : Scan} {p : Text × Text}
    (h : s.phase ≠ .inRows → sharedSeparator p = false) :
    step ⟨.underlined, m⟩ s p = step ⟨.trailing, m⟩ s p := by
  simp only [step, Layout.role_underlined_eq_role_trailing h, Layout.after_underlined_eq_after_trailing h]

/-- What is ahead of a scan that goes on is clear again. -/
theorem clear_of_step {c : Comparator} {s s' : Scan} {p : Text × Text} {pairs : List (Text × Text)}
    (hclear : s.phase.Clear (sharedAt (p :: pairs))) (hspaced : Spaced (sharedAt (p :: pairs)))
    (h : step c s p = .ok s') : s'.phase.Clear (sharedAt pairs) := by
  have hphase : s'.phase = c.layout.after (sharedAt (p :: pairs) 0)
      (c.layout.role s.phase (sharedAt (p :: pairs) 0)) := (passes_of_step h).phase_eq
  rw [hphase]
  exact hclear.tail hspaced c.layout

theorem run_underlined_eq_run_trailing (m : RowMatch) {s : Scan} {pairs : List (Text × Text)}
    (hclear : s.phase.Clear (sharedAt pairs)) (hspaced : Spaced (sharedAt pairs)) :
    run ⟨.underlined, m⟩ s pairs = run ⟨.trailing, m⟩ s pairs := by
  refine run_congr (P := fun s pairs => s.phase.Clear (sharedAt pairs) ∧ Spaced (sharedAt pairs))
    (fun s p pairs h => ?_) ⟨hclear, hspaced⟩
  obtain ⟨hclear, hspaced⟩ := h
  exact ⟨step_underlined_eq_step_trailing m hclear.head,
    fun s' hs => ⟨clear_of_step hclear hspaced hs, hspaced.tail⟩⟩

end Scan

namespace Comparator

/-- Of dumps in which no block is empty in the trailing layout, the layouts give the same verdict and
report the same. -/
theorem compare_underlined_eq_compare_trailing (m : RowMatch) {actual expected : Lines}
    (h : NoEmptyBlock (sharedAt (actual.toList.zip expected.toList))) :
    compare ⟨.underlined, m⟩ actual expected = compare ⟨.trailing, m⟩ actual expected := by
  have hscan : scan ⟨.underlined, m⟩ (actual.toList.zip expected.toList) =
      scan ⟨.trailing, m⟩ (actual.toList.zip expected.toList) :=
    Scan.run_underlined_eq_run_trailing m ⟨h.zero, h.one⟩ h.spaced
  rw [compare, compare, hscan]

/-- The second block has other rows, one of them with a dash that is not shared, and a last block is
not closed. -/
theorem compare_underlined_eq_compare_trailing_of_two_blocks :
    let actual := Lines.ofList (["h", "x", "-", "k", "1-2", "b", "--", "n"].map String.toList)
    let expected := Lines.ofList (["H", "x", "-", "k", "b", "c", "--", "n"].map String.toList)
    NoEmptyBlock (sharedAt (actual.toList.zip expected.toList)) ∧
      compare ⟨.underlined, .multiset⟩ actual expected = compare ⟨.trailing, .multiset⟩ actual expected ∧
      compare ⟨.trailing, .multiset⟩ actual expected =
        ⟨.differ (.rowSet 1 ["c".toList] ["1-2".toList]), [.blockMatched 1 1]⟩ := by
  intro actual expected
  have hspaced : Spaced (sharedAt (actual.toList.zip expected.toList))
    | 0 | 1 | 2 | 3 | 4 | 5 | 6 | 7 => by decide
    | _ + 8 => nofun
  have h : NoEmptyBlock (sharedAt (actual.toList.zip expected.toList)) :=
    ⟨by decide, by decide, hspaced⟩
  exact ⟨h, compare_underlined_eq_compare_trailing .multiset h, by decide +kernel⟩

end Comparator
end DumpCheck
