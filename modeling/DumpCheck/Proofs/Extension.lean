import DumpCheck.Proofs.Scan

/-!
# Dumps that go on behind a cut

Two dumps are cut at the same place, which may be inside of a block, and the parts in front of the cut
are compared first. A mismatch there is the outcome for the whole dumps as well, since nothing behind
it is read. Otherwise the whole comparison goes on from what the first one has counted and reported,
and takes none of it back (`Scan.Ahead`); only rows at the cut that the first one leaves out are still
open (`Comparator.compare_extended`).
-/

namespace DumpCheck

/-- The verdict comes behind blocks and rows that have been counted: none of them is taken back. -/
def Verdict.Continues (s : Summary) : Verdict → Prop
  | agree t => s.queries ≤ t.queries ∧ s.rows ≤ t.rows
  | differ m => ∃ q, m.queryIndex = some q ∧ s.queries ≤ q

namespace Scan

variable {c : Comparator} {s s' s'' : Scan} {r : Rejection} {p : Text × Text}

/-- The scan `s'` stands further on than `s`, with all that `s` has counted and reported. -/
structure Ahead (s s' : Scan) : Prop where
  queries : s.matched.queries ≤ s'.matched.queries
  rows : s.matched.rows ≤ s'.matched.rows
  log : s.log <:+ s'.log

/-- The scan `s` is rejected further on, in a block that it has not counted. -/
structure RejectedAhead (s : Scan) (r : Rejection) : Prop where
  query : ∃ q, r.mismatch.queryIndex = some q ∧ s.matched.queries ≤ q
  log : s.log <:+ r.log

namespace Ahead

theorem refl (s : Scan) : Ahead s s :=
  ⟨Nat.le_refl _, Nat.le_refl _, List.suffix_rfl⟩

theorem trans (h : Ahead s s') (h' : Ahead s' s'') : Ahead s s'' :=
  ⟨Nat.le_trans h.queries h'.queries, Nat.le_trans h.rows h'.rows, h.log.trans h'.log⟩

theorem rejected (h : Ahead s s') (hr : RejectedAhead s' r) : RejectedAhead s r := by
  obtain ⟨q, hq, hle⟩ := hr.query
  exact ⟨⟨q, hq, Nat.le_trans h.queries hle⟩, h.log.trans hr.log⟩

theorem of_passes (h : Passes c s p s') : Ahead s s' := by
  cases h with
  | header _ _ => exact ⟨Nat.le_refl _, Nat.le_refl _, List.suffix_rfl⟩
  | underline _ => exact ⟨Nat.le_refl _, Nat.le_refl _, List.suffix_rfl⟩
  | row _ => exact ⟨Nat.le_refl _, Nat.le_refl _, List.suffix_rfl⟩
  | closer _ _ => exact ⟨Nat.le_succ _, Nat.le_add_right .., List.suffix_cons ..⟩

end Ahead

theorem RejectedAhead.of_fails (h : Fails c s p r) : RejectedAhead s r := by
  cases h with
  | header _ hm => exact ⟨⟨_, Mismatch.queryIndex_of_ofHeaders? hm, Nat.le_refl _⟩, List.suffix_append ..⟩
  | closer _ hm => exact ⟨⟨_, Mismatch.queryIndex_of_ofRows? hm, Nat.le_refl _⟩, List.suffix_rfl⟩

theorem run_ahead (c : Comparator) (s : Scan) (pairs : List (Text × Text)) :
    match run c s pairs with
    | .ok s' => Ahead s s'
    | .error r => RejectedAhead s r := by
  induction pairs generalizing s with
  | nil => exact Ahead.refl s
  | cons p pairs ih =>
    rw [run_cons]
    cases hstep : step c s p with
    | error r => exact RejectedAhead.of_fails (fails_of_step hstep)
    | ok s₁ =>
      have hahead := Ahead.of_passes (passes_of_step hstep)
      have hrest := ih s₁
      simp only [Except.bind]
      cases hrun : run c s₁ pairs with
      | error r =>
        rw [hrun] at hrest
        exact hahead.rejected hrest
      | ok s' =>
        rw [hrun] at hrest
        exact hahead.trans hrest

theorem events_finish (s : Scan) :
    s.finish.events = s.log.reverse ∨
      ∃ rows, s.finish.events = s.log.reverse ++ [.tailNotCompared rows] := by
  cases hp : s.pending with
  | nil => exact .inl (by simp [finish, hp])
  | cons p pending => exact .inr ⟨s.pending.length, by simp [finish, hp]⟩

theorem log_isPrefix_finish (s : Scan) : s.log.reverse <+: s.finish.events := by
  rcases s.events_finish with h | ⟨rows, h⟩
  · exact ⟨[], by rw [h, List.append_nil]⟩
  · exact ⟨[.tailNotCompared rows], h.symm⟩

end Scan

namespace Comparator

variable {c : Comparator} {actual expected actual' expected' : Lines}

theorem compare_append_of_run_ok {s : Scan} (h : actual.size = expected.size)
    (h' : actual'.size = expected'.size)
    (hs : Scan.run c .start (actual.toList.zip expected.toList) = .ok s) :
    let whole := c.compare (actual ++ actual') (expected ++ expected')
    whole.value.Continues s.matched ∧ s.log.reverse <+: whole.events := by
  intro whole
  have hahead := Scan.run_ahead c s (actual'.toList.zip expected'.toList)
  have hrun : Scan.run c .start ((actual ++ actual').toList.zip (expected ++ expected').toList) =
      Scan.run c s (actual'.toList.zip expected'.toList) := by
    rw [zip_append h, Scan.run_append_of_ok hs]
  cases hrest : Scan.run c s (actual'.toList.zip expected'.toList) with
  | ok s' =>
    rw [hrest] at hahead hrun
    have hwhole : whole = s'.finish := compare_of_run_ok (size_append h h') hrun
    rw [hwhole]
    exact ⟨⟨hahead.queries, hahead.rows⟩,
      (List.reverse_prefix.2 hahead.log).trans s'.log_isPrefix_finish⟩
  | error r =>
    rw [hrest] at hahead hrun
    have hwhole : whole = ⟨.differ r.mismatch, r.log.reverse⟩ :=
      compare_of_run_error (size_append h h') hrun
    rw [hwhole]
    exact ⟨hahead.query, List.reverse_prefix.2 hahead.log⟩

/-- What a comparison finds in front of a cut holds for the whole dumps: a mismatch is their outcome,
with the same events, and of dumps that match so far nothing is taken back that was counted or
reported, the rows apart that are left out at the cut. -/
theorem compare_extended (c : Comparator) (h : actual.size = expected.size)
    (h' : actual'.size = expected'.size) :
    let first := c.compare actual expected
    let whole := c.compare (actual ++ actual') (expected ++ expected')
    (∀ m, first.value = .differ m → whole = first) ∧
    ∀ s, first.value = .agree s → whole.value.Continues s ∧
      ∃ said, said <+: whole.events ∧
        (first.events = said ∨ ∃ rows, first.events = said ++ [.tailNotCompared rows]) := by
  intro first whole
  cases hrun : Scan.run c .start (actual.toList.zip expected.toList) with
  | ok s =>
    -- the whole comparison goes on from `s` itself, not from `s.finish`, which speaks of the open rows
    have hfirst : first = s.finish := compare_of_run_ok h hrun
    obtain ⟨hvalue, hevents⟩ := compare_append_of_run_ok h h' hrun
    rw [hfirst]
    refine ⟨nofun, fun t ht => ?_⟩
    cases ht
    exact ⟨hvalue, s.log.reverse, hevents, s.events_finish⟩
  | error r =>
    have hfirst : first = ⟨.differ r.mismatch, r.log.reverse⟩ := compare_of_run_error h hrun
    have hwhole : whole = ⟨.differ r.mismatch, r.log.reverse⟩ := by
      refine compare_of_run_error (size_append h h') ?_
      rw [zip_append h]
      exact Scan.run_append_of_error hrun _
    rw [hfirst, hwhole]
    exact ⟨fun _ _ => rfl, nofun⟩

/-- The first cut leaves a row of the second block open, the second one comes behind the mismatch. -/
theorem compare_extended_inside_block :
    let c : Comparator := default
    let actual := Lines.ofList (["h", "-", "x", "-", "k", "-", "a"].map String.toList)
    let expected := Lines.ofList (["h", "-", "x", "-", "k", "-", "b"].map String.toList)
    let closer := Lines.ofList ["-".toList]
    let actual' := Lines.ofList ["y".toList]
    let expected' := Lines.ofList ["z".toList]
    c.compare actual expected = ⟨.agree ⟨1, 1⟩, [.blockMatched 1 1, .tailNotCompared 1]⟩ ∧
      (c.compare (actual ++ closer) (expected ++ closer)).value.Continues ⟨1, 1⟩ ∧
      (c.compare (actual ++ closer) (expected ++ closer)).value =
        .differ (.rowSet 1 ["b".toList] ["a".toList]) ∧
      c.compare (actual ++ closer ++ actual') (expected ++ closer ++ expected') =
        c.compare (actual ++ closer) (expected ++ closer) := by
  intro c actual expected closer actual' expected'
  have hfirst : c.compare actual expected =
      ⟨.agree ⟨1, 1⟩, [.blockMatched 1 1, .tailNotCompared 1]⟩ := by decide +kernel
  have hclosed : (c.compare (actual ++ closer) (expected ++ closer)).value =
      .differ (.rowSet 1 ["b".toList] ["a".toList]) := by decide +kernel
  have hopen := (@compare_extended actual expected closer closer c rfl rfl).2
  have hfinal := (@compare_extended (actual ++ closer) (expected ++ closer) actual' expected' c rfl rfl).1
  exact ⟨hfirst, (hopen ⟨1, 1⟩ (congrArg Logged.value hfirst)).1, hclosed, hfinal _ hclosed⟩

end Comparator
end DumpCheck
