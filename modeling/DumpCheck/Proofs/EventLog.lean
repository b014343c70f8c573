import DumpCheck.Proofs.Position
import Mathlib.Algebra.Order.Ring.Nat

/-!
# What is reported on the way to a verdict

Blocks are reported when they are counted, so their reports bear the numbers from one on and stand
side by side (`Scan.Tallied`). Warnings come from a pair of headers only, and only if the comparison
ends there (`Rejection.Reported`). So the reports can be told from the verdict: as many blocks as it
counts, and behind them the warnings of a header or the rows that are left out at the end
(`Comparator.events_by_verdict`).
-/

namespace DumpCheck

/-- The reports on blocks that match, given how many rows each of them has. -/
def Event.ofBlocks (blocks : List Nat) : List Event :=
  blocks.mapIdx fun i rows => .blockMatched (i + 1) rows

theorem Event.ofBlocks_concat (blocks : List Nat) (rows : Nat) :
    ofBlocks (blocks ++ [rows]) = ofBlocks blocks ++ [.blockMatched (blocks.length + 1) rows] :=
  List.mapIdx_concat

/-! ### Warnings -/

theorem Header.level_of_mem_columnsEqual {pairs : List (Text × Text)} {ev : Event}
    (h : ev ∈ (columnsEqual pairs).events) : ev.level = .warn := by
  fun_induction columnsEqual pairs with
  | case1 => exact absurd h List.not_mem_nil
  | case2 => exact absurd h List.not_mem_nil
  | case3 c1 c2 rest _ ih => exact ih h
  | case4 c1 c2 rest _ later ih =>
    rcases List.mem_cons.1 h with rfl | h
    · rfl
    · exact ih h

theorem Header.columnsEqual_events_ne_nil {pairs : List (Text × Text)}
    (h : (columnsEqual pairs).value = .ok false) : (columnsEqual pairs).events ≠ [] := by
  fun_induction columnsEqual pairs with
  | case1 => cases h
  | case2 => cases h
  | case3 c1 c2 rest _ ih => exact ih h
  | case4 => exact List.cons_ne_nil _ _

section Headers

variable {a e : Text}

theorem level_of_mem_headersEqual {ev : Event} (h : ev ∈ (headersEqual a e).events) :
    ev.level = .warn := by
  unfold headersEqual at h
  simp only at h
  split at h
  · exact Header.level_of_mem_columnsEqual h
  · rw [List.mem_singleton.1 h]
    rfl

theorem headersEqual_events_ne_nil (h : (headersEqual a e).value = .ok false) :
    (headersEqual a e).events ≠ [] := by
  unfold headersEqual at h ⊢
  simp only at h ⊢
  split
  · rename_i hlen
    rw [if_pos hlen] at h
    exact Header.columnsEqual_events_ne_nil h
  · exact List.cons_ne_nil _ _

end Headers

/-- So many blocks are reported in front of a mismatch, and such warnings directly in front of it. -/
def Mismatch.Reported : Mismatch → (blocks : List Nat) → (warnings : List Event) → Prop
  | length .., blocks, warnings => blocks = [] ∧ warnings = []
  | header q .., blocks, warnings => blocks.length = q ∧ warnings ≠ []
  | rowSet q .., blocks, warnings => blocks.length = q ∧ warnings = []
  | malformedLabel q _, blocks, _ => blocks.length = q

namespace Mismatch

variable {blocks : List Nat} {m : Mismatch}

theorem reported_of_ofHeaders? {a e : Text} (h : ofHeaders? blocks.length a e = some m) :
    m.Reported blocks (headersEqual a e).events := by
  unfold ofHeaders? at h
  split at h
  · cases h
  · cases h
    exact ⟨rfl, headersEqual_events_ne_nil ‹_›⟩
  · cases h
    exact Eq.refl blocks.length

theorem reported_of_ofRows? {as es : List Text} (h : ofRows? blocks.length as es = some m) :
    m.Reported blocks [] := by
  unfold ofRows? at h
  split at h
  · cases h
  · cases h
    exact ⟨rfl, rfl⟩

end Mismatch

/-! ### Reports of a scan -/

/-- What a scan has reported are these blocks, all of which it has counted. -/
structure Scan.Tallied (s : Scan) (blocks : List Nat) : Prop where
  queries : s.matched.queries = blocks.length
  rows : s.matched.rows = blocks.sum
  log : s.log.reverse = Event.ofBlocks blocks

/-- What was reported up to a mismatch are the blocks in front of it and its warnings. -/
def Rejection.Reported (r : Rejection) : Prop :=
  ∃ blocks warnings, r.mismatch.Reported blocks warnings ∧ (∀ ev ∈ warnings, ev.level = .warn) ∧
    r.log.reverse = Event.ofBlocks blocks ++ warnings

namespace Scan

variable {c : Comparator} {s s' : Scan} {r : Rejection} {p : Text × Text} {blocks : List Nat}

theorem tallied_start : start.Tallied [] := ⟨rfl, rfl, rfl⟩

namespace Tallied

theorem closed (h : s.Tallied blocks) : s.closed.Tallied (blocks ++ [s.pending.length]) := by
  refine ⟨?_, ?_, ?_⟩
  · rw [List.length_append, ← h.queries]
    rfl
  · rw [List.sum_append_nat, ← h.rows]
    rfl
  · rw [Event.ofBlocks_concat, ← h.queries, ← h.log]
    exact List.reverse_cons

/-- Nothing is reported at a line that is passed, unless it closes a block. -/
theorem passes (h : s.Tallied blocks) (hp : Passes c s p s') : ∃ blocks', s'.Tallied blocks' := by
  cases hp with
  | header _ _ => exact ⟨blocks, h.queries, h.rows, h.log⟩
  | underline _ => exact ⟨blocks, h.queries, h.rows, h.log⟩
  | row _ => exact ⟨blocks, h.queries, h.rows, h.log⟩
  | closer _ _ => exact ⟨_, h.closed⟩

theorem fails (h : s.Tallied blocks) (hf : Fails c s p r) : r.Reported := by
  cases hf with
  | header _ hm =>
    rw [h.queries] at hm
    refine ⟨blocks, _, Mismatch.reported_of_ofHeaders? hm, fun ev hev => level_of_mem_headersEqual hev, ?_⟩
    rw [List.reverse_append, List.reverse_reverse, h.log]
  | closer _ hm =>
    rw [h.queries] at hm
    refine ⟨blocks, [], Mismatch.reported_of_ofRows? hm, fun ev hev => absurd hev List.not_mem_nil, ?_⟩
    rw [List.append_nil, h.log]

theorem run (h : s.Tallied blocks) (pairs : List (Text × Text)) :
    match Scan.run c s pairs with
    | .ok s' => ∃ blocks', s'.Tallied blocks'
    | .error r => r.Reported := by
  induction pairs generalizing s blocks with
  | nil => exact ⟨blocks, h⟩
  | cons p pairs ih =>
    rw [run_cons]
    cases hstep : step c s p with
    | error r => exact h.fails (fails_of_step hstep)
    | ok s₁ =>
      obtain ⟨blocks₁, h₁⟩ := h.passes (passes_of_step hstep)
      exact ih h₁

end Tallied

theorem finish_events (s : Scan) :
    s.finish.events = s.log.reverse ++
      if s.pending.length = 0 then [] else [.tailNotCompared s.pending.length] := by
  cases hp : s.pending <;> simp [finish, hp]

end Scan

namespace Comparator

variable {c : Comparator} {actual expected : Lines}

theorem events_of_value_agree {t : Summary} (h : (c.compare actual expected).value = .agree t) :
    ∃ blocks unclosed, blocks.length = t.queries ∧ blocks.sum = t.rows ∧
      t.rows + unclosed =
        c.layout.rowsBefore (sharedAt (actual.toList.zip expected.toList)) actual.size ∧
      (c.compare actual expected).events =
        Event.ofBlocks blocks ++ if unclosed = 0 then [] else [.tailNotCompared unclosed] := by
  obtain ⟨hsize, s, hs, rfl⟩ := run_of_value_agree h
  have hrun := Scan.tallied_start.run (c := c) (actual.toList.zip expected.toList)
  rw [hs] at hrun
  obtain ⟨blocks, htallied⟩ := hrun
  refine ⟨blocks, s.pending.length, htallied.queries.symm, htallied.rows.symm, ?_, ?_⟩
  · rw [← length_zip hsize]
    exact (Reached.of_run hs).total
  · rw [compare_of_run_ok hsize hs, s.finish_events, htallied.log]

theorem events_of_value_differ {m : Mismatch} (h : (c.compare actual expected).value = .differ m) :
    ∃ blocks warnings, m.Reported blocks warnings ∧ (∀ ev ∈ warnings, ev.level = .warn) ∧
      (c.compare actual expected).events = Event.ofBlocks blocks ++ warnings := by
  obtain ⟨hsize, rfl⟩ | ⟨hsize, r, hs, rfl⟩ := run_of_value_differ h
  · rw [compare_of_size_ne hsize]
    exact ⟨[], [], ⟨rfl, rfl⟩, fun ev hev => absurd hev List.not_mem_nil, rfl⟩
  · have hrun := Scan.tallied_start.run (c := c) (actual.toList.zip expected.toList)
    rw [hs] at hrun
    obtain ⟨blocks, warnings, hm, hwarn, hlog⟩ := hrun
    rw [compare_of_run_error hsize hs]
    exact ⟨blocks, warnings, hm, hwarn, hlog⟩

/-- Of dumps that match, each block is reported in its turn and then the rows at the end that are not
compared, if there are any. Of dumps that do not match, the blocks in front of the mismatch are
reported, and behind them there is nothing but warnings on headers. -/
theorem events_by_verdict (c : Comparator) (actual expected : Lines) :
    let log := (c.compare actual expected).events
    (∀ t, (c.compare actual expected).value = .agree t → ∃ blocks unclosed,
      blocks.length = t.queries ∧ blocks.sum = t.rows ∧
      t.rows + unclosed =
        c.layout.rowsBefore (sharedAt (actual.toList.zip expected.toList)) actual.size ∧
      log = Event.ofBlocks blocks ++ if unclosed = 0 then [] else [.tailNotCompared unclosed]) ∧
    ∀ m, (c.compare actual expected).value = .differ m → ∃ blocks warnings,
      m.Reported blocks warnings ∧ (∀ ev ∈ warnings, ev.level = .warn) ∧
      log = Event.ofBlocks blocks ++ warnings :=
  ⟨fun _ h => events_of_value_agree h, fun _ h => events_of_value_differ h⟩

end Comparator
end DumpCheck
