import DumpCheck.Proofs.Position

/-!
# Dumps one behind the other

Behind a block that is closed nothing is left of it but what was counted and reported
(`Layout.border_iff`, `Scan.Fresh`). From there a comparison goes on as it would begin: with the same
checks and the same outcomes, only that blocks and rows are counted on (`Scan.run_behind`). So dumps
that match up to the border of a block can be cut there (`Comparator.compare_append`).
-/

namespace DumpCheck

/-- The totals of dumps of which the first part has the totals `s`. -/
def Summary.behind (s t : Summary) : Summary :=
  ⟨s.queries + t.queries, s.rows + t.rows⟩

namespace Mismatch

/-- The mismatch, found behind so many more blocks. -/
def behind (blocks : Nat) : Mismatch → Mismatch
  | length actual expected => length actual expected
  | header q actual expected => header (blocks + q) actual expected
  | rowSet q missing unexpected => rowSet (blocks + q) missing unexpected
  | malformedLabel q label => malformedLabel (blocks + q) label

theorem ofHeaders?_behind (blocks q : Nat) (a e : Text) :
    ofHeaders? (blocks + q) a e = (ofHeaders? q a e).map (behind blocks) := by
  unfold ofHeaders?
  cases (headersEqual a e).value with
  | error _ => rfl
  | ok b => cases b <;> rfl

theorem ofRows?_behind (blocks q : Nat) (as es : List Text) :
    ofRows? (blocks + q) as es = (ofRows? q as es).map (behind blocks) := by
  unfold ofRows?
  split <;> rfl

end Mismatch

def Verdict.behind (s : Summary) : Verdict → Verdict
  | agree t => agree (s.behind t)
  | differ m => differ (m.behind s.queries)

namespace Event

def behind (blocks : Nat) : Event → Event
  | columnCountDiffers actual expected => columnCountDiffers actual expected
  | labelDiffers actual expected => labelDiffers actual expected
  | blockMatched query rows => blockMatched (blocks + query) rows
  | tailNotCompared rows => tailNotCompared rows

theorem map_behind_columnsEqual (blocks : Nat) (pairs : List (Text × Text)) :
    (Header.columnsEqual pairs).events.map (behind blocks) = (Header.columnsEqual pairs).events := by
  fun_induction Header.columnsEqual pairs with
  | case1 => rfl
  | case2 => rfl
  | case3 c1 c2 rest _ ih => exact ih
  | case4 c1 c2 rest _ later ih => simp only [List.map_cons, ih, behind, later]

theorem map_behind_headersEqual (blocks : Nat) (a e : Text) :
    (headersEqual a e).events.map (behind blocks) = (headersEqual a e).events := by
  unfold headersEqual
  simp only
  split
  · exact map_behind_columnsEqual ..
  · rfl

end Event

/-- The scan `s`, of lines that stand behind those of the scan `base`. -/
def Scan.behind (base s : Scan) : Scan where
  phase := s.phase
  pending := s.pending
  matched := base.matched.behind s.matched
  log := s.log.map (Event.behind base.matched.queries) ++ base.log

def Rejection.behind (base : Scan) (r : Rejection) : Rejection where
  mismatch := r.mismatch.behind base.matched.queries
  log := r.log.map (Event.behind base.matched.queries) ++ base.log

namespace Scan

variable {c : Comparator} {base : Scan}

theorem behind_start (h : base.Fresh) : base.behind start = base := by
  obtain ⟨phase, pending, matched, log⟩ := base
  obtain ⟨rfl, rfl⟩ := h
  rfl

theorem queries_behind (base s : Scan) :
    (base.behind s).matched.queries = base.matched.queries + s.matched.queries := rfl

theorem behind_closed (base s : Scan) : (base.behind s).closed = base.behind s.closed := by
  simp [behind, closed, Summary.behind, Event.behind, Nat.add_assoc]

theorem header_behind (base s : Scan) (next : Phase) (a e : Text) :
    (base.behind s).header next a e =
      ((s.header next a e).map base.behind).mapError (Rejection.behind base) := by
  rw [header_eq, header_eq, queries_behind, Mismatch.ofHeaders?_behind]
  cases Mismatch.ofHeaders? s.matched.queries a e with
  | none => rfl
  | some m =>
    simp [Except.map, Except.mapError, Rejection.behind, behind, Event.map_behind_headersEqual]

theorem close_behind (base s : Scan) (m : RowMatch) :
    (base.behind s).close m = ((s.close m).map base.behind).mapError (Rejection.behind base) := by
  have hpending : (base.behind s).pending = s.pending := rfl
  rw [close_eq, close_eq, behind_closed, hpending, queries_behind, Mismatch.ofRows?_behind]
  cases Mismatch.ofRows? s.matched.queries (s.pending.map Prod.fst) (s.pending.map Prod.snd) <;> rfl

theorem step_behind (base s : Scan) (p : Text × Text) :
    step c (base.behind s) p = ((step c s p).map base.behind).mapError (Rejection.behind base) := by
  cases hr : c.layout.role s.phase (sharedSeparator p) with
  | header =>
    rw [step_header hr, step_header (s := base.behind s) hr]
    exact header_behind ..
  | underline =>
    rw [step_underline hr, step_underline (s := base.behind s) hr]
    rfl
  | row =>
    rw [step_row hr, step_row (s := base.behind s) hr]
    rfl
  | closer =>
    rw [step_closer hr, step_closer (s := base.behind s) hr]
    exact close_behind ..

/-- A scan that has something behind it goes on as one that has not. -/
theorem run_behind (base s : Scan) (pairs : List (Text × Text)) :
    run c (base.behind s) pairs =
      ((run c s pairs).map base.behind).mapError (Rejection.behind base) := by
  induction pairs generalizing s with
  | nil => rfl
  | cons p pairs ih =>
    rw [run_cons, run_cons, step_behind]
    cases step c s p with
    | ok s' => exact ih s'
    | error r => rfl

theorem finish_behind (base s : Scan) :
    (base.behind s).finish = ⟨s.finish.value.behind base.matched,
      base.log.reverse ++ s.finish.events.map (Event.behind base.matched.queries)⟩ := by
  unfold finish
  cases hp : s.pending <;> simp [behind, Verdict.behind, Event.behind, hp]

end Scan

namespace Layout

/-- Nothing is open behind `n` lines: there are none, or the last one is a closer or, in the trailing
layout, any shared separator. -/
def Border (layout : Layout) (shared : Nat → Bool) (n : Nat) : Prop :=
  n = 0 ∨ layout.roleAt shared (n - 1) = .closer ∨ layout = trailing ∧ shared (n - 1)

/-- At the borders of blocks, and only there, a header comes next. -/
theorem border_iff {layout : Layout} {shared : Nat → Bool} {n : Nat} :
    layout.Border shared n ↔ layout.phaseAt shared n = .atHeader := by
  cases n with
  | zero => exact iff_of_true (.inl rfl) rfl
  | succ n =>
    rw [Border, phaseAt, Nat.add_sub_cancel, ← role_phaseAt]
    generalize layout.phaseAt shared n = phase
    cases layout <;> cases phase <;> cases shared n <;> simp [role, after]

end Layout

namespace Comparator

variable {c : Comparator} {actual expected actual' expected' : Lines} {s : Summary}

/-- Behind dumps that match up to the border of a block, other dumps are compared as they are by
themselves. Their blocks and rows are counted on. -/
theorem compare_append (h : actual.size = expected.size) (h' : actual'.size = expected'.size)
    (hs : (c.compare actual expected).value = .agree s)
    (hborder : c.layout.Border (sharedAt (actual.toList.zip expected.toList)) actual.size) :
    c.compare (actual ++ actual') (expected ++ expected') =
      ⟨(c.compare actual' expected').value.behind s,
        (c.compare actual expected).events ++
          (c.compare actual' expected').events.map (Event.behind s.queries)⟩ := by
  obtain ⟨-, base, hrun, rfl⟩ := run_of_value_agree hs
  -- at the border of a block the scan has nothing open, so it goes on as one that starts
  have hreached := Reached.of_run hrun
  have hphase : base.phase = .atHeader := by
    rw [hreached.phase, length_zip h, ← Layout.border_iff]
    exact hborder
  have hfresh : base.Fresh := ⟨hphase, hreached.fresh hphase⟩
  have hevents : (c.compare actual expected).events = base.log.reverse := by
    rw [compare_of_run_ok h hrun, Scan.finish, hfresh.pending]
    rfl
  have hsize : (actual ++ actual').size = (expected ++ expected').size := by
    simp only [Lines.size, Lines.toList_append, List.length_append] at h h' ⊢
    rw [h, h']
  have hrun' : Scan.run c .start ((actual ++ actual').toList.zip (expected ++ expected').toList) =
      ((Scan.run c .start (actual'.toList.zip expected'.toList)).map base.behind).mapError
        (Rejection.behind base) := by
    rw [Lines.toList_append, Lines.toList_append, List.zip_append h, Scan.run_append, hrun,
      ← Scan.run_behind, Scan.behind_start hfresh]
    rfl
  cases hr : Scan.run c .start (actual'.toList.zip expected'.toList) with
  | ok s' =>
    rw [hr] at hrun'
    rw [compare_of_run_ok hsize hrun', compare_of_run_ok h' hr, Scan.finish_behind, hevents]
  | error r =>
    rw [hr] at hrun'
    rw [compare_of_run_error hsize hrun', compare_of_run_error h' hr, hevents]
    simp [Verdict.behind, Rejection.behind]

/-- The first part ends with a header that is a shared separator, behind which another header comes. -/
theorem compare_append_dashed_header :
    let c : Comparator := ⟨.trailing, .sorted⟩
    let first := Lines.ofList (["h", "x", "-", "first-name"].map String.toList)
    let actual := Lines.ofList (["k", "b", "-"].map String.toList)
    let expected := Lines.ofList (["k", "c", "-"].map String.toList)
    (c.compare first first).value = .agree ⟨1, 1⟩ ∧
      c.layout.Border (sharedAt (first.toList.zip first.toList)) first.size ∧
      c.compare (first ++ actual) (first ++ expected) =
        ⟨.differ (.rowSet 1 ["c".toList] ["b".toList]), [.blockMatched 1 1]⟩ := by
  intro c first actual expected
  have hs : (c.compare first first).value = .agree ⟨1, 1⟩ := by decide +kernel
  have hborder : c.layout.Border (sharedAt (first.toList.zip first.toList)) first.size :=
    .inr (.inr ⟨rfl, by decide⟩)
  have hsize : actual.size = expected.size := rfl
  refine ⟨hs, hborder, ?_⟩
  rw [compare_append rfl hsize hs hborder]
  decide +kernel

end Comparator
end DumpCheck
