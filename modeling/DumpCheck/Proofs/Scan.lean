import DumpCheck.Comparison
import DumpCheck.Proofs.RowMatch

/-!
# One step of a comparison, and a run of steps

What a comparison checks is told by two functions: `Mismatch.ofHeaders?` for a pair of headers and
`Mismatch.ofRows?` for the rows of a block. A step is described by the part of its line
(`Scan.step_header`, `step_underline`, `step_row`, `step_closer`), all that it can do by
`Scan.step_spec`, a run over many lines by `Scan.run`, and the verdict by how the run ends
(`Comparator.value_of_run_ok`, `Comparator.value_of_run_error`).
-/

namespace DumpCheck

theorem isSeparator_of_sharedSeparator {p : Text × Text} (h : sharedSeparator p) :
    p.1 = p.2 ∧ isSeparator p.1 := by
  simpa [sharedSeparator] using h

theorem sharedSeparator_eq_false_of_left {p : Text × Text} (h : isSeparator p.1 = false) :
    sharedSeparator p = false := by
  simp [sharedSeparator, h]

theorem sharedSeparator_eq_false_of_right {p : Text × Text} (h : isSeparator p.2 = false) :
    sharedSeparator p = false := by
  rw [Bool.eq_false_iff]
  intro hp
  obtain ⟨heq, hsep⟩ := isSeparator_of_sharedSeparator hp
  rw [heq, h] at hsep
  exact Bool.false_ne_true hsep

theorem sharedSeparator_swap (p : Text × Text) : sharedSeparator p.swap = sharedSeparator p := by
  by_cases h : p.1 = p.2
  · simp [sharedSeparator, h]
  · simp [sharedSeparator, h, Ne.symm h]

namespace Layout

@[simp] theorem role_atHeader (layout : Layout) (shared : Bool) :
    layout.role .atHeader shared = .header := by
  cases layout <;> rfl

theorem role_eq_header_iff {layout : Layout} {phase : Phase} {shared : Bool} :
    layout.role phase shared = .header ↔ phase = .atHeader := by
  cases layout <;> cases phase <;> cases shared <;> decide

theorem phase_ne_atHeader {layout : Layout} {phase : Phase} {shared : Bool} {r : Role}
    (h : layout.role phase shared = r) (hr : r ≠ .header) : phase ≠ .atHeader := by
  rw [← h] at hr
  exact mt role_eq_header_iff.2 hr

@[simp] theorem after_row (layout : Layout) (shared : Bool) : layout.after shared .row = .inRows := by
  cases layout <;> cases shared <;> rfl

@[simp] theorem after_underline (layout : Layout) (shared : Bool) :
    layout.after shared .underline = .inRows := by
  cases layout <;> cases shared <;> rfl

@[simp] theorem after_closer (layout : Layout) (shared : Bool) :
    layout.after shared .closer = .atHeader := by
  cases layout <;> cases shared <;> rfl

@[simp] theorem after_header_false (layout : Layout) : layout.after false .header = .afterHeader := by
  cases layout <;> rfl

/-- Behind a header, a line that is no shared separator is a row. -/
theorem role_false {layout : Layout} {phase : Phase} (h : phase ≠ .atHeader) :
    layout.role phase false = .row := by
  cases phase with
  | atHeader => exact absurd rfl h
  | afterHeader => cases layout <;> rfl
  | inRows => cases layout <;> rfl

@[simp] theorem role_inRows_true (layout : Layout) : layout.role .inRows true = .closer := by
  cases layout <;> rfl

end Layout

/-! ### What is checked -/

namespace Header

/-- Only differences are reported, so equal columns come without an event. -/
theorem columnsEqual_events (pairs : List (Text × Text)) (h : (columnsEqual pairs).value = .ok true) :
    (columnsEqual pairs).events = [] := by
  fun_induction columnsEqual pairs with
  | case1 => rfl
  | case2 => rfl
  | case3 c1 c2 rest _ ih => exact ih h
  | case4 c1 c2 rest _ later _ =>
    cases hv : later.value <;> simp [hv, Except.map] at h

theorem columnsEqual_self (columns : List Text) :
    columnsEqual (columns.zip columns) = .silent (.ok true) := by
  induction columns with
  | nil => rfl
  | cons c columns ih =>
    have hlabel : labelsEqual c.lowercase c.lowercase = .ok true := by simp [labelsEqual]
    simp only [List.zip_cons_cons, columnsEqual, hlabel, ih]

end Header

theorem headersEqual_self (h : Text) : headersEqual h h = .silent (.ok true) := by
  simp [headersEqual, Header.columnsEqual_self]

theorem headersEqual_events {a e : Text} (h : (headersEqual a e).value = .ok true) :
    (headersEqual a e).events = [] := by
  unfold headersEqual at h ⊢
  simp only at h ⊢
  split at h
  · rw [if_pos ‹_›]; exact Header.columnsEqual_events _ h
  · simp at h

namespace Mismatch

variable {q : Nat}

/-- What is wrong with the headers of the block with this index. -/
def ofHeaders? (query : Nat) (actual expected : Text) : Option Mismatch :=
  match (headersEqual actual expected).value with
  | .ok true => none
  | .ok false => some (.header query actual expected)
  | .error e => some (.malformedLabel query e.label)

/-- What is wrong with the rows of the block with this index. -/
def ofRows? (query : Nat) (actual expected : List Text) : Option Mismatch :=
  if actual.Perm expected then none
  else some (.rowSet query (Rows.sort (expected.diff actual)) (Rows.sort (actual.diff expected)))

theorem ofHeaders?_eq_none_iff {a e : Text} :
    ofHeaders? q a e = none ↔ (headersEqual a e).value = .ok true := by
  unfold ofHeaders?
  cases (headersEqual a e).value with
  | error _ => simp
  | ok b => cases b <;> simp

theorem ofRows?_eq_none_iff {as es : List Text} : ofRows? q as es = none ↔ as.Perm es := by
  unfold ofRows?
  split <;> simp_all

theorem queryIndex_of_ofHeaders? {a e : Text} {m : Mismatch} (h : ofHeaders? q a e = some m) :
    m.queryIndex = some q := by
  unfold ofHeaders? at h
  split at h
  · cases h
  · cases h; rfl
  · cases h; rfl

theorem queryIndex_of_ofRows? {as es : List Text} {m : Mismatch} (h : ofRows? q as es = some m) :
    m.queryIndex = some q := by
  unfold ofRows? at h
  split at h
  · cases h
  · cases h; rfl

/-- The order of the rows on either side does not matter. -/
theorem ofRows?_congr {as as' es es' : List Text} (ha : as.Perm as') (he : es.Perm es') :
    ofRows? q as es = ofRows? q as' es' := by
  have hperm : as.Perm es ↔ as'.Perm es' := ⟨fun h => (ha.symm.trans h).trans he,
    fun h => (ha.trans h).trans he.symm⟩
  have hmissing : Rows.sort (es.diff as) = Rows.sort (es'.diff as') :=
    Rows.sort_eq_sort_iff.2 (he.diff ha)
  have hunexpected : Rows.sort (as.diff es) = Rows.sort (as'.diff es') :=
    Rows.sort_eq_sort_iff.2 (ha.diff he)
  simp only [ofRows?, hperm, hmissing, hunexpected]

end Mismatch

namespace Scan

variable {c : Comparator} {s : Scan} {p : Text × Text}

/-- A check is passed only if nothing is wrong. -/
theorem ok_of_check {o : Option Mismatch} {s s' : Scan} {log : List Event}
    (h : (match o with
      | none => .ok s
      | some m => .error ⟨m, log⟩ : Except Rejection Scan) = .ok s') : o = none ∧ s = s' := by
  cases o with
  | none => exact ⟨rfl, Except.ok.inj h⟩
  | some m => cases h

theorem header_eq (s : Scan) (next : Phase) (a e : Text) :
    s.header next a e =
      match Mismatch.ofHeaders? s.matched.queries a e with
      | none => .ok { s with phase := next }
      | some m => .error ⟨m, (headersEqual a e).events.reverse ++ s.log⟩ := by
  have hevents := headersEqual_events (a := a) (e := e)
  unfold header Mismatch.ofHeaders?
  cases hv : (headersEqual a e).value with
  | error _ => simp only [hv]
  | ok b =>
    cases b with
    | false => simp only [hv]
    | true => simp only [hv, hevents hv, List.reverse_nil, List.nil_append]

/-- A block whose rows match is counted, and a header comes next. -/
def closed (s : Scan) : Scan where
  phase := .atHeader
  pending := []
  matched := ⟨s.matched.queries + 1, s.matched.rows + s.pending.length⟩
  log := .blockMatched (s.matched.queries + 1) s.pending.length :: s.log

/-- A header comes next, and no rows are open. -/
structure Fresh (s : Scan) : Prop where
  phase : s.phase = .atHeader
  pending : s.pending = []

theorem fresh_start : Fresh start := ⟨rfl, rfl⟩

theorem fresh_closed (s : Scan) : Fresh s.closed := ⟨rfl, rfl⟩

theorem close_eq (s : Scan) (m : RowMatch) :
    s.close m =
      match Mismatch.ofRows? s.matched.queries (s.pending.map Prod.fst) (s.pending.map Prod.snd) with
      | none => .ok s.closed
      | some m => .error ⟨m, s.log⟩ := by
  unfold close Mismatch.ofRows?
  simp only [m.agree_iff_perm, m.missing_arrange, m.unexpected_arrange]
  split <;> rfl

/-! ### Steps -/

theorem step_header (h : c.layout.role s.phase (sharedSeparator p) = .header) :
    step c s p = s.header (c.layout.after (sharedSeparator p) .header) p.1 p.2 := by
  simp only [step, h]

theorem step_underline (h : c.layout.role s.phase (sharedSeparator p) = .underline) :
    step c s p = .ok { s with phase := .inRows } := by
  simp only [step, h, Layout.after_underline]

theorem step_row (h : c.layout.role s.phase (sharedSeparator p) = .row) :
    step c s p = .ok { s with phase := .inRows, pending := p :: s.pending } := by
  simp only [step, h, Layout.after_row]

theorem step_closer (h : c.layout.role s.phase (sharedSeparator p) = .closer) :
    step c s p = s.close c.rowMatch := by
  simp only [step, h]

/-- A line that is passed: what was checked, and what is known behind it. -/
inductive Passes (c : Comparator) (s : Scan) (p : Text × Text) : Scan → Prop
  | header (hr : c.layout.role s.phase (sharedSeparator p) = .header)
      (hok : Mismatch.ofHeaders? s.matched.queries p.1 p.2 = none) :
      Passes c s p { s with phase := c.layout.after (sharedSeparator p) .header }
  | underline (hr : c.layout.role s.phase (sharedSeparator p) = .underline) :
      Passes c s p { s with phase := .inRows }
  | row (hr : c.layout.role s.phase (sharedSeparator p) = .row) :
      Passes c s p { s with phase := .inRows, pending := p :: s.pending }
  | closer (hr : c.layout.role s.phase (sharedSeparator p) = .closer)
      (hok : Mismatch.ofRows? s.matched.queries (s.pending.map Prod.fst) (s.pending.map Prod.snd) =
        none) :
      Passes c s p s.closed

/-- A line at which a comparison ends: headers differ, or the rows of a block do. -/
inductive Fails (c : Comparator) (s : Scan) (p : Text × Text) : Rejection → Prop
  | header {m : Mismatch} (hr : c.layout.role s.phase (sharedSeparator p) = .header)
      (hm : Mismatch.ofHeaders? s.matched.queries p.1 p.2 = some m) :
      Fails c s p ⟨m, (headersEqual p.1 p.2).events.reverse ++ s.log⟩
  | closer {m : Mismatch} (hr : c.layout.role s.phase (sharedSeparator p) = .closer)
      (hm : Mismatch.ofRows? s.matched.queries (s.pending.map Prod.fst) (s.pending.map Prod.snd) =
        some m) :
      Fails c s p ⟨m, s.log⟩

theorem step_spec (c : Comparator) (s : Scan) (p : Text × Text) :
    match step c s p with
    | .ok s' => Passes c s p s'
    | .error r => Fails c s p r := by
  cases hr : c.layout.role s.phase (sharedSeparator p) with
  | header =>
    rw [step_header hr, header_eq]
    cases hm : Mismatch.ofHeaders? s.matched.queries p.1 p.2 with
    | none => exact .header hr hm
    | some m => exact .header hr hm
  | underline =>
    rw [step_underline hr]
    exact .underline hr
  | row =>
    rw [step_row hr]
    exact .row hr
  | closer =>
    rw [step_closer hr, close_eq]
    cases hm : Mismatch.ofRows? s.matched.queries (s.pending.map Prod.fst) (s.pending.map Prod.snd) with
    | none => exact .closer hr hm
    | some m => exact .closer hr hm

theorem passes_of_step {s' : Scan} (h : step c s p = .ok s') : Passes c s p s' := by
  have hspec := step_spec c s p
  rwa [h] at hspec

theorem fails_of_step {r : Rejection} (h : step c s p = .error r) : Fails c s p r := by
  have hspec := step_spec c s p
  rwa [h] at hspec

theorem Passes.phase_eq {s' : Scan} (h : Passes c s p s') :
    s'.phase = c.layout.after (sharedSeparator p) (c.layout.role s.phase (sharedSeparator p)) := by
  cases h with
  | header hr _ => rw [hr]
  | underline hr => rw [hr, Layout.after_underline]
  | row hr => rw [hr, Layout.after_row]
  | closer hr _ => rw [hr, Layout.after_closer]; rfl

/-! ### Runs -/

/-- Reads many lines of both dumps, up to the first mismatch. -/
def run (c : Comparator) (s : Scan) (pairs : List (Text × Text)) : Except Rejection Scan :=
  pairs.foldlM (step c) s

theorem run_cons (pairs : List (Text × Text)) :
    run c s (p :: pairs) = (step c s p).bind fun s' => run c s' pairs := rfl

theorem run_append (pairs pairs' : List (Text × Text)) :
    run c s (pairs ++ pairs') = (run c s pairs).bind fun s' => run c s' pairs' :=
  List.foldlM_append

theorem run_append_of_ok {s' : Scan} {pairs : List (Text × Text)} (h : run c s pairs = .ok s')
    (pairs' : List (Text × Text)) : run c s (pairs ++ pairs') = run c s' pairs' := by
  rw [run_append, h]
  rfl

theorem run_append_of_error {r : Rejection} {pairs : List (Text × Text)} (h : run c s pairs = .error r)
    (pairs' : List (Text × Text)) : run c s (pairs ++ pairs') = .error r := by
  rw [run_append, h]
  rfl

theorem run_cons_of_ok {s' : Scan} (h : step c s p = .ok s') (pairs : List (Text × Text)) :
    run c s (p :: pairs) = run c s' pairs := by
  rw [run_cons, h]; rfl

theorem run_append_ok {s' : Scan} {pairs pairs' : List (Text × Text)}
    (h : run c s (pairs ++ pairs') = .ok s') :
    ∃ s₁, run c s pairs = .ok s₁ ∧ run c s₁ pairs' = .ok s' := by
  rw [run_append] at h
  cases hs : run c s pairs with
  | ok s₁ => exact ⟨s₁, rfl, by rwa [hs] at h⟩
  | error r =>
    rw [hs] at h
    cases h

theorem run_cons_ok {s' : Scan} {pairs : List (Text × Text)} (h : run c s (p :: pairs) = .ok s') :
    ∃ s₁, step c s p = .ok s₁ ∧ run c s₁ pairs = .ok s' := by
  rw [run_cons] at h
  cases hs : step c s p with
  | ok s₁ => exact ⟨s₁, rfl, by rwa [hs] at h⟩
  | error r =>
    rw [hs] at h
    cases h

/-- Two comparators take the same steps for as long as `P` holds of the scan and the lines ahead. -/
theorem run_congr {c' : Comparator} {P : Scan → List (Text × Text) → Prop}
    (hstep : ∀ s p pairs, P s (p :: pairs) →
      step c s p = step c' s p ∧ ∀ s', step c' s p = .ok s' → P s' pairs)
    {pairs : List (Text × Text)} (h : P s pairs) : run c s pairs = run c' s pairs := by
  induction pairs generalizing s with
  | nil => rfl
  | cons p pairs ih =>
    obtain ⟨heq, hnext⟩ := hstep s p pairs h
    rw [run_cons, run_cons, heq]
    cases hs : step c' s p with
    | ok s' => exact ih (hnext s' hs)
    | error r => rfl

/-- Behind a header, lines that are no shared separators pile up as rows. -/
theorem run_rows (pairs : List (Text × Text)) (hs : ∀ p ∈ pairs, sharedSeparator p = false)
    (h : s.phase ≠ .atHeader) :
    run c s pairs = .ok { s with
      phase := if pairs = [] then s.phase else .inRows
      pending := pairs.reverse ++ s.pending } := by
  induction pairs generalizing s with
  | nil => rfl
  | cons p pairs ih =>
    have hrow : c.layout.role s.phase false = .row := Layout.role_false h
    rw [← hs p (List.mem_cons_self ..)] at hrow
    rw [run_cons_of_ok (step_row hrow), ih (fun q hq => hs q (List.mem_cons_of_mem _ hq)) (by simp)]
    simp

end Scan

/-! ### Verdicts -/

namespace Comparator

variable {c : Comparator} {actual expected : Lines}

theorem length_zip (h : actual.size = expected.size) :
    (actual.toList.zip expected.toList).length = actual.size := by
  simp only [Lines.size] at h ⊢
  rw [List.length_zip, ← h, Nat.min_self]

theorem size_append {actual' expected' : Lines} (h : actual.size = expected.size)
    (h' : actual'.size = expected'.size) : (actual ++ actual').size = (expected ++ expected').size := by
  simp only [Lines.size, Lines.toList_append, List.length_append] at h h' ⊢
  rw [h, h']

theorem zip_append {actual' expected' : Lines} (h : actual.size = expected.size) :
    (actual ++ actual').toList.zip (expected ++ expected').toList =
      actual.toList.zip expected.toList ++ actual'.toList.zip expected'.toList := by
  rw [Lines.toList_append, Lines.toList_append, List.zip_append h]

theorem compare_of_size_ne (h : actual.size ≠ expected.size) :
    c.compare actual expected = .silent (.differ (.length actual.size expected.size)) := by
  simp [compare, h]

theorem value_of_size_ne (h : actual.size ≠ expected.size) :
    (c.compare actual expected).value = .differ (.length actual.size expected.size) :=
  congrArg Logged.value (compare_of_size_ne h)

theorem compare_of_run_ok {s : Scan} (h : actual.size = expected.size)
    (hr : Scan.run c .start (actual.toList.zip expected.toList) = .ok s) :
    c.compare actual expected = s.finish := by
  have hscan : c.scan (actual.toList.zip expected.toList) = .ok s := hr
  simp [compare, h, hscan]

theorem compare_of_run_error {r : Rejection} (h : actual.size = expected.size)
    (hr : Scan.run c .start (actual.toList.zip expected.toList) = .error r) :
    c.compare actual expected = ⟨.differ r.mismatch, r.log.reverse⟩ := by
  have hscan : c.scan (actual.toList.zip expected.toList) = .error r := hr
  simp [compare, h, hscan]

theorem value_of_run_ok {s : Scan} (h : actual.size = expected.size)
    (hr : Scan.run c .start (actual.toList.zip expected.toList) = .ok s) :
    (c.compare actual expected).value = .agree s.matched :=
  congrArg Logged.value (compare_of_run_ok h hr)

theorem value_of_run_error {r : Rejection} (h : actual.size = expected.size)
    (hr : Scan.run c .start (actual.toList.zip expected.toList) = .error r) :
    (c.compare actual expected).value = .differ r.mismatch :=
  congrArg Logged.value (compare_of_run_error h hr)

/-- Dumps match only if their lines can be read to the end. -/
theorem run_of_value_agree {t : Summary} (h : (c.compare actual expected).value = .agree t) :
    actual.size = expected.size ∧
      ∃ s, Scan.run c .start (actual.toList.zip expected.toList) = .ok s ∧ s.matched = t := by
  by_cases hsize : actual.size = expected.size
  · refine ⟨hsize, ?_⟩
    cases hr : Scan.run c .start (actual.toList.zip expected.toList) with
    | ok s =>
      rw [value_of_run_ok hsize hr] at h
      exact ⟨s, rfl, Verdict.agree.inj h⟩
    | error r =>
      rw [value_of_run_error hsize hr] at h
      cases h
  · rw [value_of_size_ne hsize] at h
    cases h

/-- Dumps differ in their lengths or in a line at which reading stops. -/
theorem run_of_value_differ {m : Mismatch} (h : (c.compare actual expected).value = .differ m) :
    actual.size ≠ expected.size ∧ m = .length actual.size expected.size ∨
      actual.size = expected.size ∧
        ∃ r, Scan.run c .start (actual.toList.zip expected.toList) = .error r ∧ r.mismatch = m := by
  by_cases hsize : actual.size = expected.size
  · refine .inr ⟨hsize, ?_⟩
    cases hr : Scan.run c .start (actual.toList.zip expected.toList) with
    | ok s =>
      rw [value_of_run_ok hsize hr] at h
      cases h
    | error r =>
      rw [value_of_run_error hsize hr] at h
      exact ⟨r, rfl, Verdict.differ.inj h⟩
  · rw [value_of_size_ne hsize] at h
    exact .inl ⟨hsize, (Verdict.differ.inj h).symm⟩

end Comparator
end DumpCheck
