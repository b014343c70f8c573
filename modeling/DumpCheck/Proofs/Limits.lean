import DumpCheck.Proofs.Outcome

/-!
# Runs whose writers fail

A run that would reach a verdict may not be able to say so: one of its outputs may take so many bytes
only, or the flush at the end may fail. Then what arrives is a part of what would have arrived, and the
run ends in an error; but it never ends in another verdict (`Run.perform_limited`).
-/

namespace DumpCheck

/-! ### Empty dumps -/

theorem Comparator.compare_of_isEmpty (c : Comparator) {actual expected : Lines}
    (h : (actual.isEmpty && expected.isEmpty) = true) :
    (c.compare actual expected).value = .agree ⟨0, 0⟩ := by
  simp only [Lines.isEmpty, Bool.and_eq_true, List.isEmpty_iff] at h
  have hsize : actual.size = expected.size := by rw [Lines.size, Lines.size, h.1, h.2]
  have hrun : Scan.run c .start (actual.toList.zip expected.toList) = .ok .start := by
    rw [h.1]
    rfl
  rw [compare_of_run_ok hsize hrun]
  rfl

theorem Run.emptyText_eq_nil_or_err_eq_nil (terminal : Bool) (s : Settings) (format : OutputFormat)
    (actual expected : Lines) :
    emptyText terminal actual expected = [] ∨
      (Report.ofVerdict (s.comparator.compare actual expected).value format).err = [] := by
  unfold emptyText
  split
  · next h =>
    rw [Comparator.compare_of_isEmpty _ h]
    cases format <;> exact .inr rfl
  · exact .inl rfl

/-! ### Limited outputs -/

/-- An output that takes `n` bytes, an error output that takes `m` bytes, and a flush that may fail. -/
def Console.limited (n m : Nat) (flushes : Bool) : Console :=
  ⟨.empty (some n), .empty (some m), flushes, []⟩

namespace Sink
variable {n : Nat} {t u : Text}

theorem received_write_empty : ((empty (some n)).write t).received = t.utf8.take n := rfl

theorem fits_empty : (empty (some n)).fits t = decide (t.utf8.length ≤ n) := rfl

theorem fits_write_empty (h : t = [] ∨ u = []) :
    ((empty (some n)).write t).fits u = decide (u.utf8.length ≤ n) := by
  obtain rfl | rfl := h
  · rw [write_nil, fits_empty]
  · rw [fits_nil]
    exact (decide_eq_true n.zero_le).symm

theorem received_write_write_empty (h : t = [] ∨ u = []) :
    (((empty (some n)).write t).write u).received = t.utf8.take n ++ u.utf8.take n := by
  obtain rfl | rfl := h
  · rw [write_nil, received_write_empty]
    exact (congrArg (· ++ _) List.take_nil).symm
  · rw [write_nil, received_write_empty]
    exact ((congrArg (_ ++ ·) List.take_nil).trans (List.append_nil _)).symm

end Sink

namespace Run
variable {terminal : Bool} {files : Files} {o : Options}

theorem perform_cut {as bs : List Action} (h : Action.Cut as bs) (result : Except RunError Verdict)
    (c : Console) : perform ⟨bs, result⟩ c = perform ⟨as, result⟩ c := by
  unfold perform
  rw [Console.play_cut h]

theorem perform_compared_limited (terminal : Bool) (s : Settings) (format : OutputFormat)
    (actual expected : Lines) (result : Except RunError Verdict) (n m : Nat) (flushes : Bool) :
    let report := Report.ofVerdict (s.comparator.compare actual expected).value format
    let warning := emptyText terminal actual expected
    let ending := perform ⟨.log s.record :: (compare terminal s format actual expected).actions, result⟩
      (.limited n m flushes)
    ending.1.out.received = report.out.utf8.take n ∧
      ending.1.err.received =
        warning.utf8.take m ++ (if report.out.utf8.length ≤ n then report.err.utf8.take m else []) ∧
      ending.2 =
        if report.out.utf8.length ≤ n ∧ report.err.utf8.length ≤ m then
          if flushes then result else .error (.unwritten .flush)
        else .error (.unwritten .full) := by
  intro report warning ending
  have hnil := emptyText_eq_nil_or_err_eq_nil terminal s format actual expected
  obtain ⟨log, hending⟩ := perform_compared terminal s format actual expected (.limited n m flushes) result
  simp only [Console.limited, Sink.fits_empty, Sink.fits_write_empty hnil, ← Bool.decide_and,
    decide_eq_true_eq] at hending
  rw [show ending = _ from hending]
  refine ⟨rfl, ?_, rfl⟩
  show Sink.received (if report.out.utf8.length ≤ n then _ else _) = _
  split
  · exact Sink.received_write_write_empty hnil
  · exact (List.append_nil _).symm

/-- A run that reaches a verdict with outputs that take everything reaches the same one with outputs
that take enough, and none with others. The outputs get the beginning of what they would have got,
and the particulars of a mismatch come only behind a verdict that has been written. It is all the same
in how many pieces the texts are written. -/
theorem perform_limited {v : Verdict} (h : ((planOn terminal files o).perform .unlimited).2 = .ok v) :
    let output := ((planOn terminal files o).perform .unlimited).1.out.received
    let details := (Report.ofVerdict v o.format).err.utf8
    ∃ warning : List UInt8,
      ((planOn terminal files o).perform .unlimited).1.err.received = warning ++ details ∧
      (warning = [] ∨ details = []) ∧
      ∀ actions, Action.Cut (planOn terminal files o).actions actions →
        ∀ (n m : Nat) (flushes : Bool),
          let ending := perform ⟨actions, (planOn terminal files o).result⟩ (.limited n m flushes)
          ending.1.out.received = output.take n ∧
          ending.1.err.received =
            warning.take m ++ (if output.length ≤ n then details.take m else []) ∧
          ending.2 =
            if output.length ≤ n ∧ details.length ≤ m then
              if flushes then .ok v else .error (.unwritten .flush)
            else .error (.unwritten .full) := by
  have hcourse := course_planOn terminal files o
  generalize planOn terminal files o = r at h hcourse ⊢
  rw [hcourse.result_unlimited.1] at h
  cases hcourse with
  | misconfigured | noActual | noExpected => cases h
  | @compared s actual expected _ _ _ =>
    cases h
    obtain ⟨log, hall⟩ := perform_compared_unlimited terminal s o.format (.parse actual)
      (.parse expected) (.ok (s.comparator.compare (.parse actual) (.parse expected)).value)
    rw [hall]
    intro output details
    refine ⟨_, rfl, ?_, fun actions hcut n m flushes => ?_⟩
    · exact (emptyText_eq_nil_or_err_eq_nil terminal s o.format (.parse actual) (.parse expected)).imp
        (congrArg Text.utf8) (congrArg Text.utf8)
    · rw [perform_cut hcut]
      exact perform_compared_limited terminal s o.format (.parse actual) (.parse expected) _ n m flushes

/-- The dumps differ in length, which is cut off behind its first word. -/
theorem perform_limited_short_output :
    let files : Files := fun path => .ok (if path = "result.txt".toList then "a\n".toUTF8 else .empty)
    let o : Options := ⟨none, none, none, none, .text, none, false⟩
    let ending := (planOn false files o).perform (.limited 5 100 true)
    ((planOn false files o).perform .unlimited).2 = .ok (.differ (.length 1 0)) ∧
      ending.1.out.received = Text.utf8 "Error".toList ∧ ending.1.err.received = [] ∧
      ending.2 = .error (.unwritten .full) := by
  intro files o ending
  have h : ((planOn false files o).perform .unlimited).2 = .ok (.differ (.length 1 0)) := by
    decide +kernel
  have hbegin : ((planOn false files o).perform .unlimited).1.out.received.take 5 =
      Text.utf8 "Error".toList := by
    decide +kernel
  have hlong : ¬ ((planOn false files o).perform .unlimited).1.out.received.length ≤ 5 := by
    decide +kernel
  obtain ⟨warning, -, hnil, hlimited⟩ := perform_limited h
  obtain ⟨hout, herr, hresult⟩ := hlimited _ (.refl _) 5 100 true
  rw [if_neg hlong, List.append_nil, hnil.resolve_right (by decide)] at herr
  rw [if_neg fun hfits => hlong hfits.1] at hresult
  exact ⟨h, hout.trans hbegin, herr, hresult⟩

end Run
end DumpCheck
