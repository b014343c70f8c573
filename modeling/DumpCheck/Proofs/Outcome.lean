import DumpCheck.Proofs.TextLines
import DumpCheck.Proofs.Writers
import DumpCheck.Run

/-!
# What a run comes to

A run ends at the first thing that goes wrong: the configuration file, then the actual dump, then the
expected one (`Run.Course`). Only if all of them can be read there is a verdict, and only then
something is written (`Run.play_compared`). So where writing never fails, the files and the options
decide the exit code and every byte on both outputs (`Run.perform_unlimited`). What a mismatch puts on
the error output is spelled out (`Mismatch.explanation`).
-/

namespace DumpCheck

/-! ### Texts of files -/

/-- The file at a path cannot be read, or is not in UTF-8. -/
def Files.Fails (files : Files) (path : Text) (cause : ReadFailure) : Prop :=
  files path = .error cause ∨
    cause = .notText ∧ ∃ bytes, files path = .ok bytes ∧ ¬ bytes.IsValidUTF8

namespace Files
variable {files : Files} {path : Text}

end Files

/-! ### The course of a run -/

namespace Run
variable {terminal : Bool} {files : Files} {o : Options} {s : Settings}

/-- How far a run gets. -/
inductive Course (terminal : Bool) (files : Files) (o : Options) : Run → Prop
  | misconfigured {e : ConfigError} (h : Settings.load files o = .error e) :
      Course terminal files o ⟨[], .error (.config e)⟩
  | noActual {s : Settings} {cause : ReadFailure} (hs : Settings.load files o = .ok s)
      (h : files.text s.actual = .error cause) :
      Course terminal files o ⟨[.log s.record], .error (.unreadable s.actual cause)⟩
  | noExpected {s : Settings} {actual : Text} {cause : ReadFailure} (hs : Settings.load files o = .ok s)
      (ha : files.text s.actual = .ok actual) (h : files.text s.expected = .error cause) :
      Course terminal files o ⟨[.log s.record], .error (.unreadable s.expected cause)⟩
  | compared {s : Settings} {actual expected : Text} (hs : Settings.load files o = .ok s)
      (ha : files.text s.actual = .ok actual) (he : files.text s.expected = .ok expected) :
      Course terminal files o
        ⟨.log s.record :: (compare terminal s o.format (.parse actual) (.parse expected)).actions,
          .ok (s.comparator.compare (.parse actual) (.parse expected)).value⟩

theorem course_planOn (terminal : Bool) (files : Files) (o : Options) :
    Course terminal files o (planOn terminal files o) := by
  unfold planOn
  cases hs : Settings.load files o with
  | error e => exact .misconfigured hs
  | ok s =>
    unfold readBoth readDump
    simp only
    cases ha : files.text s.actual with
    | error cause => exact .noActual hs ha
    | ok actual =>
      cases he : files.text s.expected with
      | error cause => exact .noExpected hs ha he
      | ok expected => exact .compared hs ha he

end Run

/-! ### The report of a verdict -/

namespace Run

variable {terminal : Bool} {files : Files} {o : Options} {s : Settings}

/-- The warning about empty dumps, if it is due. -/
def emptyText (terminal : Bool) (actual expected : Lines) : Text :=
  if actual.isEmpty && expected.isEmpty then
    Severity.warning.line terminal "both result dumps are empty".toList
  else []

theorem perform_of_play (r : Run) (c : Console) {c' : Console} {out err : Text}
    (h : c.play r.actions = c'.play [.out out, .err err, .flush]) :
    r.perform c =
      ({ c' with out := c'.out.write out, err := if c'.out.fits out then c'.err.write err else c'.err },
        if c'.out.fits out && c'.err.fits err then
          if c'.flushes then r.result else .error (.unwritten .flush)
        else .error (.unwritten .full)) := by
  unfold perform
  rw [h, Console.play_report]
  cases c'.out.fits out && c'.err.fits err
  · rfl
  · cases c'.flushes <;> rfl

section Compared
variable (terminal : Bool) (s : Settings) (format : OutputFormat) (actual expected : Lines) (c : Console)

theorem play_compared :
    let v := s.comparator.compare actual expected
    let report := Report.ofVerdict v.value format
    c.play (.log s.record :: (compare terminal s format actual expected).actions) =
      Console.play
        { c with
          err := c.err.write (emptyText terminal actual expected)
          log := (v.events.map Event.record).reverse ++ s.record :: c.log }
        [.out report.out, .err report.err, .flush] := by
  intro v report
  have hlogs : v.events.map (fun e => Action.log e.record) = (v.events.map Event.record).map .log :=
    List.map_map.symm
  unfold compare emptyWarning emptyText
  simp only
  rw [hlogs, List.append_assoc]
  split
  · exact Console.play_logs _ _
  · rw [Sink.write_nil, List.nil_append]
    exact Console.play_logs _ _

/-- What is left behind by a run that has read two dumps. -/
theorem perform_compared (result : Except RunError Verdict) :
    let report := Report.ofVerdict (s.comparator.compare actual expected).value format
    let warned := c.err.write (emptyText terminal actual expected)
    ∃ log, perform ⟨.log s.record :: (compare terminal s format actual expected).actions, result⟩ c =
      (⟨c.out.write report.out, if c.out.fits report.out then warned.write report.err else warned,
          c.flushes, log⟩,
        if c.out.fits report.out && warned.fits report.err then
          if c.flushes then result else .error (.unwritten .flush)
        else .error (.unwritten .full)) := by
  intro report warned
  have h := perform_of_play ⟨_, result⟩ c (play_compared terminal s format actual expected c)
  exact ⟨_, h⟩

end Compared

end Run

/-- The console that takes everything. -/
def Console.unlimited : Console :=
  ⟨.empty none, .empty none, true, []⟩

namespace Run
variable {terminal : Bool} {files : Files} {o : Options} {s : Settings} {r : Run}

theorem perform_compared_unlimited (terminal : Bool) (s : Settings) (format : OutputFormat)
    (actual expected : Lines) (result : Except RunError Verdict) :
    let report := Report.ofVerdict (s.comparator.compare actual expected).value format
    ∃ log, perform ⟨.log s.record :: (compare terminal s format actual expected).actions, result⟩ .unlimited =
      (⟨⟨none, report.out.utf8⟩, ⟨none, (emptyText terminal actual expected).utf8 ++ report.err.utf8⟩,
        true, log⟩, result) :=
  perform_compared terminal s format actual expected .unlimited result

namespace Course

theorem result_unlimited (h : Course terminal files o r) :
    (r.perform .unlimited).2 = r.result ∧
      ∀ e, r.result = .error e →
        (r.perform .unlimited).1.out.received = [] ∧ (r.perform .unlimited).1.err.received = [] := by
  cases h with
  | misconfigured _ | noActual _ _ | noExpected _ _ _ => exact ⟨rfl, fun _ _ => ⟨rfl, rfl⟩⟩
  | @compared s actual expected =>
    obtain ⟨log, hperform⟩ := perform_compared_unlimited terminal s o.format (.parse actual)
      (.parse expected) (.ok (s.comparator.compare (.parse actual) (.parse expected)).value)
    rw [hperform]
    exact ⟨rfl, fun _ h => nomatch h⟩

end Course

/-- Where every file is empty, there is a verdict, and a warning with it. -/
example :
    let r := planOn false (fun _ => .ok .empty) ⟨none, none, none, none, .text, none, false⟩
    (r.perform .unlimited).2 = .ok (.agree ⟨0, 0⟩) ∧
      (r.perform .unlimited).1.err.received = Text.utf8 "Warning: both result dumps are empty\n".toList := by
  decide +kernel

end Run
end DumpCheck
