import DumpCheck.Proofs.Scan
import Mathlib.Data.Nat.Find

/-!
# A comparison, position by position

The part of every line follows from the layout and from the positions of the shared separators
(`Layout.roleAt`), and so does what a comparison checks there (`Layout.faultAt`) and what it reports
(`Layout.eventsAt`). `Comparator.value_by_position` tells the verdict from it: the first fault, or the
number of the closers and of the rows in front of the last one. The proof carries `Reached`, which
relates the state of a scan to the positions that it has passed, over every prefix without a fault.
Comparisons that find and report the same at every position are the same (`Comparator.compare_congr`),
and so they are up to a change of all mismatches and events (`Comparator.compare_map`).
-/

namespace DumpCheck

/-- The verdict with another mismatch, if it is one. -/
def Verdict.map (f : Mismatch → Mismatch) : Verdict → Verdict
  | agree totals => agree totals
  | differ m => differ (f m)

theorem Verdict.map_id (v : Verdict) : v.map id = v := by
  cases v <;> rfl

/-- The lines at this position are the same separator. -/
def sharedAt (pairs : List (Text × Text)) (i : Nat) : Bool :=
  pairs[i]?.any sharedSeparator

theorem sharedAt_swap (pairs : List (Text × Text)) : sharedAt (pairs.map Prod.swap) = sharedAt pairs := by
  funext i
  rw [sharedAt, sharedAt, List.getElem?_map]
  cases pairs[i]? with
  | none => rfl
  | some p => exact sharedSeparator_swap p

theorem getElem?_zip_congr {as as' es es' : List Text} {i : Nat} (ha : as'[i]? = as[i]?)
    (he : es'[i]? = es[i]?) : (as'.zip es')[i]? = (as.zip es)[i]? := by
  rw [List.zip_eq_zipWith, List.zip_eq_zipWith, List.getElem?_zipWith, List.getElem?_zipWith, ha, he]

theorem sharedAt_zip_eq_false_of_left {as es : List Text} {i : Nat}
    (h : ∀ l ∈ as[i]?, isSeparator l = false) : sharedAt (as.zip es) i = false := by
  unfold sharedAt
  cases hp : (as.zip es)[i]? with
  | none => rfl
  | some p => exact sharedSeparator_eq_false_of_left (h _ (List.getElem?_zip_eq_some.1 hp).1)

theorem sharedAt_zip_eq_false_of_right {as es : List Text} {i : Nat}
    (h : ∀ l ∈ es[i]?, isSeparator l = false) : sharedAt (as.zip es) i = false := by
  unfold sharedAt
  cases hp : (as.zip es)[i]? with
  | none => rfl
  | some p => exact sharedSeparator_eq_false_of_right (h _ (List.getElem?_zip_eq_some.1 hp).2)

namespace Layout

variable {layout : Layout} {shared : Nat → Bool} {pairs : List (Text × Text)} {i : Nat}

/-- The part of the line at a position, told from the line before it and from the positions of the
shared separators. -/
def roleAt (layout : Layout) (shared : Nat → Bool) : Nat → Role
  | 0 => .header
  | i + 1 =>
    let before := layout.roleAt shared i
    if before = .closer then .header
    else if before = .header ∧ layout = trailing ∧ shared i then .header
    else if shared (i + 1) then
      if before = .header ∧ layout = underlined then .underline else .closer
    else .row

/-- How many blocks are closed in front of a position. -/
def closersBefore (layout : Layout) (shared : Nat → Bool) (i : Nat) : Nat :=
  (List.range i).countP fun j => layout.roleAt shared j = .closer

/-- How many rows stand in front of a position. -/
def rowsBefore (layout : Layout) (shared : Nat → Bool) (i : Nat) : Nat :=
  (List.range i).countP fun j => layout.roleAt shared j = .row

/-- How many rows stand in front of the last closer before a position. -/
def closedRows (layout : Layout) (shared : Nat → Bool) (i : Nat) : Nat :=
  (List.range i).countP fun j =>
    layout.roleAt shared j = .row ∧ ∃ k < i, j < k ∧ layout.roleAt shared k = .closer

/-- The pairs of rows between the last header before a position and the position. -/
def rowsSince (layout : Layout) (pairs : List (Text × Text)) : Nat → List (Text × Text)
  | 0 => []
  | i + 1 =>
    match layout.roleAt (sharedAt pairs) i with
    | .header => []
    | .row => layout.rowsSince pairs i ++ pairs[i]?.toList
    | .underline | .closer => layout.rowsSince pairs i

/-- What is wrong at a position: headers are checked where they stand, rows where their block is
closed. -/
def faultAt (layout : Layout) (pairs : List (Text × Text)) (i : Nat) : Option Mismatch :=
  let query := layout.closersBefore (sharedAt pairs) i
  let rows := layout.rowsSince pairs i
  match layout.roleAt (sharedAt pairs) i with
  | .header => pairs[i]?.bind fun p => Mismatch.ofHeaders? query p.1 p.2
  | .closer => Mismatch.ofRows? query (rows.map Prod.fst) (rows.map Prod.snd)
  | .underline | .row => none

/-- What is reported at a position: the differences of two headers, or a block that matches. -/
def eventsAt (layout : Layout) (pairs : List (Text × Text)) (i : Nat) : List Event :=
  match layout.roleAt (sharedAt pairs) i with
  | .header => pairs[i]?.elim [] fun p => (headersEqual p.1 p.2).events
  | .closer =>
    if layout.faultAt pairs i = none then
      [.blockMatched (layout.closersBefore (sharedAt pairs) i + 1) (layout.rowsSince pairs i).length]
    else []
  | .underline | .row => []

/-- What is reported in front of a position. -/
def eventsBefore (layout : Layout) (pairs : List (Text × Text)) (i : Nat) : List Event :=
  (List.range i).flatMap (layout.eventsAt pairs)

/-- What is reported behind the last line: how many rows have no closer behind them. -/
def eventsAtEnd (layout : Layout) (pairs : List (Text × Text)) : List Event :=
  let unclosed := layout.rowsBefore (sharedAt pairs) pairs.length -
    layout.closedRows (sharedAt pairs) pairs.length
  if unclosed = 0 then [] else [.tailNotCompared unclosed]

/-- What has been passed in front of a position. -/
def phaseAt (layout : Layout) (shared : Nat → Bool) : Nat → Phase
  | 0 => .atHeader
  | i + 1 => layout.after (shared i) (layout.roleAt shared i)

theorem role_phaseAt (layout : Layout) (shared : Nat → Bool) (i : Nat) :
    layout.role (layout.phaseAt shared i) (shared i) = layout.roleAt shared i := by
  cases i with
  | zero => exact role_atHeader ..
  | succ i =>
    rw [phaseAt, roleAt]
    generalize layout.roleAt shared i = before
    generalize shared i = sharedBefore
    generalize shared (i + 1) = sharedHere
    cases layout <;> cases before <;> cases sharedBefore <;> cases sharedHere <;> rfl

theorem roleAt_succ_eq_header_iff :
    layout.roleAt shared (i + 1) = .header ↔ layout.roleAt shared i = .closer ∨
      layout.roleAt shared i = .header ∧ layout = trailing ∧ shared i := by
  rw [roleAt]
  by_cases hcloser : layout.roleAt shared i = .closer
  · rw [if_pos hcloser]
    exact iff_of_true rfl (.inl hcloser)
  by_cases hheader : layout.roleAt shared i = .header ∧ layout = trailing ∧ shared i
  · rw [if_neg hcloser, if_pos hheader]
    exact iff_of_true rfl (.inr hheader)
  · simp only [hcloser, hheader, if_false, or_self, iff_false]
    split
    · split <;> exact nofun
    · exact nofun

theorem closersBefore_succ (layout : Layout) (shared : Nat → Bool) (i : Nat) :
    layout.closersBefore shared (i + 1) =
      layout.closersBefore shared i + if layout.roleAt shared i = .closer then 1 else 0 := by
  simp [closersBefore, List.range_succ, List.countP_append, List.countP_cons]

theorem rowsBefore_succ (layout : Layout) (shared : Nat → Bool) (i : Nat) :
    layout.rowsBefore shared (i + 1) =
      layout.rowsBefore shared i + if layout.roleAt shared i = .row then 1 else 0 := by
  simp [rowsBefore, List.range_succ, List.countP_append, List.countP_cons]

/-- Behind a closer, all rows so far stand in front of the last closer. -/
theorem closedRows_succ_of_closer (h : layout.roleAt shared i = .closer) :
    layout.closedRows shared (i + 1) = layout.rowsBefore shared i := by
  have hrows : layout.rowsBefore shared (i + 1) = layout.rowsBefore shared i := by
    simp [rowsBefore_succ, h]
  rw [← hrows, closedRows, rowsBefore]
  apply List.countP_congr
  intro j hj
  simp only [decide_eq_true_eq, and_iff_left_iff_imp]
  intro hrow
  have hne : j ≠ i := fun hji => by rw [hji, h] at hrow; cases hrow
  exact ⟨i, Nat.lt_succ_self i, by have := List.mem_range.1 hj; omega, h⟩

theorem closedRows_succ_of_ne (h : layout.roleAt shared i ≠ .closer) :
    layout.closedRows shared (i + 1) = layout.closedRows shared i := by
  have hlast : ¬ (layout.roleAt shared i = .row ∧
      ∃ k < i + 1, i < k ∧ layout.roleAt shared k = .closer) := by
    rintro ⟨-, k, hk, hik, -⟩; omega
  rw [closedRows, List.range_succ, List.countP_append, List.countP_singleton, closedRows]
  simp only [hlast, decide_false, Bool.false_eq_true, if_false, Nat.add_zero]
  apply List.countP_congr
  intro j _
  simp only [decide_eq_true_eq]
  refine and_congr_right fun _ => ⟨fun ⟨k, hk, hjk, hcloser⟩ => ⟨k, ?_, hjk, hcloser⟩,
    fun ⟨k, hk, hjk, hcloser⟩ => ⟨k, by omega, hjk, hcloser⟩⟩
  have hne : k ≠ i := fun hki => h (hki ▸ hcloser)
  omega

theorem eventsBefore_succ (layout : Layout) (pairs : List (Text × Text)) (i : Nat) :
    layout.eventsBefore pairs (i + 1) = layout.eventsBefore pairs i ++ layout.eventsAt pairs i := by
  simp [eventsBefore, List.range_succ]

theorem eventsBefore_map {pairs' : List (Text × Text)} {α : Type} {g g' : Event → α}
    (h : ∀ j < i, (layout.eventsAt pairs' j).map g' = (layout.eventsAt pairs j).map g) :
    (layout.eventsBefore pairs' i).map g' = (layout.eventsBefore pairs i).map g := by
  induction i with
  | zero => rfl
  | succ i ih =>
    rw [eventsBefore_succ, eventsBefore_succ, List.map_append, List.map_append, h i (Nat.lt_succ_self i),
      ih fun j hj => h j (Nat.lt_succ_of_lt hj)]

theorem rowsSince_subset (layout : Layout) (pairs : List (Text × Text)) (i : Nat) :
    layout.rowsSince pairs i ⊆ pairs := by
  induction i with
  | zero => exact List.nil_subset _
  | succ i ih =>
    rw [rowsSince]
    cases layout.roleAt (sharedAt pairs) i with
    | header => exact List.nil_subset _
    | underline => exact ih
    | row => exact List.append_subset.2 ⟨ih, fun p hp => List.mem_of_getElem? (Option.mem_toList.1 hp)⟩
    | closer => exact ih

/-- What is wrong is either the headers that stand at the position or the rows of the block that is
closed there. -/
theorem cases_of_faultAt {m : Mismatch} (h : layout.faultAt pairs i = some m) :
    (layout.roleAt (sharedAt pairs) i = .header ∧ ∃ p, pairs[i]? = some p ∧
      Mismatch.ofHeaders? (layout.closersBefore (sharedAt pairs) i) p.1 p.2 = some m) ∨
    (layout.roleAt (sharedAt pairs) i = .closer ∧
      Mismatch.ofRows? (layout.closersBefore (sharedAt pairs) i)
        ((layout.rowsSince pairs i).map Prod.fst) ((layout.rowsSince pairs i).map Prod.snd) = some m) := by
  unfold faultAt at h
  cases hr : layout.roleAt (sharedAt pairs) i with
  | header =>
    rw [hr] at h
    exact .inl ⟨rfl, Option.bind_eq_some_iff.1 h⟩
  | underline =>
    rw [hr] at h
    cases h
  | row =>
    rw [hr] at h
    cases h
  | closer =>
    rw [hr] at h
    exact .inr ⟨rfl, h⟩

theorem queryIndex_of_faultAt {m : Mismatch} (h : layout.faultAt pairs i = some m) :
    m.queryIndex = some (layout.closersBefore (sharedAt pairs) i) := by
  rcases cases_of_faultAt h with ⟨-, p, -, hheaders⟩ | ⟨-, hrows⟩
  · exact Mismatch.queryIndex_of_ofHeaders? hheaders
  · exact Mismatch.queryIndex_of_ofRows? hrows

/-- A header position without a fault holds equal headers, a closer without one matching rows. -/
theorem faultAt_eq_none_iff {p : Text × Text} (hp : pairs[i]? = some p) :
    layout.faultAt pairs i = none ↔
      (layout.roleAt (sharedAt pairs) i = .header → (headersEqual p.1 p.2).value = .ok true) ∧
      (layout.roleAt (sharedAt pairs) i = .closer →
        ((layout.rowsSince pairs i).map Prod.fst).Perm ((layout.rowsSince pairs i).map Prod.snd)) := by
  unfold Layout.faultAt
  cases layout.roleAt (sharedAt pairs) i <;>
    simp [hp, Mismatch.ofHeaders?_eq_none_iff, Mismatch.ofRows?_eq_none_iff]

/-- Where both sides hold the same headers and the same rows, nothing is wrong. -/
theorem faultAt_eq_none_of_eq
    (hheader : layout.roleAt (sharedAt pairs) i = .header → ∀ p ∈ pairs[i]?, p.1 = p.2)
    (hrows : layout.roleAt (sharedAt pairs) i = .closer → ∀ q ∈ layout.rowsSince pairs i, q.1 = q.2) :
    layout.faultAt pairs i = none := by
  unfold faultAt
  cases hr : layout.roleAt (sharedAt pairs) i with
  | header =>
    cases hp : pairs[i]? with
    | none => rfl
    | some p =>
      have hequal : (headersEqual p.1 p.2).value = .ok true := by
        rw [hheader hr p hp, headersEqual_self]
        rfl
      exact Mismatch.ofHeaders?_eq_none_iff.2 hequal
  | underline => rfl
  | row => rfl
  | closer =>
    simp only [Mismatch.ofRows?_eq_none_iff]
    rw [List.map_congr_left (hrows hr)]

/-- A warning is reported only where something is wrong. -/
theorem level_ne_warn_of_mem_eventsAt (hok : layout.faultAt pairs i = none) {ev : Event}
    (hev : ev ∈ layout.eventsAt pairs i) : ev.level ≠ .warn := by
  unfold eventsAt at hev
  cases hr : layout.roleAt (sharedAt pairs) i with
  | header =>
    rw [hr] at hev
    cases hp : pairs[i]? with
    | none =>
      rw [hp] at hev
      cases hev
    | some p =>
      have hequal := ((faultAt_eq_none_iff hp).1 hok).1 hr
      simp only [hp, Option.elim_some, headersEqual_events hequal] at hev
      cases hev
  | underline =>
    rw [hr] at hev
    cases hev
  | row =>
    rw [hr] at hev
    cases hev
  | closer =>
    simp only [hr, hok, if_true, List.mem_singleton] at hev
    rw [hev]
    exact nofun

/-- Either no position has a fault or there is a first one that has. -/
theorem faultless_or_first_fault (layout : Layout) (pairs : List (Text × Text)) (n : Nat) :
    (∀ i < n, layout.faultAt pairs i = none) ∨
      ∃ i < n, ∃ m, layout.faultAt pairs i = some m ∧ ∀ j < i, layout.faultAt pairs j = none := by
  by_cases h : ∃ i < n, layout.faultAt pairs i ≠ none
  · obtain ⟨hlt, hne⟩ := Nat.find_spec h
    obtain ⟨m, hm⟩ := Option.ne_none_iff_exists'.1 hne
    refine .inr ⟨Nat.find h, hlt, m, hm, fun j hj => ?_⟩
    by_contra hfault
    exact Nat.find_min h hj ⟨Nat.lt_trans hj hlt, hfault⟩
  · push Not at h
    exact .inl h

end Layout

/-- A scan of which the first `i` lines had no fault. -/
structure Reached (layout : Layout) (pairs : List (Text × Text)) (i : Nat) (s : Scan) : Prop where
  phase : s.phase = layout.phaseAt (sharedAt pairs) i
  /-- No rows are open where a header comes next. -/
  fresh : s.phase = .atHeader → s.pending = []
  pending : s.phase ≠ .atHeader → s.pending.reverse = layout.rowsSince pairs i
  queries : s.matched.queries = layout.closersBefore (sharedAt pairs) i
  rows : s.matched.rows = layout.closedRows (sharedAt pairs) i
  total : s.matched.rows + s.pending.length = layout.rowsBefore (sharedAt pairs) i
  log : s.log.reverse = layout.eventsBefore pairs i

namespace Reached

variable {c : Comparator} {pairs : List (Text × Text)} {i : Nat} {s : Scan} {p : Text × Text}

theorem start (layout : Layout) (pairs : List (Text × Text)) : Reached layout pairs 0 .start :=
  ⟨rfl, fun _ => rfl, fun h => absurd rfl h, rfl, rfl, rfl, rfl⟩

theorem role_eq (h : Reached c.layout pairs i s) (hp : pairs[i]? = some p) :
    c.layout.role s.phase (sharedSeparator p) = c.layout.roleAt (sharedAt pairs) i := by
  have hshared : sharedAt pairs i = sharedSeparator p := by simp [sharedAt, hp]
  rw [← Layout.role_phaseAt, h.phase, hshared]

theorem phase_ne (h : Reached c.layout pairs i s) (hp : pairs[i]? = some p)
    (hr : c.layout.roleAt (sharedAt pairs) i ≠ .header) : s.phase ≠ .atHeader :=
  Layout.phase_ne_atHeader (h.role_eq hp) hr

theorem phaseAt_succ (hp : pairs[i]? = some p) {r : Role}
    (hr : c.layout.roleAt (sharedAt pairs) i = r) :
    c.layout.phaseAt (sharedAt pairs) (i + 1) = c.layout.after (sharedSeparator p) r := by
  have hshared : sharedAt pairs i = sharedSeparator p := by simp [sharedAt, hp]
  rw [Layout.phaseAt, hr, hshared]

theorem log_of_silent (h : Reached c.layout pairs i s) (hevents : c.layout.eventsAt pairs i = []) :
    s.log.reverse = c.layout.eventsBefore pairs (i + 1) := by
  rw [Layout.eventsBefore_succ, hevents, List.append_nil, h.log]

theorem header (h : Reached c.layout pairs i s) (hp : pairs[i]? = some p)
    (hr : c.layout.roleAt (sharedAt pairs) i = .header) (hok : c.layout.faultAt pairs i = none) :
    Reached c.layout pairs (i + 1)
      { s with phase := c.layout.after (sharedSeparator p) .header } := by
  have hph : s.phase = .atHeader := Layout.role_eq_header_iff.1 ((h.role_eq hp).trans hr)
  have hempty := h.fresh hph
  have hne : c.layout.roleAt (sharedAt pairs) i ≠ .closer := by rw [hr]; decide
  have hequal := ((Layout.faultAt_eq_none_iff hp).1 hok).1 hr
  have hsilent : c.layout.eventsAt pairs i = [] := by
    simp [Layout.eventsAt, hr, hp, headersEqual_events hequal]
  refine ⟨(phaseAt_succ hp hr).symm, fun _ => hempty, fun _ => ?_, ?_, ?_, ?_, h.log_of_silent hsilent⟩
  · simp [Layout.rowsSince, hr, hempty]
  · simp [Layout.closersBefore_succ, hr, h.queries]
  · simp [Layout.closedRows_succ_of_ne hne, h.rows]
  · simp [Layout.rowsBefore_succ, hr, h.total]

theorem underline (h : Reached c.layout pairs i s) (hp : pairs[i]? = some p)
    (hr : c.layout.roleAt (sharedAt pairs) i = .underline) :
    Reached c.layout pairs (i + 1) { s with phase := .inRows } := by
  have hph := h.phase_ne hp (by rw [hr]; decide)
  have hne : c.layout.roleAt (sharedAt pairs) i ≠ .closer := by rw [hr]; decide
  have hsilent : c.layout.eventsAt pairs i = [] := by simp [Layout.eventsAt, hr]
  refine ⟨?_, nofun, fun _ => ?_, ?_, ?_, ?_, h.log_of_silent hsilent⟩
  · rw [phaseAt_succ hp hr, Layout.after_underline]
  · simp [Layout.rowsSince, hr, h.pending hph]
  · simp [Layout.closersBefore_succ, hr, h.queries]
  · simp [Layout.closedRows_succ_of_ne hne, h.rows]
  · simp [Layout.rowsBefore_succ, hr, h.total]

theorem row (h : Reached c.layout pairs i s) (hp : pairs[i]? = some p)
    (hr : c.layout.roleAt (sharedAt pairs) i = .row) :
    Reached c.layout pairs (i + 1) { s with phase := .inRows, pending := p :: s.pending } := by
  have hph := h.phase_ne hp (by rw [hr]; decide)
  have hne : c.layout.roleAt (sharedAt pairs) i ≠ .closer := by rw [hr]; decide
  have htotal := h.total
  have hsilent : c.layout.eventsAt pairs i = [] := by simp [Layout.eventsAt, hr]
  refine ⟨?_, nofun, fun _ => ?_, ?_, ?_, ?_, h.log_of_silent hsilent⟩
  · rw [phaseAt_succ hp hr, Layout.after_row]
  · simp [Layout.rowsSince, hr, h.pending hph, hp]
  · simp [Layout.closersBefore_succ, hr, h.queries]
  · simp [Layout.closedRows_succ_of_ne hne, h.rows]
  · simp [Layout.rowsBefore_succ, hr]; omega

/-- At a closer, the rows that the scan keeps are those since the last header, in reverse. -/
theorem rowsSince_eq (h : Reached c.layout pairs i s) (hp : pairs[i]? = some p)
    (hr : c.layout.roleAt (sharedAt pairs) i = .closer) :
    c.layout.rowsSince pairs i = s.pending.reverse :=
  (h.pending (h.phase_ne hp (by rw [hr]; decide))).symm

theorem closer (h : Reached c.layout pairs i s) (hp : pairs[i]? = some p)
    (hr : c.layout.roleAt (sharedAt pairs) i = .closer) (hok : c.layout.faultAt pairs i = none) :
    Reached c.layout pairs (i + 1) s.closed := by
  have hevents : c.layout.eventsAt pairs i =
      [.blockMatched (s.matched.queries + 1) s.pending.length] := by
    simp [Layout.eventsAt, hr, hok, h.rowsSince_eq hp hr, h.queries]
  refine ⟨?_, fun _ => rfl, fun hat => absurd rfl hat, ?_, ?_, ?_, ?_⟩
  · rw [phaseAt_succ hp hr, Layout.after_closer]; rfl
  · simp [Scan.closed, Layout.closersBefore_succ, hr, h.queries]
  · rw [Layout.closedRows_succ_of_closer hr, ← h.total]; rfl
  · simp [Scan.closed, Layout.rowsBefore_succ, hr, h.total]
  · rw [Layout.eventsBefore_succ, hevents, ← h.log]
    simp [Scan.closed]

/-- A step goes on exactly if its position has no fault, and otherwise ends with that fault. -/
theorem step (h : Reached c.layout pairs i s) (hp : pairs[i]? = some p) :
    match c.layout.faultAt pairs i with
    | none => ∃ s', Scan.step c s p = .ok s' ∧ Reached c.layout pairs (i + 1) s'
    | some m => ∃ log, Scan.step c s p = .error ⟨m, log⟩ ∧
        log.reverse = c.layout.eventsBefore pairs (i + 1) := by
  have hrole := h.role_eq hp
  cases hr : c.layout.roleAt (sharedAt pairs) i with
  | header =>
    have hfault : c.layout.faultAt pairs i = Mismatch.ofHeaders? s.matched.queries p.1 p.2 := by
      simp [Layout.faultAt, hr, hp, h.queries]
    rw [Scan.step_header (hrole.trans hr), Scan.header_eq, ← hfault]
    cases hm : c.layout.faultAt pairs i with
    | none => exact ⟨_, rfl, h.header hp hr hm⟩
    | some m =>
      refine ⟨_, rfl, ?_⟩
      rw [List.reverse_append, List.reverse_reverse, Layout.eventsBefore_succ, h.log]
      simp [Layout.eventsAt, hr, hp]
  | underline =>
    have hfault : c.layout.faultAt pairs i = none := by simp [Layout.faultAt, hr]
    rw [hfault]
    exact ⟨_, Scan.step_underline (hrole.trans hr), h.underline hp hr⟩
  | row =>
    have hfault : c.layout.faultAt pairs i = none := by simp [Layout.faultAt, hr]
    rw [hfault]
    exact ⟨_, Scan.step_row (hrole.trans hr), h.row hp hr⟩
  | closer =>
    -- the scan keeps the rows in reverse, which no check of rows can tell
    have hfault : c.layout.faultAt pairs i =
        Mismatch.ofRows? s.matched.queries (s.pending.map Prod.fst) (s.pending.map Prod.snd) := by
      simp only [Layout.faultAt, hr, h.rowsSince_eq hp hr, ← h.queries]
      exact Mismatch.ofRows?_congr (s.pending.reverse_perm.map _) (s.pending.reverse_perm.map _)
    rw [Scan.step_closer (hrole.trans hr), Scan.close_eq, ← hfault]
    cases hm : c.layout.faultAt pairs i with
    | none => exact ⟨_, rfl, h.closer hp hr hm⟩
    | some m => exact ⟨_, rfl, h.log_of_silent (by simp [Layout.eventsAt, hr, hm])⟩

theorem run (c : Comparator) {pairs : List (Text × Text)} {i : Nat} (hi : i ≤ pairs.length)
    (hok : ∀ j < i, c.layout.faultAt pairs j = none) :
    ∃ s, Scan.run c .start (pairs.take i) = .ok s ∧ Reached c.layout pairs i s := by
  induction i with
  | zero => exact ⟨.start, rfl, start c.layout pairs⟩
  | succ i ih =>
    obtain ⟨s, hs, hreached⟩ := ih (by omega) fun j hj => hok j (by omega)
    have hp : pairs[i]? = some pairs[i] := List.getElem?_eq_getElem (by omega)
    have hstep := hreached.step hp
    rw [hok i (Nat.lt_succ_self i)] at hstep
    obtain ⟨s', hs', hreached'⟩ := hstep
    refine ⟨s', ?_, hreached'⟩
    rw [List.take_succ_eq_append_getElem (by omega), Scan.run_append_of_ok hs]
    exact Scan.run_cons_of_ok hs' []

theorem run_of_first_fault (c : Comparator) {pairs : List (Text × Text)} {i : Nat} {m : Mismatch}
    (hi : i < pairs.length) (hm : c.layout.faultAt pairs i = some m)
    (hok : ∀ j < i, c.layout.faultAt pairs j = none) :
    ∃ log, Scan.run c .start pairs = .error ⟨m, log⟩ ∧
      log.reverse = c.layout.eventsBefore pairs (i + 1) := by
  obtain ⟨s, hs, hreached⟩ := Reached.run c (Nat.le_of_lt hi) hok
  have hstep := hreached.step (List.getElem?_eq_getElem hi)
  rw [hm] at hstep
  obtain ⟨log, hlog, hevents⟩ := hstep
  refine ⟨log, ?_, hevents⟩
  rw [← List.take_append_drop i pairs, Scan.run_append_of_ok hs, List.drop_eq_getElem_cons hi,
    Scan.run_cons, hlog]
  rfl

theorem of_run_take (hi : i ≤ pairs.length) (hs : Scan.run c .start (pairs.take i) = .ok s) :
    Reached c.layout pairs i s := by
  induction i generalizing s with
  | zero =>
    cases hs
    exact start c.layout pairs
  | succ i ih =>
    rw [List.take_succ_eq_append_getElem hi] at hs
    obtain ⟨s₁, hrun, hlast⟩ := Scan.run_append_ok hs
    obtain ⟨s₂, hstep, hend⟩ := Scan.run_cons_ok hlast
    cases hend
    have hreached := (ih (Nat.le_of_succ_le hi) hrun).step (List.getElem?_eq_getElem hi)
    rw [hstep] at hreached
    split at hreached
    · obtain ⟨s', hs', hreached'⟩ := hreached
      cases hs'
      exact hreached'
    · obtain ⟨log, hlog, -⟩ := hreached
      cases hlog

theorem of_run (hs : Scan.run c .start pairs = .ok s) : Reached c.layout pairs pairs.length s := by
  rw [← List.take_length (l := pairs)] at hs
  exact of_run_take le_rfl hs

theorem finish (h : Reached c.layout pairs pairs.length s) :
    s.finish = ⟨.agree ⟨c.layout.closersBefore (sharedAt pairs) pairs.length,
        c.layout.closedRows (sharedAt pairs) pairs.length⟩,
      c.layout.eventsBefore pairs pairs.length ++ c.layout.eventsAtEnd pairs⟩ := by
  have hmatched : s.matched = ⟨c.layout.closersBefore (sharedAt pairs) pairs.length,
      c.layout.closedRows (sharedAt pairs) pairs.length⟩ := by
    rw [← h.queries, ← h.rows]
  have hunclosed : c.layout.rowsBefore (sharedAt pairs) pairs.length -
      c.layout.closedRows (sharedAt pairs) pairs.length = s.pending.length := by
    rw [← h.total, ← h.rows, Nat.add_sub_cancel_left]
  rw [Scan.finish, Layout.eventsAtEnd, hunclosed, ← h.log, hmatched]
  cases s.pending <;> simp

end Reached

namespace Comparator

variable {c : Comparator} {actual expected : Lines}

theorem compare_of_no_fault (h : actual.size = expected.size)
    (hok : ∀ i < actual.size, c.layout.faultAt (actual.toList.zip expected.toList) i = none) :
    let pairs := actual.toList.zip expected.toList
    c.compare actual expected =
      ⟨.agree ⟨c.layout.closersBefore (sharedAt pairs) actual.size,
          c.layout.closedRows (sharedAt pairs) actual.size⟩,
        c.layout.eventsBefore pairs actual.size ++ c.layout.eventsAtEnd pairs⟩ := by
  intro pairs
  obtain ⟨s, hs, hreached⟩ := Reached.run c (Nat.le_of_eq (length_zip h).symm) hok
  rw [← length_zip h] at hreached hs ⊢
  rw [List.take_length] at hs
  rw [compare_of_run_ok h hs, hreached.finish]

theorem compare_of_first_fault {i : Nat} {m : Mismatch} (h : actual.size = expected.size)
    (hi : i < actual.size)
    (hm : c.layout.faultAt (actual.toList.zip expected.toList) i = some m)
    (hok : ∀ j < i, c.layout.faultAt (actual.toList.zip expected.toList) j = none) :
    c.compare actual expected =
      ⟨.differ m, c.layout.eventsBefore (actual.toList.zip expected.toList) (i + 1)⟩ := by
  rw [← length_zip h] at hi
  obtain ⟨log, hlog, hevents⟩ := Reached.run_of_first_fault c hi hm hok
  rw [← hevents]
  exact compare_of_run_error h hlog

theorem value_of_no_fault (h : actual.size = expected.size)
    (hok : ∀ i < actual.size, c.layout.faultAt (actual.toList.zip expected.toList) i = none) :
    (c.compare actual expected).value =
      .agree ⟨c.layout.closersBefore (sharedAt (actual.toList.zip expected.toList)) actual.size,
        c.layout.closedRows (sharedAt (actual.toList.zip expected.toList)) actual.size⟩ :=
  congrArg Logged.value (compare_of_no_fault h hok)

theorem value_of_first_fault {i : Nat} {m : Mismatch} (h : actual.size = expected.size)
    (hi : i < actual.size)
    (hm : c.layout.faultAt (actual.toList.zip expected.toList) i = some m)
    (hok : ∀ j < i, c.layout.faultAt (actual.toList.zip expected.toList) j = none) :
    (c.compare actual expected).value = .differ m :=
  congrArg Logged.value (compare_of_first_fault h hi hm hok)

theorem no_fault_of_value_agree {t : Summary} (h : (c.compare actual expected).value = .agree t) :
    actual.size = expected.size ∧
      ∀ i < actual.size, c.layout.faultAt (actual.toList.zip expected.toList) i = none := by
  obtain ⟨hsize, -⟩ := run_of_value_agree h
  refine ⟨hsize, ?_⟩
  rcases c.layout.faultless_or_first_fault (actual.toList.zip expected.toList) actual.size with
    hok | ⟨i, hi, m, hm, hok⟩
  · exact hok
  · rw [value_of_first_fault hsize hi hm hok] at h
    cases h

theorem first_fault_of_value_differ {m : Mismatch} (hsize : actual.size = expected.size)
    (h : (c.compare actual expected).value = .differ m) :
    ∃ i < actual.size, c.layout.faultAt (actual.toList.zip expected.toList) i = some m ∧
      ∀ j < i, c.layout.faultAt (actual.toList.zip expected.toList) j = none := by
  rcases c.layout.faultless_or_first_fault (actual.toList.zip expected.toList) actual.size with
    hok | ⟨i, hi, m', hm, hok⟩
  · rw [value_of_no_fault hsize hok] at h
    cases h
  · rw [value_of_first_fault hsize hi hm hok] at h
    cases h
    exact ⟨i, hi, hm, hok⟩

/-- Dumps that match give rise to no warning. -/
theorem level_ne_warn_of_value_agree {t : Summary}
    (h : (c.compare actual expected).value = .agree t) :
    ∀ ev ∈ (c.compare actual expected).events, ev.level ≠ .warn := by
  intro ev hev
  obtain ⟨hsize, hok⟩ := no_fault_of_value_agree h
  rw [compare_of_no_fault hsize hok] at hev
  rcases List.mem_append.1 hev with hev | hev
  · obtain ⟨i, hi, hev⟩ := List.mem_flatMap.1 hev
    exact Layout.level_ne_warn_of_mem_eventsAt (hok i (List.mem_range.1 hi)) hev
  · simp only [Layout.eventsAtEnd] at hev
    split at hev
    · cases hev
    · rw [List.mem_singleton.1 hev]
      exact nofun

/-- Dumps of different lengths differ in length. Others match, with so many closers and rows in front
of the last closer, exactly if all headers are equal and every closer has matching rows before it;
otherwise the fault of the first position that has one is the verdict. -/
theorem value_by_position (c : Comparator) (actual expected : Lines) :
    (actual.size ≠ expected.size →
      (c.compare actual expected).value = .differ (.length actual.size expected.size)) ∧
    (actual.size = expected.size →
      let pairs := actual.toList.zip expected.toList
      let role := c.layout.roleAt (sharedAt pairs)
      let rows := c.layout.rowsSince pairs
      ((c.compare actual expected).value =
          .agree ⟨c.layout.closersBefore (sharedAt pairs) actual.size,
            c.layout.closedRows (sharedAt pairs) actual.size⟩ ↔
        ∀ i p, pairs[i]? = some p →
          (role i = .header → (headersEqual p.1 p.2).value = .ok true) ∧
          (role i = .closer → ((rows i).map Prod.fst).Perm ((rows i).map Prod.snd))) ∧
      ∀ i < actual.size, ∀ m, c.layout.faultAt pairs i = some m →
        (∀ j < i, c.layout.faultAt pairs j = none) → (c.compare actual expected).value = .differ m) := by
  refine ⟨value_of_size_ne, fun h => ⟨⟨fun hagree => ?_, fun hall => ?_⟩,
    fun i hi m hm hok => value_of_first_fault h hi hm hok⟩⟩
  · -- were there a fault, the first one would be the verdict
    intro i p hp
    rw [← Layout.faultAt_eq_none_iff hp]
    by_contra hfault
    have hex : ∃ j, c.layout.faultAt (actual.toList.zip expected.toList) j ≠ none := ⟨i, hfault⟩
    have hi : i < actual.size := by
      rw [← length_zip h]; exact (List.getElem?_eq_some_iff.1 hp).1
    obtain ⟨m, hm⟩ := Option.ne_none_iff_exists'.1 (Nat.find_spec hex)
    have hfirst := value_of_first_fault h (Nat.lt_of_le_of_lt (Nat.find_min' hex hfault) hi) hm
      fun j hj => not_not.1 (Nat.find_min hex hj)
    rw [hfirst] at hagree
    cases hagree
  · refine value_of_no_fault h fun i hi => ?_
    have hp := List.getElem?_eq_getElem (by rw [length_zip h]; exact hi)
    exact (Layout.faultAt_eq_none_iff hp).2 (hall i _ hp)

/-- A first block with the same row on both sides, and a second one with another row, which is found at
its closer. -/
example :
    let actual := Lines.ofList (["n CountOfId", "-", "a 1", "-", "k", "-", "x", "y", "-"].map String.toList)
    let expected := Lines.ofList (["N Count(Id)", "-", "a 1", "-", "k", "-", "y", "z", "-"].map String.toList)
    let m : Mismatch := .rowSet 1 ["z".toList] ["x".toList]
    Layout.faultAt .underlined (actual.toList.zip expected.toList) 8 = some m ∧
      (compare ⟨.underlined, .multiset⟩ actual expected).value = .differ m := by
  decide +kernel

/-- Where every line has the same part, what is found at a position that a comparison comes to is the
same up to `f`, and what is reported there looks the same through `g` and `g'`, so do all reports, and
either both comparisons match or both end at the same position. -/
theorem compare_map_at {actual' expected' : Lines} {α : Type} (f : Nat → Mismatch → Mismatch)
    (g g' : Event → α) (hg : ∀ n, g' (.tailNotCompared n) = g (.tailNotCompared n))
    (h : actual.size = expected.size) (h' : actual'.size = expected'.size)
    (hsize : actual'.size = actual.size)
    (hrole : c.layout.roleAt (sharedAt (actual'.toList.zip expected'.toList)) =
      c.layout.roleAt (sharedAt (actual.toList.zip expected.toList)))
    (hat : ∀ i < actual.size,
      (∀ j < i, c.layout.faultAt (actual.toList.zip expected.toList) j = none) →
        c.layout.faultAt (actual'.toList.zip expected'.toList) i =
          (c.layout.faultAt (actual.toList.zip expected.toList) i).map (f i) ∧
        (c.layout.eventsAt (actual'.toList.zip expected'.toList) i).map g' =
          (c.layout.eventsAt (actual.toList.zip expected.toList) i).map g) :
    (c.compare actual' expected').events.map g' = (c.compare actual expected).events.map g ∧
      ((∃ t, (c.compare actual expected).value = .agree t ∧
          (c.compare actual' expected').value = .agree t) ∨
        ∃ i m, c.layout.faultAt (actual.toList.zip expected.toList) i = some m ∧
          (∀ j < i, c.layout.faultAt (actual.toList.zip expected.toList) j = none) ∧ i < actual.size ∧
          (c.compare actual expected).value = .differ m ∧
          (c.compare actual' expected').value = .differ (f i m)) := by
  rcases c.layout.faultless_or_first_fault (actual.toList.zip expected.toList) actual.size with
    hok | ⟨i, hi, m, hm, hok⟩
  · have hall := fun i hi => hat i hi fun j hj => hok j (Nat.lt_trans hj hi)
    have hok' : ∀ i < actual'.size,
        c.layout.faultAt (actual'.toList.zip expected'.toList) i = none := by
      intro i hi
      rw [hsize] at hi
      rw [(hall i hi).1, hok i hi]
      rfl
    have hend : (c.layout.eventsAtEnd (actual'.toList.zip expected'.toList)).map g' =
        (c.layout.eventsAtEnd (actual.toList.zip expected.toList)).map g := by
      simp only [Layout.eventsAtEnd, Layout.rowsBefore, Layout.closedRows, hrole, length_zip h,
        length_zip h', hsize]
      split <;> simp [hg]
    rw [compare_of_no_fault h hok, compare_of_no_fault h' hok', hsize]
    refine ⟨?_, .inl ⟨_, rfl, ?_⟩⟩
    · rw [List.map_append, List.map_append, Layout.eventsBefore_map fun i hi => (hall i hi).2, hend]
    · simp only [Layout.closersBefore, Layout.closedRows, hrole]
  · -- up to the first fault no position has one, so the comparison comes to all of them
    have hall := fun j (hj : j < i + 1) => hat j (by omega) fun k hk => hok k (by omega)
    have hm' := (hall i (Nat.lt_succ_self i)).1
    rw [hm] at hm'
    have hok' : ∀ j < i, c.layout.faultAt (actual'.toList.zip expected'.toList) j = none := by
      intro j hj
      rw [(hall j (Nat.lt_succ_of_lt hj)).1, hok j hj]
      rfl
    rw [compare_of_first_fault h hi hm hok, compare_of_first_fault h' (hsize.symm ▸ hi) hm' hok']
    exact ⟨Layout.eventsBefore_map fun j hj => (hall j hj).2, .inr ⟨i, m, hm, hok, hi, rfl, rfl⟩⟩

/-- Where the same separators are shared, and what is found and reported at every position that a
comparison comes to is the same up to `f` and `g`, so is the outcome. -/
theorem compare_map {actual' expected' : Lines} (f : Mismatch → Mismatch) (g : Event → Event)
    (hg : ∀ n, g (.tailNotCompared n) = .tailNotCompared n)
    (h : actual.size = expected.size) (h' : actual'.size = expected'.size)
    (hsize : actual'.size = actual.size)
    (hshared : sharedAt (actual'.toList.zip expected'.toList) =
      sharedAt (actual.toList.zip expected.toList))
    (hat : ∀ i < actual.size,
      (∀ j < i, c.layout.faultAt (actual.toList.zip expected.toList) j = none) →
        c.layout.faultAt (actual'.toList.zip expected'.toList) i =
          (c.layout.faultAt (actual.toList.zip expected.toList) i).map f ∧
        c.layout.eventsAt (actual'.toList.zip expected'.toList) i =
          (c.layout.eventsAt (actual.toList.zip expected.toList) i).map g) :
    c.compare actual' expected' =
      ⟨(c.compare actual expected).value.map f, (c.compare actual expected).events.map g⟩ := by
  obtain ⟨hevents, hvalue⟩ := compare_map_at (c := c) (fun _ => f) g id (fun n => (hg n).symm) h h' hsize
    (by rw [hshared]) fun i hi hok => by
      rw [List.map_id]
      exact hat i hi hok
  rw [List.map_id] at hevents
  rw [← hevents]
  rcases hvalue with ⟨t, ht, ht'⟩ | ⟨i, m, -, -, -, hm, hm'⟩
  · rw [ht, Verdict.map, ← ht']
  · rw [hm, Verdict.map, ← hm']

/-- Where the same separators are shared, the same is found and the same is reported at every position,
two comparisons are the same. -/
theorem compare_congr {actual' expected' : Lines} (h : actual.size = expected.size)
    (h' : actual'.size = expected'.size) (hsize : actual'.size = actual.size)
    (hshared : sharedAt (actual'.toList.zip expected'.toList) =
      sharedAt (actual.toList.zip expected.toList))
    (hfault : ∀ i < actual.size, c.layout.faultAt (actual'.toList.zip expected'.toList) i =
      c.layout.faultAt (actual.toList.zip expected.toList) i)
    (hevents : ∀ i < actual.size, c.layout.eventsAt (actual'.toList.zip expected'.toList) i =
      c.layout.eventsAt (actual.toList.zip expected.toList) i) :
    c.compare actual' expected' = c.compare actual expected := by
  have hmap := compare_map (c := c) id id (fun _ => rfl) h h' hsize hshared fun i hi _ => by
    rw [hfault i hi, hevents i hi, Option.map_id, List.map_id]
    exact ⟨rfl, rfl⟩
  rw [hmap, Verdict.map_id, List.map_id]

end Comparator
end DumpCheck
