import DumpCheck.Proofs.Reports
import DumpCheck.Proofs.RowDifference

/-!
# What the number of lines leaves to be counted

Every line that a scan has passed is a header, an underline, a row or a closer (`Scan.Accounted.total`).
A block that is closed has a header and a closer of its own, and in the underlined layout a line between
them, since a separator directly behind a header is taken for its underline. So the lines of two dumps
bound the blocks and rows that a comparison counts, and the number of the block that it finds to differ
(`Comparator.counters_within_lines`).
-/

namespace DumpCheck

namespace Layout

/-- A block is not closed directly behind its header where that has an underline. -/
theorem eq_inRows_of_closer {phase : Phase} {shared : Bool} (h : underlined.role phase shared = .closer) :
    phase = .inRows := by
  revert h
  cases phase <;> cases shared <;> decide

theorem after_header_ne_inRows (layout : Layout) (shared : Bool) : layout.after shared .header ≠ .inRows := by
  cases layout <;> cases shared <;> decide

end Layout

/-- The lines that a scan has passed, by their parts. -/
structure Scan.Accounted (layout : Layout) (headers underlines lines : Nat) (s : Scan) : Prop where
  total : headers + underlines + (s.matched.rows + s.pending.length) + s.matched.queries = lines
  /-- Each closed block has a header, and the block that is under way has one more. -/
  headers_ge : s.matched.queries ≤ headers
  headers_gt : s.phase ≠ .atHeader → s.matched.queries < headers
  /-- In the underlined layout, behind the header of each there is an underline or a row. -/
  inner_ge : layout = .underlined → s.matched.queries ≤ underlines + (s.matched.rows + s.pending.length)
  inner_gt : layout = .underlined → s.phase = .inRows →
    s.matched.queries < underlines + (s.matched.rows + s.pending.length)

/-- The mismatch is in the block with this index and is found behind so many lines. -/
structure Mismatch.FoundBehind (layout : Layout) (lines query : Nat) (m : Mismatch) : Prop where
  queryIndex : m.queryIndex = some query
  two_mul_le : 2 * query ≤ lines
  three_mul_le : layout = .underlined → 3 * query ≤ lines
  missing_le : ∀ missing unexpected, m = .rowSet query missing unexpected →
    2 * query + 1 + missing.length ≤ lines

namespace Mismatch

variable {q k : Nat} {as es missing unexpected : List Text}

theorem length_missing_le (h : ofRows? q as es = some (.rowSet k missing unexpected)) :
    missing.length ≤ es.length := by
  unfold ofRows? at h
  split at h
  · cases h
  · cases h
    rw [(Rows.sort_perm _).length_eq]
    exact (List.diff_sublist es as).length_le

end Mismatch

namespace Scan

variable {c : Comparator} {s s' : Scan} {r : Rejection} {p : Text × Text} {headers underlines lines : Nat}

theorem accounted_start (layout : Layout) : start.Accounted layout 0 0 0 :=
  ⟨rfl, le_rfl, fun h => absurd rfl h, fun _ => le_rfl, fun _ => nofun⟩

namespace Accounted

theorem two_mul_add_le (h : s.Accounted c.layout headers underlines lines) :
    2 * s.matched.queries + (s.matched.rows + s.pending.length) ≤ lines := by
  have htotal := h.total
  have hheaders := h.headers_ge
  omega

theorem three_mul_le (h : s.Accounted c.layout headers underlines lines) (hl : c.layout = .underlined) :
    3 * s.matched.queries ≤ lines := by
  have htotal := h.total
  have hheaders := h.headers_ge
  have hinner := h.inner_ge hl
  omega

theorem header (h : s.Accounted c.layout headers underlines lines) {next : Phase} (hnext : next ≠ .inRows) :
    Accounted c.layout (headers + 1) underlines (lines + 1) { s with phase := next } := by
  have htotal := h.total
  refine ⟨?_, Nat.le_succ_of_le h.headers_ge, fun _ => Nat.lt_succ_of_le h.headers_ge, h.inner_ge,
    fun _ hrows => absurd hrows hnext⟩
  simp only
  omega

/-- An underline or a row: a line of the block that is neither its header nor its closer. -/
theorem inner (h : s.Accounted c.layout headers underlines lines) (hphase : s.phase ≠ .atHeader)
    {pending : List (Text × Text)} {u : Nat} (hone : u + pending.length = s.pending.length + 1) :
    Accounted c.layout headers (underlines + u) (lines + 1) { s with phase := .inRows, pending } := by
  have htotal := h.total
  have hgt : c.layout = .underlined →
      s.matched.queries < underlines + u + (s.matched.rows + pending.length) := by
    intro hl
    have hinner := h.inner_ge hl
    omega
  refine ⟨?_, h.headers_ge, fun _ => h.headers_gt hphase, fun hl => Nat.le_of_lt (hgt hl), fun hl _ => hgt hl⟩
  simp only
  omega

theorem closer (h : s.Accounted c.layout headers underlines lines)
    (hr : c.layout.role s.phase (sharedSeparator p) = .closer) :
    Accounted c.layout headers underlines (lines + 1) s.closed := by
  have htotal := h.total
  refine ⟨?_, h.headers_gt (Layout.phase_ne_atHeader hr (by decide)), fun hat => absurd rfl hat,
    fun hl => ?_, fun _ => nofun⟩
  · simp only [closed, List.length_nil]
    omega
  · rw [hl] at hr
    exact h.inner_gt hl (Layout.eq_inRows_of_closer hr)

theorem passes (h : s.Accounted c.layout headers underlines lines) (hp : Passes c s p s') :
    ∃ headers' underlines', s'.Accounted c.layout headers' underlines' (lines + 1) := by
  cases hp with
  | header _ _ => exact ⟨_, _, h.header (Layout.after_header_ne_inRows _ _)⟩
  | underline hr => exact ⟨_, _, h.inner (Layout.phase_ne_atHeader hr (by decide)) (Nat.add_comm 1 _)⟩
  | row hr => exact ⟨_, _, h.inner (Layout.phase_ne_atHeader hr (by decide)) (Nat.zero_add _)⟩
  | closer hr _ => exact ⟨_, _, h.closer hr⟩

theorem fails (h : s.Accounted c.layout headers underlines lines) (hf : Fails c s p r) :
    r.mismatch.FoundBehind c.layout lines s.matched.queries := by
  have htwo := h.two_mul_add_le
  cases hf with
  | header _ hm =>
    refine ⟨Mismatch.queryIndex_of_ofHeaders? hm, by omega, h.three_mul_le, fun missing unexpected heq => ?_⟩
    exact absurd (hm.trans (congrArg some heq)) Mismatch.ofHeaders?_ne_rowSet
  | closer hr hm =>
    refine ⟨Mismatch.queryIndex_of_ofRows? hm, by omega, h.three_mul_le, fun missing unexpected heq => ?_⟩
    -- the block that is not closed has a header too
    have hheaders := h.headers_gt (Layout.phase_ne_atHeader hr (by decide))
    have hmissing := Mismatch.length_missing_le (hm.trans (congrArg some heq))
    have htotal := h.total
    rw [List.length_map] at hmissing
    omega

theorem run (h : s.Accounted c.layout headers underlines lines) (pairs : List (Text × Text)) :
    match Scan.run c s pairs with
    | .ok s' => ∃ headers' underlines', s'.Accounted c.layout headers' underlines' (lines + pairs.length)
    | .error r => ∃ n query, n < lines + pairs.length ∧ r.mismatch.FoundBehind c.layout n query := by
  induction pairs generalizing s headers underlines lines with
  | nil => exact ⟨headers, underlines, h⟩
  | cons p pairs ih =>
    rw [run_cons, List.length_cons, ← Nat.succ_add_eq_add_succ]
    cases hstep : step c s p with
    | error r => exact ⟨lines, _, by omega, h.fails (fails_of_step hstep)⟩
    | ok s₁ =>
      obtain ⟨headers₁, underlines₁, h₁⟩ := h.passes (passes_of_step hstep)
      exact ih h₁

end Accounted
end Scan

namespace Comparator

variable {c : Comparator} {actual expected : Lines}

theorem accounted_of_scan {pairs : List (Text × Text)} {s : Scan} (hs : c.scan pairs = .ok s) :
    ∃ headers underlines, s.Accounted c.layout headers underlines pairs.length := by
  have hrun := (Scan.accounted_start c.layout).run (c := c) pairs
  rw [show Scan.run c .start pairs = .ok s from hs, Nat.zero_add] at hrun
  exact hrun

theorem foundBehind_of_value_differ (h : actual.size = expected.size) {m : Mismatch}
    (hm : (c.compare actual expected).value = .differ m) :
    ∃ n query, n < actual.size ∧ m.FoundBehind c.layout n query := by
  rcases run_of_value_differ hm with ⟨hsize, -⟩ | ⟨-, r, hr, rfl⟩
  · exact absurd h hsize
  have hrun := (Scan.accounted_start c.layout).run (c := c) (actual.toList.zip expected.toList)
  rw [hr, length_zip h, Nat.zero_add] at hrun
  exact hrun

/-- No scan of `i` lines counts more than they hold: at least two lines for a block, and one for each of
its rows, and in the underlined layout at least three for a block. The same holds of the totals of dumps
that match, and of the blocks in front of the one at which dumps of equal length are found to differ. So
the number of that block, as messages show it, is at most the number of lines, and a word of the machine
that can hold that number holds this one. -/
theorem counters_within_lines (c : Comparator) (h : actual.size = expected.size) :
    (∀ i s, c.scan ((actual.toList.zip expected.toList).take i) = .ok s →
      2 * s.matched.queries + (s.matched.rows + s.pending.length) ≤ i ∧
      (c.layout = .underlined → 3 * s.matched.queries ≤ i)) ∧
    (∀ t, (c.compare actual expected).value = .agree t →
      2 * t.queries + t.rows ≤ actual.size ∧ (c.layout = .underlined → 3 * t.queries ≤ actual.size)) ∧
    ∀ m, (c.compare actual expected).value = .differ m → ∃ k, m.queryIndex = some k ∧
      2 * k < actual.size ∧ (c.layout = .underlined → 3 * k < actual.size) ∧
      (∀ missing unexpected, m = .rowSet k missing unexpected →
        2 * k + 1 + missing.length < actual.size) ∧
      m.queryNumber = some (k + 1) ∧
      (∃ rest, m.message = "[query ".toList ++ (Text.ofNat (k + 1) ++ ']' :: rest)) ∧
      k + 1 ≤ actual.size ∧ (actual.size < USize.size → (USize.ofNat k + 1).toNat = k + 1) := by
  refine ⟨fun i s hs => ?_, fun t ht => ?_, fun m hm => ?_⟩
  · obtain ⟨headers, underlines, hacc⟩ := accounted_of_scan hs
    have hlength := List.length_take_le i (actual.toList.zip expected.toList)
    exact ⟨hacc.two_mul_add_le.trans hlength, fun hl => (hacc.three_mul_le hl).trans hlength⟩
  · obtain ⟨-, s, hs, rfl⟩ := run_of_value_agree ht
    obtain ⟨headers, underlines, hacc⟩ := accounted_of_scan hs
    have htwo := hacc.two_mul_add_le
    rw [length_zip h] at hacc htwo
    exact ⟨by omega, hacc.three_mul_le⟩
  · obtain ⟨n, k, hn, hfound⟩ := foundBehind_of_value_differ h hm
    have htwo := hfound.two_mul_le
    obtain ⟨rest, hmessage⟩ := Mismatch.message_of_queryIndex hfound.queryIndex
    refine ⟨k, hfound.queryIndex, by omega, fun hl => (hfound.three_mul_le hl).trans_lt hn,
      fun missing unexpected heq => (hfound.missing_le _ _ heq).trans_lt hn, ?_, ⟨_, hmessage⟩, by omega,
      fun hword => ?_⟩
    · rw [Mismatch.queryNumber, hfound.queryIndex]
      rfl
    · have hfits : k + 1 < USize.size := by omega
      rw [← USize.toNat_ofNat_of_lt hfits]
      exact congrArg USize.toNat (USize.ofNat_add k 1).symm

/-- The first block leaves nothing to spare, and the second one differs in both of its rows. -/
theorem counters_within_lines_of_two_blocks :
    let c : Comparator := ⟨.underlined, .multiset⟩
    let first := Lines.ofList (["h", "-", "-"].map String.toList)
    let actual := first ++ Lines.ofList (["k", "-", "x", "y", "-"].map String.toList)
    let expected := first ++ Lines.ofList (["k", "-", "z", "w", "-"].map String.toList)
    let differing : Mismatch := .rowSet 1 (["w", "z"].map String.toList) (["x", "y"].map String.toList)
    (c.compare first first).value = .agree ⟨1, 0⟩ ∧ 3 * 1 ≤ first.size ∧
      (c.compare actual expected).value = .differ differing ∧ 3 * 1 < actual.size ∧
      2 * 1 + 1 + 2 < actual.size ∧ differing.queryNumber = some 2 ∧ (USize.ofNat 1 + 1).toNat = 2 := by
  intro c first actual expected differing
  have hagree : (c.compare first first).value = .agree ⟨1, 0⟩ := by
    decide +kernel
  have hdiffer : (c.compare actual expected).value = .differ differing := by
    decide +kernel
  have hsize : actual.size = expected.size := rfl
  have hword : actual.size < USize.size := Nat.lt_of_lt_of_le (by decide) USize.le_size
  obtain ⟨-, htotals, -⟩ := counters_within_lines c (rfl : first.size = first.size)
  obtain ⟨-, -, hfound⟩ := counters_within_lines c hsize
  obtain ⟨k, hk, -, hthree, hmissing, hnumber, -, -, hfits⟩ := hfound differing hdiffer
  cases hk
  exact ⟨hagree, (htotals _ hagree).2 rfl, hdiffer, hthree rfl, hmissing _ _ rfl, hnumber, hfits hword⟩

end Comparator
end DumpCheck
