import DumpCheck.Proofs.Scan
import Mathlib

/-!
# Reading back what was written block by block

Two dumps are written from blocks that are framed alike and have equally many rows. Then a comparison
in the layout in which they are written checks one block after the other (`Scan.run_blocks`), and what
it finds does not depend on the layout (`Comparator.value_dump`).
-/

namespace DumpCheck

theorem dash_mem_trimStart {t : Text} : '-' ∈ t.trimStart ↔ '-' ∈ t := by
  refine ⟨fun h => (List.dropWhile_sublist _).mem h, fun h => ?_⟩
  rw [← List.takeWhile_append_dropWhile (p := Text.isBlank) (l := t), List.mem_append] at h
  refine h.resolve_left fun hmem => ?_
  exact absurd (List.all_eq_true.1 List.all_takeWhile _ hmem) (by decide)

@[simp] theorem isSeparator_trim (t : Text) : isSeparator t.trim = isSeparator t := by
  rw [Bool.eq_iff_iff]
  simp only [isSeparator, List.contains_iff_mem]
  rw [Text.trim, Text.trimEnd_eq, List.mem_reverse, dash_mem_trimStart, List.mem_reverse,
    dash_mem_trimStart]

/-- The block as a dump holds it. -/
def Block.trim (b : Block) : Block :=
  ⟨b.header.trim, b.underline.trim, b.rows.map Text.trim, b.closer.trim⟩

namespace Layout

def dump (layout : Layout) (blocks : List Block) : Lines :=
  .ofList (layout.write blocks)

/-- The lines of a block in front of its rows. -/
def opening (layout : Layout) (b : Block) : List Text :=
  match layout with
  | underlined => [b.header, b.underline]
  | trailing => [b.header]

/-- What has been passed in front of the rows of a block. -/
def opened : Layout → Phase
  | underlined => .inRows
  | trailing => .afterHeader

theorem opened_ne (layout : Layout) : layout.opened ≠ .atHeader := by
  cases layout <;> decide

theorem role_opened_true (layout : Layout) : layout.role layout.opened true = .closer := by
  cases layout <;> rfl

theorem frame_eq (layout : Layout) (b : Block) :
    layout.frame b = layout.opening b ++ (b.rows ++ [b.closer]) := by
  cases layout <;> rfl

theorem length_opening (layout : Layout) (a e : Block) :
    (layout.opening a).length = (layout.opening e).length := by
  cases layout <;> rfl

@[simp] theorem write_nil (layout : Layout) : layout.write [] = [] := rfl

theorem write_cons (layout : Layout) (b : Block) (bs : List Block) :
    layout.write (b :: bs) = layout.frame b ++ layout.write bs :=
  List.flatMap_cons

theorem map_trim_frame (layout : Layout) (b : Block) :
    (layout.frame b).map Text.trim = layout.frame b.trim := by
  cases layout <;> simp [frame, Block.trim]

theorem toList_dump (layout : Layout) (blocks : List Block) :
    (layout.dump blocks).toList = layout.write (blocks.map Block.trim) := by
  rw [dump, Lines.toList_ofList, write, write, List.map_flatMap, List.flatMap_map]
  simp only [map_trim_frame]

end Layout

namespace Scan

variable {c : Comparator} {s s' : Scan}

/-- A scan in front of the rows of a block with equal headers. -/
def atRows (s : Scan) (layout : Layout) : Scan := { s with phase := layout.opened }

theorem run_opening (hs : s.Fresh) {a e : Block}
    (hheader : sharedSeparator (a.header, e.header) = false)
    (hunderline : sharedSeparator (a.underline, e.underline)) :
    run c s ((c.layout.opening a).zip (c.layout.opening e)) =
      match Mismatch.ofHeaders? s.matched.queries a.header e.header with
      | none => .ok (s.atRows c.layout)
      | some m => .error ⟨m, (headersEqual a.header e.header).events.reverse ++ s.log⟩ := by
  have hstep : step c s (a.header, e.header) =
      s.header .afterHeader a.header e.header := by
    rw [step_header (by rw [hs.phase, Layout.role_atHeader]), hheader, Layout.after_header_false]
  obtain ⟨layout, rowMatch⟩ := c
  cases layout with
  | trailing =>
    show run _ s [(a.header, e.header)] = _
    rw [run_cons, hstep, header_eq]
    cases Mismatch.ofHeaders? s.matched.queries a.header e.header <;> rfl
  | underlined =>
    show run _ s [(a.header, e.header), (a.underline, e.underline)] = _
    rw [run_cons, hstep, header_eq]
    cases Mismatch.ofHeaders? s.matched.queries a.header e.header with
    | some m => rfl
    | none =>
      have hrole : Layout.underlined.role .afterHeader (sharedSeparator (a.underline, e.underline)) =
          .underline := by rw [hunderline]; rfl
      exact run_cons_of_ok (step_underline hrole) []

/-- Rows that are no shared separators are compared at the shared separator behind them. -/
theorem run_rows_closer (hs : s.Fresh) {rows : List (Text × Text)} {p : Text × Text}
    (hrows : ∀ r ∈ rows, sharedSeparator r = false) (hp : sharedSeparator p) :
    run c (s.atRows c.layout) (rows ++ [p]) =
      match Mismatch.ofRows? s.matched.queries (rows.map Prod.fst) (rows.map Prod.snd) with
      | none => .ok ({ s with pending := rows.reverse }).closed
      | some m => .error ⟨m, s.log⟩ := by
  have hrole : ∀ phase, phase = c.layout.opened ∨ phase = .inRows →
      c.layout.role phase (sharedSeparator p) = .closer := by
    rintro phase (rfl | rfl)
    · rw [hp, Layout.role_opened_true]
    · rw [hp, Layout.role_inRows_true]
  rw [run_append, run_rows rows hrows c.layout.opened_ne]
  simp only [Except.bind, atRows, hs.pending, List.append_nil]
  rw [run_cons, step_closer (hrole _ (by split <;> simp)), close_eq]
  simp only
  rw [Mismatch.ofRows?_congr (rows.reverse_perm.map _) (rows.reverse_perm.map _)]
  cases Mismatch.ofRows? s.matched.queries (rows.map Prod.fst) (rows.map Prod.snd) <;> rfl

end Scan

/-- A block of the actual dump beside its counterpart in the expected one. -/
structure BlockPair where
  actual : Block
  expected : Block
  deriving Repr, DecidableEq

namespace BlockPair

/-- The two blocks have the same separators and equally many rows, and neither their headers nor any
two of their rows are the same separator. -/
structure Aligned (b : BlockPair) : Prop where
  length_rows : b.actual.rows.length = b.expected.rows.length
  header : sharedSeparator (b.actual.header, b.expected.header) = false
  underline : sharedSeparator (b.actual.underline, b.expected.underline)
  rows : ∀ p ∈ b.actual.rows.zip b.expected.rows, sharedSeparator p = false
  closer : sharedSeparator (b.actual.closer, b.expected.closer)

/-- The headers are equal, and the rows are the same in some order. -/
structure Matches (b : BlockPair) : Prop where
  header : (headersEqual b.actual.header b.expected.header).value = .ok true
  rows : b.actual.rows.Perm b.expected.rows

/-- What is wrong with the blocks with this index, their headers first. -/
def fault? (query : Nat) (b : BlockPair) : Option Mismatch :=
  (Mismatch.ofHeaders? query b.actual.header b.expected.header).or
    (Mismatch.ofRows? query b.actual.rows b.expected.rows)

def lines (layout : Layout) (b : BlockPair) : List (Text × Text) :=
  (layout.frame b.actual).zip (layout.frame b.expected)

theorem lines_eq {layout : Layout} {b : BlockPair} (hb : b.Aligned) :
    b.lines layout = (layout.opening b.actual).zip (layout.opening b.expected) ++
      (b.actual.rows.zip b.expected.rows ++ [(b.actual.closer, b.expected.closer)]) := by
  rw [lines, Layout.frame_eq, Layout.frame_eq, List.zip_append (layout.length_opening ..),
    List.zip_append hb.length_rows]
  rfl

theorem length_frame (layout : Layout) {b : BlockPair} (hb : b.Aligned) :
    (layout.frame b.actual).length = (layout.frame b.expected).length := by
  simp only [Layout.frame_eq, List.length_append, layout.length_opening b.actual b.expected,
    hb.length_rows, List.length_singleton]

theorem length_write (layout : Layout) {bs : List BlockPair} (hb : ∀ b ∈ bs, b.Aligned) :
    (layout.write (bs.map actual)).length = (layout.write (bs.map expected)).length := by
  induction bs with
  | nil => rfl
  | cons b bs ih =>
    simp only [List.map_cons, Layout.write_cons, List.length_append,
      length_frame layout (hb b (List.mem_cons_self ..)),
      ih fun b' hb' => hb b' (List.mem_cons_of_mem _ hb')]

theorem zip_write (layout : Layout) {bs : List BlockPair} (hb : ∀ b ∈ bs, b.Aligned) :
    (layout.write (bs.map actual)).zip (layout.write (bs.map expected)) =
      bs.flatMap (lines layout) := by
  induction bs with
  | nil => rfl
  | cons b bs ih =>
    rw [List.map_cons, List.map_cons, Layout.write_cons, Layout.write_cons,
      List.zip_append (length_frame layout (hb b (List.mem_cons_self ..))),
      ih fun b' hb' => hb b' (List.mem_cons_of_mem _ hb')]
    rfl

theorem fault?_eq_none_iff {b : BlockPair} {q : Nat} : b.fault? q = none ↔ b.Matches := by
  rw [fault?, Option.or_eq_none_iff, Mismatch.ofHeaders?_eq_none_iff, Mismatch.ofRows?_eq_none_iff]
  exact ⟨fun ⟨hheader, hrows⟩ => ⟨hheader, hrows⟩, fun ⟨hheader, hrows⟩ => ⟨hheader, hrows⟩⟩

def trim (b : BlockPair) : BlockPair :=
  ⟨b.actual.trim, b.expected.trim⟩

end BlockPair

namespace Scan

variable {c : Comparator} {s : Scan} {b : BlockPair} {bs : List BlockPair}

def passed (s : Scan) (b : BlockPair) : Scan :=
  ({ s with pending := (b.actual.rows.zip b.expected.rows).reverse }).closed

theorem fresh_passed (s : Scan) (b : BlockPair) : (s.passed b).Fresh := fresh_closed _

theorem queries_passed (s : Scan) (b : BlockPair) :
    (s.passed b).matched.queries = s.matched.queries + 1 := rfl

theorem rows_passed (s : Scan) (hb : b.Aligned) :
    (s.passed b).matched.rows = s.matched.rows + b.actual.rows.length := by
  simp [passed, closed, hb.length_rows]

/-- One block is read as a whole: its headers are checked, then its rows. -/
theorem run_lines (hs : s.Fresh) (hb : b.Aligned) :
    match b.fault? s.matched.queries with
    | none => run c s (b.lines c.layout) = .ok (s.passed b)
    | some m => ∃ log, run c s (b.lines c.layout) = .error ⟨m, log⟩ := by
  have hfst : (b.actual.rows.zip b.expected.rows).map Prod.fst = b.actual.rows :=
    List.map_fst_zip (Nat.le_of_eq hb.length_rows)
  have hsnd : (b.actual.rows.zip b.expected.rows).map Prod.snd = b.expected.rows :=
    List.map_snd_zip (Nat.le_of_eq hb.length_rows.symm)
  rw [BlockPair.lines_eq hb, run_append, run_opening hs hb.header hb.underline, BlockPair.fault?]
  cases Mismatch.ofHeaders? s.matched.queries b.actual.header b.expected.header with
  | some m => exact ⟨_, rfl⟩
  | none =>
    simp only [Option.none_or, Except.bind]
    rw [run_rows_closer hs hb.rows hb.closer, hfst, hsnd]
    cases Mismatch.ofRows? s.matched.queries b.actual.rows b.expected.rows with
    | some m => exact ⟨_, rfl⟩
    | none => rfl

theorem run_blocks (hs : s.Fresh) (hb : ∀ b ∈ bs, b.Aligned)
    (hok : ∀ (j : Nat) (b : BlockPair), bs[j]? = some b →
      b.fault? (s.matched.queries + j) = none) :
    ∃ s', run c s (bs.flatMap (BlockPair.lines c.layout)) = .ok s' ∧ s'.Fresh ∧
      s'.matched = ⟨s.matched.queries + bs.length,
        s.matched.rows + (bs.map (·.actual.rows.length)).sum⟩ := by
  induction bs generalizing s with
  | nil => exact ⟨s, rfl, hs, rfl⟩
  | cons b bs ih =>
    have hhead := hb b (List.mem_cons_self ..)
    have hnone : b.fault? s.matched.queries = none := hok 0 b rfl
    have hlines := run_lines (c := c) hs hhead
    rw [hnone] at hlines
    obtain ⟨s', hs', hfresh, hmatched⟩ := ih (s.fresh_passed b)
      (fun b' hb' => hb b' (List.mem_cons_of_mem _ hb')) fun j b' hj => by
        rw [queries_passed, Nat.add_assoc, Nat.add_comm 1 j]
        exact hok (j + 1) b' hj
    refine ⟨s', ?_, hfresh, ?_⟩
    · rw [List.flatMap_cons, run_append_of_ok hlines]
      exact hs'
    · rw [hmatched, queries_passed, rows_passed s hhead]
      simp only [List.length_cons, List.map_cons, List.sum_cons, Summary.mk.injEq]
      omega

theorem run_blocks_of_fault (hb : ∀ b ∈ bs, b.Aligned) {k : Nat} {m : Mismatch}
    (hk : bs[k]? = some b) (hm : b.fault? k = some m)
    (hok : ∀ j < k, ∀ b' : BlockPair, bs[j]? = some b' → b'.fault? j = none) :
    ∃ log, run c .start (bs.flatMap (BlockPair.lines c.layout)) = .error ⟨m, log⟩ := by
  obtain ⟨hlt, hget⟩ := List.getElem?_eq_some_iff.1 hk
  have hsplit : bs = bs.take k ++ b :: bs.drop (k + 1) := by
    rw [← hget, ← List.drop_eq_getElem_cons hlt, List.take_append_drop]
  have htake : ∀ b' ∈ bs.take k, b'.Aligned := fun b' hb' => hb b' (List.mem_of_mem_take hb')
  obtain ⟨s, hs, hfresh, hmatched⟩ := run_blocks (c := c) fresh_start htake fun j b' hj => by
    rw [List.getElem?_take] at hj
    split at hj
    · rw [show start.matched.queries = 0 from rfl, Nat.zero_add]
      exact hok j ‹_› b' hj
    · cases hj
  have hq : s.matched.queries = k := by
    rw [hmatched]
    simp [start]; omega
  have hlines := run_lines (c := c) hfresh (hb b (List.mem_of_getElem? hk))
  rw [hq, hm] at hlines
  obtain ⟨log, hlog⟩ := hlines
  refine ⟨log, ?_⟩
  rw [hsplit, List.flatMap_append, run_append_of_ok hs, List.flatMap_cons]
  exact run_append_of_error hlog _

end Scan

namespace Comparator

variable {c : Comparator} {bs : List BlockPair}

theorem toList_dump_trim (layout : Layout) (bs : List BlockPair) (side : BlockPair → Block)
    (hside : ∀ b : BlockPair, (side b).trim = side b.trim) :
    (layout.dump (bs.map side)).toList = layout.write ((bs.map BlockPair.trim).map side) := by
  rw [layout.toList_dump, List.map_map, List.map_map]
  exact congrArg layout.write (List.map_congr_left fun b _ => hside b)

theorem size_dump (layout : Layout) (hb : ∀ b ∈ bs.map BlockPair.trim, b.Aligned) :
    (layout.dump (bs.map BlockPair.actual)).size = (layout.dump (bs.map BlockPair.expected)).size := by
  rw [Lines.size, Lines.size, toList_dump_trim layout bs _ fun _ => rfl,
    toList_dump_trim layout bs _ fun _ => rfl, BlockPair.length_write layout hb]

theorem zip_dump (layout : Layout) (hb : ∀ b ∈ bs.map BlockPair.trim, b.Aligned) :
    (layout.dump (bs.map BlockPair.actual)).toList.zip
      (layout.dump (bs.map BlockPair.expected)).toList =
        (bs.map BlockPair.trim).flatMap (BlockPair.lines layout) := by
  rw [toList_dump_trim layout bs _ fun _ => rfl, toList_dump_trim layout bs _ fun _ => rfl,
    BlockPair.zip_write layout hb]

theorem value_dump_of_faultless (c : Comparator) (hb : ∀ b ∈ bs.map BlockPair.trim, b.Aligned)
    (hok : ∀ (j : Nat) (b : BlockPair), (bs.map BlockPair.trim)[j]? = some b → b.fault? j = none) :
    (c.compare (c.layout.dump (bs.map BlockPair.actual))
      (c.layout.dump (bs.map BlockPair.expected))).value =
        .agree ⟨bs.length, (bs.map (·.actual.rows.length)).sum⟩ := by
  have hq : Scan.start.matched.queries = 0 := rfl
  obtain ⟨s, hs, -, hmatched⟩ := Scan.run_blocks (c := c) Scan.fresh_start hb fun j b hj => by
    rw [hq, Nat.zero_add]; exact hok j b hj
  rw [← zip_dump c.layout hb] at hs
  rw [value_of_run_ok (size_dump c.layout hb) hs, hmatched]
  simp [Scan.start, BlockPair.trim, Block.trim, Function.comp_def]

theorem value_dump_of_fault (c : Comparator) (hb : ∀ b ∈ bs.map BlockPair.trim, b.Aligned) {k : Nat}
    {b : BlockPair} {m : Mismatch} (hk : (bs.map BlockPair.trim)[k]? = some b) (hm : b.fault? k = some m)
    (hok : ∀ j < k, ∀ b' : BlockPair, (bs.map BlockPair.trim)[j]? = some b' → b'.fault? j = none) :
    (c.compare (c.layout.dump (bs.map BlockPair.actual))
      (c.layout.dump (bs.map BlockPair.expected))).value = .differ m := by
  obtain ⟨log, hlog⟩ := Scan.run_blocks_of_fault (c := c) hb hk hm hok
  rw [← zip_dump c.layout hb] at hlog
  exact value_of_run_error (r := ⟨m, log⟩) (size_dump c.layout hb) hlog

/-- Either no block has a fault or there is a first one that has. -/
theorem faultless_or_first_fault (bs : List BlockPair) :
    (∀ (j : Nat) (b : BlockPair), bs[j]? = some b → b.fault? j = none) ∨
      ∃ (k : Nat) (b : BlockPair) (m : Mismatch), bs[k]? = some b ∧ b.fault? k = some m ∧
        ∀ j < k, ∀ b' : BlockPair, bs[j]? = some b' → b'.fault? j = none := by
  by_cases h : ∃ (k : Nat) (b : BlockPair), bs[k]? = some b ∧ b.fault? k ≠ none
  · obtain ⟨b, hk, hne⟩ := Nat.find_spec h
    obtain ⟨m, hm⟩ := Option.ne_none_iff_exists'.1 hne
    refine .inr ⟨Nat.find h, b, m, hk, hm, fun j hj b' hj' => ?_⟩
    by_contra hfault
    exact Nat.find_min h hj ⟨b', hj', hfault⟩
  · push Not at h
    exact .inl h

/-- Dumps of aligned blocks match only if every block does. -/
theorem matches_of_value_dump (c : Comparator) (hb : ∀ b ∈ bs.map BlockPair.trim, b.Aligned)
    {t : Summary} (hagree : (c.compare (c.layout.dump (bs.map BlockPair.actual))
      (c.layout.dump (bs.map BlockPair.expected))).value = .agree t) :
    ∀ b ∈ bs.map BlockPair.trim, b.Matches := by
  rcases faultless_or_first_fault (bs.map BlockPair.trim) with hok | ⟨k, b, fault, hk, hm, hok⟩
  · intro b hmem
    obtain ⟨j, hj⟩ := List.mem_iff_getElem?.1 hmem
    exact BlockPair.fault?_eq_none_iff.1 (hok j b hj)
  · rw [value_dump_of_fault c hb hk hm hok] at hagree
    cases hagree

/-- The two layouts give the same verdict on the same blocks: a match of all blocks and rows, or the
fault of the first block that has one. -/
theorem value_dump (m : RowMatch) (bs : List BlockPair) (hb : ∀ b ∈ bs.map BlockPair.trim, b.Aligned) :
    let value (layout : Layout) := (compare ⟨layout, m⟩ (layout.dump (bs.map BlockPair.actual))
      (layout.dump (bs.map BlockPair.expected))).value
    value .underlined = value .trailing ∧
    (∀ layout, value layout = .agree ⟨bs.length, (bs.map (·.actual.rows.length)).sum⟩ ↔
      ∀ b ∈ bs.map BlockPair.trim, b.Matches) ∧
    ∀ layout (k : Nat) (b : BlockPair) fault, (bs.map BlockPair.trim)[k]? = some b →
      b.fault? k = some fault →
      (∀ j < k, ∀ b' : BlockPair, (bs.map BlockPair.trim)[j]? = some b' → b'.fault? j = none) →
      value layout = .differ fault := by
  intro value
  refine ⟨?_, fun layout => ⟨matches_of_value_dump ⟨layout, m⟩ hb, fun hmatches => ?_⟩,
    fun layout k b fault hk hm hok => value_dump_of_fault ⟨layout, m⟩ hb hk hm hok⟩
  · rcases faultless_or_first_fault (bs.map BlockPair.trim) with hok | ⟨k, b, fault, hk, hm, hok⟩
    · exact (value_dump_of_faultless ⟨.underlined, m⟩ hb hok).trans
        (value_dump_of_faultless ⟨.trailing, m⟩ hb hok).symm
    · exact (value_dump_of_fault ⟨.underlined, m⟩ hb hk hm hok).trans
        (value_dump_of_fault ⟨.trailing, m⟩ hb hk hm hok).symm
  · exact value_dump_of_faultless ⟨layout, m⟩ hb fun j b hj =>
      BlockPair.fault?_eq_none_iff.2 (hmatches b (List.mem_of_getElem? hj))

/-- Two blocks, of which the second one has another row. The dashed rows of the first one stand at
different places on the two sides, so they are no separators. -/
theorem value_dump_dashed_rows :
    let bs : List BlockPair :=
      [⟨⟨"day".toList, "-- ".toList, ["1-2".toList, "5".toList], "-".toList⟩,
        ⟨"Day".toList, " --".toList, ["5".toList, "1-2".toList], "-".toList⟩⟩,
       ⟨⟨"n".toList, "-".toList, ["7".toList], "---".toList⟩,
        ⟨"n".toList, "-".toList, ["8".toList], "---".toList⟩⟩]
    (∀ b ∈ bs.map BlockPair.trim, b.Aligned) ∧
      ∀ layout, (compare ⟨layout, .sorted⟩ (layout.dump (bs.map BlockPair.actual))
        (layout.dump (bs.map BlockPair.expected))).value =
          .differ (.rowSet 1 ["8".toList] ["7".toList]) := by
  intro bs
  have hb : ∀ b ∈ bs.map BlockPair.trim, b.Aligned := by
    simp only [bs, List.map_cons, List.map_nil, List.forall_mem_cons, List.not_mem_nil, false_imp_iff,
      implies_true, and_true]
    exact ⟨⟨by decide, by decide, by decide, by decide, by decide⟩,
      ⟨by decide, by decide, by decide, by decide, by decide⟩⟩
  have hfirst : BlockPair.fault? 0 bs[0].trim = none :=
    BlockPair.fault?_eq_none_iff.2 ⟨by decide, by decide⟩
  have hsecond : BlockPair.fault? 1 bs[1].trim = some (.rowSet 1 ["8".toList] ["7".toList]) := by cbv
  refine ⟨hb, fun layout => ?_⟩
  refine (value_dump .sorted bs hb).2.2 layout 1 bs[1].trim _ rfl hsecond fun j hj b' hj' => ?_
  obtain rfl : j = 0 := by omega
  rw [← Option.some.inj hj']
  exact hfirst

end Comparator
end DumpCheck
