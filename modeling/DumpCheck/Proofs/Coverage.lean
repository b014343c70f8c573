import DumpCheck.Proofs.Table

/-!
# Which tables of a reference dump are counted

A dump of tables is compared with lines of any kind, and the lines match. A table accounts for one block
and, if an earlier block is still under way at its header, for that one too: so at the border of two
tables, the counted blocks and the one that is under way are no more than the tables so far
(`Layout.closers_flags_le`). Hence no more blocks are counted than there are tables. Where the separators
behind the rows are all met by the same line, no block is ever under way at a border, and every table is
counted (`Comparator.queries_le_tables`).
-/

namespace DumpCheck

/-- A block has been begun and not yet closed. -/
def Phase.inBlock : Phase → Bool
  | .atHeader => false
  | .afterHeader | .inRows => true

namespace Layout

variable {layout : Layout} {phase : Phase}

/-- What has been passed after lines of which it is known whether they are shared separators. -/
def reach (layout : Layout) (phase : Phase) (flags : List Bool) : Phase :=
  flags.foldl (fun phase shared => layout.after shared (layout.role phase shared)) phase

/-- The number of closers among lines of which it is known whether they are shared separators. -/
def closers (layout : Layout) (phase : Phase) (flags : List Bool) : Nat :=
  (layout.roles phase flags).count .closer

@[simp] theorem reach_nil : layout.reach phase [] = phase := rfl

@[simp] theorem reach_cons (shared : Bool) (flags : List Bool) :
    layout.reach phase (shared :: flags) =
      layout.reach (layout.after shared (layout.role phase shared)) flags := rfl

theorem reach_append (flags flags' : List Bool) :
    layout.reach phase (flags ++ flags') = layout.reach (layout.reach phase flags) flags' :=
  List.foldl_append

@[simp] theorem closers_nil : layout.closers phase [] = 0 := rfl

@[simp] theorem closers_cons (shared : Bool) (flags : List Bool) :
    layout.closers phase (shared :: flags) =
      (if layout.role phase shared = .closer then 1 else 0) +
        layout.closers (layout.after shared (layout.role phase shared)) flags := by
  simp [closers, roles, List.count_cons, Nat.add_comm]

theorem closers_append (flags flags' : List Bool) :
    layout.closers phase (flags ++ flags') =
      layout.closers phase flags + layout.closers (layout.reach phase flags) flags' := by
  induction flags generalizing phase with
  | nil => simp
  | cons shared flags ih => rw [List.cons_append, closers_cons, closers_cons, ih, reach_cons, Nat.add_assoc]

theorem reach_rows (layout : Layout) (n : Nat) :
    layout.reach .inRows (List.replicate n false) = .inRows := by
  induction n with
  | zero => rfl
  | succ n ih =>
    rw [List.replicate_succ, reach_cons, role_false (by decide), after_row, ih]

theorem closers_rows (layout : Layout) (n : Nat) :
    layout.closers .inRows (List.replicate n false) = 0 := by
  induction n with
  | zero => rfl
  | succ n ih =>
    rw [List.replicate_succ, closers_cons, role_false (by decide), after_row, ih]
    rfl

/-- Which lines in front of the rows of a table are shared separators, given whether its underline is. In
the trailing layout there is no underline. -/
def openingFlags (layout : Layout) (underline : Bool) : List Bool :=
  match layout with
  | .underlined => [false, underline]
  | .trailing => [false]

/-- Which lines of a table are shared separators, given whether its underline and its closer are. -/
def flags (layout : Layout) (underline : Bool) (rows : Nat) (closer : Bool) : List Bool :=
  layout.openingFlags underline ++ (List.replicate rows false ++ [closer])

/-- With the lines of one table, no more than one block is added to those that are counted or under way. -/
theorem closers_flags_le (layout : Layout) (phase : Phase) (underline : Bool) (rows : Nat) (closer : Bool) :
    layout.closers phase (layout.flags underline rows closer) +
      (layout.reach phase (layout.flags underline rows closer)).inBlock.toNat ≤ 1 + phase.inBlock.toNat := by
  -- behind an underline that ends an earlier block, the first row is a header: so 0, 1 and more rows differ
  obtain _ | _ | rows := rows <;> cases layout <;> cases phase <;> cases underline <;> cases closer <;>
    simp [flags, openingFlags, reach_append, reach_rows, closers_append, closers_rows, List.replicate_succ,
      role, after, Phase.inBlock]

/-- A table whose closer is met is one block, if no other block is under way at its header. -/
theorem closers_flags_closed (layout : Layout) (underline : Bool) (rows : Nat) :
    layout.closers .atHeader (layout.flags underline rows true) = 1 ∧
      layout.reach .atHeader (layout.flags underline rows true) = .atHeader := by
  obtain _ | rows := rows <;> cases layout <;> cases underline <;>
    simp [flags, openingFlags, reach_append, reach_rows, closers_append, closers_rows, List.replicate_succ,
      role, after]

end Layout

namespace Scan

variable {c : Comparator} {s s' : Scan} {p : Text × Text}

theorem step_ok (h : step c s p = .ok s') :
    s'.phase = c.layout.after (sharedSeparator p) (c.layout.role s.phase (sharedSeparator p)) ∧
      s'.matched.queries = s.matched.queries +
        if c.layout.role s.phase (sharedSeparator p) = .closer then 1 else 0 := by
  have hpasses := passes_of_step h
  refine ⟨hpasses.phase_eq, ?_⟩
  cases hpasses with
  | header hr _ => rw [hr]; rfl
  | underline hr => rw [hr]; rfl
  | row hr => rw [hr]; rfl
  | closer hr _ => rw [hr]; rfl

theorem run_ok {pairs : List (Text × Text)} (h : run c s pairs = .ok s') :
    s'.phase = c.layout.reach s.phase (pairs.map sharedSeparator) ∧
      s'.matched.queries = s.matched.queries + c.layout.closers s.phase (pairs.map sharedSeparator) := by
  induction pairs generalizing s with
  | nil =>
    cases h
    exact ⟨rfl, rfl⟩
  | cons p pairs ih =>
    obtain ⟨s₁, hstep, hrun⟩ := run_cons_ok h
    obtain ⟨hphase, hqueries⟩ := step_ok hstep
    obtain ⟨hphase', hqueries'⟩ := ih hrun
    rw [List.map_cons, Layout.reach_cons, Layout.closers_cons, ← hphase]
    exact ⟨hphase', by rw [hqueries', hqueries, Nat.add_assoc]⟩

end Scan

namespace Table

variable {layout : Layout} {sep : Text} {t : Table} {ts : List Table} {ls : List Text}

theorem length_write_trim (layout : Layout) (sep : Text) (ts : List Table) :
    (write layout sep.trim (ts.map trim)).length = (write layout sep ts).length := by
  rw [← toList_dump, dump, Layout.dump, Lines.toList_ofList, List.length_map, write]

/-- The position of the separator behind the rows of the `k`-th table, counted from zero. -/
def closerAt (layout : Layout) (sep : Text) (ts : List Table) (k : Nat) : Nat :=
  (write layout sep (ts.take (k + 1))).length - 1

theorem closerAt_trim (layout : Layout) (sep : Text) (ts : List Table) (k : Nat) :
    closerAt layout sep.trim (ts.map trim) k = closerAt layout sep ts k := by
  rw [closerAt, ← List.map_take, length_write_trim, closerAt]

theorem one_lt_length_frame (layout : Layout) (sep : Text) (t : Table) :
    1 < (layout.frame (t.block sep)).length := by
  cases layout <;> simp [Layout.frame]

theorem write_cons_frame (layout : Layout) (sep : Text) (t : Table) (ts : List Table) :
    write layout sep (t :: ts) = layout.frame (t.block sep) ++ write layout sep ts :=
  Layout.write_cons ..

theorem closerAt_cons_zero (layout : Layout) (sep : Text) (t : Table) (ts : List Table) :
    closerAt layout sep (t :: ts) 0 = (layout.frame (t.block sep)).length - 1 := by
  rw [closerAt, List.take_succ_cons, List.take_zero, write_cons_frame, List.length_append]
  rfl

theorem closerAt_cons_succ (layout : Layout) (sep : Text) (t : Table) {k : Nat} (hk : k < ts.length) :
    closerAt layout sep (t :: ts) (k + 1) =
      (layout.frame (t.block sep)).length + closerAt layout sep ts k := by
  obtain _ | ⟨u, us⟩ := ts
  · cases hk
  have hpos := one_lt_length_frame layout sep u
  rw [closerAt, closerAt, List.take_succ_cons, write_cons_frame, List.take_succ_cons, write_cons_frame,
    List.length_append, List.length_append]
  omega

/-- There stands a separator of the dump. -/
theorem getElem?_closerAt (layout : Layout) (sep : Text) {k : Nat} (hk : k < ts.length) :
    (write layout sep ts)[closerAt layout sep ts k]? = some sep := by
  induction ts generalizing k with
  | nil => cases hk
  | cons t ts ih =>
    have hpos := one_lt_length_frame layout sep t
    rw [write_cons_frame]
    cases k with
    | zero =>
      rw [closerAt_cons_zero, List.getElem?_append_left (by omega), ← List.getLast?_eq_getElem?,
        Layout.frame_eq, ← List.append_assoc, List.getLast?_concat, block]
    | succ k =>
      have hk' : k < ts.length := Nat.lt_of_succ_lt_succ hk
      rw [closerAt_cons_succ layout sep t hk', List.getElem?_append_right (Nat.le_add_right ..),
        Nat.add_sub_cancel_left]
      exact ih hk'

theorem map_shared_rows (hsep : isSeparator sep) (ht : t.DashFree) {z : Text}
    (hlen : ls.length = t.rows.length) :
    ((ls ++ [z]).zip (t.rows ++ [sep])).map sharedSeparator =
      List.replicate t.rows.length false ++ [decide (z = sep)] := by
  have hrows : (ls.zip t.rows).map sharedSeparator = List.replicate t.rows.length false := by
    rw [List.eq_replicate_iff]
    refine ⟨by simp [hlen], fun b hb => ?_⟩
    obtain ⟨p, hp, rfl⟩ := List.mem_map.1 hb
    exact sharedSeparator_eq_false_of_right (ht _ (List.mem_cons_of_mem _ (List.of_mem_zip hp).2))
  rw [List.zip_append hlen, List.map_append, hrows]
  by_cases hz : z = sep <;> simp [sharedSeparator, hz, hsep]

theorem exists_flags_opening (ht : t.DashFree) (hlen : ls.length = (layout.opening (t.block sep)).length) :
    ∃ underline, (ls.zip (layout.opening (t.block sep))).map sharedSeparator =
      layout.openingFlags underline := by
  have hheader (l : Text) : sharedSeparator (l, t.header) = false :=
    sharedSeparator_eq_false_of_right (ht _ (List.mem_cons_self ..))
  cases layout with
  | trailing =>
    obtain ⟨header, rfl⟩ := List.length_eq_one_iff.1 hlen
    exact ⟨false, congrArg (· :: _) (hheader header)⟩
  | underlined =>
    obtain ⟨header, underline, rfl⟩ := List.length_eq_two.1 hlen
    exact ⟨sharedSeparator (underline, sep), congrArg (· :: _) (hheader header)⟩

theorem exists_flags_frame (hsep : isSeparator sep) (ht : t.DashFree)
    (hlen : ls.length = (layout.frame (t.block sep)).length) :
    ∃ underline, (ls.zip (layout.frame (t.block sep))).map sharedSeparator =
      layout.flags underline t.rows.length
        (ls[(layout.frame (t.block sep)).length - 1]? = some sep) := by
  rcases List.eq_nil_or_concat' ls with rfl | ⟨front, z, rfl⟩
  · have hpos := one_lt_length_frame layout sep t
    rw [← hlen] at hpos
    cases hpos
  have hfront : front.length = (layout.opening (t.block sep)).length + t.rows.length := by
    simpa [Layout.frame_eq, block, ← Nat.add_assoc] using hlen
  have hopening : (front.take (layout.opening (t.block sep)).length).length =
      (layout.opening (t.block sep)).length := by
    rw [List.length_take]; omega
  have hrows : (front.drop (layout.opening (t.block sep)).length).length = t.rows.length := by
    rw [List.length_drop]; omega
  obtain ⟨underline, hflags⟩ := exists_flags_opening ht hopening
  refine ⟨underline, ?_⟩
  have hlast : decide ((front ++ [z])[(layout.frame (t.block sep)).length - 1]? = some sep) =
      decide (z = sep) := by
    rw [← hlen, ← List.getLast?_eq_getElem?, List.getLast?_concat]
    simp
  rw [hlast, Layout.flags, ← hflags, ← map_shared_rows hsep ht hrows, ← List.map_append,
    ← List.zip_append hopening, ← List.append_assoc, List.take_append_drop, Layout.frame_eq, block]

/-- Beside a dump, the lines of the first table and the lines behind it. -/
theorem exists_flags_write_cons (hsep : isSeparator sep) (ht : t.DashFree)
    (hlen : ls.length = (write layout sep (t :: ts)).length) :
    let rest := ls.drop (layout.frame (t.block sep)).length
    rest.length = (write layout sep ts).length ∧
      ∃ underline, (ls.zip (write layout sep (t :: ts))).map sharedSeparator =
        layout.flags underline t.rows.length (ls[closerAt layout sep (t :: ts) 0]? = some sep) ++
          (rest.zip (write layout sep ts)).map sharedSeparator := by
  intro rest
  have hpos := one_lt_length_frame layout sep t
  rw [write_cons_frame, List.length_append] at hlen
  have htake : (ls.take (layout.frame (t.block sep)).length).length =
      (layout.frame (t.block sep)).length := by
    rw [List.length_take]; omega
  obtain ⟨underline, hhead⟩ := exists_flags_frame hsep ht htake
  refine ⟨by rw [List.length_drop]; omega, underline, ?_⟩
  rw [List.getElem?_take_of_lt (by omega)] at hhead
  rw [closerAt_cons_zero, ← hhead, ← List.map_append, ← List.zip_append htake, List.take_append_drop,
    write_cons_frame]

/-- No more blocks are closed than there are tables, and one more if a block is under way from the
beginning. -/
theorem closers_write_le (phase : Phase) (hsep : isSeparator sep) (hts : ∀ t ∈ ts, t.DashFree)
    (hlen : ls.length = (write layout sep ts).length) :
    layout.closers phase ((ls.zip (write layout sep ts)).map sharedSeparator) ≤
      ts.length + phase.inBlock.toNat := by
  induction ts generalizing ls phase with
  | nil => simp [write]
  | cons t ts ih =>
    rw [List.forall_mem_cons] at hts
    obtain ⟨hrest, underline, hflags⟩ := exists_flags_write_cons hsep hts.1 hlen
    have htable := layout.closers_flags_le phase underline t.rows.length
      (ls[closerAt layout sep (t :: ts) 0]? = some sep)
    rw [hflags, Layout.closers_append, List.length_cons]
    exact (Nat.add_le_add_left (ih _ hts.2 hrest) _).trans (by omega)

/-- If every closer is met by the same line, every table is closed on its own. -/
theorem closers_write (hsep : isSeparator sep) (hts : ∀ t ∈ ts, t.DashFree)
    (hlen : ls.length = (write layout sep ts).length)
    (hclosers : ∀ k < ts.length, ls[closerAt layout sep ts k]? = some sep) :
    layout.closers .atHeader ((ls.zip (write layout sep ts)).map sharedSeparator) = ts.length := by
  induction ts generalizing ls with
  | nil => simp [write]
  | cons t ts ih =>
    rw [List.forall_mem_cons] at hts
    obtain ⟨hrest, underline, hflags⟩ := exists_flags_write_cons hsep hts.1 hlen
    obtain ⟨htable, hborder⟩ := layout.closers_flags_closed underline t.rows.length
    have hbehind : ∀ k < ts.length,
        (ls.drop (layout.frame (t.block sep)).length)[closerAt layout sep ts k]? = some sep := by
      intro k hk
      rw [List.getElem?_drop, ← closerAt_cons_succ layout sep t hk]
      exact hclosers (k + 1) (Nat.succ_lt_succ hk)
    rw [hflags, hclosers 0 (Nat.succ_pos _), decide_eq_true rfl, Layout.closers_append, htable, hborder,
      ih hts.2 hrest hbehind, List.length_cons, Nat.add_comm]

end Table

namespace Comparator

variable {c : Comparator} {sep : Text} {ts : List Table} {actual : Lines} {t : Summary}

/-- When lines match a dump of tables, no more blocks are counted than there are tables, and all tables
are counted if the separator behind the rows of each is met by the same line. -/
theorem queries_le_tables (c : Comparator) (hsep : isSeparator sep) (hts : ∀ t ∈ ts, t.DashFree)
    (h : (c.compare actual (Table.dump c.layout sep ts)).value = .agree t) :
    let expected := Table.dump c.layout sep ts
    let closer := Table.closerAt c.layout sep ts
    t.queries ≤ ts.length ∧
      ((∀ k < ts.length, actual.toList[closer k]? = expected.toList[closer k]?) →
        t.queries = ts.length) := by
  intro expected closer
  have htrim : ∀ u ∈ ts.map Table.trim, u.DashFree := by
    simp only [List.mem_map]
    rintro _ ⟨u, hu, rfl⟩
    exact (hts u hu).trim
  have hsep' : isSeparator sep.trim := by rwa [isSeparator_trim]
  obtain ⟨hsize, s, hrun, rfl⟩ := run_of_value_agree h
  rw [Lines.size, Lines.size, Table.toList_dump] at hsize
  rw [Table.toList_dump] at hrun
  have hqueries : s.matched.queries = c.layout.closers .atHeader
      ((actual.toList.zip (Table.write c.layout sep.trim (ts.map Table.trim))).map sharedSeparator) := by
    rw [(Scan.run_ok hrun).2, Scan.start, Nat.zero_add]
  rw [hqueries]
  refine ⟨?_, fun hclosers => ?_⟩
  · have hle := Table.closers_write_le .atHeader hsep' htrim hsize
    rwa [List.length_map] at hle
  · rw [Table.closers_write hsep' htrim hsize, List.length_map]
    intro k hk
    have hstands := Table.getElem?_closerAt c.layout sep.trim hk
    rw [← Table.toList_dump, Table.closerAt_trim] at hstands
    rw [Table.closerAt_trim]
    exact (hclosers k (by rwa [List.length_map] at hk)).trans hstands

/-- The underline of the second table is met by a row, and every closer by the same line. -/
theorem queries_le_tables_missed_underline :
    let ts : List Table := [⟨"h".toList, ["x".toList]⟩, ⟨"k".toList, ["y".toList]⟩]
    let actual := Lines.ofList (["h", "-", "x", "-", "k", "y", "-", "-"].map String.toList)
    let t : Summary := ⟨2, 3⟩
    (compare default actual (Table.dump .underlined "-".toList ts)).value = .agree t ∧
      t.queries ≤ ts.length ∧ t.queries = ts.length := by
  intro ts actual t
  have hts : ∀ t ∈ ts, t.DashFree := by unfold Table.DashFree; decide
  have h : (compare default actual (Table.dump .underlined "-".toList ts)).value = .agree t := by cbv
  obtain ⟨hle, hclosers⟩ := queries_le_tables default (by decide) hts h
  exact ⟨h, hle, hclosers (by decide)⟩

/-- Where the closer of its only table is missed, a dump matches a reference with another row, and no
block is counted. -/
theorem value_agree_of_missed_closer :
    let ts : List Table := [⟨"h".toList, ["x".toList]⟩]
    (∀ t ∈ ts, t.DashFree) ∧ isSeparator "-".toList ∧ ts.length = 1 ∧
      ∀ c : Comparator, (c.compare
        (c.layout.dump [⟨"h".toList, "-".toList, ["y".toList], "z".toList⟩])
        (Table.dump c.layout "-".toList ts)).value = .agree ⟨0, 0⟩ := by
  intro ts
  refine ⟨by unfold Table.DashFree; decide, by decide, rfl, fun c => ?_⟩
  obtain ⟨_ | _, _ | _⟩ := c <;> cbv

end Comparator
end DumpCheck
