import DumpCheck.Proofs.Dump

/-!
# Dumps with one separator line

Tables without dashes are written as dumps in which all separators are the same line. Tables of
different sizes slide against each other, and a shared separator may close the stretch that began in
one table only several tables later. But both sides of a stretch hold equally many separators
(`Scan.run_stretch`), so equally many tables end in it (`Table.border`). Hence dumps that match have
equally many tables, and the tables match one by one if their sizes do
(`Comparator.tables_match_iff_same_sizes`).
-/

namespace DumpCheck

/-- The number of separator lines that frame a block. -/
def Layout.borders : Layout → Nat
  | underlined => 2
  | trailing => 1

/-- A table of a dump, without the lines around it. -/
structure Table where
  header : Text
  rows : List Text
  deriving Repr, DecidableEq

namespace Table

variable {layout : Layout} {sep : Text} {t : Table} {ts : List Table}

/-- The table as a block between copies of one separator line. -/
def block (sep : Text) (t : Table) : Block :=
  ⟨t.header, sep, t.rows, sep⟩

def DashFree (t : Table) : Prop :=
  ∀ l ∈ t.header :: t.rows, isSeparator l = false

/-- No line of the table holds a dash or has blanks at either end. -/
def Plain (t : Table) : Prop :=
  t.DashFree ∧ ∀ l ∈ t.header :: t.rows, l.trim = l

/-- The table as a dump holds it. -/
def trim (t : Table) : Table :=
  ⟨t.header.trim, t.rows.map Text.trim⟩

/-- The headers are equal, and the rows are the same in some order. -/
structure Matches (a e : Table) : Prop where
  header : (headersEqual a.header e.header).value = .ok true
  rows : a.rows.Perm e.rows

def write (layout : Layout) (sep : Text) (ts : List Table) : List Text :=
  layout.write (ts.map (block sep))

def dump (layout : Layout) (sep : Text) (ts : List Table) : Lines :=
  layout.dump (ts.map (block sep))

theorem DashFree.header_ne (ht : t.DashFree) (hsep : isSeparator sep) : t.header ≠ sep := by
  rintro rfl
  rw [ht _ (List.mem_cons_self ..)] at hsep
  cases hsep

theorem DashFree.separator_notMem (ht : t.DashFree) (hsep : isSeparator sep) : sep ∉ t.rows := by
  intro hmem
  rw [ht _ (List.mem_cons_of_mem _ hmem)] at hsep
  cases hsep

theorem DashFree.trim (ht : t.DashFree) : t.trim.DashFree := by
  simpa [DashFree, Table.trim] using ht

theorem Plain.trim_eq (ht : t.Plain) : t.trim = t := by
  have hheader : t.header.trim = t.header := ht.2 _ (List.mem_cons_self ..)
  have hrows : t.rows.map Text.trim = t.rows :=
    (List.map_congr_left fun l hl => ht.2 l (List.mem_cons_of_mem _ hl)).trans (List.map_id _)
  rw [trim, hheader, hrows]

theorem toList_dump (layout : Layout) (sep : Text) (ts : List Table) :
    (dump layout sep ts).toList = write layout sep.trim (ts.map trim) := by
  rw [dump, Layout.toList_dump, write, List.map_map, List.map_map]
  rfl

theorem toList_dump_plain (layout : Layout) (sep : Text) (hts : ∀ t ∈ ts, t.Plain) :
    (dump layout sep ts).toList = write layout sep.trim ts := by
  rw [toList_dump, List.map_congr_left fun t ht => (hts t ht).trim_eq, List.map_id']

/-- The lines behind the header of a first table. -/
def behind (layout : Layout) (sep : Text) (t : Table) (ts : List Table) : List Text :=
  t.rows ++ sep :: write layout sep ts

theorem write_cons (layout : Layout) (sep : Text) (t : Table) (ts : List Table) :
    write layout sep (t :: ts) = layout.opening (t.block sep) ++ behind layout sep t ts := by
  rw [write, List.map_cons, Layout.write_cons, Layout.frame_eq, List.append_assoc, List.append_assoc]
  rfl

theorem write_cons_ne_nil (layout : Layout) (sep : Text) (t : Table) (ts : List Table) :
    write layout sep (t :: ts) ≠ [] := by
  cases layout <;> exact List.cons_ne_nil _ _

theorem exists_behind_eq (layout : Layout) (sep : Text) (t : Table) (ts : List Table) :
    ∃ ls, behind layout sep t ts = ls ++ [sep] := by
  induction ts generalizing t with
  | nil => exact ⟨t.rows, rfl⟩
  | cons u us ih =>
    obtain ⟨ls, hls⟩ := ih u
    refine ⟨t.rows ++ sep :: (layout.opening (u.block sep) ++ ls), ?_⟩
    rw [behind, write_cons, hls, List.append_assoc, List.cons_append, List.append_assoc]

theorem separator_mem_zip {a e : Table} {as es : List Table}
    (hlen : (behind layout sep a as).length = (behind layout sep e es).length) :
    (sep, sep) ∈ (behind layout sep a as).zip (behind layout sep e es) := by
  obtain ⟨as', has⟩ := exists_behind_eq layout sep a as
  obtain ⟨es', hes⟩ := exists_behind_eq layout sep e es
  rw [has, hes] at hlen ⊢
  rw [List.zip_append (by simpa using hlen)]
  exact List.mem_append_right _ (List.mem_singleton_self _)

/-- No other line is a separator. -/
theorem eq_of_isSeparator (hts : ∀ t ∈ ts, t.DashFree) {l : Text} (hl : l ∈ write layout sep ts)
    (hsep : isSeparator l) : l = sep := by
  obtain ⟨b, hb, hl⟩ := List.mem_flatMap.1 hl
  obtain ⟨t, ht, rfl⟩ := List.mem_map.1 hb
  have hplain : l ∉ t.header :: t.rows := fun hmem => by
    rw [hts t ht l hmem] at hsep
    exact Bool.false_ne_true hsep
  rw [List.mem_cons, not_or] at hplain
  cases layout <;> simp only [Layout.frame, block, List.mem_cons, List.mem_append, List.not_mem_nil,
    or_false] at hl <;> tauto

def beside (sep : Text) (p : Table × Table) : BlockPair :=
  ⟨p.1.block sep, p.2.block sep⟩

theorem aligned_beside (hsep : isSeparator sep) {p : Table × Table} (ha : p.1.DashFree)
    (hlen : p.1.rows.length = p.2.rows.length) : (beside sep p).Aligned where
  length_rows := hlen
  header := sharedSeparator_eq_false_of_left (ha _ (List.mem_cons_self ..))
  underline := by simpa [sharedSeparator, beside, block] using hsep
  rows _ hr := sharedSeparator_eq_false_of_left
    (ha _ (List.mem_cons_of_mem _ (List.of_mem_zip hr).1))
  closer := by simpa [sharedSeparator, beside, block] using hsep

theorem trim_beside (sep : Text) {p : Table × Table} (ha : p.1.Plain) (he : p.2.Plain) :
    (beside sep p).trim = beside sep.trim p := by
  show beside sep.trim (p.1.trim, p.2.trim) = _
  rw [ha.trim_eq, he.trim_eq]

theorem map_actual_beside (sep : Text) {as es : List Table} (hlen : as.length = es.length) :
    ((as.zip es).map (beside sep)).map BlockPair.actual = as.map (block sep) := by
  conv_rhs => rw [← List.map_fst_zip (Nat.le_of_eq hlen)]
  rw [List.map_map, List.map_map]
  rfl

theorem map_expected_beside (sep : Text) {as es : List Table} (hlen : as.length = es.length) :
    ((as.zip es).map (beside sep)).map BlockPair.expected = es.map (block sep) := by
  conv_rhs => rw [← List.map_snd_zip (Nat.le_of_eq hlen.symm)]
  rw [List.map_map, List.map_map]
  rfl

/-! ### Places of separators -/

theorem split_separator {rows ls xs ys : List Text} (hrows : sep ∉ rows)
    (h : rows ++ sep :: ls = xs ++ sep :: ys) :
    (xs = rows ∧ ys = ls) ∨ ∃ zs, xs = rows ++ sep :: zs ∧ ls = zs ++ sep :: ys := by
  rcases List.append_eq_append_iff.1 h with ⟨zs, hxs, hls⟩ | ⟨zs, hrows', hys⟩
  · cases zs with
    | nil => exact .inl ⟨by rw [hxs, List.append_nil], (List.cons.inj hls).2.symm⟩
    | cons z zs =>
      obtain ⟨hz, hrest⟩ := List.cons.inj hls
      exact .inr ⟨zs, hz ▸ hxs, hrest⟩
  · cases zs with
    | nil => exact .inl ⟨by rw [hrows', List.append_nil], (List.cons.inj hys).2⟩
    | cons z zs =>
      obtain ⟨rfl, -⟩ := List.cons.inj hys
      exact absurd (hrows' ▸ List.mem_append_right _ (List.mem_cons_self ..)) hrows

theorem split_opening (hsep : isSeparator sep) (ht : t.DashFree) {ls xs ys : List Text}
    (h : layout.opening (t.block sep) ++ ls = xs ++ sep :: ys) :
    (∃ zs, xs = layout.opening (t.block sep) ++ zs ∧ ls = zs ++ sep :: ys) ∨
      layout = .underlined ∧ xs = [t.header] := by
  cases xs with
  | nil =>
    have heq : t.header = sep := by cases layout <;> exact (List.cons.inj h).1
    exact absurd heq (ht.header_ne hsep)
  | cons x xs =>
    cases layout with
    | trailing =>
      obtain ⟨rfl, hrest⟩ := List.cons.inj h
      exact .inl ⟨xs, rfl, hrest⟩
    | underlined =>
      obtain ⟨rfl, hunderline⟩ := List.cons.inj h
      cases xs with
      | nil => exact .inr ⟨rfl, rfl⟩
      | cons x xs =>
        obtain ⟨rfl, hrest⟩ := List.cons.inj hunderline
        exact .inl ⟨xs, rfl, hrest⟩

theorem count_frame (hsep : isSeparator sep) (ht : t.DashFree) (rows : List Text) (hrows : sep ∉ rows)
    (ls : List Text) :
    (rows ++ sep :: (layout.opening (t.block sep) ++ ls)).count sep =
      layout.borders + ls.count sep := by
  rw [List.count_append, List.count_eq_zero.2 hrows, List.count_cons_self, List.count_append]
  cases layout <;> simp [Layout.opening, Layout.borders, block, ht.header_ne hsep] <;> omega

/-- A separator behind the header of a table closes this table or a later one, or it underlines a
later header. The number of separators in front of it tells these cases apart, and how many further
tables it closes. -/
theorem border (hsep : isSeparator sep) (ht : t.DashFree) (hts : ∀ t ∈ ts, t.DashFree) {xs ys : List Text}
    (h : behind layout sep t ts = xs ++ sep :: ys) :
    (∃ j ≤ ts.length, xs.count sep = layout.borders * j ∧ ys = write layout sep (ts.drop j)) ∨
      xs.count sep % layout.borders = 1 ∧ ∃ zs header, xs = zs ++ [sep, header] := by
  have hrows := ht.separator_notMem hsep
  induction ts generalizing t xs with
  | nil =>
    rcases split_separator hrows h with ⟨rfl, rfl⟩ | ⟨zs, -, hzs⟩
    · exact .inl ⟨0, le_rfl, List.count_eq_zero.2 hrows, rfl⟩
    · exact absurd hzs (by simp [write])
  | cons u us ih =>
    have hu : u.DashFree := hts u (List.mem_cons_self ..)
    rcases split_separator hrows h with ⟨rfl, rfl⟩ | ⟨zs, rfl, hzs⟩
    · exact .inl ⟨0, Nat.zero_le _, List.count_eq_zero.2 hrows, rfl⟩
    rw [write_cons] at hzs
    rcases split_opening hsep hu hzs with ⟨ws, rfl, hws⟩ | ⟨rfl, rfl⟩
    · rw [count_frame hsep hu _ hrows]
      rcases ih hu (fun v hv => hts v (List.mem_cons_of_mem _ hv)) hws (hu.separator_notMem hsep) with
        ⟨j, hj, hcount, rfl⟩ | ⟨hcount, zs, header, rfl⟩
      · refine .inl ⟨j + 1, Nat.succ_le_succ hj, ?_, rfl⟩
        rw [hcount, Nat.mul_succ, Nat.add_comm]
      · exact .inr ⟨by rw [Nat.add_mod_left, hcount],
          t.rows ++ sep :: (layout.opening (u.block sep) ++ zs), header, by simp⟩
    · refine .inr ⟨?_, t.rows, u.header, rfl⟩
      rw [List.count_append, List.count_eq_zero.2 hrows, List.count_cons_self,
        List.count_cons_of_ne (hu.header_ne hsep)]
      rfl

/-- Where both sides stop between an underline and what follows it, the underline is shared. -/
theorem exists_shared_of_ends (hsep : isSeparator sep) {rows : List (Text × Text)} {xs ys : List Text}
    {l l' : Text} (hfst : rows.map Prod.fst = xs ++ [sep, l]) (hsnd : rows.map Prod.snd = ys ++ [sep, l']) :
    ∃ r ∈ rows, sharedSeparator r := by
  have hlen : xs.length = ys.length := by
    have hx := congrArg List.length hfst
    have hy := congrArg List.length hsnd
    simp only [List.length_map, List.length_append, List.length_cons, List.length_nil] at hx hy
    omega
  have hactual : (rows.map Prod.fst)[xs.length]? = some sep := by
    rw [hfst, List.getElem?_append_right le_rfl, Nat.sub_self]; rfl
  have hexpected : (rows.map Prod.snd)[xs.length]? = some sep := by
    rw [hsnd, hlen, List.getElem?_append_right le_rfl, Nat.sub_self]; rfl
  rw [List.getElem?_map, Option.map_eq_some_iff] at hactual hexpected
  obtain ⟨r, hr, hr1⟩ := hactual
  obtain ⟨r', hr', hr2⟩ := hexpected
  obtain rfl : r = r' := Option.some.inj (hr.symm.trans hr')
  exact ⟨r, List.mem_of_getElem? hr, by simp [sharedSeparator, hr1, hr2, hsep]⟩

/-- The same number of tables ends on both sides of a stretch, so the same number is left. -/
theorem drop_of_stretch (hsep : isSeparator sep) {a e : Table} {as es : List Table}
    (ha : ∀ t ∈ a :: as, t.DashFree) (he : ∀ t ∈ e :: es, t.DashFree)
    {rows rest : List (Text × Text)} (hrows : ∀ r ∈ rows, sharedSeparator r = false)
    (hperm : (rows.map Prod.fst).Perm (rows.map Prod.snd))
    (hactual : behind layout sep a as = rows.map Prod.fst ++ sep :: rest.map Prod.fst)
    (hexpected : behind layout sep e es = rows.map Prod.snd ++ sep :: rest.map Prod.snd) :
    ∃ j, j ≤ as.length ∧ j ≤ es.length ∧ rest.map Prod.fst = write layout sep (as.drop j) ∧
      rest.map Prod.snd = write layout sep (es.drop j) := by
  rw [List.forall_mem_cons] at ha he
  have hcount := hperm.count_eq sep
  rcases border hsep ha.1 ha.2 hactual with ⟨j, hj, hcj, hdrop⟩ | ⟨hodd, xs, l, hxs⟩ <;>
    rcases border hsep he.1 he.2 hexpected with ⟨k, hk, hck, hdrop'⟩ | ⟨hodd', ys, l', hys⟩
  · have hjk : j = k := Nat.eq_of_mul_eq_mul_left (by cases layout <;> decide)
      (hcj.symm.trans (hcount.trans hck))
    exact ⟨j, hj, hjk ▸ hk, hdrop, hjk ▸ hdrop'⟩
  · rw [← hcount, hcj, Nat.mul_mod_right] at hodd'
    cases hodd'
  · rw [hcount, hck, Nat.mul_mod_right] at hodd
    cases hodd
  · obtain ⟨r, hr, hshared⟩ := exists_shared_of_ends hsep hxs hys
    rw [hrows r hr] at hshared
    cases hshared

end Table

namespace Scan

variable {c : Comparator} {s s' : Scan} {sep : Text} {as es : List Table}

/-- A stretch of lines from behind a header up to the next shared separator. When it is passed, the two
sides of it hold the same lines in some order. -/
theorem run_stretch (hs : s.Fresh) {pairs : List (Text × Text)}
    (hshared : ∃ p ∈ pairs, sharedSeparator p) (hrun : run c (s.atRows c.layout) pairs = .ok s') :
    ∃ rows p rest s₁, pairs = rows ++ p :: rest ∧ (∀ r ∈ rows, sharedSeparator r = false) ∧
      sharedSeparator p ∧ (rows.map Prod.fst).Perm (rows.map Prod.snd) ∧
      s₁.Fresh ∧ run c s₁ rest = .ok s' := by
  obtain ⟨p, hfind⟩ := Option.isSome_iff_exists.1 (List.find?_isSome.2 hshared)
  obtain ⟨hp, rows, rest, rfl, hrows⟩ := List.find?_eq_some_iff_append.1 hfind
  simp only [Bool.not_eq_true'] at hrows
  rw [List.append_cons] at hrun
  obtain ⟨s₁, hstretch, hrest⟩ := run_append_ok hrun
  rw [run_rows_closer hs hrows hp] at hstretch
  obtain ⟨hnone, rfl⟩ := ok_of_check hstretch
  exact ⟨rows, p, rest, _, rfl, hrows, hp, Mismatch.ofRows?_eq_none_iff.1 hnone, fresh_closed _, hrest⟩

theorem run_write_opening (hsep : isSeparator sep) {a e : Table} (ha : a.DashFree) (hs : s.Fresh)
    (hlen : (Table.write c.layout sep (a :: as)).length = (Table.write c.layout sep (e :: es)).length)
    (hrun : run c s ((Table.write c.layout sep (a :: as)).zip (Table.write c.layout sep (e :: es))) =
      .ok s') :
    (Table.behind c.layout sep a as).length = (Table.behind c.layout sep e es).length ∧
      run c (s.atRows c.layout)
        ((Table.behind c.layout sep a as).zip (Table.behind c.layout sep e es)) = .ok s' := by
  have hopen := c.layout.length_opening (a.block sep) (e.block sep)
  have hheader : sharedSeparator ((a.block sep).header, (e.block sep).header) = false :=
    sharedSeparator_eq_false_of_left (ha _ (List.mem_cons_self ..))
  have hunderline : sharedSeparator ((a.block sep).underline, (e.block sep).underline) := by
    simpa [sharedSeparator, Table.block] using hsep
  rw [Table.write_cons, Table.write_cons] at hlen hrun
  rw [List.zip_append hopen] at hrun
  obtain ⟨s₁, hpassed, hrest⟩ := run_append_ok hrun
  rw [run_opening hs hheader hunderline] at hpassed
  obtain ⟨-, rfl⟩ := ok_of_check hpassed
  refine ⟨?_, hrest⟩
  rw [List.length_append, hopen, List.length_append] at hlen
  exact Nat.add_left_cancel hlen

/-- Up to the first shared separator behind the first headers, equally many tables are read on both
sides. -/
theorem run_write_cons (hsep : isSeparator sep) {a e : Table} (ha : ∀ t ∈ a :: as, t.DashFree)
    (he : ∀ t ∈ e :: es, t.DashFree) (hs : s.Fresh)
    (hlen : (Table.write c.layout sep (a :: as)).length = (Table.write c.layout sep (e :: es)).length)
    (hrun : run c s ((Table.write c.layout sep (a :: as)).zip (Table.write c.layout sep (e :: es))) =
      .ok s') :
    ∃ j s₁, j ≤ as.length ∧ j ≤ es.length ∧ s₁.Fresh ∧
      (Table.write c.layout sep (as.drop j)).length = (Table.write c.layout sep (es.drop j)).length ∧
      run c s₁ ((Table.write c.layout sep (as.drop j)).zip (Table.write c.layout sep (es.drop j))) =
        .ok s' := by
  obtain ⟨hbehind, hrun⟩ := run_write_opening hsep (ha a (List.mem_cons_self ..)) hs hlen hrun
  obtain ⟨rows, p, rest, s₁, hsplit, hrows, hp, hperm, hfresh, hrest⟩ :=
    run_stretch hs ⟨_, Table.separator_mem_zip hbehind, by simpa [sharedSeparator] using hsep⟩ hrun
  have hfst := List.map_fst_zip (Nat.le_of_eq hbehind)
  have hsnd := List.map_snd_zip (Nat.le_of_eq hbehind.symm)
  rw [hsplit, List.map_append, List.map_cons] at hfst hsnd
  obtain ⟨heq, hsep'⟩ := isSeparator_of_sharedSeparator hp
  have hmem : p.1 ∈ Table.write c.layout sep (a :: as) := by
    rw [Table.write_cons, ← hfst]
    simp
  have hp1 : p.1 = sep := Table.eq_of_isSeparator ha hmem hsep'
  rw [hp1] at hfst
  rw [← heq, hp1] at hsnd
  obtain ⟨j, hja, hje, hda, hde⟩ := Table.drop_of_stretch hsep ha he hrows hperm hfst.symm hsnd.symm
  refine ⟨j, s₁, hja, hje, hfresh, ?_, ?_⟩
  · rw [← hda, ← hde, List.length_map, List.length_map]
  · rw [← hda, ← hde, List.zip_map', List.map_id']
    exact hrest

theorem length_eq_of_run (hsep : isSeparator sep) (ha : ∀ t ∈ as, t.DashFree) (he : ∀ t ∈ es, t.DashFree)
    (hs : s.Fresh)
    (hlen : (Table.write c.layout sep as).length = (Table.write c.layout sep es).length)
    (hrun : run c s ((Table.write c.layout sep as).zip (Table.write c.layout sep es)) = .ok s') :
    as.length = es.length := by
  induction hn : as.length using Nat.strong_induction_on generalizing as es s with
  | _ n ih =>
    subst hn
    cases as with
    | nil =>
      cases es with
      | nil => rfl
      | cons e es =>
        exact absurd (List.length_eq_zero_iff.1 hlen.symm) (Table.write_cons_ne_nil _ _ _ _)
    | cons a as =>
      cases es with
      | nil => exact absurd (List.length_eq_zero_iff.1 hlen) (Table.write_cons_ne_nil _ _ _ _)
      | cons e es =>
        obtain ⟨j, s₁, hja, hje, hfresh, hlen', hrun'⟩ := run_write_cons hsep ha he hs hlen hrun
        have hdrop := ih (as.drop j).length (by rw [List.length_drop, List.length_cons]; omega)
          (fun t ht => ha t (List.mem_cons_of_mem _ (List.mem_of_mem_drop ht)))
          (fun t ht => he t (List.mem_cons_of_mem _ (List.mem_of_mem_drop ht))) hfresh hlen' hrun' rfl
        simp only [List.length_drop, List.length_cons] at hdrop ⊢
        omega

end Scan

namespace Comparator

variable {c : Comparator} {sep : Text} {as es : List Table} {t : Summary}

theorem length_eq_of_value_agree (hsep : isSeparator sep) (ha : ∀ t ∈ as, t.Plain)
    (he : ∀ t ∈ es, t.Plain)
    (h : (c.compare (Table.dump c.layout sep as) (Table.dump c.layout sep es)).value = .agree t) :
    as.length = es.length := by
  obtain ⟨hsize, s, hrun, -⟩ := run_of_value_agree h
  rw [Lines.size, Lines.size, Table.toList_dump_plain _ _ ha, Table.toList_dump_plain _ _ he] at hsize
  rw [Table.toList_dump_plain _ _ ha, Table.toList_dump_plain _ _ he] at hrun
  rw [← isSeparator_trim] at hsep
  exact Scan.length_eq_of_run hsep (fun t ht => (ha t ht).1) (fun t ht => (he t ht).1)
    Scan.fresh_start hsize hrun

theorem matches_of_same_sizes (hsep : isSeparator sep) (ha : ∀ t ∈ as, t.Plain)
    (he : ∀ t ∈ es, t.Plain)
    (h : (c.compare (Table.dump c.layout sep as) (Table.dump c.layout sep es)).value = .agree t)
    (hsizes : List.Forall₂ (fun a e : Table => a.rows.length = e.rows.length) as es) :
    List.Forall₂ Table.Matches as es := by
  obtain ⟨hlen, hsizes⟩ := List.forall₂_iff_zip.1 hsizes
  have htrim : ((as.zip es).map (Table.beside sep)).map BlockPair.trim =
      (as.zip es).map (Table.beside sep.trim) := by
    rw [List.map_map]
    exact List.map_congr_left fun p hp =>
      Table.trim_beside sep (ha _ (List.of_mem_zip hp).1) (he _ (List.of_mem_zip hp).2)
  have haligned : ∀ b ∈ (as.zip es).map (Table.beside sep.trim), b.Aligned := by
    simp only [List.mem_map]
    rintro _ ⟨p, hp, rfl⟩
    exact Table.aligned_beside (by rwa [isSeparator_trim]) (ha _ (List.of_mem_zip hp).1).1 (hsizes hp)
  rw [← htrim] at haligned
  rw [Table.dump, Table.dump, ← Table.map_actual_beside sep hlen, ← Table.map_expected_beside sep hlen]
    at h
  have hmatches := matches_of_value_dump c haligned h
  rw [htrim] at hmatches
  refine List.forall₂_iff_zip.2 ⟨hlen, fun {a e} hp => ?_⟩
  obtain ⟨hheader, hrows⟩ := hmatches _ (List.mem_map_of_mem hp)
  exact ⟨hheader, hrows⟩

/-- When dumps of tables match, there are equally many tables on both sides. They match one by one
exactly if the tables on both sides have equally many rows, one by one. -/
theorem tables_match_iff_same_sizes (c : Comparator) (hsep : isSeparator sep)
    (ha : ∀ t ∈ as, t.Plain) (he : ∀ t ∈ es, t.Plain)
    (h : (c.compare (Table.dump c.layout sep as) (Table.dump c.layout sep es)).value = .agree t) :
    as.length = es.length ∧ (List.Forall₂ Table.Matches as es ↔
      List.Forall₂ (fun a e : Table => a.rows.length = e.rows.length) as es) :=
  ⟨length_eq_of_value_agree hsep ha he h,
    fun hmatch => hmatch.imp fun _ _ hm => hm.rows.length_eq, matches_of_same_sizes hsep ha he h⟩

/-- Two tables on either side, with another order of rows in the first one. -/
theorem tables_match_shuffled :
    let as : List Table := [⟨"n Count(Id)".toList, ["b 2".toList, "a 1".toList]⟩, ⟨"k".toList, []⟩]
    let es : List Table := [⟨"N count(id)".toList, ["a 1".toList, "b 2".toList]⟩, ⟨"k".toList, []⟩]
    (compare ⟨.underlined, .sorted⟩ (Table.dump .underlined "---".toList as)
      (Table.dump .underlined "---".toList es)).value = .agree ⟨2, 2⟩ ∧
        List.Forall₂ Table.Matches as es := by
  intro as es
  have hsep : isSeparator "---".toList := by decide
  have ha : ∀ t ∈ as, t.Plain := by unfold Table.Plain Table.DashFree; decide
  have he : ∀ t ∈ es, t.Plain := by unfold Table.Plain Table.DashFree; decide
  have h : (compare ⟨.underlined, .sorted⟩ (Table.dump .underlined "---".toList as)
      (Table.dump .underlined "---".toList es)).value = .agree ⟨2, 2⟩ := by cbv
  exact ⟨h, (tables_match_iff_same_sizes ⟨.underlined, .sorted⟩ hsep ha he h).2.2
    (.cons rfl (.cons rfl .nil))⟩

/-- The row of the second table stands in the first one on the other side, and yet the dumps match: no
separator but the last one is shared behind the first header, and both sides of the stretch up to it
hold the second header, the row and all other separators. -/
theorem value_agree_of_moved_row :
    let as : List Table := [⟨"h".toList, []⟩, ⟨"k".toList, ["x".toList]⟩]
    let es : List Table := [⟨"h".toList, ["x".toList]⟩, ⟨"k".toList, []⟩]
    (∀ t ∈ as, t.Plain) ∧ (∀ t ∈ es, t.Plain) ∧
      (∀ c : Comparator, ∃ t, (c.compare (Table.dump c.layout "-".toList as)
        (Table.dump c.layout "-".toList es)).value = .agree t) ∧
      ¬ List.Forall₂ Table.Matches as es := by
  intro as es
  have ha : ∀ t ∈ as, t.Plain := by unfold Table.Plain Table.DashFree; decide
  have he : ∀ t ∈ es, t.Plain := by unfold Table.Plain Table.DashFree; decide
  refine ⟨ha, he, fun c => ?_, fun h => ?_⟩
  · obtain ⟨_ | _, _ | _⟩ := c
    · exact ⟨⟨1, 4⟩, by cbv⟩
    · exact ⟨⟨1, 4⟩, by cbv⟩
    · exact ⟨⟨1, 3⟩, by cbv⟩
    · exact ⟨⟨1, 3⟩, by cbv⟩
  · have hlen := (List.forall₂_cons.1 h).1.rows.length_eq
    exact absurd hlen (by decide)

end Comparator
end DumpCheck
