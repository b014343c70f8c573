import DumpCheck.Proofs.OneLine

/-!
# Two headers, column by column

A header is cut at every space, so it has one column more than it has spaces. Labels are compared in
lowercase and reported as they were written. The comparison runs through all columns for which there is
an answer (`Header.columnsEqual_append`) and ends at the first column for which there is none. So
`headersEqual_by_columns` tells the answer together with all that is reported, for any two headers.
-/

namespace DumpCheck

theorem Text.length_splitOn (a : Char) (t : Text) : (t.splitOn a).length = t.count a + 1 := by
  induction t with
  | nil => rfl
  | cons c t ih =>
    rw [List.splitOn_cons_eq_if_modifyHead, List.count_cons]
    by_cases hc : c == a
    · rw [if_pos hc, if_pos hc, List.length_cons, ih]
    · rw [if_neg hc, if_neg hc, List.length_modifyHead, ih, Nat.add_zero]

namespace Header

variable {p : Text × Text} {before : List (Text × Text)}

/-- The answer for one column, where each label is lowered by itself. -/
def columnEqual (p : Text × Text) : Except LabelError Bool :=
  labelsEqual p.1.lowercase p.2.lowercase

/-- The reports on the columns that are found to differ, with the labels as they were written. -/
def differences (pairs : List (Text × Text)) : List Event :=
  (pairs.filter fun p => columnEqual p = .ok false).map fun p => .labelDiffers p.1 p.2

theorem differences_cons (p : Text × Text) (pairs : List (Text × Text)) :
    differences (p :: pairs) = differences [p] ++ differences pairs := by
  rw [differences, ← List.singleton_append, List.filter_append, List.map_append]
  rfl

theorem differences_singleton {b : Bool} (h : columnEqual p = .ok b) :
    differences [p] = if b then [] else [.labelDiffers p.1 p.2] := by
  cases b <;> simp [differences, h]

/-- The columns of a header are the only labels without spaces that, joined by single spaces, are the
header. -/
theorem columns_eq_iff {h : Text} {labels : List Text} :
    columns h = labels ↔ labels ≠ [] ∧ (∀ l ∈ labels, ' ' ∉ l) ∧ [' '].intercalate labels = h := by
  constructor
  · rintro rfl
    have hne : columns h ≠ [] := List.splitOn_ne_nil ' ' h
    exact ⟨hne, fun l hl => (Text.mem_splitOn hl).1, List.intercalate_splitOn ' '⟩
  · rintro ⟨hne, hspace, rfl⟩
    exact List.splitOn_intercalate ' ' hspace hne

/-! ### One column after the other -/

theorem map_true_and (answer : Except LabelError Bool) : answer.map (true && ·) = answer := by
  cases answer <;> rfl

theorem columnsEqual_cons_of_error {e : LabelError} (h : columnEqual p = .error e)
    (rest : List (Text × Text)) : columnsEqual (p :: rest) = ⟨.error e, []⟩ := by
  unfold columnEqual at h
  rw [columnsEqual, h]
  rfl

theorem columnsEqual_cons_of_ok {b : Bool} (h : columnEqual p = .ok b) (rest : List (Text × Text)) :
    columnsEqual (p :: rest) =
      ⟨(columnsEqual rest).value.map (b && ·), differences [p] ++ (columnsEqual rest).events⟩ := by
  rw [differences_singleton h]
  unfold columnEqual at h
  rw [columnsEqual, h]
  cases b with
  | false => rfl
  | true =>
    rw [map_true_and]
    rfl

/-- Behind columns for which there is an answer the comparison goes on: a column that differs is
reported and makes the headers differ, and it ends nothing. -/
theorem columnsEqual_append (h : ∀ p ∈ before, ∃ b, columnEqual p = .ok b)
    (rest : List (Text × Text)) :
    columnsEqual (before ++ rest) =
      ⟨(columnsEqual rest).value.map (before.all (columnEqual · = .ok true) && ·),
        differences before ++ (columnsEqual rest).events⟩ := by
  induction before with
  | nil =>
    rw [List.all_nil, map_true_and]
    rfl
  | cons p before ih =>
    obtain ⟨b, hb⟩ := h p (List.mem_cons_self ..)
    have hbefore := ih fun q hq => h q (List.mem_cons_of_mem _ hq)
    have hhere : decide (columnEqual p = .ok true) = b := by simp [hb]
    rw [List.cons_append, columnsEqual_cons_of_ok hb, hbefore, differences_cons p before,
      List.append_assoc, List.all_cons, hhere]
    cases (columnsEqual rest).value with
    | error e => rfl
    | ok b' => simp only [Except.map, Bool.and_assoc]

theorem columnsEqual_of_error {e : LabelError} (h : ∀ q ∈ before, ∃ b, columnEqual q = .ok b)
    (he : columnEqual p = .error e) (rest : List (Text × Text)) :
    columnsEqual (before ++ p :: rest) = ⟨.error e, differences before⟩ := by
  rw [columnsEqual_append h, columnsEqual_cons_of_error he, List.append_nil]
  rfl

theorem columnsEqual_of_ok {pairs : List (Text × Text)} (h : ∀ q ∈ pairs, ∃ b, columnEqual q = .ok b) :
    columnsEqual pairs = ⟨.ok (pairs.all (columnEqual · = .ok true)), differences pairs⟩ := by
  have hwhole := columnsEqual_append h []
  rw [List.append_nil] at hwhole
  rw [hwhole]
  simp [columnsEqual, Logged.silent, Except.map]

end Header

/-- Headers have as many columns as they have spaces, and one more. If these numbers differ, so do the
headers, and nothing else is looked at. Otherwise the first column for which there is no answer decides,
even behind a difference; without such a column the headers are equal exactly if all columns are. The
reports are in the order of the columns, one for each difference up to where the comparison ends. -/
theorem headersEqual_by_columns (h1 h2 : Text) :
    let pairs := (Header.columns h1).zip (Header.columns h2)
    (∀ h labels, Header.columns h = labels ↔
      labels ≠ [] ∧ (∀ l ∈ labels, ' ' ∉ l) ∧ [' '].intercalate labels = h) ∧
    (h1.count ' ' ≠ h2.count ' ' → headersEqual h1 h2 =
      ⟨.ok false, [.columnCountDiffers (h1.count ' ' + 1) (h2.count ' ' + 1)]⟩) ∧
    (h1.count ' ' = h2.count ' ' →
      pairs.length = h1.count ' ' + 1 ∧
      (∀ before p rest e, pairs = before ++ p :: rest →
        (∀ q ∈ before, ∃ b, Header.columnEqual q = .ok b) → Header.columnEqual p = .error e →
          headersEqual h1 h2 = ⟨.error e, Header.differences before⟩) ∧
      ((∀ q ∈ pairs, ∃ b, Header.columnEqual q = .ok b) →
        ∃ b, headersEqual h1 h2 = ⟨.ok b, Header.differences pairs⟩ ∧
          (b = true ↔ ∀ q ∈ pairs, Header.columnEqual q = .ok true))) ∧
    ((headersEqual h1 h2).value = .ok true → (headersEqual h1 h2).events = []) := by
  intro pairs
  have hlength (h : Text) : (Header.columns h).length = h.count ' ' + 1 := Text.length_splitOn ' ' h
  refine ⟨fun h labels => Header.columns_eq_iff, fun hne => ?_, fun heq => ?_, headersEqual_events⟩
  · have hwidth : (Header.columns h1).length ≠ (Header.columns h2).length := by
      rw [hlength, hlength]
      omega
    rw [headersEqual, if_neg hwidth, hlength, hlength]
  · have hwidth : (Header.columns h1).length = (Header.columns h2).length := by
      rw [hlength, hlength, heq]
    have hequal : headersEqual h1 h2 = Header.columnsEqual pairs := by rw [headersEqual, if_pos hwidth]
    refine ⟨?_, fun before p rest e hpairs hbefore he => ?_, fun hall => ?_⟩
    · rw [List.length_zip, ← hwidth, Nat.min_self, hlength]
    · rw [hequal, hpairs, Header.columnsEqual_of_error hbefore he]
    · refine ⟨pairs.all (Header.columnEqual · = .ok true), ?_, ?_⟩
      · rw [hequal, Header.columnsEqual_of_ok hall]
      · rw [List.all_eq_true]
        simp only [decide_eq_true_eq]

/-- The second column is short for the other one only in lowercase. -/
example : headersEqual "NAME CountOfAge".toList "name COUNT(age)".toList = ⟨.ok true, []⟩ := by
  decide

/-- A column that differs comes in front of the malformed one, and one that nobody looks at behind it. -/
example :
    headersEqual "Sname countofsid x".toList "sid countsid y".toList =
      ⟨.error ⟨"countsid".toList, "count".toList⟩, [.labelDiffers "Sname".toList "sid".toList]⟩ := by
  decide

end DumpCheck
