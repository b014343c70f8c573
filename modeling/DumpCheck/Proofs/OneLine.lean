import DumpCheck.Proofs.Lowercase
import DumpCheck.Proofs.Position
import Mathlib.Data.List.Basic

/-!
# Where line feeds cannot be

A line of a dump that was read from a text holds no line feed, nor does a label that is cut out of it and
lowered. What a mismatch holds is lines and lowered labels of the two dumps
(`Comparator.texts_of_value_differ`), so everything in it is on one line
(`Comparator.oneLine_of_value_differ`).
-/

namespace DumpCheck

namespace Text

def OneLine (t : Text) : Prop :=
  '\n' ∉ t

instance (t : Text) : Decidable t.OneLine :=
  inferInstanceAs (Decidable ('\n' ∉ t))

theorem oneLine_nil : OneLine [] :=
  List.not_mem_nil

theorem OneLine.append {t u : Text} (ht : t.OneLine) (hu : u.OneLine) : OneLine (t ++ u) := by
  rw [OneLine, List.mem_append, not_or]
  exact ⟨ht, hu⟩

theorem OneLine.subset {t u : Text} (h : t.OneLine) (hu : u ⊆ t) : u.OneLine :=
  fun hmem => h (hu hmem)

theorem mem_splitOn {a : Char} {t piece : Text} (h : piece ∈ t.splitOn a) : a ∉ piece ∧ piece ⊆ t := by
  induction t generalizing piece with
  | nil =>
    rw [List.splitOn_nil, List.mem_singleton] at h
    subst h
    exact ⟨List.not_mem_nil, List.nil_subset _⟩
  | cons c t ih =>
    rw [List.splitOn_cons_eq_if_modifyHead] at h
    split at h
    · rcases List.mem_cons.1 h with rfl | h
      · exact ⟨List.not_mem_nil, List.nil_subset _⟩
      · exact ⟨(ih h).1, List.subset_cons_of_subset _ (ih h).2⟩
    · next hc =>
      obtain ⟨first, rest, hsplit⟩ := List.exists_cons_of_ne_nil (List.splitOn_ne_nil a t)
      rw [hsplit] at h ih
      rcases List.mem_cons.1 h with rfl | h
      · obtain ⟨hno, hsub⟩ := ih (List.mem_cons_self ..)
        exact ⟨by simpa [hno] using Ne.symm (by simpa using hc), List.cons_subset_cons _ hsub⟩
      · obtain ⟨hno, hsub⟩ := ih (List.mem_cons_of_mem _ h)
        exact ⟨hno, List.subset_cons_of_subset _ hsub⟩

theorem trim_subset (t : Text) : t.trim ⊆ t := by
  intro c hc
  exact (List.dropWhile_suffix _).subset ((trimEnd_isPrefix _).subset hc)

theorem OneLine.lowercase {t : Text} (h : t.OneLine) : t.lowercase.OneLine := by
  have hmark : IsMark '\n' := by decide
  exact fun hmem => h (mem_of_mem_lowercaseAfter hmark hmem)

end Text

/-! ### Lines -/

namespace Lines

theorem oneLine_of_mem_parse {t l : Text} (h : l ∈ (parse t).toList) : l.OneLine := by
  obtain ⟨piece, hpiece, rfl⟩ := List.mem_map.1 h
  have hsplit : piece ∈ t.splitOn '\n' := by
    unfold pieces at hpiece
    simp only at hpiece
    split at hpiece
    · exact (List.dropLast_sublist _).subset hpiece
    · exact hpiece
  exact Text.OneLine.subset (Text.mem_splitOn hsplit).1 (Text.trim_subset piece)

/-- Behind a line feed, reading begins anew. -/
theorem pieces_append_line {l : Text} (hl : l.OneLine) (t : Text) : pieces (l ++ '\n' :: t) = l :: pieces t := by
  have hlast : (l :: t.splitOn '\n').getLast? = (t.splitOn '\n').getLast? := by
    rw [← List.singleton_append, List.getLast?_append_of_ne_nil _ (List.splitOn_ne_nil '\n' t)]
  unfold pieces
  simp only [List.splitOn_append_cons_self_of_not_mem hl, hlast]
  split
  · exact List.dropLast_cons_of_ne_nil (List.splitOn_ne_nil '\n' t)
  · rfl

/-- Lines written out one after the other are the pieces that are read back. -/
theorem pieces_flatMap_line {ls : List Text} (h : ∀ l ∈ ls, l.OneLine) : pieces (ls.flatMap Text.line) = ls := by
  induction ls with
  | nil => rfl
  | cons l ls ih =>
    rw [List.flatMap_cons, Text.line, List.append_assoc, List.singleton_append,
      pieces_append_line (h l (List.mem_cons_self ..)), ih fun l' hl' => h l' (List.mem_cons_of_mem _ hl')]

end Lines

/-! ### What a mismatch holds -/

def Mismatch.texts : Mismatch → List Text
  | length .. => []
  | header _ actual expected => [actual, expected]
  | rowSet _ missing unexpected => missing ++ unexpected
  | malformedLabel _ label => [label]

theorem labelsEqual_error {v1 v2 : Text} {e : LabelError} (h : labelsEqual v1 v2 = .error e) :
    e.label = v2 := by
  unfold labelsEqual at h
  split at h
  · cases h
  · split at h
    · cases h
    · split at h
      · split at h
        · cases h
          rfl
        · cases h
      · cases h

theorem Header.columnsEqual_error {pairs : List (Text × Text)} {e : LabelError}
    (h : (columnsEqual pairs).value = .error e) : ∃ p ∈ pairs, e.label = p.2.lowercase := by
  fun_induction columnsEqual pairs with
  | case1 => cases h
  | case2 c1 c2 rest e' hlabel =>
    cases h
    exact ⟨(c1, c2), List.mem_cons_self .., labelsEqual_error hlabel⟩
  | case3 c1 c2 rest _ ih =>
    obtain ⟨p, hp, heq⟩ := ih h
    exact ⟨p, List.mem_cons_of_mem _ hp, heq⟩
  | case4 c1 c2 rest _ later ih =>
    have hlater : later.value = .error e := by
      cases hv : later.value with
      | error e' =>
        rw [hv] at h
        exact h
      | ok b =>
        rw [hv] at h
        cases h
    obtain ⟨p, hp, heq⟩ := ih hlater
    exact ⟨p, List.mem_cons_of_mem _ hp, heq⟩

theorem headersEqual_error {a e : Text} {le : LabelError} (h : (headersEqual a e).value = .error le) :
    ∃ label ∈ Header.columns e, le.label = label.lowercase := by
  unfold headersEqual at h
  simp only at h
  split at h
  · obtain ⟨p, hp, heq⟩ := Header.columnsEqual_error h
    exact ⟨p.2, (List.of_mem_zip hp).2, heq⟩
  · cases h

theorem Mismatch.texts_of_ofHeaders? {q : Nat} {a e t : Text} {m : Mismatch}
    (h : ofHeaders? q a e = some m) (ht : t ∈ m.texts) :
    t = a ∨ t = e ∨ ∃ label ∈ Header.columns e, t = label.lowercase := by
  unfold ofHeaders? at h
  split at h
  · cases h
  · cases h
    rcases List.mem_pair.1 ht with rfl | rfl
    · exact .inl rfl
    · exact .inr (.inl rfl)
  · next le hle =>
    cases h
    obtain ⟨label, hlabel, heq⟩ := headersEqual_error hle
    exact .inr (.inr ⟨label, hlabel, (List.mem_singleton.1 ht).trans heq⟩)

theorem Mismatch.texts_of_ofRows? {q : Nat} {as es : List Text} {t : Text} {m : Mismatch}
    (h : ofRows? q as es = some m) (ht : t ∈ m.texts) : t ∈ as ∨ t ∈ es := by
  unfold ofRows? at h
  split at h
  · cases h
  · cases h
    rcases List.mem_append.1 ht with ht | ht
    · exact .inr (List.diff_subset _ _ ((Rows.sort_perm _).subset ht))
    · exact .inl (List.diff_subset _ _ ((Rows.sort_perm _).subset ht))

namespace Comparator

variable {c : Comparator} {actual expected : Lines} {m : Mismatch}

theorem texts_of_value_differ (h : (c.compare actual expected).value = .differ m) :
    ∀ t ∈ m.texts, t ∈ actual.toList ∨ t ∈ expected.toList ∨
      ∃ l ∈ expected.toList, ∃ label ∈ Header.columns l, t = label.lowercase := by
  intro t ht
  by_cases hsize : actual.size = expected.size
  · obtain ⟨i, -, hfault, -⟩ := first_fault_of_value_differ hsize h
    rcases Layout.cases_of_faultAt hfault with ⟨-, p, hp, hheaders⟩ | ⟨-, hrows⟩
    · have hmem := List.of_mem_zip (List.mem_of_getElem? hp)
      rcases Mismatch.texts_of_ofHeaders? hheaders ht with rfl | rfl | hlabel
      · exact .inl hmem.1
      · exact .inr (.inl hmem.2)
      · exact .inr (.inr ⟨p.2, hmem.2, hlabel⟩)
    · have hsubset := c.layout.rowsSince_subset (actual.toList.zip expected.toList) i
      rcases Mismatch.texts_of_ofRows? hrows ht with ht | ht
      · obtain ⟨p, hp, rfl⟩ := List.mem_map.1 ht
        exact .inl (List.of_mem_zip (hsubset hp)).1
      · obtain ⟨p, hp, rfl⟩ := List.mem_map.1 ht
        exact .inr (.inl (List.of_mem_zip (hsubset hp)).2)
  · rw [value_of_size_ne hsize] at h
    cases h
    cases ht

theorem oneLine_of_value_differ {t u : Text} (h : (c.compare (.parse t) (.parse u)).value = .differ m) :
    ∀ text ∈ m.texts, text.OneLine := by
  intro text htext
  rcases texts_of_value_differ h text htext with hmem | hmem | ⟨l, hl, label, hlabel, rfl⟩
  · exact Lines.oneLine_of_mem_parse hmem
  · exact Lines.oneLine_of_mem_parse hmem
  · have hline : label.OneLine := (Lines.oneLine_of_mem_parse hl).subset (Text.mem_splitOn hlabel).2
    exact hline.lowercase

end Comparator
end DumpCheck
