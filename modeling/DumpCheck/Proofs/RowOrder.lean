import DumpCheck.Proofs.Blocks
import Mathlib.Data.List.Nodup
import Mathlib.Data.List.Perm.Subperm
import Mathlib.Logic.Equiv.Basic

/-!
# What the order of rows changes

Neither the way in which rows are matched nor their order within a block has an effect on a
comparison. The first is a fact about single steps (`Scan.step_rowMatch`). For the second, a
permutation of positions that leaves every row in its block maps the rows in front of a closer onto
themselves (`Rearranged.openRows_perm`), so nothing else is found or reported anywhere
(`Comparator.compare_rearranged`).
-/

namespace DumpCheck

/-! ### Ways to match rows -/

namespace Scan

variable {layout : Layout}

theorem close_rowMatch (s : Scan) (m m' : RowMatch) : s.close m = s.close m' := by
  rw [close_eq, close_eq]

theorem step_rowMatch (m m' : RowMatch) (s : Scan) (p : Text × Text) :
    step ⟨layout, m⟩ s p = step ⟨layout, m'⟩ s p := by
  cases hr : layout.role s.phase (sharedSeparator p) with
  | header => rw [step_header hr, step_header hr]
  | underline => rw [step_underline hr, step_underline hr]
  | row => rw [step_row hr, step_row hr]
  | closer =>
    rw [step_closer hr, step_closer hr]
    exact s.close_rowMatch m m'

theorem run_rowMatch (m m' : RowMatch) (s : Scan) (pairs : List (Text × Text)) :
    run ⟨layout, m⟩ s pairs = run ⟨layout, m'⟩ s pairs :=
  run_congr (P := fun _ _ => True)
    (fun s p _ _ => ⟨step_rowMatch m m' s p, fun _ _ => trivial⟩) trivial

end Scan

/-- The way in which rows are matched changes neither the verdict nor what is reported. -/
theorem Comparator.compare_sorted_eq_compare_multiset (layout : Layout) (actual expected : Lines) :
    compare ⟨layout, .sorted⟩ actual expected = compare ⟨layout, .multiset⟩ actual expected := by
  have hscan : scan ⟨layout, .sorted⟩ (actual.toList.zip expected.toList) =
      scan ⟨layout, .multiset⟩ (actual.toList.zip expected.toList) :=
    Scan.run_rowMatch .sorted .multiset .start _
  rw [compare, compare, hscan]

/-! ### Rows in another order -/

/-- The lines `ls'` are the lines `ls`, each of which stands where it stood or where another row of its
block did. -/
structure Rearranged (layout : Layout) (shared : Nat → Bool) (ls ls' : Lines) : Prop where
  size : ls'.size = ls.size
  moved : ∃ σ : Equiv.Perm Nat, ∀ i, ls'.get? i = ls.get? (σ i) ∧
    (σ i = i ∨ layout.SameBlock shared i (σ i))

namespace Rearranged

variable {layout : Layout} {shared : Nat → Bool} {ls ls' : Lines} {i : Nat}

theorem of_exchange {j : Nat} (hsize : ls'.size = ls.size) (hij : layout.SameBlock shared i j)
    (hi : ls'.get? i = ls.get? j) (hj : ls'.get? j = ls.get? i)
    (hother : ∀ k, k ≠ i → k ≠ j → ls'.get? k = ls.get? k) : Rearranged layout shared ls ls' := by
  refine ⟨hsize, Equiv.swap i j, fun k => ?_⟩
  by_cases hki : k = i
  · subst hki
    rw [Equiv.swap_apply_left]
    exact ⟨hi, .inr hij⟩
  by_cases hkj : k = j
  · subst hkj
    rw [Equiv.swap_apply_right]
    exact ⟨hj, .inr ⟨hij.2.1, hij.1, hij.2.2.symm⟩⟩
  · rw [Equiv.swap_apply_of_ne_of_ne hki hkj]
    exact ⟨hother k hki hkj, .inl rfl⟩

theorem get?_eq (h : Rearranged layout shared ls ls') (hi : layout.roleAt shared i ≠ .row) :
    ls'.get? i = ls.get? i := by
  obtain ⟨σ, hσ⟩ := h.moved
  obtain ⟨hget, hfix | hblock⟩ := hσ i
  · rw [hget, hfix]
  · exact absurd hblock.1 hi

theorem openRows_perm (h : Rearranged layout shared ls ls') (hi : layout.roleAt shared i = .closer) :
    ((layout.openRows shared i).filterMap ls'.get?).Perm
      ((layout.openRows shared i).filterMap ls.get?) := by
  obtain ⟨σ, hσ⟩ := h.moved
  -- `σ` maps the rows in front of the closer into themselves, and so onto themselves
  have hsubset : (layout.openRows shared i).map σ ⊆ layout.openRows shared i := by
    intro k hk
    obtain ⟨j, hj, rfl⟩ := List.mem_map.1 hk
    rcases (hσ j).2 with hfix | ⟨-, hrow, hcount⟩
    · rwa [hfix]
    · rw [Layout.mem_openRows_of_closer hi] at hj ⊢
      exact ⟨hrow, hcount.symm.trans hj.2⟩
  have hnodup : ((layout.openRows shared i).map σ).Nodup :=
    (layout.nodup_openRows shared i).map σ.injective
  have hperm : ((layout.openRows shared i).map σ).Perm (layout.openRows shared i) :=
    (List.subperm_of_subset hnodup hsubset).perm_of_length_le (by rw [List.length_map])
  have hget : (layout.openRows shared i).filterMap ls'.get? =
      ((layout.openRows shared i).map σ).filterMap ls.get? := by
    rw [List.filterMap_map]
    exact List.filterMap_congr fun j _ => (hσ j).1
  rw [hget]
  exact hperm.filterMap _

theorem rowsSince_perm {pairs pairs' : List (Text × Text)} (side : Text × Text → Text)
    (h : Rearranged layout (sharedAt pairs) ls ls') (hshared : sharedAt pairs' = sharedAt pairs)
    (hls : pairs.map side = ls.toList) (hls' : pairs'.map side = ls'.toList)
    (hi : layout.roleAt (sharedAt pairs) i = .closer) :
    ((layout.rowsSince pairs' i).map side).Perm ((layout.rowsSince pairs i).map side) := by
  have hne : layout.roleAt (sharedAt pairs) i ≠ .header := by rw [hi]; decide
  rw [Layout.map_rowsSince _ hne, Layout.map_rowsSince _ (hshared ▸ hne), hshared, hls, hls']
  exact h.openRows_perm hi

end Rearranged

/-- Two dumps side by side, and the same two with the rows of each block in another order. -/
structure Shuffled (layout : Layout) (pairs pairs' : List (Text × Text)) : Prop where
  shared : sharedAt pairs' = sharedAt pairs
  get?_eq : ∀ {i}, layout.roleAt (sharedAt pairs) i ≠ .row → pairs'[i]? = pairs[i]?
  actual : ∀ {i}, layout.roleAt (sharedAt pairs) i = .closer →
    ((layout.rowsSince pairs' i).map Prod.fst).Perm ((layout.rowsSince pairs i).map Prod.fst)
  expected : ∀ {i}, layout.roleAt (sharedAt pairs) i = .closer →
    ((layout.rowsSince pairs' i).map Prod.snd).Perm ((layout.rowsSince pairs i).map Prod.snd)

namespace Shuffled

variable {layout : Layout} {pairs pairs' : List (Text × Text)}

theorem faultAt_eq (h : Shuffled layout pairs pairs') (i : Nat) :
    layout.faultAt pairs' i = layout.faultAt pairs i := by
  unfold Layout.faultAt
  rw [h.shared]
  cases hr : layout.roleAt (sharedAt pairs) i with
  | header => simp only [h.get?_eq (by rw [hr]; decide)]
  | underline => rfl
  | row => rfl
  | closer => exact Mismatch.ofRows?_congr (h.actual hr) (h.expected hr)

theorem eventsAt_eq (h : Shuffled layout pairs pairs') (i : Nat) :
    layout.eventsAt pairs' i = layout.eventsAt pairs i := by
  unfold Layout.eventsAt
  rw [h.shared, h.faultAt_eq]
  cases hr : layout.roleAt (sharedAt pairs) i with
  | header => simp only [h.get?_eq (by rw [hr]; decide)]
  | underline => rfl
  | row => rfl
  | closer =>
    have hlength := (h.actual hr).length_eq
    rw [List.length_map, List.length_map] at hlength
    simp only [hlength]

end Shuffled

namespace Comparator

variable {c : Comparator} {actual expected actual' expected' : Lines}

theorem shuffled_zip (h : actual.size = expected.size)
    (ha : Rearranged c.layout (sharedAt (actual.toList.zip expected.toList)) actual actual')
    (he : Rearranged c.layout (sharedAt (actual.toList.zip expected.toList)) expected expected')
    (hrows : ∀ i, c.layout.roleAt (sharedAt (actual.toList.zip expected.toList)) i = .row →
      sharedAt (actual'.toList.zip expected'.toList) i = false) :
    Shuffled c.layout (actual.toList.zip expected.toList) (actual'.toList.zip expected'.toList) := by
  have h' : actual'.size = expected'.size := ha.size.trans (h.trans he.size.symm)
  have hget : ∀ {i}, c.layout.roleAt (sharedAt (actual.toList.zip expected.toList)) i ≠ .row →
      (actual'.toList.zip expected'.toList)[i]? = (actual.toList.zip expected.toList)[i]? := by
    intro i hi
    exact getElem?_zip_congr (ha.get?_eq hi) (he.get?_eq hi)
  have hshared : sharedAt (actual'.toList.zip expected'.toList) =
      sharedAt (actual.toList.zip expected.toList) := by
    funext i
    -- a row is no shared separator in either pair, and what is no row stays in its place
    by_cases hi : c.layout.roleAt (sharedAt (actual.toList.zip expected.toList)) i = .row
    · rw [hrows i hi, Layout.shared_eq_false_of_row hi]
    · rw [sharedAt, sharedAt, hget hi]
  exact ⟨hshared, hget,
    ha.rowsSince_perm _ hshared (List.map_fst_zip (Nat.le_of_eq h)) (List.map_fst_zip (Nat.le_of_eq h')),
    he.rowsSince_perm _ hshared (List.map_snd_zip (Nat.le_of_eq h.symm))
      (List.map_snd_zip (Nat.le_of_eq h'.symm))⟩

/-- Rows may change places with other rows of their block, on both sides and in different ways, as long
as no two rows meet that are the same separator: the verdict stays the same, and so do the events. -/
theorem compare_rearranged (h : actual.size = expected.size)
    (ha : Rearranged c.layout (sharedAt (actual.toList.zip expected.toList)) actual actual')
    (he : Rearranged c.layout (sharedAt (actual.toList.zip expected.toList)) expected expected')
    (hrows : ∀ i, c.layout.roleAt (sharedAt (actual.toList.zip expected.toList)) i = .row →
      sharedAt (actual'.toList.zip expected'.toList) i = false) :
    c.compare actual' expected' = c.compare actual expected := by
  have h' : actual'.size = expected'.size := ha.size.trans (h.trans he.size.symm)
  have hshuffled := shuffled_zip h ha he hrows
  exact compare_congr h h' ha.size hshuffled.shared (fun i _ => hshuffled.faultAt_eq i)
    fun i _ => hshuffled.eventsAt_eq i

/-- On both sides, the two rows of a block are exchanged, one of which holds a dash. -/
theorem compare_rearranged_dashed_row :
    let c : Comparator := ⟨.underlined, .multiset⟩
    let actual := Lines.ofList (["d", "-", "1-2", "x", "-"].map String.toList)
    let expected := Lines.ofList (["d", "-", "x", "y", "-"].map String.toList)
    let actual' := Lines.ofList (["d", "-", "x", "1-2", "-"].map String.toList)
    let expected' := Lines.ofList (["d", "-", "y", "x", "-"].map String.toList)
    c.compare actual' expected' = c.compare actual expected ∧
      (c.compare actual expected).value = .differ (.rowSet 0 ["y".toList] ["1-2".toList]) := by
  intro c actual expected actual' expected'
  have hblock : Layout.underlined.SameBlock (sharedAt (actual.toList.zip expected.toList)) 2 3 := by
    unfold Layout.SameBlock; decide
  have hother : ∀ k, k ≠ 2 → k ≠ 3 →
      actual'.get? k = actual.get? k ∧ expected'.get? k = expected.get? k
    | 0, _, _ | 1, _, _ | 4, _, _ | _ + 5, _, _ => ⟨rfl, rfl⟩
  have hrows : ∀ i, Layout.underlined.roleAt (sharedAt (actual.toList.zip expected.toList)) i = .row →
      sharedAt (actual'.toList.zip expected'.toList) i = false
    | 0 | 1 | 2 | 3 | 4 => by decide
    | _ + 5 => fun _ => rfl
  refine ⟨compare_rearranged (c := c) rfl ?_ ?_ hrows, by decide +kernel⟩
  · exact .of_exchange rfl hblock rfl rfl fun k h2 h3 => (hother k h2 h3).1
  · exact .of_exchange rfl hblock rfl rfl fun k h2 h3 => (hother k h2 h3).2

end Comparator
end DumpCheck
