import DumpCheck.Proofs.Blocks
import Mathlib.Data.List.Nodup
import Mathlib.Data.List.Zip

/-!
# One row that differs

Two dumps that differ in one row of a closed block, and nowhere else, do not match: the verdict names
the block and the two rows, whatever other rows the block has
(`Comparator.value_of_differsAt`). A row that is changed was no shared separator and becomes none, so
this tells what a comparison of a dump with its changed copy finds, in either order
(`Comparator.value_of_changed_row`).
-/

namespace DumpCheck

/-- The lines with another one at a position. -/
def Lines.set (ls : Lines) (i : Nat) (l : Text) (h : l.trim = l) : Lines where
  toList := ls.toList.set i l
  trimmed := by
    intro l' hl'
    rcases List.mem_or_eq_of_mem_set hl' with hl' | rfl
    · exact ls.trimmed l' hl'
    · exact h

theorem Rows.sort_diff_cons {a e : Text} (h : a ≠ e) (rows : List Text) :
    sort ((e :: rows).diff (a :: rows)) = [e] := by
  symm
  refine eq_sort (List.pairwise_singleton ..) (List.perm_iff_count.2 fun row => ?_)
  simp only [List.count_diff, List.count_cons, List.count_nil, beq_iff_eq]
  by_cases he : e = row
  · have ha : a ≠ row := fun ha => h (ha.trans he.symm)
    simp only [he, ha, if_true, if_false]
    omega
  · simp only [he, if_false]
    omega

theorem Mismatch.ofRows?_cons {q : Nat} {a e : Text} (h : a ≠ e) (rows : List Text) :
    ofRows? q (a :: rows) (e :: rows) = some (.rowSet q [e] [a]) := by
  have hperm : ¬ (a :: rows).Perm (e :: rows) := by
    intro hperm
    have hcount := hperm.count_eq a
    rw [List.count_cons_self, List.count_cons_of_ne h.symm] at hcount
    omega
  rw [ofRows?, if_neg hperm, Rows.sort_diff_cons h, Rows.sort_diff_cons h.symm]

/-- Two dumps side by side that have different lines at one position only, and these lines are rows. -/
structure DiffersAt (layout : Layout) (pairs : List (Text × Text)) (i : Nat) (p : Text × Text) : Prop where
  getElem? : pairs[i]? = some p
  ne : p.1 ≠ p.2
  row : layout.roleAt (sharedAt pairs) i = .row
  others : ∀ j ≠ i, ∀ q, pairs[j]? = some q → q.1 = q.2

namespace DiffersAt

variable {layout : Layout} {pairs : List (Text × Text)} {i j : Nat} {p : Text × Text}

theorem swap (h : DiffersAt layout pairs i p) : DiffersAt layout (pairs.map Prod.swap) i p.swap where
  getElem? := by rw [List.getElem?_map, h.getElem?]; rfl
  ne := h.ne.symm
  row := by rw [sharedAt_swap]; exact h.row
  others j hj q hq := by
    rw [List.getElem?_map, Option.map_eq_some_iff] at hq
    obtain ⟨r, hr, rfl⟩ := hq
    exact (h.others j hj r hr).symm

theorem rowsSince_perm (h : DiffersAt layout pairs i p) (hj : i ∈ layout.openRows (sharedAt pairs) j)
    (hr : layout.roleAt (sharedAt pairs) j ≠ .header) :
    ∃ rows, ((layout.rowsSince pairs j).map Prod.fst).Perm (p.1 :: rows) ∧
      ((layout.rowsSince pairs j).map Prod.snd).Perm (p.2 :: rows) := by
  have hothers : ∀ q ∈ ((layout.openRows (sharedAt pairs) j).erase i).filterMap (pairs[·]?),
      q.1 = q.2 := by
    intro q hq
    obtain ⟨k, hk, hkq⟩ := List.mem_filterMap.1 hq
    exact h.others k ((layout.nodup_openRows _ j).mem_erase_iff.1 hk).1 q hkq
  have hperm : (layout.rowsSince pairs j).Perm
      (p :: ((layout.openRows (sharedAt pairs) j).erase i).filterMap (pairs[·]?)) := by
    have hfront := (List.perm_cons_erase hj).filterMap (pairs[·]?)
    rwa [List.filterMap_cons_some h.getElem?, ← Layout.rowsSince_eq hr] at hfront
  refine ⟨_, hperm.map Prod.fst, ?_⟩
  rw [List.map_congr_left hothers]
  exact hperm.map Prod.snd

theorem eq_of_mem_rowsSince (h : DiffersAt layout pairs i p)
    (hj : i ∉ layout.openRows (sharedAt pairs) j)
    (hr : layout.roleAt (sharedAt pairs) j ≠ .header) : ∀ q ∈ layout.rowsSince pairs j, q.1 = q.2 := by
  rw [Layout.rowsSince_eq hr]
  intro q hq
  obtain ⟨k, hk, hkq⟩ := List.mem_filterMap.1 hq
  exact h.others k (fun hki => hj (hki ▸ hk)) q hkq

theorem faultAt_eq_none (h : DiffersAt layout pairs i p)
    (hj : layout.roleAt (sharedAt pairs) j = .closer → i ∉ layout.openRows (sharedAt pairs) j) :
    layout.faultAt pairs j = none := by
  refine Layout.faultAt_eq_none_of_eq (fun hheader q hq => ?_) fun hcloser => ?_
  · have hne : j ≠ i := by
      rintro rfl
      rw [h.row] at hheader
      cases hheader
    exact h.others j hne q hq
  · exact h.eq_of_mem_rowsSince (hj hcloser) (by rw [hcloser]; decide)

theorem faultAt_closer (h : DiffersAt layout pairs i p) (hr : layout.roleAt (sharedAt pairs) j = .closer)
    (hj : i ∈ layout.openRows (sharedAt pairs) j) :
    layout.faultAt pairs j =
      some (.rowSet (layout.closersBefore (sharedAt pairs) i) [p.2] [p.1]) := by
  obtain ⟨rows, hfst, hsnd⟩ := h.rowsSince_perm hj (by rw [hr]; decide)
  simp only [Layout.faultAt, hr]
  rw [Mismatch.ofRows?_congr hfst hsnd, Mismatch.ofRows?_cons h.ne, (Layout.mem_openRows.1 hj).2.2]

/-- The first closer behind the changed row is the first position that has a fault. -/
theorem first_fault (h : DiffersAt layout pairs i p)
    (hclosed : ∃ j < pairs.length, i < j ∧ layout.roleAt (sharedAt pairs) j = .closer) :
    ∃ j < pairs.length, layout.faultAt pairs j =
        some (.rowSet (layout.closersBefore (sharedAt pairs) i) [p.2] [p.1]) ∧
      ∀ k < j, layout.faultAt pairs k = none := by
  -- the first closer behind the row is the one of its block
  have hspec := Nat.find_spec hclosed
  have hmin := @Nat.find_min _ _ hclosed
  generalize Nat.find hclosed = j at hspec hmin
  obtain ⟨hlt, hij, hcloser⟩ := hspec
  have hno : ∀ k, i ≤ k → k < j → layout.roleAt (sharedAt pairs) k ≠ .closer := by
    intro k hik hkj hk
    rcases Nat.eq_or_lt_of_le hik with rfl | hik
    · rw [h.row] at hk
      cases hk
    · exact hmin hkj ⟨Nat.lt_trans hkj hlt, hik, hk⟩
  have hmem : i ∈ layout.openRows (sharedAt pairs) j :=
    Layout.mem_openRows.2 ⟨hij, h.row, (Layout.closersBefore_eq (Nat.le_of_lt hij) hno).symm⟩
  refine ⟨j, hlt, h.faultAt_closer hcloser hmem, fun k hk => ?_⟩
  refine h.faultAt_eq_none fun hkcloser hik => ?_
  exact hno k (Nat.le_of_lt (Layout.mem_openRows.1 hik).1) hk hkcloser

end DiffersAt

namespace Lines

variable {layout : Layout} {i : Nat} {old new : Text}

theorem getElem?_zip_set (ls : Lines) (hnew : new.trim = new) {j : Nat} (hj : j ≠ i) :
    ((ls.set i new hnew).toList.zip ls.toList)[j]? = (ls.toList.zip ls.toList)[j]? := by
  have hother : (ls.set i new hnew).toList[j]? = ls.toList[j]? := List.getElem?_set_ne hj.symm
  exact getElem?_zip_congr hother rfl

theorem getElem?_zip_set_self (ls : Lines) (hnew : new.trim = new) (hold : ls.get? i = some old) :
    ((ls.set i new hnew).toList.zip ls.toList)[i]? = some (new, old) := by
  have hi : i < ls.toList.length := (List.getElem?_eq_some_iff.1 hold).1
  exact List.getElem?_zip_eq_some.2 ⟨List.getElem?_set_self hi, hold⟩

theorem sharedAt_set (ls : Lines) (hnew : new.trim = new) (hold : ls.get? i = some old) (hne : new ≠ old)
    (hrow : layout.roleAt (sharedAt (ls.toList.zip ls.toList)) i = .row) :
    sharedAt ((ls.set i new hnew).toList.zip ls.toList) = sharedAt (ls.toList.zip ls.toList) := by
  funext j
  by_cases hj : j = i
  · rw [hj, Layout.shared_eq_false_of_row hrow, sharedAt, ls.getElem?_zip_set_self hnew hold]
    simp [sharedSeparator, hne]
  · rw [sharedAt, ls.getElem?_zip_set hnew hj, sharedAt]

theorem differsAt_set (ls : Lines) (hnew : new.trim = new) (hold : ls.get? i = some old)
    (hne : new ≠ old) (hrow : layout.roleAt (sharedAt (ls.toList.zip ls.toList)) i = .row) :
    DiffersAt layout ((ls.set i new hnew).toList.zip ls.toList) i (new, old) where
  getElem? := ls.getElem?_zip_set_self hnew hold
  ne := hne
  row := by rwa [ls.sharedAt_set hnew hold hne hrow]
  others j hj q hq := by
    rw [ls.getElem?_zip_set hnew hj, List.getElem?_zip_eq_some] at hq
    exact Option.some.inj (hq.1.symm.trans hq.2)

end Lines

namespace Comparator

variable {c : Comparator} {actual expected : Lines} {i : Nat} {p : Text × Text}

theorem value_of_differsAt (h : actual.size = expected.size)
    (hd : DiffersAt c.layout (actual.toList.zip expected.toList) i p)
    (hclosed : ∃ j < actual.size, i < j ∧
      c.layout.roleAt (sharedAt (actual.toList.zip expected.toList)) j = .closer) :
    (c.compare actual expected).value =
      .differ (.rowSet (c.layout.closersBefore (sharedAt (actual.toList.zip expected.toList)) i)
        [p.2] [p.1]) := by
  rw [← length_zip h] at hclosed
  obtain ⟨j, hj, hfault, hok⟩ := hd.first_fault hclosed
  rw [length_zip h] at hj
  exact value_of_first_fault h hj hfault hok

/-- Of a row that is changed, the old line and the new one are found, wherever in its block it stands
and whatever the new line is. -/
theorem value_of_changed_row (c : Comparator) (ls : Lines) {i : Nat} {old new : Text}
    (hnew : new.trim = new) (hold : ls.get? i = some old) (hne : new ≠ old)
    (hrow : c.layout.roleAt (sharedAt (ls.toList.zip ls.toList)) i = .row)
    (hclosed : ∃ j < ls.size, i < j ∧
      c.layout.roleAt (sharedAt (ls.toList.zip ls.toList)) j = .closer) :
    let query := c.layout.closersBefore (sharedAt (ls.toList.zip ls.toList)) i
    (c.compare (ls.set i new hnew) ls).value = .differ (.rowSet query [old] [new]) ∧
      (c.compare ls (ls.set i new hnew)).value = .differ (.rowSet query [new] [old]) := by
  intro query
  have hsize : (ls.set i new hnew).size = ls.size := List.length_set
  have hd := ls.differsAt_set hnew hold hne hrow
  have hshared := ls.sharedAt_set hnew hold hne hrow
  -- the other order of the two dumps is the same pairs with their sides exchanged
  have hd' := hd.swap
  have hshared' := sharedAt_swap ((ls.set i new hnew).toList.zip ls.toList)
  rw [List.zip_swap] at hd' hshared'
  constructor
  · rw [value_of_differsAt hsize hd (by rwa [hshared, hsize]), hshared]
  · rw [value_of_differsAt hsize.symm hd' (by rwa [hshared', hshared]), hshared', hshared]
    rfl

/-- The first row of the second block becomes a separator line, which is none on the other side. The
old line stands once more in the block. -/
theorem value_of_changed_row_dash :
    let c : Comparator := default
    let ls := Lines.ofList (["h", "-", "x", "-", "k", "-", "a", "b", "a", "-"].map String.toList)
    (c.compare (ls.set 6 "-".toList rfl) ls).value =
        .differ (.rowSet 1 ["a".toList] ["-".toList]) ∧
      (c.compare ls (ls.set 6 "-".toList rfl)).value =
        .differ (.rowSet 1 ["-".toList] ["a".toList]) := by
  intro c ls
  have hold : ls.get? 6 = some "a".toList := rfl
  have hne : "-".toList ≠ "a".toList := by decide
  have hrow : c.layout.roleAt (sharedAt (ls.toList.zip ls.toList)) 6 = .row := by decide +kernel
  have hcloser : 9 < ls.size ∧ 6 < 9 ∧
      c.layout.roleAt (sharedAt (ls.toList.zip ls.toList)) 9 = .closer := by
    decide +kernel
  have hquery : c.layout.closersBefore (sharedAt (ls.toList.zip ls.toList)) 6 = 1 := by
    decide +kernel
  have hchanged := value_of_changed_row c ls rfl hold hne hrow ⟨9, hcloser⟩
  rwa [hquery] at hchanged

end Comparator
end DumpCheck
