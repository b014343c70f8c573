import DumpCheck.Proofs.Labels
import DumpCheck.Proofs.Position
import Mathlib.Data.List.Zip

/-!
# Dumps exchanged, and a dump beside itself

Only the rule for labels treats the two sides of a comparison in different ways, and only for a label
in the short spelling of an aggregate. Where a comparison meets no such label, it finds and reports in
the other order of the dumps the mirror image of what it finds in this one (`Comparator.compare_swap`).
And a dump beside itself has equal headers and the same rows at every position, whatever its lines are,
so it always matches, and silently as to warnings (`Comparator.compare_self`).
-/

namespace DumpCheck

/-- The mismatch that is found when the two dumps are exchanged. -/
def Mismatch.mirror : Mismatch → Mismatch
  | length actual expected => length expected actual
  | header q actual expected => header q expected actual
  | rowSet q missing unexpected => rowSet q unexpected missing
  | malformedLabel q label => malformedLabel q label

theorem Mismatch.map_mirror_eq_malformedLabel {v : Verdict} {q : Nat} {label : Text}
    (h : v.map mirror = .differ (.malformedLabel q label)) : v = .differ (.malformedLabel q label) := by
  cases v with
  | agree totals => cases h
  | differ m => cases m <;> cases h; rfl

/-- The event that is reported when the two dumps are exchanged. -/
def Event.mirror : Event → Event
  | columnCountDiffers actual expected => columnCountDiffers expected actual
  | labelDiffers actual expected => labelDiffers expected actual
  | blockMatched query rows => blockMatched query rows
  | tailNotCompared rows => tailNotCompared rows

/-! ### Labels and headers -/

/-- The label begins, in lowercase, as the short spelling of a function does. -/
def IsShort (label : Text) : Prop :=
  ∃ f ∈ Aggregate.all, f.shorthand <+: label.lowercase

instance (label : Text) : Decidable (IsShort label) :=
  inferInstanceAs (Decidable (∃ f ∈ Aggregate.all, f.shorthand <+: label.lowercase))

theorem labelsEqual_of_not_isShort {c1 : Text} (h : ¬ IsShort c1) (c2 : Text) :
    labelsEqual c1.lowercase c2.lowercase = .ok (decide (c1.lowercase = c2.lowercase)) := by
  have hlong : Aggregate.ofShort? Aggregate.all c1.lowercase = none :=
    Aggregate.ofShort?_eq_none fun f hf hprefix => h ⟨f, hf, hprefix⟩
  unfold labelsEqual
  split
  · rw [decide_eq_true ‹_›]
  · rw [hlong, decide_eq_false ‹_›]

namespace Header

/-- No label of the header is short. -/
def SpelledOut (header : Text) : Prop :=
  ∀ label ∈ columns header, ¬ IsShort label

instance (header : Text) : Decidable (SpelledOut header) :=
  inferInstanceAs (Decidable (∀ label ∈ columns header, ¬ IsShort label))

/-- The columns of which the labels are not the same. -/
def differing (pairs : List (Text × Text)) : List (Text × Text) :=
  pairs.filter fun p => p.1.lowercase ≠ p.2.lowercase

theorem differing_swap (pairs : List (Text × Text)) :
    differing (pairs.map Prod.swap) = (differing pairs).map Prod.swap := by
  rw [differing, differing, List.filter_map]
  congr 2
  funext p
  simp [eq_comm]

/-- Without short labels, the same labels are asked for in each column. -/
theorem columnsEqual_of_not_isShort {pairs : List (Text × Text)} (h : ∀ p ∈ pairs, ¬ IsShort p.1) :
    columnsEqual pairs = ⟨.ok (differing pairs).isEmpty,
      (differing pairs).map fun p => .labelDiffers p.1 p.2⟩ := by
  induction pairs with
  | nil => rfl
  | cons p pairs ih =>
    have hrest := ih fun q hq => h q (List.mem_cons_of_mem _ hq)
    obtain ⟨c1, c2⟩ := p
    rw [columnsEqual, labelsEqual_of_not_isShort (h _ (List.mem_cons_self ..)), hrest]
    by_cases heq : c1.lowercase = c2.lowercase
    · simp [differing, heq]
    · simp [differing, heq, Except.map]

end Header

section Headers

variable {a e : Text} {q : Nat}

theorem headersEqual_ok (ha : Header.SpelledOut a) (e : Text) :
    ∃ b, (headersEqual a e).value = .ok b := by
  unfold headersEqual
  simp only
  split
  · rw [Header.columnsEqual_of_not_isShort fun p hp => ha _ (List.of_mem_zip hp).1]
    exact ⟨_, rfl⟩
  · exact ⟨false, rfl⟩

theorem headersEqual_swap (ha : Header.SpelledOut a) (he : Header.SpelledOut e) :
    headersEqual e a = ⟨(headersEqual a e).value, (headersEqual a e).events.map Event.mirror⟩ := by
  unfold headersEqual
  simp only
  by_cases hlen : (Header.columns a).length = (Header.columns e).length
  · rw [if_pos hlen, if_pos hlen.symm, ← List.zip_swap,
      Header.columnsEqual_of_not_isShort fun p hp => ha _ (List.of_mem_zip hp).1,
      Header.columnsEqual_of_not_isShort, Header.differing_swap]
    · simp [Event.mirror, Function.comp_def]
    · intro p hp
      rw [List.zip_swap] at hp
      exact he _ (List.of_mem_zip hp).1
  · rw [if_neg hlen, if_neg (Ne.symm hlen)]
    rfl

theorem Mismatch.ofHeaders?_ne_malformedLabel (ha : Header.SpelledOut a) (e label : Text) (q' : Nat) :
    ofHeaders? q a e ≠ some (.malformedLabel q' label) := by
  obtain ⟨b, hb⟩ := headersEqual_ok ha e
  cases b <;> simp [ofHeaders?, hb]

theorem Mismatch.ofRows?_ne_malformedLabel (as es : List Text) (q' : Nat) (label : Text) :
    ofRows? q as es ≠ some (.malformedLabel q' label) := by
  unfold ofRows?
  split <;> simp

theorem Mismatch.ofHeaders?_swap (ha : Header.SpelledOut a) (he : Header.SpelledOut e) :
    ofHeaders? q e a = (ofHeaders? q a e).map mirror := by
  obtain ⟨b, hb⟩ := headersEqual_ok ha e
  rw [ofHeaders?, headersEqual_swap ha he, ofHeaders?, hb]
  cases b <;> rfl

theorem Mismatch.ofRows?_swap (as es : List Text) :
    ofRows? q es as = (ofRows? q as es).map mirror := by
  unfold ofRows?
  by_cases h : as.Perm es
  · rw [if_pos h, if_pos h.symm]
    rfl
  · rw [if_neg h, if_neg fun h' => h h'.symm]
    rfl

end Headers

/-! ### Positions -/

namespace Layout

variable {layout : Layout} {pairs : List (Text × Text)} {i : Nat}

/-- If the line at this position is a header, it has no short label on either side. -/
def SpelledOutAt (layout : Layout) (pairs : List (Text × Text)) (i : Nat) : Prop :=
  layout.roleAt (sharedAt pairs) i = .header →
    ∀ p ∈ pairs[i]?, Header.SpelledOut p.1 ∧ Header.SpelledOut p.2

instance (layout : Layout) (pairs : List (Text × Text)) (i : Nat) :
    Decidable (layout.SpelledOutAt pairs i) :=
  inferInstanceAs (Decidable (layout.roleAt (sharedAt pairs) i = .header →
    ∀ p ∈ pairs[i]?, Header.SpelledOut p.1 ∧ Header.SpelledOut p.2))

theorem rowsSince_swap (layout : Layout) (pairs : List (Text × Text)) (i : Nat) :
    layout.rowsSince (pairs.map Prod.swap) i = (layout.rowsSince pairs i).map Prod.swap := by
  induction i with
  | zero => rfl
  | succ i ih =>
    rw [rowsSince, rowsSince, sharedAt_swap, ih]
    cases layout.roleAt (sharedAt pairs) i with
    | header => rfl
    | underline => rfl
    | row => rw [List.map_append, List.getElem?_map, Option.toList_map]
    | closer => rfl

theorem faultAt_swap (h : layout.SpelledOutAt pairs i) :
    layout.faultAt (pairs.map Prod.swap) i = (layout.faultAt pairs i).map Mismatch.mirror := by
  unfold faultAt
  rw [sharedAt_swap, rowsSince_swap]
  cases hr : layout.roleAt (sharedAt pairs) i with
  | header =>
    rw [List.getElem?_map]
    cases hp : pairs[i]? with
    | none => rfl
    | some p =>
      obtain ⟨ha, he⟩ := h hr p hp
      exact Mismatch.ofHeaders?_swap ha he
  | underline => rfl
  | row => rfl
  | closer =>
    simp only [List.map_map, Function.comp_def, Prod.fst_swap, Prod.snd_swap]
    exact Mismatch.ofRows?_swap ..

theorem faultAt_ne_malformedLabel (h : layout.SpelledOutAt pairs i) (q : Nat) (label : Text) :
    layout.faultAt pairs i ≠ some (.malformedLabel q label) := by
  intro heq
  rcases cases_of_faultAt heq with ⟨hheader, p, hp, hfault⟩ | ⟨-, hfault⟩
  · exact Mismatch.ofHeaders?_ne_malformedLabel (h hheader p hp).1 _ _ _ hfault
  · exact Mismatch.ofRows?_ne_malformedLabel _ _ _ _ hfault

theorem eventsAt_swap (h : layout.SpelledOutAt pairs i) :
    layout.eventsAt (pairs.map Prod.swap) i = (layout.eventsAt pairs i).map Event.mirror := by
  unfold eventsAt
  rw [faultAt_swap h, sharedAt_swap, rowsSince_swap]
  cases hr : layout.roleAt (sharedAt pairs) i with
  | header =>
    rw [List.getElem?_map]
    cases hp : pairs[i]? with
    | none => rfl
    | some p =>
      obtain ⟨ha, he⟩ := h hr p hp
      exact congrArg Logged.events (headersEqual_swap ha he)
  | underline => rfl
  | row => rfl
  | closer =>
    simp only [Option.map_eq_none_iff, List.length_map]
    split <;> rfl

end Layout

namespace Comparator

variable {c : Comparator} {actual expected : Lines}

/-- Where the dumps are compared at all, no header has a short label that the comparison comes to. -/
def SpelledOut (c : Comparator) (actual expected : Lines) : Prop :=
  actual.size = expected.size →
    ∀ i < actual.size, (∀ j < i, c.layout.faultAt (actual.toList.zip expected.toList) j = none) →
      c.layout.SpelledOutAt (actual.toList.zip expected.toList) i

theorem value_ne_malformedLabel (h : c.SpelledOut actual expected) (q : Nat) (label : Text) :
    (c.compare actual expected).value ≠ .differ (.malformedLabel q label) := by
  by_cases hsize : actual.size = expected.size
  · rcases c.layout.faultless_or_first_fault (actual.toList.zip expected.toList) actual.size with
      hok | ⟨i, hi, m, hm, hok⟩
    · rw [value_of_no_fault hsize hok]
      exact nofun
    · have hne := Layout.faultAt_ne_malformedLabel (h hsize i hi hok) q label
      rw [hm] at hne
      rw [value_of_first_fault hsize hi hm hok]
      exact fun heq => hne (congrArg some (Verdict.differ.inj heq))
  · rw [value_of_size_ne hsize]
    exact nofun

/-- Exchanging the dumps exchanges the sides in the verdict and in all that is reported, if no header
has a short label. Then no label is malformed either. -/
theorem compare_swap (h : c.SpelledOut actual expected) :
    c.compare expected actual =
        ⟨(c.compare actual expected).value.map Mismatch.mirror,
          (c.compare actual expected).events.map Event.mirror⟩ ∧
      ∀ q label, (c.compare actual expected).value ≠ .differ (.malformedLabel q label) ∧
        (c.compare expected actual).value ≠ .differ (.malformedLabel q label) := by
  have hmirror : c.compare expected actual =
      ⟨(c.compare actual expected).value.map Mismatch.mirror,
        (c.compare actual expected).events.map Event.mirror⟩ := by
    by_cases hsize : actual.size = expected.size
    · -- the other order stands the same pairs side by side, with their sides exchanged
      have hswap : expected.toList.zip actual.toList =
          (actual.toList.zip expected.toList).map Prod.swap := (List.zip_swap ..).symm
      refine compare_map _ _ (fun _ => rfl) hsize hsize.symm hsize.symm ?_ fun i hi hok => ?_
      · rw [hswap, sharedAt_swap]
      · rw [hswap]
        exact ⟨Layout.faultAt_swap (h hsize i hi hok), Layout.eventsAt_swap (h hsize i hi hok)⟩
    · rw [compare_of_size_ne hsize, compare_of_size_ne (Ne.symm hsize)]
      rfl
  refine ⟨hmirror, fun q label => ⟨value_ne_malformedLabel h q label, fun heq => ?_⟩⟩
  rw [hmirror] at heq
  exact value_ne_malformedLabel h q label (Mismatch.map_mirror_eq_malformedLabel heq)

/-- Rows may be spelled as short labels are, and so may a header behind the block that differs. -/
theorem compare_swap_short_label_behind :
    let c : Comparator := ⟨.underlined, .multiset⟩
    let actual := Lines.ofList
      (["Day", "-", "sumof", "-", "n", "-", "1-2", "b", "-", "countofx"].map String.toList)
    let expected := Lines.ofList
      (["day", "-", "sumof", "-", "n", "-", "b", "c", "-", "count"].map String.toList)
    c.SpelledOut actual expected ∧
      c.compare actual expected = ⟨.differ (.rowSet 1 ["c".toList] ["1-2".toList]), [.blockMatched 1 1]⟩ ∧
      c.compare expected actual =
        ⟨.differ (.rowSet 1 ["1-2".toList] ["c".toList]), [.blockMatched 1 1]⟩ := by
  intro c actual expected
  -- the comparison ends at position 8, so the last headers are not looked at
  have hfirst : ∀ i < 9, c.layout.SpelledOutAt (actual.toList.zip expected.toList) i := by
    decide +kernel
  have hfault : c.layout.faultAt (actual.toList.zip expected.toList) 8 =
      some (.rowSet 1 ["c".toList] ["1-2".toList]) := by decide +kernel
  have h : c.SpelledOut actual expected := by
    intro _ i _ hok
    by_cases hi : i < 9
    · exact hfirst i hi
    · have hnone := hok 8 (by omega)
      rw [hfault] at hnone
      cases hnone
  have hcompare : c.compare actual expected =
      ⟨.differ (.rowSet 1 ["c".toList] ["1-2".toList]), [.blockMatched 1 1]⟩ := by decide +kernel
  refine ⟨h, hcompare, ?_⟩
  rw [(compare_swap h).1, hcompare]
  rfl

end Comparator

/-! ### A dump beside itself -/

theorem sharedAt_self (ls : List Text) : sharedAt (ls.zip ls) = fun i => ls[i]?.any isSeparator := by
  funext i
  rw [sharedAt, List.zip_eq_zipWith, List.zipWith_self, List.getElem?_map]
  cases ls[i]? with
  | none => rfl
  | some l => simp [sharedSeparator]

theorem Layout.faultAt_self (layout : Layout) (ls : List Text) (i : Nat) :
    layout.faultAt (ls.zip ls) i = none := by
  have hsame : ∀ p ∈ ls.zip ls, p.1 = p.2 := by
    rw [List.zip_eq_zipWith, List.zipWith_self]
    exact List.forall_mem_map.2 fun _ _ => rfl
  exact faultAt_eq_none_of_eq (fun _ p hp => hsame p (List.mem_of_getElem? hp))
    fun _ q hq => hsame q (layout.rowsSince_subset _ i hq)

/-- A dump matches itself, whatever its lines are and without a warning. Its separators alone tell how
many blocks and rows are counted. -/
theorem Comparator.compare_self (c : Comparator) (ls : Lines) :
    let separatorAt (i : Nat) := (ls.get? i).any isSeparator
    (c.compare ls ls).value = .agree ⟨c.layout.closersBefore separatorAt ls.size,
        c.layout.closedRows separatorAt ls.size⟩ ∧
      ∀ ev ∈ (c.compare ls ls).events, ev.level ≠ .warn := by
  intro separatorAt
  have hvalue := value_of_no_fault (c := c) (Eq.refl ls.size)
    fun i _ => c.layout.faultAt_self ls.toList i
  refine ⟨?_, level_ne_warn_of_value_agree hvalue⟩
  rw [hvalue, sharedAt_self]
  rfl

end DumpCheck
