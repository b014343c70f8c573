import DumpCheck.Proofs.Position
import Mathlib.Tactic.IntervalCases

/-!
# Letters of headers in another case

How a character is lowered depends on its context only by the properties Cased and Case_Ignorable,
and an ASCII letter has the same ones in both cases (`Text.lowercase_map_toLower`). So two headers are
compared alike when ASCII letters in them change their case (`headersEqual_recased`). In dumps, such a
change can make a shared separator of a header that was none, or the other way round. In the
underlined layout a header is one in any case (`Layout.roleAt_congr`); in the trailing layout only
headers without a dash may change. Then every line keeps its part, and what is found at each position
stays the same but for the headers themselves (`RecasedPairs.faultAt_eq`).
-/

namespace DumpCheck

namespace Text

/-- The texts are the same but for the case of ASCII letters. -/
def Recased (t t' : Text) : Prop :=
  t'.map Char.toLower = t.map Char.toLower

instance (t t' : Text) : Decidable (t.Recased t') :=
  inferInstanceAs (Decidable (_ = _))

def capitals : Text :=
  "ABCDEFGHIJKLMNOPQRSTUVWXYZ".toList

theorem ofNat_mem_capitals {n : Nat} (h : 65 ≤ n) (h' : n ≤ 90) : Char.ofNat n ∈ capitals := by
  interval_cases n <;> decide

theorem toLower_eq_or_mem_capitals (c : Char) : c.toLower = c ∨ c ∈ capitals := by
  unfold Char.toLower
  split
  · right
    rename_i h
    have := ofNat_mem_capitals (n := c.toNat) h.1 h.2
    rwa [Char.ofNat_toNat] at this
  · left; rfl

theorem apply_toLower {α : Type} {f : Char → α} (h : capitals.map (f ∘ Char.toLower) = capitals.map f)
    (c : Char) : f c.toLower = f c := by
  rcases toLower_eq_or_mem_capitals c with heq | hmem
  · rw [heq]
  · exact List.map_inj_left.1 h c hmem

theorem isCased_toLower (c : Char) : isCased c.toLower = isCased c :=
  apply_toLower (by decide) c

theorem isCaseIgnorable_toLower (c : Char) : isCaseIgnorable c.toLower = isCaseIgnorable c :=
  apply_toLower (by decide) c

theorem lowercaseChar_toLower (c : Char) : lowercaseChar c.toLower = lowercaseChar c :=
  apply_toLower (by decide) c

theorem toLower_beq_space (c : Char) : (c.toLower == ' ') = (c == ' ') :=
  apply_toLower (f := (· == ' ')) (by decide) c

theorem toLower_eq_sigma_iff (c : Char) : c.toLower = 'Σ' ↔ c = 'Σ' := by
  have h : (c.toLower == 'Σ') = (c == 'Σ') := apply_toLower (f := (· == 'Σ')) (by decide) c
  rw [← beq_iff_eq, h, beq_iff_eq]

theorem meetsCased_map_toLower (t : Text) : meetsCased (t.map Char.toLower) = meetsCased t := by
  have hignore : isCaseIgnorable ∘ Char.toLower = isCaseIgnorable := funext isCaseIgnorable_toLower
  unfold meetsCased
  rw [List.dropWhile_map, hignore]
  cases t.dropWhile isCaseIgnorable with
  | nil => rfl
  | cons c rest => exact isCased_toLower c

theorem lowercaseAt_toLower (before : Text) (c : Char) (after : Text) :
    lowercaseAt (before.map Char.toLower) c.toLower (after.map Char.toLower) =
      lowercaseAt before c after := by
  simp only [lowercaseAt, lowercaseSigma, toLower_eq_sigma_iff, meetsCased_map_toLower,
    lowercaseChar_toLower]

theorem lowercaseAfter_map_toLower (before t : Text) :
    lowercaseAfter (before.map Char.toLower) (t.map Char.toLower) = lowercaseAfter before t := by
  induction t generalizing before with
  | nil => rfl
  | cons c t ih =>
    rw [List.map_cons, lowercaseAfter, lowercaseAfter, lowercaseAt_toLower, ← List.map_cons, ih]

/-- The case of ASCII letters has no part in how the other characters are lowered. -/
theorem lowercase_map_toLower (t : Text) : lowercase (t.map Char.toLower) = t.lowercase :=
  lowercaseAfter_map_toLower [] t

end Text

/-- The event with labels in which ASCII letters are small. -/
def Event.caseless : Event → Event
  | columnCountDiffers actual expected => columnCountDiffers actual expected
  | labelDiffers actual expected => labelDiffers (actual.map Char.toLower) (expected.map Char.toLower)
  | blockMatched query rows => blockMatched query rows
  | tailNotCompared rows => tailNotCompared rows

namespace Header

theorem columns_map_toLower (h : Text) :
    columns (h.map Char.toLower) = (columns h).map (List.map Char.toLower) := by
  unfold columns
  induction h with
  | nil => rfl
  | cons c h ih =>
    rw [List.map_cons, List.splitOn_cons_eq_if_modifyHead, List.splitOn_cons_eq_if_modifyHead,
      Text.toLower_beq_space, ih]
    split
    · rfl
    · cases h.splitOn ' ' <;> rfl

theorem columnsEqual_map_toLower (pairs : List (Text × Text)) :
    columnsEqual (pairs.map (Prod.map (List.map Char.toLower) (List.map Char.toLower))) =
      ⟨(columnsEqual pairs).value, (columnsEqual pairs).events.map Event.caseless⟩ := by
  induction pairs with
  | nil => rfl
  | cons p pairs ih =>
    obtain ⟨c1, c2⟩ := p
    rw [List.map_cons, Prod.map_apply, columnsEqual, columnsEqual, ih, Text.lowercase_map_toLower,
      Text.lowercase_map_toLower]
    cases labelsEqual c1.lowercase c2.lowercase with
    | error e => rfl
    | ok b => cases b <;> rfl

end Header

theorem headersEqual_map_toLower (a e : Text) :
    headersEqual (a.map Char.toLower) (e.map Char.toLower) =
      ⟨(headersEqual a e).value, (headersEqual a e).events.map Event.caseless⟩ := by
  unfold headersEqual
  simp only [Header.columns_map_toLower, List.length_map]
  by_cases hlen : (Header.columns a).length = (Header.columns e).length
  · rw [if_pos hlen, if_pos hlen, List.zip_map]
    exact Header.columnsEqual_map_toLower _
  · rw [if_neg hlen, if_neg hlen]
    rfl

theorem headersEqual_recased {a e a' e' : Text} (ha : a.Recased a') (he : e.Recased e') :
    (headersEqual a' e').value = (headersEqual a e).value ∧
      (headersEqual a' e').events.map Event.caseless = (headersEqual a e).events.map Event.caseless := by
  have hsmall := headersEqual_map_toLower a' e'
  rw [ha, he, headersEqual_map_toLower] at hsmall
  exact ⟨(congrArg Logged.value hsmall).symm, (congrArg Logged.events hsmall).symm⟩

theorem Text.Recased.isSeparator_eq {l l' : Text} (h : l.Recased l') : isSeparator l' = isSeparator l := by
  have hdash (t : Text) : isSeparator (t.map Char.toLower) = isSeparator t := by
    induction t with
    | nil => rfl
    | cons c t ih =>
      have hc : ('-' == c.toLower) = ('-' == c) := apply_toLower (f := ('-' == ·)) (by decide) c
      simp only [isSeparator, List.map_cons, List.contains_cons, hc] at ih ⊢
      rw [ih]
  rw [← hdash l', h, hdash]

namespace Layout

variable {layout : Layout} {shared shared' : Nat → Bool} {pairs pairs' : List (Text × Text)}

/-- In the underlined layout a header is one whether it is a shared separator or not. -/
theorem roleAt_congr (h : ∀ i, shared' i = shared i ∨
    layout = underlined ∧ layout.roleAt shared i = .header) :
    layout.roleAt shared' = layout.roleAt shared := by
  funext i
  induction i with
  | zero => rfl
  | succ i ih =>
    rcases h (i + 1) with hhere | ⟨rfl, hheader⟩
    · rw [roleAt, roleAt, ih, hhere]
      rcases h i with hbefore | ⟨rfl, -⟩
      · rw [hbefore]
      · simp
    · rcases roleAt_succ_eq_header_iff.1 hheader with hcloser | ⟨-, htrailing, -⟩
      · rw [hheader, roleAt_succ_eq_header_iff, ih]
        exact .inl hcloser
      · cases htrailing

theorem rowsSince_congr (hrole : layout.roleAt (sharedAt pairs') = layout.roleAt (sharedAt pairs))
    (hrow : ∀ i, layout.roleAt (sharedAt pairs) i = .row → pairs'[i]? = pairs[i]?) (i : Nat) :
    layout.rowsSince pairs' i = layout.rowsSince pairs i := by
  induction i with
  | zero => rfl
  | succ i ih =>
    rw [rowsSince, rowsSince, hrole, ih]
    cases hr : layout.roleAt (sharedAt pairs) i with
    | header => rfl
    | underline => rfl
    | row => rw [hrow i hr]
    | closer => rfl

end Layout

/-- The mismatch with other headers, if it is one of headers. -/
def Mismatch.withHeaders (p : Text × Text) : Mismatch → Mismatch
  | header q _ _ => header q p.1 p.2
  | m => m

namespace Mismatch

variable {q : Nat}

theorem ofHeaders?_recased {a e a' e' : Text} (ha : a.Recased a') (he : e.Recased e') :
    ofHeaders? q a' e' = (ofHeaders? q a e).map (withHeaders (a', e')) := by
  unfold ofHeaders?
  rw [(headersEqual_recased ha he).1]
  cases (headersEqual a e).value with
  | error _ => rfl
  | ok b => cases b <;> rfl

theorem map_withHeaders_ofRows? (p : Text × Text) (as es : List Text) :
    (ofRows? q as es).map (withHeaders p) = ofRows? q as es := by
  unfold ofRows?
  split <;> rfl

end Mismatch

/-- Two dumps side by side, and again with letters of headers in another case. -/
structure RecasedPairs (layout : Layout) (pairs pairs' : List (Text × Text)) : Prop where
  role : layout.roleAt (sharedAt pairs') = layout.roleAt (sharedAt pairs)
  other : ∀ i, layout.roleAt (sharedAt pairs) i ≠ .header → pairs'[i]? = pairs[i]?
  header : ∀ (i : Nat) (p p' : Text × Text), pairs[i]? = some p → pairs'[i]? = some p' →
    p.1.Recased p'.1 ∧ p.2.Recased p'.2

namespace RecasedPairs

variable {layout : Layout} {pairs pairs' : List (Text × Text)} {i : Nat} {p p' : Text × Text}

theorem rowsSince_eq (h : RecasedPairs layout pairs pairs') (i : Nat) :
    layout.rowsSince pairs' i = layout.rowsSince pairs i :=
  Layout.rowsSince_congr h.role (fun j hj => h.other j (by rw [hj]; decide)) i

theorem closersBefore_eq (h : RecasedPairs layout pairs pairs') (i : Nat) :
    layout.closersBefore (sharedAt pairs') i = layout.closersBefore (sharedAt pairs) i := by
  rw [Layout.closersBefore, Layout.closersBefore, h.role]

theorem faultAt_eq (h : RecasedPairs layout pairs pairs') (hp : pairs[i]? = some p)
    (hp' : pairs'[i]? = some p') :
    layout.faultAt pairs' i = (layout.faultAt pairs i).map (Mismatch.withHeaders p') := by
  obtain ⟨ha, he⟩ := h.header i p p' hp hp'
  unfold Layout.faultAt
  rw [h.role, h.rowsSince_eq, h.closersBefore_eq]
  cases layout.roleAt (sharedAt pairs) i with
  | header =>
    rw [hp, hp']
    exact Mismatch.ofHeaders?_recased ha he
  | underline => rfl
  | row => rfl
  | closer => exact (Mismatch.map_withHeaders_ofRows? ..).symm

theorem eventsAt_eq (h : RecasedPairs layout pairs pairs') (hp : pairs[i]? = some p)
    (hp' : pairs'[i]? = some p') :
    (layout.eventsAt pairs' i).map Event.caseless = (layout.eventsAt pairs i).map Event.caseless := by
  obtain ⟨ha, he⟩ := h.header i p p' hp hp'
  have hfault := h.faultAt_eq hp hp'
  unfold Layout.eventsAt
  rw [hfault, h.role, h.rowsSince_eq, h.closersBefore_eq]
  cases layout.roleAt (sharedAt pairs) i with
  | header =>
    rw [hp, hp']
    exact (headersEqual_recased ha he).2
  | underline => rfl
  | row => rfl
  | closer => simp only [Option.map_eq_none_iff]

end RecasedPairs

/-- The lines are the same but for the case of letters in headers, in the trailing layout in headers
without a dash. -/
structure Lines.RecasedHeaders (layout : Layout) (shared : Nat → Bool) (ls ls' : Lines) : Prop where
  size : ls'.size = ls.size
  recased : ∀ i l l', ls.get? i = some l → ls'.get? i = some l' → l.Recased l'
  header : ∀ i, ls'.get? i ≠ ls.get? i → layout.roleAt shared i = .header
  dashFree : layout = .trailing → ∀ i, ls'.get? i ≠ ls.get? i → ∀ l ∈ ls.get? i, isSeparator l = false

namespace Lines.RecasedHeaders

variable {layout : Layout} {shared : Nat → Bool} {ls ls' : Lines}

/-- In the trailing layout, no line that changes is a separator before or after. -/
theorem isSeparator_eq_false (h : ls.RecasedHeaders .trailing shared ls') {i : Nat}
    (hne : ls'.get? i ≠ ls.get? i) :
    (∀ l ∈ ls.get? i, isSeparator l = false) ∧ ∀ l' ∈ ls'.get? i, isSeparator l' = false := by
  have hdash := h.dashFree rfl i hne
  refine ⟨hdash, fun l' hl' => ?_⟩
  have hi : i < ls.size := by
    rw [← h.size]
    exact (List.getElem?_eq_some_iff.1 hl').1
  have hl : ls.get? i = some ls.toList[i] := List.getElem?_eq_getElem hi
  rw [(h.recased i _ _ hl hl').isSeparator_eq]
  exact hdash _ hl

end Lines.RecasedHeaders

theorem recasedPairs_zip {layout : Layout} {actual expected actual' expected' : Lines}
    (ha : actual.RecasedHeaders layout (sharedAt (actual.toList.zip expected.toList)) actual')
    (he : expected.RecasedHeaders layout (sharedAt (actual.toList.zip expected.toList)) expected') :
    RecasedPairs layout (actual.toList.zip expected.toList) (actual'.toList.zip expected'.toList) := by
  have hother : ∀ i, layout.roleAt (sharedAt (actual.toList.zip expected.toList)) i ≠ .header →
      (actual'.toList.zip expected'.toList)[i]? = (actual.toList.zip expected.toList)[i]? := by
    intro i hi
    exact getElem?_zip_congr (not_not.1 fun hne => hi (ha.header i hne))
      (not_not.1 fun hne => hi (he.header i hne))
  have hheader : ∀ (i : Nat) (p p' : Text × Text), (actual.toList.zip expected.toList)[i]? = some p →
      (actual'.toList.zip expected'.toList)[i]? = some p' → p.1.Recased p'.1 ∧ p.2.Recased p'.2 := by
    intro i p p' hp hp'
    rw [List.getElem?_zip_eq_some] at hp hp'
    exact ⟨ha.recased i _ _ hp.1 hp'.1, he.recased i _ _ hp.2 hp'.2⟩
  refine ⟨Layout.roleAt_congr fun i => ?_, hother, hheader⟩
  cases layout with
  | underlined =>
    by_cases hi : Layout.underlined.roleAt (sharedAt (actual.toList.zip expected.toList)) i = .header
    · exact .inr ⟨rfl, hi⟩
    · exact .inl (by rw [sharedAt, sharedAt, hother i hi])
  | trailing =>
    left
    by_cases hactual : actual'.get? i = actual.get? i
    · by_cases hexpected : expected'.get? i = expected.get? i
      · rw [sharedAt, sharedAt, getElem?_zip_congr hactual hexpected]
      · obtain ⟨hdash, hdash'⟩ := he.isSeparator_eq_false hexpected
        rw [sharedAt_zip_eq_false_of_right hdash, sharedAt_zip_eq_false_of_right hdash']
    · obtain ⟨hdash, hdash'⟩ := ha.isSeparator_eq_false hactual
      rw [sharedAt_zip_eq_false_of_left hdash, sharedAt_zip_eq_false_of_left hdash']

namespace Comparator

variable {c : Comparator} {actual expected actual' expected' : Lines}

theorem compare_of_recasedPairs (h : actual.size = expected.size) (h' : actual'.size = expected'.size)
    (hsize : actual'.size = actual.size)
    (hpairs : RecasedPairs c.layout (actual.toList.zip expected.toList)
      (actual'.toList.zip expected'.toList)) :
    (c.compare actual' expected').events.map Event.caseless =
        (c.compare actual expected).events.map Event.caseless ∧
      ((∃ t, (c.compare actual expected).value = .agree t ∧
          (c.compare actual' expected').value = .agree t) ∨
        ∃ i p' m, (actual'.toList.zip expected'.toList)[i]? = some p' ∧
          c.layout.faultAt (actual.toList.zip expected.toList) i = some m ∧
          (∀ j < i, c.layout.faultAt (actual.toList.zip expected.toList) j = none) ∧
          (c.compare actual expected).value = .differ m ∧
          (c.compare actual' expected').value = .differ (m.withHeaders p')) := by
  have hget {as es : Lines} (hlen : as.size = es.size) {i : Nat} (hi : i < as.size) :
      ∃ p, (as.toList.zip es.toList)[i]? = some p :=
    ⟨_, List.getElem?_eq_getElem ((length_zip hlen).symm ▸ hi)⟩
  obtain ⟨hevents, hvalue⟩ := compare_map_at (c := c)
    (fun i m => (actual'.toList.zip expected'.toList)[i]?.elim m m.withHeaders)
    Event.caseless Event.caseless (fun _ => rfl) h h' hsize hpairs.role fun i hi _ => by
      obtain ⟨p, hp⟩ := hget h hi
      obtain ⟨p', hp'⟩ := hget h' (hsize.symm ▸ hi)
      rw [hp']
      exact ⟨hpairs.faultAt_eq hp hp', hpairs.eventsAt_eq hp hp'⟩
  refine ⟨hevents, hvalue.imp_right ?_⟩
  rintro ⟨i, m, hfault, hok, hi, hdiffer, hdiffer'⟩
  obtain ⟨p', hp'⟩ := hget h' (hsize.symm ▸ hi)
  rw [hp'] at hdiffer'
  exact ⟨i, p', m, hp', hfault, hok, hdiffer, hdiffer'⟩

/-- Headers are compared alike whatever the case of their ASCII letters is. Dumps in which letters of
headers change their case have the same outcome, with the same reports up to case. A mismatch is found
at the same position, and if it is one of headers, it holds those that stand there now. -/
theorem letter_case_irrelevant :
    (∀ a e a' e' : Text, a.Recased a' → e.Recased e' →
      (headersEqual a' e').value = (headersEqual a e).value ∧
      (headersEqual a' e').events.map Event.caseless = (headersEqual a e).events.map Event.caseless) ∧
    ∀ (c : Comparator) (actual expected actual' expected' : Lines), actual.size = expected.size →
      let pairs := actual.toList.zip expected.toList
      let pairs' := actual'.toList.zip expected'.toList
      actual.RecasedHeaders c.layout (sharedAt pairs) actual' →
      expected.RecasedHeaders c.layout (sharedAt pairs) expected' →
      (c.compare actual' expected').events.map Event.caseless =
          (c.compare actual expected).events.map Event.caseless ∧
        ((∃ t, (c.compare actual expected).value = .agree t ∧
            (c.compare actual' expected').value = .agree t) ∨
          ∃ i p' m, pairs'[i]? = some p' ∧ c.layout.faultAt pairs i = some m ∧
            (∀ j < i, c.layout.faultAt pairs j = none) ∧
            (c.compare actual expected).value = .differ m ∧
            (c.compare actual' expected').value = .differ (m.withHeaders p')) := by
  refine ⟨fun a e a' e' ha he => headersEqual_recased ha he, ?_⟩
  intro c actual expected actual' expected' h pairs pairs' ha he
  have h' : actual'.size = expected'.size := ha.size.trans (h.trans he.size.symm)
  exact compare_of_recasedPairs h h' ha.size (recasedPairs_zip ha he)

/-- The header is a shared separator as long as both sides write it alike. -/
theorem letter_case_irrelevant_dashed_header :
    let c : Comparator := ⟨.underlined, .multiset⟩
    let actual := Lines.ofList (["a-b", "-", "x", "-"].map String.toList)
    let expected := Lines.ofList (["a-b", "-", "y", "-"].map String.toList)
    let actual' := Lines.ofList (["A-b", "-", "x", "-"].map String.toList)
    sharedAt (actual.toList.zip expected.toList) 0 = true ∧
      sharedAt (actual'.toList.zip expected.toList) 0 = false ∧
      (c.compare actual' expected).value = .differ (.rowSet 0 ["y".toList] ["x".toList]) ∧
      (headersEqual "COUNTofΟΔΟΣ".toList "Count(ΟΔΟΣ)".toList).value =
        (headersEqual "countofΟΔΟΣ".toList "count(ΟΔΟΣ)".toList).value := by
  intro c actual expected actual'
  have hother : ∀ i, i ≠ 0 → actual'.get? i = actual.get? i
    | 0, h => absurd rfl h
    | 1, _ | 2, _ | 3, _ | _ + 4, _ => rfl
  have hactual : actual.RecasedHeaders c.layout (sharedAt (actual.toList.zip expected.toList)) actual' := by
    refine ⟨rfl, fun i l l' hl hl' => ?_, fun i hne => ?_, nofun⟩
    · by_cases hi : i = 0
      · subst hi
        cases hl
        cases hl'
        decide
      · rw [hother i hi, hl] at hl'
        cases hl'
        rfl
    · rw [not_not.1 fun hi => hne (hother i hi)]
      rfl
  have hexpected :
      expected.RecasedHeaders c.layout (sharedAt (actual.toList.zip expected.toList)) expected := by
    refine ⟨rfl, fun i l l' hl hl' => ?_, fun i hne => absurd rfl hne, nofun⟩
    rw [hl] at hl'
    cases hl'
    rfl
  have hvalue : (c.compare actual expected).value = .differ (.rowSet 0 ["y".toList] ["x".toList]) := by
    decide +kernel
  have hheaders := (letter_case_irrelevant.1 "countofΟΔΟΣ".toList "count(ΟΔΟΣ)".toList
    "COUNTofΟΔΟΣ".toList "Count(ΟΔΟΣ)".toList (by decide) (by decide)).1
  obtain ⟨-, ⟨t, ht, -⟩ | ⟨i, p', m, -, -, -, hm, hm'⟩⟩ :=
    letter_case_irrelevant.2 c actual expected actual' expected rfl hactual hexpected
  · rw [hvalue] at ht
    cases ht
  · rw [hvalue] at hm
    cases hm
    exact ⟨by decide, by decide, hm', hheaders⟩

end Comparator
end DumpCheck
