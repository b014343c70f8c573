import DumpCheck.Header
import Mathlib.Data.List.Basic
import Mathlib.Data.List.TakeWhile

/-!
# Which labels are equal

A label is the short spelling of at most one function (`Aggregate.ofShort?_shorthand_append`), and what
its parentheses hold is told by the first `(` and the last `)` (`parenthesized?_eq_some_iff`). So for
any two labels `labelsEqual_by_spelling` says whether they are equal, differ or have no answer.

The name of the function is looked for anywhere in the second label, so also in the name of its column.
This is why one aggregate may be taken for another one of the same column, and
`labelsEqual_other_function_iff` says when.
-/

namespace DumpCheck

namespace Text

variable {t p r : Text} {a : Char}

theorem occursIn_iff_infix {piece : Text} : piece.occursIn t ↔ piece <:+: t := by
  induction t with
  | nil => simp [occursIn]
  | cons c t ih => rw [occursIn, Bool.or_eq_true, List.isPrefixOf_iff_prefix, ih, List.infix_cons_iff]

theorem dropWhile_ne_of_notMem (h : a ∉ t) : t.dropWhile (· ≠ a) = [] := by
  rw [List.dropWhile_eq_nil_iff]
  intro c hc
  simpa using fun hca : c = a => h (hca ▸ hc)

theorem dropWhile_ne_append (h : a ∉ p) : (p ++ a :: r).dropWhile (· ≠ a) = a :: r := by
  rw [List.dropWhile_append, dropWhile_ne_of_notMem h]
  simp

theorem append_cons_inj {p' r' : Text} (hp : a ∉ p) (hp' : a ∉ p') (h : p ++ a :: r = p' ++ a :: r') :
    p = p' ∧ r = r' := by
  have hr := congrArg (List.dropWhile (· ≠ a)) h
  rw [dropWhile_ne_append hp, dropWhile_ne_append hp'] at hr
  obtain ⟨-, rfl⟩ := List.cons.inj hr
  exact ⟨List.append_cancel_right h, rfl⟩

theorem infix_of_infix_append_cons {piece : Text} (ha : a ∉ piece) (h : piece <:+: p ++ a :: r) :
    piece <:+: p ∨ piece <:+: r := by
  obtain ⟨s, s', h⟩ := h
  rw [List.append_assoc] at h
  rcases List.append_eq_append_iff.1 h with ⟨mid, rfl, hmid⟩ | ⟨mid, rfl, hmid⟩
  · rcases List.append_eq_append_iff.1 hmid with ⟨front, rfl, -⟩ | ⟨back, rfl, hback⟩
    · exact .inl ⟨s, front, by simp⟩
    · cases back with
      | nil => exact .inl ⟨s, [], by simp⟩
      | cons c back =>
        obtain ⟨rfl, -⟩ := List.cons.inj hback
        exact absurd (by simp) ha
  · cases mid with
    | nil =>
      cases piece with
      | nil => exact .inl (List.nil_infix ..)
      | cons c piece =>
        obtain ⟨rfl, -⟩ := List.cons.inj hmid
        exact absurd (List.mem_cons_self ..) ha
    | cons c mid =>
      obtain ⟨-, rfl⟩ := List.cons.inj hmid
      exact .inr ⟨mid, s', by simp⟩

def inParens (t : Text) : Text :=
  '(' :: t ++ [')']

theorem inParens_ne (t : Text) : t.inParens ≠ t := by
  intro h
  have := congrArg List.length h
  simp [inParens] at this
  omega

theorem inParens_inj {t t' : Text} : t.inParens = t'.inParens ↔ t = t' := by
  simp [inParens]

/-! ### Places in a text, counted in bytes -/

/-- The first `a` of the text stands behind `n` bytes. -/
def FirstAt (t : Text) (a : Char) (n : Nat) : Prop :=
  ∃ p r, t = p ++ a :: r ∧ a ∉ p ∧ p.utf8.length = n

/-- The last `a` of the text stands behind `n` bytes. -/
def LastAt (t : Text) (a : Char) (n : Nat) : Prop :=
  ∃ p r, t = p ++ a :: r ∧ a ∉ r ∧ p.utf8.length = n

/-- The text goes on for at least `m` bytes, no character of it lies across the bytes `n` and `m`, and
between them stands `piece`. -/
def SliceAt (t : Text) (n m : Nat) (piece : Text) : Prop :=
  ∃ p r, t = p ++ piece ++ r ∧ p.utf8.length = n ∧ (p ++ piece).utf8.length = m

theorem length_utf8_append (t t' : Text) : (t ++ t').utf8.length = t.utf8.length + t'.utf8.length := by
  simp [utf8]

theorem length_utf8_cons_pos (a : Char) (t : Text) : 0 < (utf8 (a :: t)).length := by
  have := Char.utf8Size_pos a
  simp only [utf8, List.flatMap_cons, List.length_append, String.length_utf8EncodeChar]
  omega

end Text

/-- The column is all that stands between the first `(` of a label and its last `)`. -/
def Encloses (label column : Text) : Prop :=
  ∃ p q, label = p ++ column.inParens ++ q ∧ '(' ∉ p ∧ ')' ∉ q

namespace Aggregate

variable {f g : Aggregate} {v : Text}

def call (f : Aggregate) (column : Text) : Text :=
  f.name ++ column.inParens

/-- No short spelling is the beginning of another one, so a label has at most one. -/
theorem ofShort?_shorthand_append (f : Aggregate) (r : Text) :
    ofShort? all (f.shorthand ++ r) = some (f, r) := by
  cases f <;> rfl

theorem eq_of_shorthand_prefix (hf : f.shorthand <+: v) (hg : g.shorthand <+: v) : f = g := by
  obtain ⟨r, rfl⟩ := hf
  obtain ⟨r', h⟩ := hg
  have hshort := ofShort?_shorthand_append f r
  rw [← h, ofShort?_shorthand_append] at hshort
  exact (Prod.mk.inj (Option.some.inj hshort)).1.symm

theorem ofShort?_eq_none {fs : List Aggregate} (h : ∀ f ∈ fs, ¬ f.shorthand <+: v) :
    ofShort? fs v = none := by
  induction fs with
  | nil => rfl
  | cons f fs ih =>
    have hnot : f.shorthand.isPrefixOf? v = none := by
      rw [Option.eq_none_iff_forall_ne_some]
      intro rest hrest
      exact h f (List.mem_cons_self ..) ⟨rest, List.isPrefixOf?_eq_some_iff_append_eq.1 hrest⟩
    rw [ofShort?, hnot]
    exact ih fun g hg => h g (List.mem_cons_of_mem _ hg)

theorem eq_of_ofShort? {r : Text} (h : ofShort? all v = some (f, r)) : v = f.shorthand ++ r := by
  by_cases hshort : ∃ g : Aggregate, g.shorthand <+: v
  · obtain ⟨g, r', rfl⟩ := hshort
    rw [ofShort?_shorthand_append] at h
    cases h
    rfl
  · rw [ofShort?_eq_none fun g _ hg => hshort ⟨g, hg⟩] at h
    cases h

theorem name_infix_name_iff : f.name <:+: g.name ↔ f = g := by
  rw [← Text.occursIn_iff_infix]
  cases f <;> cases g <;> decide

theorem shorthand_append_ne_call (f g : Aggregate) (r column : Text) :
    f.shorthand ++ r ≠ g.call column := by
  cases f <;> cases g <;> simp [shorthand, call, name, Text.inParens]

theorem encloses_call (f : Aggregate) (column : Text) : Encloses (f.call column) column :=
  ⟨f.name, [], by simp [call], by cases f <;> decide, by simp⟩

/-- Another function is named in a call only if the name of the column holds its name. -/
theorem name_infix_call_iff (h : f ≠ g) (column : Text) : f.name <:+: g.call column ↔ f.name <:+: column := by
  have hopen : '(' ∉ f.name := by cases f <;> decide
  have hclose : ')' ∉ f.name := by cases f <;> decide
  constructor
  · intro hcall
    rcases Text.infix_of_infix_append_cons hopen hcall with hname | hcolumn
    · exact absurd (name_infix_name_iff.1 hname) h
    · rcases Text.infix_of_infix_append_cons hclose hcolumn with hcolumn | hnil
      · exact hcolumn
      · rw [List.infix_nil.1 hnil]
        exact List.nil_infix
  · rintro ⟨s, s', rfl⟩
    exact ⟨g.name ++ '(' :: s, s' ++ [')'], by simp [call, Text.inParens]⟩

end Aggregate

/-! ### Parentheses -/

section Parentheses

variable {label column p q r : Text}

theorem parenthesized?_eq_some_iff : parenthesized? label = some column ↔ Encloses label column := by
  constructor
  · intro h
    by_cases hopen : '(' ∈ label
    · obtain ⟨p, inner, rfl, hp⟩ := List.eq_append_cons_of_mem hopen
      rw [parenthesized?, Text.dropWhile_ne_append hp] at h
      simp only at h
      by_cases hclose : ')' ∈ inner
      · obtain ⟨q, before, hinner, hq⟩ := List.eq_append_cons_of_mem (List.mem_reverse.2 hclose)
        rw [hinner, Text.dropWhile_ne_append hq] at h
        simp only [Option.some.injEq] at h
        refine ⟨p, q.reverse, ?_, hp, by simpa using hq⟩
        rw [← List.reverse_reverse inner, hinner, ← h]
        simp [Text.inParens]
      · rw [Text.dropWhile_ne_of_notMem (by simpa using hclose)] at h
        cases h
    · rw [parenthesized?, Text.dropWhile_ne_of_notMem hopen] at h
      cases h
  · rintro ⟨p, q, rfl, hp, hq⟩
    have hlabel : p ++ column.inParens ++ q = p ++ '(' :: (column ++ ')' :: q) := by
      simp [Text.inParens]
    have hinner : (column ++ ')' :: q).reverse = q.reverse ++ ')' :: column.reverse := by simp
    rw [hlabel, parenthesized?, Text.dropWhile_ne_append hp]
    simp only
    rw [hinner, Text.dropWhile_ne_append (by simpa using hq)]
    simp

theorem parenthesized?_eq_none_iff : parenthesized? label = none ↔ ∀ column, ¬ Encloses label column := by
  simp only [Option.eq_none_iff_forall_ne_some, ne_eq, parenthesized?_eq_some_iff]

theorem unwrap?_eq_some_iff : unwrap? r = some column ↔ r = column.inParens := by
  rw [unwrap?, Option.bind_eq_some_iff]
  constructor
  · rintro ⟨inner, hinner, hcolumn⟩
    rw [List.isPrefixOf?_eq_some_iff_append_eq] at hinner
    rw [List.isSuffixOf?_eq_some_iff_append_eq] at hcolumn
    rw [← hinner, ← hcolumn]
    rfl
  · rintro rfl
    exact ⟨column ++ [')'], List.isPrefixOf?_eq_some_iff_append_eq.2 rfl,
      List.isSuffixOf?_eq_some_iff_append_eq.2 rfl⟩

/-- Of a column that a short label names, one pair of parentheses is set aside. -/
theorem getD_unwrap?_eq_iff :
    (unwrap? r).getD r = column ↔ r = column.inParens ∨ r = column ∧ ∀ t : Text, r ≠ t.inParens := by
  cases h : unwrap? r with
  | none =>
    have hnot : ∀ t : Text, r ≠ t.inParens := by
      intro t ht
      rw [unwrap?_eq_some_iff.2 ht] at h
      cases h
    simp [hnot]
  | some t =>
    rw [unwrap?_eq_some_iff] at h
    subst h
    simp [Text.inParens_inj]

/-- What stands between the first `(` and the last `)` may be cut out by counting bytes: the cut lies
inside of the label and goes through no character. -/
theorem sliceAt_of_firstAt {n m : Nat} (hn : label.FirstAt '(' n) (hm : label.LastAt ')' m) :
    if n < m then ∃ column, parenthesized? label = some column ∧ label.SliceAt (n + 1) m column
    else parenthesized? label = none := by
  obtain ⟨p, r, rfl, hp, rfl⟩ := hn
  obtain ⟨p', q, heq, hq, rfl⟩ := hm
  rcases List.append_eq_append_iff.1 heq with ⟨mid, rfl, hr⟩ | ⟨mid, rfl, hr⟩
  · -- the `)` comes behind the `(`
    cases mid with
    | nil => simp at hr
    | cons c column =>
      obtain ⟨rfl, rfl⟩ := List.cons.inj hr
      have hlt := Text.length_utf8_cons_pos '(' column
      rw [Text.length_utf8_append, if_pos (by omega)]
      refine ⟨column, ?_, p ++ ['('], ')' :: q, by simp, ?_, ?_⟩
      · rw [parenthesized?_eq_some_iff]
        exact ⟨p, q, by simp [Text.inParens], hp, hq⟩
      · rw [Text.length_utf8_append]
        rfl
      · rw [← Text.length_utf8_append]
        simp
  · rw [Text.length_utf8_append, if_neg (by omega), parenthesized?_eq_none_iff]
    rintro column ⟨p'', q', henc, hp'', hq'⟩
    have hfirst : p' ++ mid ++ '(' :: r = p'' ++ '(' :: (column ++ ')' :: q') := by
      rw [henc]
      simp [Text.inParens]
    obtain ⟨-, rfl⟩ := Text.append_cons_inj hp hp'' hfirst
    -- so the last `)` stands behind the `(`, and not in front of it
    cases mid with
    | nil => simp at hr
    | cons c mid =>
      obtain ⟨-, rfl⟩ := List.cons.inj hr
      simp at hq

end Parentheses

/-! ### Labels -/

section Labels

variable {f g : Aggregate} {v r column : Text}

theorem labelsEqual_of_long {v1 v2 : Text} (hne : v1 ≠ v2) (h : ∀ f : Aggregate, ¬ f.shorthand <+: v1) :
    labelsEqual v1 v2 = .ok false := by
  rw [labelsEqual, if_neg hne, Aggregate.ofShort?_eq_none fun f _ => h f]

theorem labelsEqual_of_no_name (hne : f.shorthand ++ r ≠ v) (hname : ¬ f.name <:+: v) :
    labelsEqual (f.shorthand ++ r) v = .ok false := by
  rw [← Text.occursIn_iff_infix] at hname
  rw [labelsEqual, if_neg hne, Aggregate.ofShort?_shorthand_append]
  simp only [if_neg hname]

theorem labelsEqual_of_no_column (hne : f.shorthand ++ r ≠ v) (hname : f.name <:+: v)
    (hcolumn : ∀ column, ¬ Encloses v column) :
    labelsEqual (f.shorthand ++ r) v = .error ⟨v, f.name⟩ := by
  rw [← Text.occursIn_iff_infix] at hname
  rw [labelsEqual, if_neg hne, Aggregate.ofShort?_shorthand_append]
  simp only [if_pos hname, parenthesized?_eq_none_iff.2 hcolumn]

theorem labelsEqual_of_column (hne : f.shorthand ++ r ≠ v) (hname : f.name <:+: v)
    (hcolumn : Encloses v column) :
    ∃ b, labelsEqual (f.shorthand ++ r) v = .ok b ∧
      (b = true ↔ r = column.inParens ∨ r = column ∧ ∀ t : Text, r ≠ t.inParens) := by
  rw [← Text.occursIn_iff_infix] at hname
  rw [labelsEqual, if_neg hne, Aggregate.ofShort?_shorthand_append]
  simp only [if_pos hname, parenthesized?_eq_some_iff.2 hcolumn]
  exact ⟨_, rfl, by rw [decide_eq_true_iff, getD_unwrap?_eq_iff]⟩

/-- A label begins with the short spelling of at most one function. The same labels are equal. Another
second label has to hold the name of that function; then the rest of the first label has to be the
column in its parentheses, with parentheses of its own or without any, and it is an error if there is
no such column. All other labels differ. The cuts that are made lie inside of the labels. -/
theorem labelsEqual_by_spelling (v1 v2 : Text) :
    (∀ f g : Aggregate, f.shorthand <+: v1 → g.shorthand <+: v1 → f = g) ∧
    (v1 = v2 → labelsEqual v1 v2 = .ok true) ∧
    (v1 ≠ v2 → ∀ (f : Aggregate) (r : Text), v1 = f.shorthand ++ r → f.name <:+: v2 →
      (∀ column, Encloses v2 column →
        ∃ b, labelsEqual v1 v2 = .ok b ∧
          (b = true ↔ r = column.inParens ∨ r = column ∧ ∀ t : Text, r ≠ t.inParens)) ∧
      ((∀ column, ¬ Encloses v2 column) → labelsEqual v1 v2 = .error ⟨v2, f.name⟩)) ∧
    (v1 ≠ v2 → (∀ (f : Aggregate) (r : Text), v1 = f.shorthand ++ r → ¬ f.name <:+: v2) →
      labelsEqual v1 v2 = .ok false) ∧
    (∀ f r, Aggregate.ofShort? Aggregate.all v1 = some (f, r) →
      v1.SliceAt f.shorthand.utf8.length v1.utf8.length r) ∧
    ∀ n m, v2.FirstAt '(' n → v2.LastAt ')' m →
      if n < m then ∃ column, parenthesized? v2 = some column ∧ v2.SliceAt (n + 1) m column
      else parenthesized? v2 = none := by
  refine ⟨fun f g => Aggregate.eq_of_shorthand_prefix, ?_, ?_, ?_, ?_, fun n m => sliceAt_of_firstAt⟩
  · intro heq
    rw [labelsEqual, if_pos heq]
  · rintro hne f r rfl hname
    exact ⟨fun column => labelsEqual_of_column hne hname, labelsEqual_of_no_column hne hname⟩
  · intro hne hnone
    by_cases hshort : ∃ f : Aggregate, f.shorthand <+: v1
    · obtain ⟨f, r, rfl⟩ := hshort
      exact labelsEqual_of_no_name hne (hnone f r rfl)
    · exact labelsEqual_of_long hne fun f hf => hshort ⟨f, hf⟩
  · intro f r hshort
    have hv := Aggregate.eq_of_ofShort? hshort
    exact ⟨f.shorthand, [], by simp [hv], rfl, by rw [hv]⟩

/-- A column is cut out by its bytes, whatever parentheses are in it; a second label that only holds the
name of the function has none. -/
theorem labelsEqual_by_spelling_accented :
    labelsEqual "countofé)(".toList "discount(é)()".toList = .ok true ∧
      Text.SliceAt "discount(é)()".toList 9 13 "é)(".toList ∧
      labelsEqual "countofsid".toList "countsid".toList = .error ⟨"countsid".toList, "count".toList⟩ ∧
      labelsEqual "sid".toList "count(sid)".toList = .ok false := by
  obtain ⟨-, -, hshort, -, -, hslice⟩ :=
    labelsEqual_by_spelling "countofé)(".toList "discount(é)()".toList
  have henc : Encloses "discount(é)()".toList "é)(".toList :=
    ⟨"discount".toList, [], by decide, by decide, by decide⟩
  have hname : Aggregate.count.name <:+: "discount(é)()".toList := Text.occursIn_iff_infix.1 rfl
  obtain ⟨b, hb, hiff⟩ := (hshort (by decide) .count "é)(".toList rfl hname).1 _ henc
  have htrue : b = true := by
    refine hiff.2 (.inr ⟨rfl, fun t ht => ?_⟩)
    have hhead := congrArg List.head? ht
    cases hhead
  obtain ⟨column, hcolumn, hcut⟩ := hslice 8 13
    ⟨"discount".toList, "é)()".toList, by decide, by decide, by decide⟩
    ⟨"discount(é)(".toList, [], by decide, by decide, by decide⟩
  have heq : some column = some "é)(".toList := hcolumn.symm
  rw [Option.some.inj heq] at hcut
  have hnone : ∀ column, ¬ Encloses "countsid".toList column := parenthesized?_eq_none_iff.1 rfl
  refine ⟨htrue ▸ hb, hcut, ?_, ?_⟩
  · exact ((labelsEqual_by_spelling "countofsid".toList "countsid".toList).2.2.1 (by decide) .count
      "sid".toList rfl (Text.occursIn_iff_infix.1 rfl)).2 hnone
  · refine (labelsEqual_by_spelling "sid".toList "count(sid)".toList).2.2.2.1 (by decide) ?_
    intro f r hr
    cases f <;> cases hr

/-! ### Calls of another function -/

theorem labelsEqual_call (f g : Aggregate) (r x : Text) :
    ∃ b, labelsEqual (f.shorthand ++ r) (g.call x) = .ok b ∧
      (b = true ↔ f.name <:+: g.call x ∧ (r = x.inParens ∨ r = x ∧ ∀ t : Text, r ≠ t.inParens)) := by
  have hne := Aggregate.shorthand_append_ne_call f g r x
  by_cases hname : f.name <:+: g.call x
  · obtain ⟨b, hb, hiff⟩ := labelsEqual_of_column hne hname (g.encloses_call x)
    exact ⟨b, hb, by rw [hiff, and_iff_right hname]⟩
  · exact ⟨false, labelsEqual_of_no_name hne hname, by simp [hname]⟩

theorem Header.labelsEqual_of_columnsEqual (pairs : List (Text × Text))
    (h : (columnsEqual pairs).value = .ok true) :
    ∀ p ∈ pairs, labelsEqual p.1.lowercase p.2.lowercase = .ok true := by
  fun_induction columnsEqual pairs with
  | case1 => exact nofun
  | case2 => cases h
  | case3 c1 c2 rest hlabel ih => exact List.forall_mem_cons.2 ⟨hlabel, ih h⟩
  | case4 c1 c2 rest _ later =>
    cases hv : later.value <;> simp [hv, Except.map] at h

theorem labelsEqual_of_headersEqual {h1 h2 : Text} (h : (headersEqual h1 h2).value = .ok true) :
    ∀ p ∈ (Header.columns h1).zip (Header.columns h2),
      labelsEqual p.1.lowercase p.2.lowercase = .ok true := by
  unfold headersEqual at h
  simp only at h
  split at h
  · exact Header.labelsEqual_of_columnsEqual _ h
  · cases h

/-- The short label of one aggregate is taken for the call of another one on the same column exactly if
the name of the former function is somewhere in the name of the column. Only a column that is itself in
parentheses has to come in a second pair of them. So headers with such labels in the same place are
equal only if the column has the name of the wrong function in its own. -/
theorem labelsEqual_other_function_iff {f g : Aggregate} (h : f ≠ g) :
    (∀ x : Text, ∃ b, labelsEqual (f.shorthand ++ x) (g.call x) = .ok b ∧
      (b = true ↔ f.name <:+: x ∧ ∀ t : Text, x ≠ t.inParens)) ∧
    (∀ x : Text, ∃ b, labelsEqual (f.shorthand ++ x.inParens) (g.call x) = .ok b ∧
      (b = true ↔ f.name <:+: x)) ∧
    ∀ h1 h2 : Text, (headersEqual h1 h2).value = .ok true →
      ∀ c1 c2, (c1, c2) ∈ (Header.columns h1).zip (Header.columns h2) →
        ∀ x : Text, c1.lowercase = f.shorthand ++ x ∨ c1.lowercase = f.shorthand ++ x.inParens →
          c2.lowercase = g.call x → f.name <:+: x := by
  refine ⟨fun x => ?_, fun x => ?_, fun h1 h2 hequal c1 c2 hmem x hc1 hc2 => ?_⟩
  · obtain ⟨b, hb, hiff⟩ := labelsEqual_call f g x x
    rw [Aggregate.name_infix_call_iff h] at hiff
    simp only [(Text.inParens_ne x).symm, false_or, true_and] at hiff
    exact ⟨b, hb, hiff⟩
  · obtain ⟨b, hb, hiff⟩ := labelsEqual_call f g x.inParens x
    rw [Aggregate.name_infix_call_iff h] at hiff
    simp only [true_or, and_true] at hiff
    exact ⟨b, hb, hiff⟩
  · have hlabel := labelsEqual_of_headersEqual hequal _ hmem
    have hcall : ∀ r, c1.lowercase = f.shorthand ++ r → f.name <:+: g.call x := by
      intro r hr
      obtain ⟨b, hb, hiff⟩ := labelsEqual_call f g r x
      rw [hr, hc2, hb] at hlabel
      exact (hiff.1 (Except.ok.inj hlabel)).1
    rw [← Aggregate.name_infix_call_iff h]
    rcases hc1 with hc1 | hc1
    · exact hcall x hc1
    · exact hcall x.inParens hc1

/-- On an ordinary column the two aggregates are told apart; on a discount they are not. -/
theorem labelsEqual_other_function_salary :
    labelsEqual "avgofsalary".toList "sum(salary)".toList = .ok false ∧
      labelsEqual "avgof(salary)".toList "sum(salary)".toList = .ok false ∧
      (headersEqual "Sid CountOf(Discount)".toList "sid Avg(Discount)".toList).value = .ok true ∧
      "count".toList <:+: "discount".toList := by
  have hno : ¬ Aggregate.avg.name <:+: "salary".toList := by
    rw [← Text.occursIn_iff_infix]
    decide
  obtain ⟨hbare, hwrapped, -⟩ := labelsEqual_other_function_iff (f := .avg) (g := .sum) (by decide)
  obtain ⟨b, hb, hiff⟩ := hbare "salary".toList
  obtain ⟨b', hb', hiff'⟩ := hwrapped "salary".toList
  have hfalse : b = false := Bool.eq_false_iff.2 fun htrue => hno (hiff.1 htrue).1
  have hfalse' : b' = false := Bool.eq_false_iff.2 fun htrue => hno (hiff'.1 htrue)
  have hheaders : (headersEqual "Sid CountOf(Discount)".toList "sid Avg(Discount)".toList).value =
      .ok true := rfl
  have hname := (labelsEqual_other_function_iff (f := .count) (g := .avg) (by decide)).2.2 _ _ hheaders
    "CountOf(Discount)".toList "Avg(Discount)".toList (by decide) "discount".toList (.inr rfl) rfl
  exact ⟨hfalse ▸ hb, hfalse' ▸ hb', hheaders, hname⟩

/-- The count of a discount and its average are taken for the same column. -/
theorem labelsEqual_discount :
    labelsEqual "countofdiscount".toList "avg(discount)".toList = .ok true :=
  rfl

end Labels
end DumpCheck
