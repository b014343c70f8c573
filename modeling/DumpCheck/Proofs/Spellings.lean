import DumpCheck.Proofs.HeaderColumns
import DumpCheck.Proofs.Labels
import DumpCheck.Proofs.LetterCase

/-!
# Headers in both spellings

A header with its aggregates in short is compared with the header that spells them as calls. A column is
lowered as a whole, so the name in it is lowered between parentheses in the one spelling and behind the
letters `of` in the other. Between parentheses it is lowered as it is alone
(`Text.lowercaseBetween_inParens`). Behind letters a capital sigma at its beginning may end a word that
it does not end between parentheses. These are the only columns that are not recognised
(`Column.columnEqual_short_called`, `headersEqual_spellings`).
-/

namespace DumpCheck

namespace Text

variable {before t u : Text}

theorem lowercaseBetween_inParens (before after x : Text) :
    lowercaseBetween before after x.inParens = x.lowercase.inParens := by
  have hopen : IsFixed '(' := by decide
  have hclose : IsFixed ')' := by decide
  have hbefore : meetsCased ('(' :: before) = meetsCased [] := rfl
  have hafter : meetsCased (')' :: after) = meetsCased [] := rfl
  have hname : lowercaseBetween ('(' :: before) (')' :: after) x = x.lowercase := by
    rw [lowercase, ← lowercaseBetween_nil_right, lowercaseBetween_congr hbefore hafter]
  rw [inParens, List.cons_append, lowercaseBetween, lowercaseAt_fixed hopen, lowercaseBetween_append,
    List.singleton_append, List.singleton_append, hname, lowercaseBetween_singleton,
    lowercaseAt_fixed hclose]
  rfl

theorem ne_inParens_of_head? (h : t.head? ≠ some '(') (u : Text) : t ≠ u.inParens := by
  rintro rfl
  exact h rfl

/-- A text that is in parentheses once it is lowered was in them before. -/
theorem exists_inParens_of_lowercaseAfter (h : lowercaseAfter before t = u.inParens) :
    ∃ x : Text, t = x.inParens := by
  have hopen : t.head? = some '(' := head?_of_lowercaseAfter (by decide) (by rw [h]; rfl)
  have hclose : t.getLast? = some ')' :=
    getLast?_of_lowercaseAfter (by decide) (by rw [h, inParens, List.getLast?_concat])
  obtain ⟨x, rfl⟩ := List.getLast?_eq_some_iff.1 hclose
  cases x with
  | nil => cases hopen
  | cons c x =>
    cases hopen
    exact ⟨x, rfl⟩

end Text

namespace Aggregate

variable (f : Aggregate)

theorem isFixed_of_mem_shorthand : ∀ c ∈ f.shorthand, Text.IsFixed c := by
  have hall : f.shorthand.all (fun c => Text.IsFixed c) = true := by cases f <;> decide
  intro c hc
  exact of_decide_eq_true (List.all_eq_true.1 hall c hc)

theorem meetsCased_shorthand : Text.meetsCased f.shorthand.reverse = true := by
  cases f <;> decide

theorem lowercase_call (x : Text) : (f.call x).lowercase = f.call x.lowercase := by
  have hname : ∀ c ∈ f.name, Text.IsFixed c := fun c hc =>
    f.isFixed_of_mem_shorthand c (List.mem_append_left _ hc)
  rw [Text.lowercase, ← Text.lowercaseBetween_nil_right, call, Text.lowercaseBetween_append,
    Text.lowercaseBetween_of_fixed hname, Text.lowercaseBetween_inParens]
  rfl

theorem lowercase_shorthand_append (r : Text) :
    (f.shorthand ++ r).lowercase = f.shorthand ++ Text.lowercaseAfter f.shorthand.reverse r := by
  rw [Text.lowercase, ← Text.lowercaseBetween_nil_right, Text.lowercaseBetween_append,
    Text.lowercaseBetween_of_fixed f.isFixed_of_mem_shorthand, Text.lowercaseBetween_nil_right,
    List.append_nil]

theorem name_infix_call (x : Text) : f.name <:+: f.call x :=
  (List.prefix_append f.name x.inParens).isInfix

end Aggregate

/-- A label or the name of a column. -/
structure Word where
  text : Text
  unspaced : ' ' ∉ text

/-- A column of a header in which aggregates are short. A name may stand bare behind `of` unless it has
parentheses around itself, for these would be set aside. -/
inductive Column
  | plain (label : Word)
  | bare (f : Aggregate) (name : Word) (unwrapped : ∀ t : Text, name.text ≠ t.inParens)
  | wrapped (f : Aggregate) (name : Word)

namespace Column

def short : Column → Text
  | plain label => label.text
  | bare f name _ => f.shorthand ++ name.text
  | wrapped f name => f.shorthand ++ name.text.inParens

/-- The column in the header that spells aggregates as calls. -/
def called : Column → Text
  | plain label => label.text
  | bare f name _ => f.call name.text
  | wrapped f name => f.call name.text

/-- Behind `of` the name begins with a capital sigma that ends a word. Between parentheses it ends none. -/
def hasFinalSigma : Column → Bool
  | plain _ => false
  | bare _ name _ => name.text.startsWithFinalSigma
  | wrapped .. => false

theorem unspaced_short (column : Column) : ' ' ∉ column.short := by
  have hshorthand (f : Aggregate) : ' ' ∉ f.shorthand := by cases f <;> decide
  cases column with
  | plain label => exact label.unspaced
  | bare f name _ => simp [short, hshorthand, name.unspaced]
  | wrapped f name => simp [short, Text.inParens, hshorthand, name.unspaced]

theorem unspaced_called (column : Column) : ' ' ∉ column.called := by
  have hname (f : Aggregate) : ' ' ∉ f.name := by cases f <;> decide
  cases column with
  | plain label => exact label.unspaced
  | bare f name _ => simp [called, Aggregate.call, Text.inParens, hname, name.unspaced]
  | wrapped f name => simp [called, Aggregate.call, Text.inParens, hname, name.unspaced]

theorem columnEqual_short_called (column : Column) :
    Header.columnEqual (column.short, column.called) = .ok (!column.hasFinalSigma) := by
  unfold Header.columnEqual
  cases column with
  | plain label =>
    simp only [short, called]
    rw [labelsEqual, if_pos rfl]
    rfl
  | wrapped f name =>
    obtain ⟨b, hb, hiff⟩ := labelsEqual_call f f name.text.lowercase.inParens name.text.lowercase
    have htrue : b = true := hiff.2 ⟨f.name_infix_call _, .inl rfl⟩
    simp only [short, called]
    rw [f.lowercase_shorthand_append, f.lowercase_call, ← Text.lowercaseBetween_nil_right,
      Text.lowercaseBetween_inParens, hb, htrue]
    rfl
  | bare f name unwrapped =>
    have hnot (t : Text) : Text.lowercaseAfter f.shorthand.reverse name.text ≠ t.inParens := by
      intro ht
      obtain ⟨x, hx⟩ := Text.exists_inParens_of_lowercaseAfter ht
      exact unwrapped x hx
    have hstart : Text.meetsCased [] = false := rfl
    have hcontext := Text.lowercaseAfter_eq_iff f.meetsCased_shorthand hstart name.text
    obtain ⟨b, hb, hiff⟩ := labelsEqual_call f f (Text.lowercaseAfter f.shorthand.reverse name.text)
      name.text.lowercase
    have hsplit : b = true ↔ name.text.startsWithFinalSigma = false := by
      rw [hiff, ← hcontext]
      constructor
      · rintro ⟨-, hwrapped | ⟨hbare, -⟩⟩
        · exact absurd hwrapped (hnot _)
        · exact hbare
      · intro hbare
        exact ⟨f.name_infix_call _, .inr ⟨hbare, hnot⟩⟩
    have hnegated : b = !name.text.startsWithFinalSigma := by
      rw [Bool.eq_iff_iff, hsplit, Bool.not_eq_true']
    simp only [short, called]
    rw [f.lowercase_shorthand_append, f.lowercase_call, hb, hnegated]
    rfl

end Column

/-- The header with these columns. -/
def Header.ofColumns (labels : List Text) : Text :=
  [' '].intercalate labels

theorem Header.columns_ofColumns {columns : List Column} {f : Column → Text} (hne : columns ≠ [])
    (h : ∀ column, ' ' ∉ f column) : Header.columns (ofColumns (columns.map f)) = columns.map f := by
  have hlabels : columns.map f ≠ [] := by rwa [ne_eq, List.map_eq_nil_iff]
  exact columns_eq_iff.2 ⟨hlabels, List.forall_mem_map.2 fun column _ => h column, rfl⟩

theorem headersEqual_short_called (columns : List Column) :
    headersEqual (Header.ofColumns (columns.map Column.short))
        (Header.ofColumns (columns.map Column.called)) =
      ⟨.ok (columns.all fun column => !column.hasFinalSigma),
        (columns.filter Column.hasFinalSigma).map fun column => .labelDiffers column.short column.called⟩ := by
  by_cases hnil : columns = []
  · subst hnil
    rfl
  have hpairs : (columns.map Column.short).zip (columns.map Column.called) =
      columns.map fun column => (column.short, column.called) := List.zip_map' ..
  have hall : ∀ q ∈ columns.map (fun column => (column.short, column.called)),
      ∃ b, Header.columnEqual q = .ok b :=
    List.forall_mem_map.2 fun column _ => ⟨_, column.columnEqual_short_called⟩
  rw [headersEqual, Header.columns_ofColumns hnil Column.unspaced_short,
    Header.columns_ofColumns hnil Column.unspaced_called, List.length_map, List.length_map, if_pos rfl,
    hpairs, Header.columnsEqual_of_ok hall]
  simp [Header.differences, List.filter_map, Column.columnEqual_short_called, Function.comp_def]

/-- A header with short aggregates and one with calls, letters of ASCII in any case, are equal exactly if
no bare name begins with a capital sigma that ends a word behind `of`. The columns with such a name, and
no others, are reported to differ, and nothing is malformed. -/
theorem headersEqual_spellings (columns : List Column) {h1 h2 : Text}
    (hshort : (Header.ofColumns (columns.map Column.short)).Recased h1)
    (hcalled : (Header.ofColumns (columns.map Column.called)).Recased h2) :
    (headersEqual h1 h2 = ⟨.ok true, []⟩ ↔ ∀ column ∈ columns, column.hasFinalSigma = false) ∧
    (headersEqual h1 h2).value = .ok (columns.all fun column => !column.hasFinalSigma) ∧
    (headersEqual h1 h2).events.map Event.caseless =
      (columns.filter Column.hasFinalSigma).map fun column =>
        (Event.labelDiffers column.short column.called).caseless := by
  obtain ⟨hvalue, hevents⟩ := headersEqual_recased hshort hcalled
  rw [headersEqual_short_called] at hvalue hevents
  simp only [List.map_map] at hvalue hevents
  have hall : (columns.all fun column => !column.hasFinalSigma) = true ↔
      ∀ column ∈ columns, column.hasFinalSigma = false := by
    simp only [List.all_eq_true, Bool.not_eq_true']
  refine ⟨?_, hvalue, hevents⟩
  rw [← hall]
  constructor
  · intro hequal
    rw [hequal] at hvalue
    exact (Except.ok.inj hvalue).symm
  · intro htrue
    rw [htrue] at hvalue
    calc headersEqual h1 h2 = ⟨(headersEqual h1 h2).value, (headersEqual h1 h2).events⟩ := rfl
      _ = ⟨.ok true, []⟩ := by rw [hvalue, headersEqual_events hvalue]

/-- A sigma at the end of a longer name or between parentheses is recognised. -/
theorem headersEqual_spellings_greek :
    headersEqual "Sid CountOfΑΣ sumOF(Σ) MAXofavg(x".toList "sid COUNT(ΑΣ) Sum(Σ) max(avg(x)".toList =
      ⟨.ok true, []⟩ := by
  let columns : List Column :=
    [.plain ⟨"sid".toList, by decide⟩,
      .bare .count ⟨"ΑΣ".toList, by decide⟩ (Text.ne_inParens_of_head? (by decide)),
      .wrapped .sum ⟨"Σ".toList, by decide⟩,
      .bare .max ⟨"avg(x".toList, by decide⟩ (Text.ne_inParens_of_head? (by decide))]
  exact (headersEqual_spellings columns (by decide) (by decide)).1.2 (by decide)

/-- Behind `of` a sigma alone is lowered to `ς`, and between parentheses to `σ`. -/
theorem headersEqual_bare_sigma :
    (∀ t : Text, "Σ".toList ≠ t.inParens) ∧
      headersEqual "countofΣ".toList "count(Σ)".toList =
        ⟨.ok false, [.labelDiffers "countofΣ".toList "count(Σ)".toList]⟩ ∧
      headersEqual "countof(Σ)".toList "count(Σ)".toList = ⟨.ok true, []⟩ :=
  ⟨Text.ne_inParens_of_head? (by decide), by decide, by decide⟩

end DumpCheck
