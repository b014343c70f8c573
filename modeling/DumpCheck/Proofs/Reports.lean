import DumpCheck.Proofs.JsonText
import DumpCheck.Proofs.OneLine
import DumpCheck.Report

/-!
# A report tells its outcome

As JSON, a verdict is one value on one line, and the value tells the verdict (`Verdict.json_inj`). In
text, the message of a mismatch tells its kind and its block (`Mismatch.message_inj`), and the details
tell the rest (`Verdict.eq_of_details`). Where the texts of a mismatch are on one line each, so is the
message, and the details can be read back line by line.
-/

namespace DumpCheck

open Json (Value)

/-! ### JSON -/

theorem MismatchKind.name_inj {k k' : MismatchKind} (h : k.name = k'.name) : k = k' := by
  revert h
  cases k <;> cases k' <;> decide

namespace Mismatch

/-- Two mismatches of the same kind are of one of the four kinds. -/
theorem same_kind {P : Mismatch → Mismatch → Prop} {m m' : Mismatch} (hkind : m.kind = m'.kind)
    (hlength : ∀ a e a' e', P (length a e) (length a' e'))
    (hheader : ∀ q a e q' a' e', P (header q a e) (header q' a' e'))
    (hrowSet : ∀ q missing unexpected q' missing' unexpected',
      P (rowSet q missing unexpected) (rowSet q' missing' unexpected'))
    (hlabel : ∀ q label q' label', P (malformedLabel q label) (malformedLabel q' label')) : P m m' := by
  cases m with
  | length a e =>
    cases m' with
    | length a' e' => exact hlength a e a' e'
    | header _ _ _ | rowSet _ _ _ | malformedLabel _ _ => cases hkind
  | header q a e =>
    cases m' with
    | header q' a' e' => exact hheader q a e q' a' e'
    | length _ _ | rowSet _ _ _ | malformedLabel _ _ => cases hkind
  | rowSet q missing unexpected =>
    cases m' with
    | rowSet q' missing' unexpected' => exact hrowSet q missing unexpected q' missing' unexpected'
    | length _ _ | header _ _ _ | malformedLabel _ _ => cases hkind
  | malformedLabel q label =>
    cases m' with
    | malformedLabel q' label' => exact hlabel q label q' label'
    | length _ _ | header _ _ _ | rowSet _ _ _ => cases hkind

def fields : Mismatch → List (Text × Value)
  | length actual expected => [("actual".toList, .number actual), ("expected".toList, .number expected)]
  | header q actual expected =>
    [("query_index".toList, .number q), ("actual".toList, .string actual), ("expected".toList, .string expected)]
  | rowSet q missing unexpected =>
    [("query_index".toList, .number q), ("missing".toList, .array (missing.map .string)),
      ("unexpected".toList, .array (unexpected.map .string))]
  | malformedLabel q label => [("query_index".toList, .number q), ("label".toList, .string label)]

def value (m : Mismatch) : Value :=
  .object (("kind".toList, .string m.kind.name) :: m.fields)

theorem write_value (m : Mismatch) : m.value.write = m.json := by
  cases m <;> simp [value, fields, json, jsonFields, MismatchKind.json, Value.write, Function.comp_def]

theorem fields_inj {m m' : Mismatch} (hkind : m.kind = m'.kind) : m.fields = m'.fields → m = m' := by
  have hstrings : Function.Injective (List.map Value.string) :=
    List.map_injective_iff.2 fun _ _ => Value.string.inj
  refine same_kind (P := fun m m' => m.fields = m'.fields → m = m') hkind ?_ ?_ ?_ ?_
  · intro a e a' e' h
    simp only [fields, List.cons.injEq, Prod.mk.injEq, Value.number.injEq, true_and, and_true] at h
    rw [h.1, h.2]
  · intro q a e q' a' e' h
    simp only [fields, List.cons.injEq, Prod.mk.injEq, Value.number.injEq, Value.string.injEq, true_and,
      and_true] at h
    rw [h.1, h.2.1, h.2.2]
  · intro q missing unexpected q' missing' unexpected' h
    simp only [fields, List.cons.injEq, Prod.mk.injEq, Value.number.injEq, Value.array.injEq, true_and,
      and_true] at h
    rw [h.1, hstrings h.2.1, hstrings h.2.2]
  · intro q label q' label' h
    simp only [fields, List.cons.injEq, Prod.mk.injEq, Value.number.injEq, Value.string.injEq, true_and,
      and_true] at h
    rw [h.1, h.2]

theorem value_inj {m m' : Mismatch} (h : m.value = m'.value) : m = m' := by
  obtain ⟨hkind, hfields⟩ := List.cons.inj (Value.object.inj h)
  exact fields_inj (MismatchKind.name_inj (Value.string.inj (Prod.mk.inj hkind).2)) hfields

end Mismatch

namespace Verdict

/-- The fields that only some verdicts have, as JSON values. -/
def fields : Verdict → List (Text × Value)
  | agree s =>
    [("summary".toList, .object [("queries".toList, .number s.queries), ("rows".toList, .number s.rows)])]
  | differ m =>
    ("kind".toList, .string m.kind.name) ::
      (m.queryNumber.map fun n => ("query".toList, Value.number n)).toList ++ [("mismatch".toList, m.value)]

def value (v : Verdict) : Value :=
  .object (("matched".toList, .bool v.matched) :: ("message".toList, .string v.message) :: v.fields)

theorem write_value (v : Verdict) : v.value.write = v.json := by
  cases v with
  | agree s => simp [value, fields, json, jsonFields, Value.write]
  | differ m =>
    cases hq : m.queryNumber <;>
      simp [value, fields, json, jsonFields, MismatchKind.json, Value.write, Mismatch.write_value, hq]

theorem value_inj {v v' : Verdict} (h : v.value = v'.value) : v = v' := by
  obtain ⟨hmatched, hrest⟩ := List.cons.inj (Value.object.inj h)
  obtain ⟨-, hfields⟩ := List.cons.inj hrest
  have hsame : v.matched = v'.matched := Value.bool.inj (Prod.mk.inj hmatched).2
  cases v with
  | agree s =>
    cases v' with
    | agree s' =>
      simp only [fields, List.cons.injEq, Prod.mk.injEq, Value.object.injEq, Value.number.injEq, true_and,
        and_true] at hfields
      obtain ⟨hqueries, hrows⟩ := hfields
      rw [show s = s' from by cases s; cases s'; exact congrArg₂ Summary.mk hqueries hrows]
    | differ m' => cases hsame
  | differ m =>
    cases v' with
    | agree s' => cases hsame
    | differ m' =>
      have hlast := (List.append_inj' (List.cons.inj hfields).2 rfl).2
      rw [Mismatch.value_inj (Prod.mk.inj (List.cons.inj hlast).1).2]

theorem json_inj {v v' : Verdict} (h : v.json = v'.json) : v = v' := by
  rw [← write_value, ← write_value] at h
  exact value_inj (Value.write_inj h)

theorem oneLine_json (v : Verdict) : v.json.OneLine := by
  rw [← write_value]
  exact Value.newline_notMem_write _

end Verdict

/-! ### Messages -/

namespace MismatchKind

/-- The letter with which the category of a mismatch begins. -/
def initial : MismatchKind → Char
  | length => 'd'
  | header => 'q'
  | rowSet => 'v'
  | malformedLabel => 'm'

theorem initial_inj {k k' : MismatchKind} (h : k.initial = k'.initial) : k = k' := by
  revert h
  cases k <;> cases k' <;> decide

end MismatchKind

theorem Text.oneLine_ofNat (n : Nat) : (Text.ofNat n).OneLine := by
  intro h
  cases isDigit_of_mem_ofNat h

namespace Mismatch

theorem kind_of_queryIndex_none {m : Mismatch} (h : m.queryIndex = none) : m.kind = .length := by
  cases m with
  | length _ _ => rfl
  | header _ _ _ | rowSet _ _ _ | malformedLabel _ _ => cases h

theorem message_of_queryIndex_none {m : Mismatch} (h : m.queryIndex = none) :
    m.message = "different length".toList := by
  cases m with
  | length _ _ => rfl
  | header _ _ _ | rowSet _ _ _ | malformedLabel _ _ => cases h

theorem category_eq_initial_cons (m : Mismatch) : m.category = m.kind.initial :: m.category.tail := by
  cases m <;> rfl

/-- Behind the number of the block, the message goes on with the category. -/
theorem message_of_queryIndex {m : Mismatch} {q : Nat} (h : m.queryIndex = some q) :
    ∃ rest, m.message = "[query ".toList ++ (Text.ofNat (q + 1) ++ ']' :: ' ' :: m.kind.initial :: rest) := by
  unfold message queryNumber
  rw [h, category_eq_initial_cons]
  simp only [Option.map_some, List.append_assoc]
  exact ⟨_, rfl⟩

theorem message_inj {m m' : Mismatch} (h : m.message = m'.message) :
    m.kind = m'.kind ∧ m.queryIndex = m'.queryIndex := by
  cases hq : m.queryIndex with
  | none =>
    cases hq' : m'.queryIndex with
    | none => exact ⟨(kind_of_queryIndex_none hq).trans (kind_of_queryIndex_none hq').symm, rfl⟩
    | some q' =>
      obtain ⟨rest', hm'⟩ := message_of_queryIndex hq'
      rw [message_of_queryIndex_none hq, hm'] at h
      cases (List.cons.inj h).1
  | some q =>
    obtain ⟨rest, hm⟩ := message_of_queryIndex hq
    cases hq' : m'.queryIndex with
    | none =>
      rw [message_of_queryIndex_none hq', hm] at h
      cases (List.cons.inj h).1
    | some q' =>
      obtain ⟨rest', hm'⟩ := message_of_queryIndex hq'
      rw [hm, hm'] at h
      obtain ⟨hnumber, hbehind⟩ := Text.ofNat_append_inj (Text.noDigit_cons rfl _) (Text.noDigit_cons rfl _)
        (List.append_cancel_left h)
      simp only [List.cons.injEq, true_and] at hbehind
      exact ⟨MismatchKind.initial_inj hbehind.1, congrArg some (Nat.succ.inj hnumber)⟩

theorem oneLine_category (m : Mismatch) : m.category.OneLine := by
  cases m <;> exact of_decide_eq_true rfl

theorem oneLine_message {m : Mismatch} (h : ∀ t ∈ m.texts, t.OneLine) : m.message.OneLine := by
  have hplace (q : Nat) : Text.OneLine ("[query ".toList ++ .ofNat (q + 1) ++ "] ".toList) :=
    .append (.append (by decide) (Text.oneLine_ofNat _)) (by decide)
  cases m with
  | length a e => exact .append (.append Text.oneLine_nil (oneLine_category _)) Text.oneLine_nil
  | header q a e => exact .append (.append (hplace q) (oneLine_category _)) Text.oneLine_nil
  | rowSet q missing unexpected => exact .append (.append (hplace q) (oneLine_category _)) Text.oneLine_nil
  | malformedLabel q label =>
    have hlabel : label.OneLine := h label (List.mem_singleton_self _)
    exact .append (.append (hplace q) (oneLine_category _)) (.append (.append (by decide) hlabel) (by decide))

end Mismatch

/-! ### Details -/

def Mismatch.detailCount : Mismatch → Nat
  | length .. | header .. => 2
  | rowSet _ missing unexpected => missing.length + unexpected.length
  | malformedLabel .. => 1

namespace Verdict

variable {m m' : Mismatch}

theorem length_details (m : Mismatch) : (differ m).details.length = m.detailCount := by
  cases m <;> simp [details, Mismatch.detailCount]

theorem oneLine_details (h : ∀ t ∈ m.texts, t.OneLine) : ∀ l ∈ (differ m).details, l.OneLine := by
  intro l hl
  cases m with
  | length a e =>
    rcases List.mem_pair.1 hl with rfl | rfl
    · exact .append (by decide) (Text.oneLine_ofNat a)
    · exact .append (by decide) (Text.oneLine_ofNat e)
  | header q a e =>
    rcases List.mem_pair.1 hl with rfl | rfl
    · exact .append (by decide) (h a (List.mem_cons_self ..))
    · exact .append (by decide) (h e (List.mem_cons_of_mem _ (List.mem_singleton_self _)))
  | rowSet q missing unexpected =>
    rcases List.mem_append.1 hl with hl | hl
    · obtain ⟨row, hrow, rfl⟩ := List.mem_map.1 hl
      exact .append (by decide) (h row (List.mem_append_left _ hrow))
    · obtain ⟨row, hrow, rfl⟩ := List.mem_map.1 hl
      exact .append (by decide) (h row (List.mem_append_right _ hrow))
  | malformedLabel q label =>
    rw [List.mem_singleton.1 hl]
    exact .append (by decide) (h label (List.mem_singleton_self _))

/-- Two lists, one marked by `f` and then one marked by `g`, are told from all the marked entries. -/
theorem map_append_map_inj {α β : Type} {f g : α → β} (hf : Function.Injective f) (hg : Function.Injective g)
    (hne : ∀ a b, f a ≠ g b) {l l' k k' : List α} (h : l.map f ++ k.map g = l'.map f ++ k'.map g) :
    l = l' ∧ k = k' := by
  induction l generalizing l' with
  | nil =>
    cases l' with
    | nil => exact ⟨rfl, List.map_injective_iff.2 hg h⟩
    | cons a l' =>
      cases k with
      | nil => cases h
      | cons b k => exact (hne a b (List.cons.inj h).1.symm).elim
  | cons a l ih =>
    cases l' with
    | nil =>
      cases k' with
      | nil => cases h
      | cons b k' => exact (hne a b (List.cons.inj h).1).elim
    | cons a' l' =>
      obtain ⟨hhead, htail⟩ := List.cons.inj h
      obtain ⟨rfl, rfl⟩ := ih htail
      rw [hf hhead]
      exact ⟨rfl, rfl⟩

theorem eq_of_details (hkind : m.kind = m'.kind) :
    m.queryIndex = m'.queryIndex → (differ m).details = (differ m').details → m = m' := by
  refine Mismatch.same_kind
    (P := fun m m' => m.queryIndex = m'.queryIndex → (differ m).details = (differ m').details → m = m') hkind
    ?_ ?_ ?_ ?_
  · intro a e a' e' _ h
    obtain ⟨ha, he⟩ := List.cons.inj h
    rw [Text.ofNat_inj.1 (List.append_cancel_left ha),
      Text.ofNat_inj.1 (List.append_cancel_left (List.cons.inj he).1)]
  · rintro q a e _ a' e' ⟨⟩ h
    obtain ⟨ha, he⟩ := List.cons.inj h
    rw [List.append_cancel_left ha, List.append_cancel_left (List.cons.inj he).1]
  · rintro q missing unexpected _ missing' unexpected' ⟨⟩ h
    -- the marks of the two lists differ in their third letter
    obtain ⟨rfl, rfl⟩ := map_append_map_inj (List.append_right_injective _) (List.append_right_injective _)
      (fun _ _ heq => by simp at heq) h
    rfl
  · rintro q label _ label' ⟨⟩ h
    rw [List.append_cancel_left (List.cons.inj h).1]

end Verdict

/-! ### Reports -/

namespace Report

theorem eq_of_ofVerdict_text {m m' : Mismatch} (hm : ∀ t ∈ m.texts, t.OneLine) (hm' : ∀ t ∈ m'.texts, t.OneLine)
    (h : ofVerdict (.differ m) .text = ofVerdict (.differ m') .text) : m = m' := by
  obtain ⟨hout, herr⟩ := Report.mk.inj h
  have hmessage : m.message = m'.message :=
    List.append_cancel_left (List.append_cancel_right hout)
  have hdetails := congrArg Lines.pieces herr
  rw [Lines.pieces_flatMap_line (Verdict.oneLine_details hm),
    Lines.pieces_flatMap_line (Verdict.oneLine_details hm')] at hdetails
  obtain ⟨hkind, hquery⟩ := Mismatch.message_inj hmessage
  exact Verdict.eq_of_details hkind hquery hdetails

/-- A report is one line, with details on the error output for a mismatch in text, and no outcome shares
its report with another one. In text this takes mismatches of dumps that were read from texts. -/
theorem ofVerdict_tells :
    (∀ v : Verdict, (ofVerdict v .json).err = [] ∧
      ∃ line : Text, line.OneLine ∧ (ofVerdict v .json).out = line.line) ∧
    (∀ v v' : Verdict, (ofVerdict v .json).out = (ofVerdict v' .json).out → v = v') ∧
    ∀ (c : Comparator) (actual expected : Text) (m : Mismatch),
      (c.compare (.parse actual) (.parse expected)).value = .differ m →
        (∃ line : Text, line.OneLine ∧ (ofVerdict (.differ m) .text).out = line.line) ∧
        (∃ ls : List Text, (∀ l ∈ ls, l.OneLine) ∧ ls.length = m.detailCount ∧
          (ofVerdict (.differ m) .text).err = ls.flatMap Text.line) ∧
        ∀ (c' : Comparator) (actual' expected' : Text) (m' : Mismatch),
          (c'.compare (.parse actual') (.parse expected')).value = .differ m' →
            ofVerdict (.differ m) .text = ofVerdict (.differ m') .text → m = m' := by
  refine ⟨fun v => ⟨rfl, v.json, v.oneLine_json, rfl⟩, fun v v' h => ?_, fun c actual expected m h => ?_⟩
  · exact Verdict.json_inj (List.append_cancel_right h)
  · have hm := Comparator.oneLine_of_value_differ h
    refine ⟨⟨"Error: ".toList ++ m.message, .append (by decide) (Mismatch.oneLine_message hm), rfl⟩,
      ⟨(Verdict.differ m).details, Verdict.oneLine_details hm, Verdict.length_details m, rfl⟩, ?_⟩
    intro c' actual' expected' m' h' hreports
    exact eq_of_ofVerdict_text hm (Comparator.oneLine_of_value_differ h') hreports

/-- Two dumps that differ in a row, and the same two the other way round. -/
theorem ofVerdict_tells_changed_row :
    let m : Mismatch := .rowSet 0 ["x".toList] ["y".toList]
    let m' : Mismatch := .rowSet 0 ["y".toList] ["x".toList]
    (∃ line : Text, line.OneLine ∧ (ofVerdict (.differ m) .text).out = line.line) ∧
      (∃ ls : List Text, (∀ l ∈ ls, l.OneLine) ∧ ls.length = 2 ∧
        (ofVerdict (.differ m) .text).err = ls.flatMap Text.line) ∧
      ofVerdict (.differ m) .text ≠ ofVerdict (.differ m') .text := by
  intro m m'
  have hm : ((default : Comparator).compare (.parse "h\n-\ny\n-".toList) (.parse "h\n-\nx\n-".toList)).value =
      .differ m := by decide +kernel
  have hm' : ((default : Comparator).compare (.parse "h\n-\nx\n-".toList) (.parse "h\n-\ny\n-".toList)).value =
      .differ m' := by decide +kernel
  obtain ⟨-, -, htext⟩ := ofVerdict_tells
  obtain ⟨hout, herr, hinj⟩ := htext _ _ _ m hm
  refine ⟨hout, herr, fun h => ?_⟩
  have hne : m ≠ m' := by decide
  exact hne (hinj _ _ _ m' hm' h)

end Report
end DumpCheck
