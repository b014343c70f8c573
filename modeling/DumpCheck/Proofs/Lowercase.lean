import DumpCheck.Text.Lowercase
import Mathlib.Data.List.Basic
import Mathlib.Tactic.SplitIfs

/-!
# Lowering a piece of a text

A text is lowered piece by piece, each between what stands before it and what comes after it
(`Text.lowercaseBetween_append`). All that a piece sees of these is whether the nearest character that
is not case-ignorable is cased (`Text.lowercaseBetween_congr`). So the end of a text is lowered behind a
letter as it is alone, unless it begins with a capital sigma that ends a word
(`Text.lowercaseAfter_eq_iff`). No character but itself is lowered to a mark, such as a line feed or a
parenthesis (`Text.eq_of_mem_lowercaseAt`).
-/

namespace DumpCheck
namespace Text

variable {a c : Char} {before before' after after' t : Text}

/-! ### Marks -/

/-- A character of ASCII in front of the letters, such as a line feed, a space or a parenthesis; not the
null character, which stands for every code point that is none. -/
def IsMark (a : Char) : Prop :=
  0 < a.toNat ∧ a.toNat < 0x41

instance (a : Char) : Decidable (IsMark a) :=
  inferInstanceAs (Decidable (0 < a.toNat ∧ a.toNat < 0x41))

theorem CaseRun.exists_of_lower? {runs : List CaseRun} {n m : Nat} (h : CaseRun.lower? runs n = some m) :
    ∃ run ∈ runs, run.first ≤ n ∧ m = (n + run.shift).toNat := by
  induction runs with
  | nil => cases h
  | cons run runs ih =>
    rw [lower?] at h
    split_ifs at h with hfirst hlast hstride
    · exact ⟨run, List.mem_cons_self .., by omega, (Option.some.inj h).symm⟩
    · obtain ⟨run', hmem, hrun'⟩ := ih h
      exact ⟨run', List.mem_cons_of_mem _ hmem, hrun'⟩

/-- All characters with a lowercase of their own, and these as well, come behind the marks. -/
theorem lower?_lowerRuns_ge {n m : Nat} (h : CaseRun.lower? lowerRuns n = some m) : 0x41 ≤ m := by
  have hruns : ∀ run ∈ lowerRuns, (0x41 : Int) ≤ run.first + run.shift := by decide +kernel
  obtain ⟨run, hmem, hfirst, rfl⟩ := CaseRun.exists_of_lower? h
  have := hruns run hmem
  omega

theorem ofNat_ne_mark (h : IsMark a) {n : Nat} (hn : 0x41 ≤ n) : Char.ofNat n ≠ a := by
  rintro rfl
  obtain ⟨hpos, hlt⟩ := h
  by_cases hvalid : n.isValidChar
  · rw [Char.ofNat, dif_pos hvalid] at hlt
    exact absurd hn (Nat.not_le_of_lt hlt)
  · rw [Char.ofNat, dif_neg hvalid] at hpos
    exact absurd hpos (by decide)

/-- Only a mark itself has it in its lowercase. -/
theorem eq_of_mem_lowercaseAt (h : IsMark a) (hmem : a ∈ lowercaseAt before c after) : c = a := by
  unfold lowercaseAt lowercaseSigma lowercaseChar at hmem
  split_ifs at hmem
  · rw [List.mem_singleton.1 hmem] at h
    exact absurd h (by decide)
  · rw [List.mem_singleton.1 hmem] at h
    exact absurd h (by decide)
  · rcases List.mem_pair.1 hmem with rfl | rfl
    · exact absurd h (by decide)
    · exact absurd h (by decide)
  · rw [List.mem_singleton] at hmem
    cases hlower : CaseRun.lower? lowerRuns c.toNat with
    | none => exact (hmem.trans (by rw [hlower]; rfl)).symm
    | some n =>
      have heq : a = Char.ofNat n := hmem.trans (by rw [hlower]; rfl)
      exact absurd heq.symm (ofNat_ne_mark h (lower?_lowerRuns_ge hlower))

theorem mem_of_mem_lowercaseAfter (h : IsMark a) (hmem : a ∈ lowercaseAfter before t) : a ∈ t := by
  induction t generalizing before with
  | nil => exact hmem
  | cons c t ih =>
    rcases List.mem_append.1 hmem with hmem | hmem
    · rw [eq_of_mem_lowercaseAt h hmem]
      exact List.mem_cons_self ..
    · exact List.mem_cons_of_mem _ (ih hmem)

theorem lowercaseAt_ne_nil (before : Text) (c : Char) (after : Text) : lowercaseAt before c after ≠ [] := by
  unfold lowercaseAt lowercaseChar
  split_ifs <;> exact List.cons_ne_nil _ _

/-! ### Pieces -/

/-- The lowercase of a piece between `before`, read leftwards, and `after`. -/
def lowercaseBetween (before after : Text) : Text → Text
  | [] => []
  | c :: t => lowercaseAt before c (t ++ after) ++ lowercaseBetween (c :: before) after t

theorem lowercaseBetween_nil_right (before t : Text) :
    lowercaseBetween before [] t = lowercaseAfter before t := by
  induction t generalizing before with
  | nil => rfl
  | cons c t ih => rw [lowercaseBetween, lowercaseAfter, List.append_nil, ih]

theorem lowercaseBetween_singleton (before after : Text) (c : Char) :
    lowercaseBetween before after [c] = lowercaseAt before c after :=
  List.append_nil _

theorem lowercaseBetween_append (before after t u : Text) :
    lowercaseBetween before after (t ++ u) =
      lowercaseBetween before (u ++ after) t ++ lowercaseBetween (t.reverse ++ before) after u := by
  induction t generalizing before with
  | nil => rfl
  | cons c t ih =>
    have hreverse : (c :: t).reverse ++ before = t.reverse ++ c :: before := by simp
    rw [List.cons_append, lowercaseBetween, lowercaseBetween, ih, hreverse, List.append_assoc,
      List.append_assoc]

theorem meetsCased_cons (c : Char) (t : Text) :
    meetsCased (c :: t) = if isCaseIgnorable c then meetsCased t else isCased c := by
  by_cases h : isCaseIgnorable c
  · rw [meetsCased, List.dropWhile_cons_of_pos h, if_pos h]
    rfl
  · rw [meetsCased, List.dropWhile_cons_of_neg h, if_neg h]

theorem meetsCased_append_congr (h : meetsCased after' = meetsCased after) (t : Text) :
    meetsCased (t ++ after') = meetsCased (t ++ after) := by
  induction t with
  | nil => exact h
  | cons c t ih => rw [List.cons_append, List.cons_append, meetsCased_cons, meetsCased_cons, ih]

theorem lowercaseBetween_congr (hbefore : meetsCased before' = meetsCased before)
    (hafter : meetsCased after' = meetsCased after) (t : Text) :
    lowercaseBetween before' after' t = lowercaseBetween before after t := by
  induction t generalizing before before' with
  | nil => rfl
  | cons c t ih =>
    have hnext : meetsCased (c :: before') = meetsCased (c :: before) := by
      rw [meetsCased_cons, meetsCased_cons, hbefore]
    rw [lowercaseBetween, lowercaseBetween, ih hnext]
    unfold lowercaseAt lowercaseSigma
    rw [hbefore, meetsCased_append_congr hafter]

/-- The character is lowered to itself wherever it stands. -/
def IsFixed (c : Char) : Prop :=
  c ≠ 'Σ' ∧ lowercaseChar c = [c]

instance (c : Char) : Decidable (IsFixed c) :=
  inferInstanceAs (Decidable (c ≠ 'Σ' ∧ lowercaseChar c = [c]))

theorem lowercaseAt_fixed (h : IsFixed c) (before after : Text) : lowercaseAt before c after = [c] := by
  rw [lowercaseAt, if_neg h.1, h.2]

theorem lowercaseBetween_of_fixed (h : ∀ c ∈ t, IsFixed c) (before after : Text) :
    lowercaseBetween before after t = t := by
  induction t generalizing before with
  | nil => rfl
  | cons c t ih =>
    have htail := ih (fun d hd => h d (List.mem_cons_of_mem _ hd)) (c :: before)
    rw [lowercaseBetween, htail, lowercaseAt_fixed (h c (List.mem_cons_self ..))]
    rfl

/-- Marks at the ends of a lowered text come from the ends of the text. -/
theorem head?_of_lowercaseAfter (h : IsMark a) (hhead : (lowercaseAfter before t).head? = some a) :
    t.head? = some a := by
  cases t with
  | nil => exact hhead
  | cons c t =>
    rw [lowercaseAfter, List.head?_append_of_ne_nil _ (lowercaseAt_ne_nil before c t)] at hhead
    rw [eq_of_mem_lowercaseAt h (List.mem_of_mem_head? hhead), List.head?_cons]

theorem getLast?_of_lowercaseAfter (h : IsMark a) (hlast : (lowercaseAfter before t).getLast? = some a) :
    t.getLast? = some a := by
  rcases List.eq_nil_or_concat' t with rfl | ⟨t, c, rfl⟩
  · exact hlast
  · rw [← lowercaseBetween_nil_right, lowercaseBetween_append, lowercaseBetween_singleton,
      List.getLast?_append_of_ne_nil _ (lowercaseAt_ne_nil _ c [])] at hlast
    rw [eq_of_mem_lowercaseAt h (List.mem_of_mem_getLast? hlast), List.getLast?_concat]

/-! ### Behind a letter -/

/-- The first character that is not case-ignorable is a capital sigma that ends the word. -/
def startsWithFinalSigma : Text → Bool
  | [] => false
  | c :: t => if isCaseIgnorable c then startsWithFinalSigma t else c = 'Σ' && !meetsCased t

theorem lowercaseSigma_eq_iff (hbefore : meetsCased before = true) (hbefore' : meetsCased before' = false)
    (after : Text) : lowercaseSigma before after = lowercaseSigma before' after ↔ meetsCased after = true := by
  unfold lowercaseSigma
  rw [hbefore, hbefore']
  cases meetsCased after <;> decide

/-- A text is lowered behind a letter as it is behind none, unless a final sigma begins it. -/
theorem lowercaseAfter_eq_iff (hbefore : meetsCased before = true) (hbefore' : meetsCased before' = false)
    (t : Text) : lowercaseAfter before t = lowercaseAfter before' t ↔ startsWithFinalSigma t = false := by
  induction t generalizing before before' with
  | nil => simp [lowercaseAfter, startsWithFinalSigma]
  | cons c t ih =>
    rw [lowercaseAfter, lowercaseAfter, startsWithFinalSigma]
    by_cases hignorable : isCaseIgnorable c
    · -- the character is no sigma, and the next one sees the same context
      have hsigma : c ≠ 'Σ' := by
        rintro rfl
        exact absurd hignorable (by decide)
      have hnext (b : Text) : meetsCased (c :: b) = meetsCased b := by
        rw [meetsCased_cons, if_pos hignorable]
      rw [lowercaseAt, lowercaseAt, if_neg hsigma, if_neg hsigma, List.append_cancel_left_eq, if_pos hignorable]
      exact ih ((hnext before).trans hbefore) ((hnext before').trans hbefore')
    · -- whatever comes behind the character sees nothing but the character
      have hnext : meetsCased (c :: before) = meetsCased (c :: before') := by
        rw [meetsCased_cons, meetsCased_cons, if_neg hignorable, if_neg hignorable]
      have htail : lowercaseAfter (c :: before) t = lowercaseAfter (c :: before') t := by
        rw [← lowercaseBetween_nil_right, ← lowercaseBetween_nil_right]
        exact lowercaseBetween_congr hnext rfl t
      rw [htail, List.append_cancel_right_eq, if_neg hignorable]
      by_cases hsigma : c = 'Σ'
      · rw [lowercaseAt, lowercaseAt, if_pos hsigma, if_pos hsigma, List.singleton_inj,
          lowercaseSigma_eq_iff hbefore hbefore']
        simp [hsigma]
      · simp [lowercaseAt, hsigma]

end Text
end DumpCheck
