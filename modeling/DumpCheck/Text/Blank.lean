import DumpCheck.Text.Basic

/-!
# Blank characters

The characters with the Unicode property White_Space, and `Text.trim`, which takes them off both
ends of a text. Trimming twice is trimming once (`trim_trim`).
-/

namespace DumpCheck
namespace Text

/-- The property White_Space: 25 characters, in ten ranges. -/
def isBlank (c : Char) : Bool :=
  let n := c.toNat
  (9 ≤ n && n ≤ 13) || n = 0x20 || n = 0x85 || n = 0xA0 || n = 0x1680 || (0x2000 ≤ n && n ≤ 0x200A) ||
    n = 0x2028 || n = 0x2029 || n = 0x202F || n = 0x205F || n = 0x3000

def trimStart (t : Text) : Text :=
  t.dropWhile isBlank

def trimEnd (t : Text) : Text :=
  (t.reverse.dropWhile isBlank).reverse

def trim (t : Text) : Text :=
  t.trimStart.trimEnd

/-- Nothing is trimmed at the left of a text exactly if it does not begin with a blank. -/
theorem trimStart_eq_self_iff {t : Text} : t.trimStart = t ↔ ∀ c, t.head? = some c → isBlank c = false := by
  cases t with
  | nil => simp [trimStart]
  | cons c t =>
    simp only [trimStart, List.dropWhile_cons, List.head?_cons, Option.some.injEq, forall_eq']
    cases h : isBlank c
    · simp
    · simp only [if_true, iff_false, Bool.true_eq_false]
      intro heq
      have := congrArg List.length heq
      have := (List.dropWhile_sublist isBlank (l := t)).length_le
      simp_all only [List.length_cons]
      omega

theorem trimStart_trimStart (t : Text) : t.trimStart.trimStart = t.trimStart := by
  rw [trimStart_eq_self_iff]
  intro c hc
  have := List.head?_dropWhile_not isBlank t
  simp only [trimStart] at hc
  rw [hc] at this
  simpa using this

theorem trimEnd_eq (t : Text) : t.trimEnd = (trimStart t.reverse).reverse := rfl

theorem trimEnd_trimEnd (t : Text) : t.trimEnd.trimEnd = t.trimEnd := by
  simp [trimEnd_eq, trimStart_trimStart]

theorem trimEnd_isPrefix (t : Text) : t.trimEnd <+: t := by
  rw [trimEnd_eq, ← List.reverse_suffix, List.reverse_reverse]
  exact List.dropWhile_suffix _

/-- Trimming at the right keeps a text that does not begin with a blank so. -/
theorem trimStart_trimEnd {t : Text} (h : t.trimStart = t) : t.trimEnd.trimStart = t.trimEnd := by
  rw [trimStart_eq_self_iff] at h ⊢
  intro c hc
  apply h
  obtain ⟨rest, hrest⟩ := trimEnd_isPrefix t
  rw [← hrest, List.head?_append, hc, Option.some_or]

@[simp] theorem trim_trim (t : Text) : t.trim.trim = t.trim := by
  simp only [trim]
  rw [trimStart_trimEnd (trimStart_trimStart t), trimEnd_trimEnd]

@[simp] theorem trim_nil : trim [] = [] := rfl

end Text
end DumpCheck
