import DumpCheck.Text.Hex
import DumpCheck.Text.Json
import Mathlib.Data.List.Basic
import Mathlib.Data.List.TakeWhile

/-!
# A JSON text has one reading

`Json.Value` is what a JSON text stands for, and `Value.write` writes it down. No two values are written
alike, not even if other text follows, so a value that is read off the front of a text is the one that
was written (`Json.Value.eq_of_write_append`). Only a number needs something behind it to show where it
ends, and a digit does not (`Text.NoDigit`). Whatever stands in the strings of a value, its text is one
line (`Json.Value.newline_notMem_write`).
-/

namespace DumpCheck

namespace Text

def NoDigit (t : Text) : Prop :=
  ∀ c, t.head? = some c → c.isDigit = false

theorem noDigit_nil : NoDigit [] := nofun

theorem noDigit_cons {c : Char} (h : c.isDigit = false) (t : Text) : NoDigit (c :: t) := by
  rintro _ ⟨⟩
  exact h

theorem isDigit_of_mem_ofNat {n : Nat} {c : Char} (h : c ∈ ofNat n) : c.isDigit = true :=
  Nat.isDigit_of_mem_toDigits (by decide) (by decide) h

theorem takeWhile_isDigit_ofNat_append (n : Nat) {r : Text} (hr : NoDigit r) :
    (ofNat n ++ r).takeWhile Char.isDigit = ofNat n := by
  rw [List.takeWhile_append_of_pos fun c => isDigit_of_mem_ofNat]
  cases r with
  | nil => simp
  | cons c r => simp [hr c rfl]

theorem ofNat_inj {n m : Nat} : ofNat n = ofNat m ↔ n = m := by
  refine ⟨fun h => ?_, congrArg ofNat⟩
  have hval := congrArg (Nat.ofDigitChars 10 · 0) h
  simpa [ofNat, Nat.ofDigitChars_toDigits] using hval

theorem ofNat_append_inj {n m : Nat} {r s : Text} (hr : NoDigit r) (hs : NoDigit s)
    (h : ofNat n ++ r = ofNat m ++ s) : n = m ∧ r = s := by
  have hdigits := congrArg (List.takeWhile Char.isDigit) h
  rw [takeWhile_isDigit_ofNat_append n hr, takeWhile_isDigit_ofNat_append m hs] at hdigits
  rw [hdigits] at h
  exact ⟨ofNat_inj.1 hdigits, List.append_cancel_left h⟩

end Text

namespace Json

open Text (NoDigit)

/-! ### Strings -/

/-- The character that a letter stands for behind a backslash. -/
def escaped : Char → Char
  | 'n' => '\n'
  | 'r' => '\r'
  | 't' => '\t'
  | 'b' => '\x08'
  | 'f' => '\x0C'
  | c => c

/-- Takes one character of a string off the front of a text. -/
def unescape? : Text → Option (Char × Text)
  | '\\' :: 'u' :: _ :: _ :: h :: l :: r =>
    some (Char.ofNat (16 * Hex.digitValue h + Hex.digitValue l), r)
  | '\\' :: c :: r => some (escaped c, r)
  | c :: r => some (c, r)
  | [] => none

theorem digitValue_digitChar {d : Nat} (h : d < 16) : Hex.digitValue (Nat.digitChar d) = d := by
  revert d
  decide

theorem unescape?_escape (c : Char) (r : Text) : unescape? (escape c ++ r) = some (c, r) := by
  unfold escape
  split_ifs with h1 h2 h3 h4 h5 h6 h7 h8
  · rw [h1]; rfl
  · rw [h2]; rfl
  · rw [h3]; rfl
  · rw [h4]; rfl
  · rw [h5]; rfl
  · rw [h6]; rfl
  · rw [h7]; rfl
  · have hval : 16 * (c.toNat / 16) + c.toNat % 16 = c.toNat := Nat.div_add_mod ..
    simp only [List.cons_append, List.nil_append, unescape?, digitValue_digitChar (d := c.toNat / 16) (by omega),
      digitValue_digitChar (Nat.mod_lt c.toNat (by decide)), hval, Char.ofNat_toNat]
  · simp [unescape?, h2]

theorem escape_append_ne (c : Char) (r s : Text) : escape c ++ r ≠ '"' :: s := by
  unfold escape
  split_ifs with h1 <;> simp [*]

theorem digitChar_ne_newline {d : Nat} (h : d < 16) : Nat.digitChar d ≠ '\n' := by
  revert d
  decide

theorem newline_notMem_escape (c : Char) : '\n' ∉ escape c := by
  unfold escape
  split_ifs with h1 h2 h3 h4 h5 h6 h7 h8
  · decide
  · decide
  · decide
  · decide
  · decide
  · decide
  · decide
  · have hhigh := digitChar_ne_newline (d := c.toNat / 16) (by omega)
    have hlow := digitChar_ne_newline (Nat.mod_lt c.toNat (y := 16) (by decide))
    simp [hhigh.symm, hlow.symm]
  · simpa using Ne.symm h3

theorem flatMap_escape_append_inj {t t' r s : Text}
    (h : t.flatMap escape ++ '"' :: r = t'.flatMap escape ++ '"' :: s) : t = t' ∧ r = s := by
  induction t generalizing t' with
  | nil =>
    cases t' with
    | nil => exact ⟨rfl, (List.cons.inj h).2⟩
    | cons c t' =>
      rw [List.flatMap_cons, List.append_assoc] at h
      exact (escape_append_ne _ _ _ h.symm).elim
  | cons c t ih =>
    rw [List.flatMap_cons, List.append_assoc] at h
    cases t' with
    | nil => exact (escape_append_ne _ _ _ h).elim
    | cons c' t' =>
      rw [List.flatMap_cons, List.append_assoc] at h
      have hread := congrArg unescape? h
      rw [unescape?_escape, unescape?_escape] at hread
      obtain ⟨rfl, hrest⟩ := Prod.mk.inj (Option.some.inj hread)
      obtain ⟨rfl, rfl⟩ := ih hrest
      exact ⟨rfl, rfl⟩

theorem string_append_inj {t t' r s : Text} (h : string t ++ r = string t' ++ s) : t = t' ∧ r = s := by
  simp only [string, List.cons_append, List.append_assoc, List.cons.injEq, true_and] at h
  exact flatMap_escape_append_inj h

theorem newline_notMem_string (t : Text) : '\n' ∉ string t := by
  simp [string, newline_notMem_escape]

/-! ### Lists of values -/

section Lists

variable {α : Type} {w : α → Text} {close : Char}

theorem commaSeparated_cons (x : Text) (xs : List Text) :
    commaSeparated (x :: xs) = x ++ xs.flatMap (',' :: ·) := by
  induction xs generalizing x with
  | nil => simp [commaSeparated]
  | cons y xs ih =>
    rw [List.flatMap_cons, List.cons_append, ← ih y]
    simp [commaSeparated]

theorem mem_commaSeparated {xs : List Text} {c : Char} (h : c ∈ commaSeparated xs) :
    c = ',' ∨ ∃ x ∈ xs, c ∈ x := by
  cases xs with
  | nil => cases h
  | cons x xs =>
    rw [commaSeparated_cons, List.mem_append, List.mem_flatMap] at h
    rcases h with h | ⟨y, hy, h⟩
    · exact .inr ⟨x, List.mem_cons_self .., h⟩
    · rcases List.mem_cons.1 h with h | h
      · exact .inl h
      · exact .inr ⟨y, List.mem_cons_of_mem _ hy, h⟩

/-- What is written for a value tells the value, whatever follows that is no digit. -/
def Reads (w : α → Text) (x : α) : Prop :=
  ∀ y r s, NoDigit r → NoDigit s → w x ++ r = w y ++ s → x = y ∧ r = s

theorem noDigit_flatMap_close (hclose : close.isDigit = false) (xs : List Text) (r : Text) :
    NoDigit (xs.flatMap (',' :: ·) ++ close :: r) := by
  cases xs with
  | nil => exact Text.noDigit_cons hclose _
  | cons x xs => exact Text.noDigit_cons rfl _

theorem flatMap_close_inj (hcomma : close ≠ ',') (hdigit : close.isDigit = false) {xs ys : List α}
    (hxs : ∀ x ∈ xs, Reads w x) {r s : Text}
    (h : (xs.map w).flatMap (',' :: ·) ++ close :: r =
      (ys.map w).flatMap (',' :: ·) ++ close :: s) : xs = ys ∧ r = s := by
  induction xs generalizing ys with
  | nil =>
    cases ys with
    | nil => exact ⟨rfl, (List.cons.inj h).2⟩
    | cons y ys => exact absurd (List.cons.inj h).1 hcomma
  | cons x xs ih =>
    cases ys with
    | nil => exact absurd (List.cons.inj h).1.symm hcomma
    | cons y ys =>
      simp only [List.map_cons, List.flatMap_cons, List.cons_append, List.append_assoc,
        List.cons.injEq, true_and] at h
      obtain ⟨rfl, hrest⟩ := hxs x (List.mem_cons_self ..) y _ _
        (noDigit_flatMap_close hdigit _ _) (noDigit_flatMap_close hdigit _ _) h
      obtain ⟨rfl, rfl⟩ := ih (fun z hz => hxs z (List.mem_cons_of_mem _ hz)) hrest
      exact ⟨rfl, rfl⟩

theorem commaSeparated_close_inj (hcomma : close ≠ ',') (hdigit : close.isDigit = false)
    (hopen : ∀ x r s, w x ++ r ≠ close :: s) {xs ys : List α} (hxs : ∀ x ∈ xs, Reads w x)
    {r s : Text}
    (h : commaSeparated (xs.map w) ++ close :: r = commaSeparated (ys.map w) ++ close :: s) :
    xs = ys ∧ r = s := by
  cases xs with
  | nil =>
    cases ys with
    | nil => exact ⟨rfl, (List.cons.inj h).2⟩
    | cons y ys =>
      rw [List.map_cons, commaSeparated_cons, List.append_assoc] at h
      exact (hopen _ _ _ h.symm).elim
  | cons x xs =>
    rw [List.map_cons, commaSeparated_cons, List.append_assoc] at h
    cases ys with
    | nil => exact (hopen _ _ _ h).elim
    | cons y ys =>
      rw [List.map_cons, commaSeparated_cons, List.append_assoc] at h
      obtain ⟨rfl, hrest⟩ := hxs x (List.mem_cons_self ..) y _ _
        (noDigit_flatMap_close hdigit _ _) (noDigit_flatMap_close hdigit _ _) h
      obtain ⟨rfl, rfl⟩ := flatMap_close_inj hcomma hdigit
        (fun z hz => hxs z (List.mem_cons_of_mem _ hz)) hrest
      exact ⟨rfl, rfl⟩

end Lists

/-! ### Values -/

/-- What a value is, as the first character of its text shows it. -/
inductive Kind
  | bool | number | string | array | object

/-- The kind of the values that begin with a character. -/
def kindAt? (c : Char) : Option Kind :=
  if c.isDigit then some .number
  else if c = '"' then some .string
  else if c = '[' then some .array
  else if c = '{' then some .object
  else if c = 't' ∨ c = 'f' then some .bool
  else none

/-- A JSON value without negative numbers, fractions and `null`. -/
inductive Value
  | bool (b : Bool)
  | number (n : Nat)
  | string (t : Text)
  | array (items : List Value)
  | object (fields : List (Text × Value))

namespace Value

def write : Value → Text
  | bool b => Json.bool b
  | number n => Json.number n
  | string t => Json.string t
  | array items => Json.array (items.map fun v => v.write)
  | object fields => Json.object (fields.map fun p => (p.1, p.2.write))
decreasing_by
  · have := List.sizeOf_lt_of_mem ‹v ∈ items›
    simp only [array.sizeOf_spec]
    omega
  · have := List.sizeOf_lt_of_mem ‹p ∈ fields›
    cases p
    simp only [object.sizeOf_spec, Prod.mk.sizeOf_spec] at *
    omega

def kind : Value → Kind
  | bool _ => .bool
  | number _ => .number
  | string _ => .string
  | array _ => .array
  | object _ => .object

theorem kindAt_write (v : Value) : ∃ c t, v.write = c :: t ∧ kindAt? c = some v.kind := by
  cases v with
  | bool b =>
    rw [write]
    cases b
    · exact ⟨'f', "alse".toList, rfl, rfl⟩
    · exact ⟨'t', "rue".toList, rfl, rfl⟩
  | number n =>
    rw [write]
    obtain ⟨c, t, hc⟩ := List.exists_cons_of_ne_nil (l := Text.ofNat n) Nat.toDigits_ne_nil
    have hdigit : c.isDigit = true := Text.isDigit_of_mem_ofNat (n := n) (hc ▸ List.mem_cons_self ..)
    exact ⟨c, t, hc, by rw [kindAt?, if_pos hdigit, kind]⟩
  | string t => rw [write]; exact ⟨_, _, rfl, rfl⟩
  | array items => rw [write]; exact ⟨_, _, rfl, rfl⟩
  | object fields => rw [write]; exact ⟨_, _, rfl, rfl⟩

theorem write_append_ne (v : Value) {c : Char} (h : kindAt? c = none) (r s : Text) :
    v.write ++ r ≠ c :: s := by
  obtain ⟨c', t, hv, hkind⟩ := v.kindAt_write
  rw [hv]
  intro heq
  obtain ⟨rfl, -⟩ := List.cons.inj heq
  rw [h] at hkind
  cases hkind

theorem kind_eq {v w : Value} {r s : Text} (h : v.write ++ r = w.write ++ s) : v.kind = w.kind := by
  obtain ⟨c, t, hv, hkind⟩ := v.kindAt_write
  obtain ⟨c', t', hw, hkind'⟩ := w.kindAt_write
  rw [hv, hw] at h
  obtain ⟨rfl, -⟩ := List.cons.inj h
  exact Option.some.inj (hkind.symm.trans hkind')

theorem bool_inj {b b' : Bool} {r s : Text} (h : Json.bool b ++ r = Json.bool b' ++ s) :
    b = b' ∧ r = s := by
  cases b <;> cases b'
  · exact ⟨rfl, List.append_cancel_left h⟩
  · cases (List.cons.inj h).1
  · cases (List.cons.inj h).1
  · exact ⟨rfl, List.append_cancel_left h⟩

theorem reads_field {p : Text × Value} (h : Reads write p.2) :
    Reads (fun q : Text × Value => Json.field q.1 q.2.write) p := by
  intro q r s hr hs heq
  simp only [Json.field, List.append_assoc] at heq
  obtain ⟨hname, hrest⟩ := string_append_inj heq
  obtain ⟨hvalue, rfl⟩ := h q.2 r s hr hs (List.cons.inj hrest).2
  exact ⟨Prod.ext hname hvalue, rfl⟩

/-- A value is told by what is written for it, and so is where its text ends. -/
theorem eq_of_write_append (v : Value) : Reads write v := by
  induction v using write.induct with
  | case1 b =>
    intro w r s hr hs h
    have hkind := kind_eq h
    cases w with
    | bool b' =>
      rw [write, write] at h
      obtain ⟨rfl, rfl⟩ := bool_inj h
      exact ⟨rfl, rfl⟩
    | number _ | string _ | array _ | object _ => cases hkind
  | case2 n =>
    intro w r s hr hs h
    have hkind := kind_eq h
    cases w with
    | number m =>
      rw [write, write] at h
      obtain ⟨rfl, rfl⟩ := Text.ofNat_append_inj hr hs h
      exact ⟨rfl, rfl⟩
    | bool _ | string _ | array _ | object _ => cases hkind
  | case3 t =>
    intro w r s hr hs h
    have hkind := kind_eq h
    cases w with
    | string t' =>
      rw [write, write] at h
      obtain ⟨rfl, rfl⟩ := string_append_inj h
      exact ⟨rfl, rfl⟩
    | bool _ | number _ | array _ | object _ => cases hkind
  | case4 items ih =>
    intro w r s hr hs h
    have hkind := kind_eq h
    cases w with
    | array items' =>
      simp only [write, Json.array, List.cons_append, List.append_assoc, List.nil_append,
        List.cons.injEq, true_and] at h
      obtain ⟨rfl, rfl⟩ := commaSeparated_close_inj (by decide) (by decide)
        (fun v => v.write_append_ne (by decide)) ih h
      exact ⟨rfl, rfl⟩
    | bool _ | number _ | string _ | object _ => cases hkind
  | case5 fields ih =>
    intro w r s hr hs h
    have hkind := kind_eq h
    cases w with
    | object fields' =>
      simp only [write, Json.object, List.map_map, Function.comp_def, List.cons_append,
        List.append_assoc, List.nil_append, List.cons.injEq, true_and] at h
      obtain ⟨rfl, rfl⟩ := commaSeparated_close_inj
        (w := fun p : Text × Value => Json.field p.1 p.2.write) (by decide) (by decide)
        (fun p r s heq => by cases (List.cons.inj heq).1) (fun p hp => reads_field (ih p hp)) h
      exact ⟨rfl, rfl⟩
    | bool _ | number _ | string _ | array _ => cases hkind

theorem write_inj {v w : Value} (h : v.write = w.write) : v = w := by
  have happend : v.write ++ [] = w.write ++ [] := by rw [h]
  exact (v.eq_of_write_append w [] [] Text.noDigit_nil Text.noDigit_nil happend).1

theorem newline_notMem_write (v : Value) : '\n' ∉ v.write := by
  induction v using write.induct with
  | case1 b =>
    rw [write]
    cases b <;> decide
  | case2 n =>
    rw [write]
    intro h
    cases Text.isDigit_of_mem_ofNat h
  | case3 t =>
    rw [write]
    exact newline_notMem_string t
  | case4 items ih =>
    simp only [write, Json.array, List.cons_append, List.mem_cons, List.mem_append, not_or]
    refine ⟨by decide, fun h => ?_, by decide⟩
    rcases mem_commaSeparated h with h | ⟨x, hx, h⟩
    · cases h
    · obtain ⟨v, hv, rfl⟩ := List.mem_map.1 hx
      exact ih v hv h
  | case5 fields ih =>
    simp only [write, Json.object, List.map_map, List.cons_append, List.mem_cons, List.mem_append, not_or]
    refine ⟨by decide, fun h => ?_, by decide⟩
    rcases mem_commaSeparated h with h | ⟨x, hx, h⟩
    · cases h
    · obtain ⟨p, hp, rfl⟩ := List.mem_map.1 hx
      simp only [Function.comp_apply, Json.field, List.mem_append, List.mem_cons] at h
      rcases h with h | h | h
      · exact newline_notMem_string _ h
      · cases h
      · exact ih p hp h

end Value
end Json
end DumpCheck
