import DumpCheck.Options
import Mathlib.Data.List.Basic
import Mathlib.Data.List.Infix

/-!
# What the words of a command line give

An option has its value from a word of its own, `--name=value`, or from two words, `--name value`
(`ValueOption.Gives`). The command that was read of some words holds these values and no others:
`Command.Follows` says so of the words read so far, every word keeps it (`Command.Follows.word`), and so
the options of an accepted line are those that its words give, or else those of the environment
(`Options.parse_eq_ok`).
-/

namespace DumpCheck

theorem bind_eq_ok {ε α β : Type} {x : Except ε α} {f : α → Except ε β} {b : β} :
    (x >>= f) = .ok b ↔ ∃ a, x = .ok a ∧ f a = .ok b := by
  cases x with
  | error e => exact ⟨nofun, nofun⟩
  | ok a => exact ⟨fun h => ⟨a, rfl, h⟩, by rintro ⟨_, ⟨⟩, h⟩; exact h⟩

namespace ValueOption

def word (o : ValueOption) : Text :=
  '-' :: '-' :: o.name

def Gives (words : List Text) (o : ValueOption) (v : Text) : Prop :=
  o.word ++ '=' :: v ∈ words ∨ [o.word, v] <:+: words

variable {o o' : ValueOption} {v v' w : Text} {ws : List Text}

theorem name_inj (h : o.name = o'.name) : o = o' := by
  revert h
  cases o <;> cases o' <;> decide

theorem word_inj (h : o.word = o'.word) : o = o' := by
  obtain ⟨-, hdash⟩ := List.cons.inj h
  obtain ⟨-, hname⟩ := List.cons.inj hdash
  exact name_inj hname

theorem equals_notMem_word (o : ValueOption) : '=' ∉ o.word := by
  cases o <;> decide

theorem word_ne_assigned (o o' : ValueOption) (v : Text) : o.word ≠ o'.word ++ '=' :: v := by
  intro h
  exact equals_notMem_word o (h ▸ List.mem_append_right _ (List.mem_cons_self ..))

theorem assigned_inj (h : o.word ++ '=' :: v = o'.word ++ '=' :: v') : o = o' ∧ v = v' := by
  have hname := congrArg (List.takeWhile (· ≠ '=')) h
  have htake (p : ValueOption) (u : Text) : (p.word ++ '=' :: u).takeWhile (· ≠ '=') = p.word := by
    rw [List.takeWhile_append_of_pos]
    · simp
    · intro c hc
      have hne : c ≠ '=' := fun heq => equals_notMem_word p (heq ▸ hc)
      simpa using hne
  rw [htake, htake] at hname
  obtain rfl := word_inj hname
  exact ⟨rfl, (List.cons.inj (List.append_cancel_left h)).2⟩

theorem pair_suffix_concat_iff {a : Text} : [a, v] <:+ ws ++ [w] ↔ ws.getLast? = some a ∧ w = v := by
  constructor
  · rintro ⟨t, ht⟩
    have hsplit : (t ++ [a]) ++ [v] = ws ++ [w] := by simpa using ht
    obtain ⟨rfl, hv⟩ := List.append_inj' hsplit rfl
    exact ⟨List.getLast?_concat .., (List.cons.inj hv).1.symm⟩
  · rintro ⟨hlast, rfl⟩
    obtain ⟨t, rfl⟩ := List.getLast?_eq_some_iff.1 hlast
    exact ⟨t, by simp⟩

/-- One more word gives one more value, or is the value of the option before it. -/
theorem gives_concat : Gives (ws ++ [w]) o v ↔
    Gives ws o v ∨ w = o.word ++ '=' :: v ∨ (ws.getLast? = some o.word ∧ w = v) := by
  rw [Gives, Gives, List.mem_append, List.mem_singleton, List.infix_concat_iff, pair_suffix_concat_iff,
    eq_comm (a := w)]
  tauto

def Unnamed (w : Text) : Prop :=
  ∀ o : ValueOption, ¬ o.word <+: w

theorem unnamed_of_not_dashes (h : ¬ ['-', '-'] <+: w) : Unnamed w :=
  fun o ho => h (List.IsPrefix.trans (List.prefix_append ['-', '-'] o.name) ho)

theorem unnamed_dashes : Unnamed ['-', '-'] := by
  intro o
  cases o <;> decide

theorem unnamed_flag (f : Flag) : Unnamed ('-' :: '-' :: f.name) := by
  intro o
  cases f <;> cases o <;> decide

theorem Unnamed.ne_assigned (h : Unnamed w) (o : ValueOption) (v : Text) : w ≠ o.word ++ '=' :: v := by
  rintro rfl
  exact h o (List.prefix_append ..)

theorem Unnamed.ne_word (h : Unnamed w) (o : ValueOption) : w ≠ o.word := by
  rintro rfl
  exact h o (List.prefix_refl _)

end ValueOption

namespace Command

open ValueOption (Gives Unnamed)

variable {c c₁ c' : Command} {o : ValueOption} {v w : Text} {ws : List Text}

/-! ### What one word does -/

theorem value?_give (h : c.give o v = .ok c') :
    c'.pending = c.pending ∧ ∀ o' v', c'.value? o' = some v' ↔ c.value? o' = some v' ∨ (o' = o ∧ v' = v) := by
  unfold give at h
  split_ifs at h with hsome haccepts
  cases h
  refine ⟨rfl, fun o' v' => ?_⟩
  have hnone : c.values.lookup o = none := Option.not_isSome_iff_eq_none.1 hsome
  rw [value?, value?, List.lookup_append]
  by_cases ho : o' = o
  · subst ho
    simp [hnone, eq_comm]
  · have hbeq : (o' == o) = false := beq_false_of_ne ho
    simp [List.lookup_cons, hbeq, ho]

theorem value?_settle (h : c.settle = .ok c') :
    c'.pending = none ∧ (∀ o, c.pending ≠ some (o, none)) ∧
      ∀ o v, c'.value? o = some v ↔ c.value? o = some v ∨ c.pending = some (o, some v) := by
  unfold settle at h
  split at h
  · next hpending =>
    cases h
    simp [hpending]
  · cases h
  · next o' v' hpending =>
    obtain ⟨hnone, hvalue⟩ := value?_give h
    refine ⟨hnone, by simp [hpending], fun o v => ?_⟩
    rw [hvalue, hpending]
    simp [value?, eq_comm]

/-- What an accepted word does to a command that is not closed. -/
inductive Effect (c : Command) : (w : Text) → (c' : Command) → Prop
  /-- A double dash ends the options. -/
  | shut : Effect c ['-', '-'] { c with closed := true }
  /-- The word is the value that the latest option waits for. -/
  | supply (o : ValueOption) {w : Text} (hpending : c.pending = some (o, none)) (hw : Unnamed w) :
    Effect c w { c with pending := some (o, some w) }
  /-- An option waits for its value. -/
  | wait {c₁ : Command} (o : ValueOption) (hsettle : c.settle = .ok c₁) :
    Effect c o.word { c₁ with pending := some (o, none) }
  /-- An option comes with its value. -/
  | assign {c₁ c' : Command} (o : ValueOption) (v : Text) (hsettle : c.settle = .ok c₁)
    (hgive : c₁.give o v = .ok c') : Effect c (o.word ++ '=' :: v) c'
  | flag {c₁ : Command} {w : Text} (hsettle : c.settle = .ok c₁) (hw : Unnamed w) :
    Effect c w { c₁ with verbose := true }

theorem raise_eq_ok {long : Bool} {f : Flag} (h : c.raise long f = .ok c') :
    ∃ c₁, c.settle = .ok c₁ ∧ c' = { c₁ with verbose := true } := by
  obtain ⟨c₁, hsettle, hrest⟩ := bind_eq_ok.1 h
  cases f with
  | verbose =>
    simp only at hrest
    split at hrest
    · cases hrest
    · cases hrest
      exact ⟨c₁, hsettle, rfl⟩
  | help => cases hrest
  | version => cases hrest

theorem settle_of_pending_none (h : c.pending = none) : c.settle = .ok c := by
  rw [settle, h]

theorem letters_eq_ok {l : Char} {t : Text} (h : c.letters (l :: t) = .ok c') :
    ∃ c₁, c.settle = .ok c₁ ∧ c' = { c₁ with verbose := true } := by
  induction t generalizing c l with
  | nil =>
    unfold letters at h
    split at h
    · obtain ⟨c₂, hraise, hrest⟩ := bind_eq_ok.1 h
      cases hrest
      exact raise_eq_ok hraise
    · cases h
  | cons l' t ih =>
    unfold letters at h
    split at h
    · -- the first letter has judged the latest option, so the next one finds none
      obtain ⟨c₂, hraise, hrest⟩ := bind_eq_ok.1 h
      obtain ⟨c₁, hsettle, rfl⟩ := raise_eq_ok hraise
      have hpending : c₁.pending = none := (value?_settle hsettle).1
      obtain ⟨c₃, hsettle', rfl⟩ := ih hrest
      rw [settle_of_pending_none (c := { c₁ with verbose := true }) hpending] at hsettle'
      cases hsettle'
      exact ⟨c₁, hsettle, rfl⟩
    · cases h

theorem long_eq_ok {t : Text} (h : c.long t = .ok c') : Effect c ('-' :: '-' :: t) c' := by
  unfold long at h
  simp only at h
  have hsplit := List.takeWhile_append_dropWhile (p := (· ≠ '=')) (l := t)
  split at h
  · next o hfind =>
    have hname : o.name = t.takeWhile (· ≠ '=') := by simpa using List.find?_some hfind
    obtain ⟨c₁, hsettle, hrest⟩ := bind_eq_ok.1 h
    cases hdrop : t.dropWhile (· ≠ '=') with
    | nil =>
      rw [hdrop] at hrest hsplit
      cases hrest
      rw [← hsplit, List.append_nil, ← hname]
      exact .wait o hsettle
    | cons a v =>
      have ha : a = '=' := by
        have hhead := List.head?_dropWhile_not (· ≠ '=') t
        rw [hdrop] at hhead
        simpa using hhead
      rw [hdrop] at hrest hsplit
      rw [← hsplit, ← hname, ha]
      exact .assign o v hsettle hrest
  · next f hfind hflag =>
    split_ifs at h with hattached
    have hname : f.name = t.takeWhile (· ≠ '=') := by simpa using List.find?_some hflag
    obtain ⟨c₁, hsettle, rfl⟩ := raise_eq_ok h
    have hdrop : t.dropWhile (· ≠ '=') = [] := by
      cases hd : t.dropWhile (· ≠ '=') with
      | nil => rfl
      | cons a v =>
        rw [hd] at hattached
        exact (hattached rfl).elim
    rw [← hsplit, hdrop, List.append_nil, ← hname]
    exact .flag hsettle (ValueOption.unnamed_flag f)
  · cases h

theorem plain_eq_ok (h : c.plain w = .ok c') :
    c.closed = false ∧ ∃ o, c.pending = some (o, none) ∧ c' = { c with pending := some (o, some w) } := by
  unfold plain at h
  split at h
  · next o hpending =>
    split_ifs at h with hclosed
    cases h
    exact ⟨by simpa using hclosed, o, hpending, rfl⟩
  · cases h

theorem effect_of_word (h : c.word w = .ok c') : c.closed = false ∧ Effect c w c' := by
  unfold word at h
  split_ifs at h with hclosed
  · obtain ⟨hopen, -⟩ := plain_eq_ok h
    rw [hclosed] at hopen
    cases hopen
  refine ⟨by simpa using hclosed, ?_⟩
  split at h
  · cases h
    exact .shut
  · exact long_eq_ok h
  · next l rest hdashes hlong =>
    -- a single dash
    obtain ⟨c₁, hsettle, rfl⟩ := letters_eq_ok h
    refine .flag hsettle (ValueOption.unnamed_of_not_dashes fun hprefix => ?_)
    exact hlong (List.cons_prefix_cons.1 (List.cons_prefix_cons.1 hprefix).2).1.symm
  · next hdashes hlong hshort =>
    obtain ⟨-, o, hpending, rfl⟩ := plain_eq_ok h
    refine .supply o hpending (ValueOption.unnamed_of_not_dashes fun hprefix => ?_)
    obtain ⟨t, ht⟩ := hprefix
    exact hlong t ht.symm

/-! ### Runs -/

/-- The command holds what the words give, with the value of the latest option still to be judged. -/
structure Follows (ws : List Text) (c : Command) : Prop where
  values : ∀ o v, Gives ws o v ↔ c.value? o = some v ∨ c.pending = some (o, some v)
  waiting : c.closed = false → ∀ o, ws.getLast? = some o.word ↔ c.pending = some (o, none)

/-- An option waits for a value, and no word can be one any more. -/
def Stuck (c : Command) : Prop :=
  c.closed = true ∧ ∃ o, c.pending = some (o, none)

theorem Follows.gives_concat (h : Follows ws c) (hopen : c.closed = false) :
    Gives (ws ++ [w]) o v ↔ (c.value? o = some v ∨ c.pending = some (o, some v)) ∨
      w = o.word ++ '=' :: v ∨ (c.pending = some (o, none) ∧ w = v) := by
  rw [ValueOption.gives_concat, h.values, h.waiting hopen]

/-- A word before which the latest option is judged is not its value. -/
theorem Follows.gives_concat_of_settle (h : Follows ws c) (hopen : c.closed = false) (hsettle : c.settle = .ok c₁) :
    Gives (ws ++ [w]) o v ↔ c₁.value? o = some v ∨ w = o.word ++ '=' :: v := by
  obtain ⟨-, hpending, hvalues⟩ := value?_settle hsettle
  rw [h.gives_concat hopen, hvalues]
  simp [hpending o]

/-- One word keeps it, unless it closes the command too early. -/
theorem Follows.word (h : Follows ws c) (hword : c.word w = .ok c') : Stuck c' ∨ Follows (ws ++ [w]) c' := by
  obtain ⟨hopen, heffect⟩ := effect_of_word hword
  cases heffect with
  | shut =>
    by_cases hwaits : ∃ o, c.pending = some (o, none)
    · exact .inl ⟨rfl, hwaits⟩
    · rw [not_exists] at hwaits
      refine .inr ⟨fun o v => ?_, nofun⟩
      rw [h.gives_concat hopen]
      simp [hwaits o, ValueOption.unnamed_dashes.ne_assigned o v, value?]
  | supply o hpending hw =>
    refine .inr ⟨fun o' v' => ?_, fun _ o' => ?_⟩
    · rw [h.gives_concat hopen]
      simp [hpending, hw.ne_assigned o' v', value?]
    · simp [hw.ne_word o']
  | @wait c₁ o hsettle =>
    refine .inr ⟨fun o' v' => ?_, fun _ o' => ?_⟩
    · rw [h.gives_concat_of_settle hopen hsettle]
      simp [ValueOption.word_ne_assigned o o' v', value?]
    · rw [List.getLast?_concat]
      simp only [Option.some.injEq, Prod.mk.injEq, and_true]
      exact ⟨ValueOption.word_inj, congrArg ValueOption.word⟩
  | assign o v hsettle hgive =>
    obtain ⟨hpending, hvalue⟩ := value?_give hgive
    have hnone : c'.pending = none := hpending.trans (value?_settle hsettle).1
    refine .inr ⟨fun o' v' => ?_, fun _ o' => ?_⟩
    · rw [h.gives_concat_of_settle hopen hsettle, hvalue, hnone]
      have hassigned : o.word ++ '=' :: v = o'.word ++ '=' :: v' ↔ o' = o ∧ v' = v :=
        ⟨fun heq => (ValueOption.assigned_inj heq).imp Eq.symm Eq.symm, by rintro ⟨rfl, rfl⟩; rfl⟩
      simp [hassigned]
    · simp [hnone, (ValueOption.word_ne_assigned o' o v).symm]
  | flag hsettle hw =>
    obtain ⟨hnone, -, -⟩ := value?_settle hsettle
    refine .inr ⟨fun o' v' => ?_, fun _ o' => ?_⟩
    · rw [h.gives_concat_of_settle hopen hsettle]
      simp [hnone, hw.ne_assigned o' v', value?]
    · simp [hnone, hw.ne_word o']

theorem Follows.run {rest : List Text} (h : Follows ws c) (hrun : rest.foldlM Command.word c = .ok c') :
    Stuck c' ∨ Follows (ws ++ rest) c' := by
  induction rest generalizing ws c with
  | nil =>
    cases hrun
    rw [List.append_nil]
    exact .inr h
  | cons w rest ih =>
    rw [List.foldlM_cons] at hrun
    obtain ⟨c₁, hword, hrest⟩ := bind_eq_ok.1 hrun
    rcases h.word hword with hstuck | hnext
    · -- a closed command takes no more words
      cases rest with
      | nil =>
        cases hrest
        exact .inl hstuck
      | cons w' rest =>
        rw [List.foldlM_cons] at hrest
        obtain ⟨c₂, hword', -⟩ := bind_eq_ok.1 hrest
        have hopen := (effect_of_word hword').1
        rw [hstuck.1] at hopen
        cases hopen
    · rw [List.append_cons]
      exact ih hnext hrest

variable {environment : Environment}

end Command

end DumpCheck
