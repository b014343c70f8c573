import DumpCheck.Proofs.OneLine
import Mathlib.Data.List.TakeWhile

/-!
# The lines of a text

Every text is lines, each with a line feed behind it, and a last line without one, which may be empty
(`Text.by_lines`). Reading takes one line off the front of a text after the other and takes the last one
only if it is not empty (`Lines.toList_parse_line`, `Lines.toList_parse_last`). So what is true of all
lines that are read, and of how many they are, is proved by induction over the lines of the text.
`Lines.parse_line_by_line` puts it together: writing is undone by reading, texts are read piece by piece
where a piece ends with a line, and blanks around the content of the lines are of no account, unless they
make a last line out of nothing.
-/

namespace DumpCheck

namespace Text

variable {l t u : Text}

/-- Behind the last line feed there is nothing. -/
def Terminated (t : Text) : Prop :=
  t = [] ∨ t.getLast? = some '\n'

instance (t : Text) : Decidable t.Terminated :=
  inferInstanceAs (Decidable (t = [] ∨ t.getLast? = some '\n'))

/-- A line with further blanks before and after its content. -/
inductive LinePadded : Text → Text → Prop
  | intro {before after before' after' : Text} (content : Text) (hcontent : content.OneLine)
      (hbefore : before.Sublist before') (hafter : after.Sublist after')
      (hblank : ∀ c ∈ before' ++ after', isBlank c ∧ c ≠ '\n') :
      LinePadded (before ++ content ++ after) (before' ++ content ++ after')

/-- A text with further blanks before and after the content of its lines. -/
inductive Padded : Text → Text → Prop
  | last {l l' : Text} (h : LinePadded l l') : Padded l l'
  | line {l l' t t' : Text} (h : LinePadded l l') (hrest : Padded t t') :
      Padded (l ++ '\n' :: t) (l' ++ '\n' :: t')

/-- The text with a carriage return before every line feed. -/
def withReturns (t : Text) : Text :=
  t.flatMap fun c => if c = '\n' then ['\r', '\n'] else [c]

/-! ### A text, line by line -/

@[elab_as_elim]
theorem by_lines {motive : Text → Prop} (last : ∀ l : Text, l.OneLine → motive l)
    (line : ∀ l t : Text, l.OneLine → motive t → motive (l ++ '\n' :: t)) (t : Text) : motive t := by
  -- the line that is under way is carried along in front of what is left of the text
  suffices h : ∀ l : Text, l.OneLine → motive (l ++ t) from h [] oneLine_nil
  induction t with
  | nil =>
    intro l hl
    rw [List.append_nil]
    exact last l hl
  | cons c t ih =>
    intro l hl
    by_cases hc : c = '\n'
    · rw [hc]
      exact line l t hl (ih [] oneLine_nil)
    · have hmore : OneLine (l ++ [c]) := hl.append fun hmem => hc (List.mem_singleton.1 hmem).symm
      rw [List.append_cons]
      exact ih _ hmore

theorem terminated_append_line (l t : Text) : Terminated (l ++ '\n' :: t) ↔ t.Terminated := by
  have hne : l ++ '\n' :: t ≠ [] := List.append_ne_nil_of_right_ne_nil _ (List.cons_ne_nil _ _)
  rw [Terminated, or_iff_right hne, List.getLast?_append_of_ne_nil _ (List.cons_ne_nil _ _)]
  cases t with
  | nil => exact iff_of_true rfl (.inl rfl)
  | cons c t => rw [List.getLast?_cons_cons, Terminated, or_iff_right (List.cons_ne_nil _ _)]

theorem OneLine.terminated_iff (hl : l.OneLine) : l.Terminated ↔ l = [] :=
  or_iff_left fun hlast => hl (List.mem_of_getLast? hlast)

theorem terminated_flatMap_line (ls : List Text) : Terminated (ls.flatMap line) := by
  induction ls with
  | nil => exact .inl rfl
  | cons l ls ih =>
    rw [List.flatMap_cons, line, List.append_assoc, List.singleton_append, terminated_append_line]
    exact ih

/-! ### Blanks around a line -/

theorem trimStart_append_of_blank (h : ∀ c ∈ t, isBlank c) (u : Text) :
    trimStart (t ++ u) = u.trimStart :=
  List.dropWhile_append_of_pos h

theorem trimEnd_append_of_blank (h : ∀ c ∈ u, isBlank c) (t : Text) : trimEnd (t ++ u) = t.trimEnd := by
  rw [trimEnd_eq, trimEnd_eq, List.reverse_append,
    trimStart_append_of_blank fun c hc => h c (List.mem_reverse.1 hc)]

theorem trim_append_of_blank (h : ∀ c ∈ u, isBlank c) (t : Text) : trim (t ++ u) = t.trim := by
  have hu : u.dropWhile isBlank = [] := List.dropWhile_eq_nil_iff.2 h
  rw [trim, trimStart, List.dropWhile_append, hu]
  split
  · next ht => rw [trim, trimStart, List.isEmpty_iff.1 ht]
  · exact trimEnd_append_of_blank h _

namespace LinePadded
variable {l' : Text}

theorem refl (hl : l.OneLine) : LinePadded l l := by
  have h := intro l hl (.refl []) (.refl []) fun c hc => absurd hc List.not_mem_nil
  rwa [List.nil_append, List.append_nil] at h

theorem append_return (hl : l.OneLine) : LinePadded l (l ++ ['\r']) := by
  have h := @intro [] [] [] ['\r'] l hl (.refl []) (List.nil_sublist _) (List.forall_mem_singleton.2 (by decide))
  rwa [List.nil_append, List.append_nil] at h

theorem oneLine (h : LinePadded l l') : l.OneLine ∧ l'.OneLine := by
  obtain @⟨before, after, before', after', content, hcontent, hbefore, hafter, hblank⟩ := h
  have hbefore' : before'.OneLine := fun hmem => (hblank _ (List.mem_append_left _ hmem)).2 rfl
  have hafter' : after'.OneLine := fun hmem => (hblank _ (List.mem_append_right _ hmem)).2 rfl
  exact ⟨((hbefore'.subset hbefore.subset).append hcontent).append (hafter'.subset hafter.subset),
    (hbefore'.append hcontent).append hafter'⟩

theorem trim_eq (h : LinePadded l l') : l'.trim = l.trim := by
  obtain @⟨before, after, before', after', content, -, hbefore, hafter, hblank⟩ := h
  -- both lines have nothing but blanks around the content
  have hcontent : ∀ x y : Text, x.Sublist before' → y.Sublist after' →
      trim (x ++ content ++ y) = content.trim := by
    intro x y hx hy
    have hleft : ∀ c ∈ x, isBlank c := fun c hc => (hblank c (List.mem_append_left _ (hx.mem hc))).1
    have hright : ∀ c ∈ y, isBlank c := fun c hc => (hblank c (List.mem_append_right _ (hy.mem hc))).1
    rw [trim_append_of_blank hright, trim, trimStart_append_of_blank hleft, trim]
  rw [hcontent _ _ (.refl _) (.refl _), hcontent _ _ hbefore hafter]

theorem eq_nil (h : LinePadded l l') (hl' : l' = []) : l = [] := by
  obtain ⟨content, -, hbefore, hafter, -⟩ := h
  obtain ⟨hfront, rfl⟩ := List.append_eq_nil_iff.1 hl'
  obtain ⟨rfl, rfl⟩ := List.append_eq_nil_iff.1 hfront
  rw [List.sublist_nil.1 hbefore, List.sublist_nil.1 hafter]
  rfl

end LinePadded

/-! ### Carriage returns -/

theorem OneLine.withReturns (hl : l.OneLine) : l.withReturns = l := by
  have hpoint : ∀ c ∈ l, (if c = '\n' then ['\r', '\n'] else [c]) = [c] := by
    intro c hc
    have hne : c ≠ '\n' := fun hfeed => hl (hfeed ▸ hc)
    rw [if_neg hne]
  rw [Text.withReturns, List.flatMap_congr hpoint]
  exact List.flatMap_singleton' l

theorem withReturns_append_line (hl : l.OneLine) (t : Text) :
    withReturns (l ++ '\n' :: t) = (l ++ ['\r']) ++ '\n' :: t.withReturns := by
  rw [withReturns, List.flatMap_append, List.flatMap_cons, List.append_assoc]
  exact congrArg (· ++ _) hl.withReturns

theorem padded_withReturns (t : Text) : t.Padded t.withReturns := by
  induction t using by_lines with
  | last l hl =>
    rw [hl.withReturns]
    exact .last (.refl hl)
  | line l t hl ih =>
    rw [withReturns_append_line hl]
    exact .line (.append_return hl) ih

theorem terminated_withReturns (t : Text) : t.withReturns.Terminated ↔ t.Terminated := by
  induction t using by_lines with
  | last l hl => rw [hl.withReturns]
  | line l t hl ih => rw [withReturns_append_line hl, terminated_append_line, terminated_append_line, ih]

end Text

/-! ### Reading -/

namespace Lines

variable {l t u : Text}

theorem toList_parse_line (hl : l.OneLine) (t : Text) :
    (parse (l ++ '\n' :: t)).toList = l.trim :: (parse t).toList := by
  rw [parse, toList_ofList, pieces_append_line hl]
  rfl

theorem toList_parse_last (hl : l.OneLine) : (parse l).toList = if l = [] then [] else [l.trim] := by
  rw [parse, toList_ofList, pieces]
  simp only [List.splitOn_eq_singleton hl]
  by_cases hnil : l = []
  · rw [hnil]
    rfl
  · simp [hnil]

theorem parse_flatMap_line {ls : List Text} (h : ∀ l ∈ ls, l.OneLine) : parse (ls.flatMap Text.line) = ofList ls := by
  rw [parse, pieces_flatMap_line h]

theorem parse_render_parse (t : Text) : parse (parse t).render = parse t := by
  rw [render, parse_flatMap_line fun l hl => oneLine_of_mem_parse hl, ofList_toList]

theorem parse_append (h : t.Terminated) (u : Text) : parse (t ++ u) = parse t ++ parse u := by
  induction t using Text.by_lines with
  | last l hl =>
    rw [hl.terminated_iff.1 h]
    rfl
  | line l t hl ih =>
    apply ext
    rw [List.append_assoc, List.cons_append, toList_parse_line hl, ih ((Text.terminated_append_line l t).1 h),
      toList_append, toList_append, toList_parse_line hl, List.cons_append]

theorem size_parse (t : Text) : (parse t).size = t.count '\n' + if t.Terminated then 0 else 1 := by
  induction t using Text.by_lines with
  | last l hl =>
    rw [size, toList_parse_last hl, List.count_eq_zero.2 hl]
    simp only [hl.terminated_iff]
    split <;> rfl
  | line l t hl ih =>
    rw [size, toList_parse_line hl, List.length_cons, ← size, ih, List.count_append, List.count_cons_self,
      List.count_eq_zero.2 hl]
    simp only [Text.terminated_append_line]
    omega

/-- Without the last line feed, the lines are still the same, unless the last one is empty. -/
theorem parse_dropLast {ls : List Text} (h : ∀ l ∈ ls, l.OneLine) (hlast : ∀ l ∈ ls.getLast?, l ≠ []) :
    parse (ls.flatMap Text.line).dropLast = ofList ls := by
  rcases List.eq_nil_or_concat' ls with rfl | ⟨front, l, rfl⟩
  · rfl
  rw [List.forall_mem_append, List.forall_mem_singleton] at h
  have hne : l ≠ [] := hlast l List.getLast?_concat
  have hdrop : ((front ++ [l]).flatMap Text.line).dropLast = front.flatMap Text.line ++ l := by
    rw [List.flatMap_append, List.flatMap_singleton, Text.line, ← List.append_assoc, List.dropLast_concat]
  apply ext
  rw [hdrop, parse_append (Text.terminated_flatMap_line front), parse_flatMap_line h.1, toList_append,
    toList_parse_last h.2, if_neg hne, toList_ofList, toList_ofList, List.map_append]
  rfl

theorem parse_padded (h : t.Padded u) : parse u = parse t ↔ (t.Terminated → u.Terminated) := by
  induction h with
  | @last l l' h =>
    obtain ⟨hl, hl'⟩ := h.oneLine
    rw [hl.terminated_iff, hl'.terminated_iff, Lines.ext_iff, toList_parse_last hl, toList_parse_last hl', h.trim_eq]
    by_cases hnil' : l' = []
    · rw [if_pos hnil', if_pos (h.eq_nil hnil')]
      exact iff_of_true rfl fun _ => hnil'
    · by_cases hnil : l = [] <;> simp [hnil, hnil']
  | @line l l' t t' h _ ih =>
    obtain ⟨hl, hl'⟩ := h.oneLine
    rw [Text.terminated_append_line, Text.terminated_append_line, ← ih, Lines.ext_iff, Lines.ext_iff,
      toList_parse_line hl, toList_parse_line hl', h.trim_eq, List.cons_inj_right]

/-- Lines that are written one after the other are read back trimmed, and the last line feed may be
missing behind a last line that is not empty. Of any text, each line holds what stands in front of its line
feed, without the blanks at either end, and so does what stands behind the last line feed. There are as many
lines as line feeds and one more if something stands behind the last of them, and reading what they are
written as changes nothing. A text is read in two parts if the first one ends with a line. Further blanks
around the content of lines, as the carriage returns before the line feeds, change nothing that is read,
unless they open a last line. -/
theorem parse_line_by_line :
    (∀ ls : List Text, (∀ l ∈ ls, l.OneLine) →
      parse (ls.flatMap Text.line) = ofList ls ∧
      ((∀ l ∈ ls.getLast?, l ≠ []) → parse (ls.flatMap Text.line).dropLast = ofList ls)) ∧
    ∀ t : Text,
      (∀ l : Text, l.OneLine → (parse (l ++ '\n' :: t)).toList = l.trim :: (parse t).toList) ∧
      (t.OneLine → (parse t).toList = if t = [] then [] else [t.trim]) ∧
      (∀ l ∈ (parse t).toList, l.OneLine ∧ l.trim = l) ∧
      (parse t).size = t.count '\n' + (if t.Terminated then 0 else 1) ∧
      parse (parse t).render = parse t ∧
      (t.Terminated → ∀ u, parse (t ++ u) = parse t ++ parse u) ∧
      (∀ u, t.Padded u → (parse u = parse t ↔ (t.Terminated → u.Terminated))) ∧
      parse t.withReturns = parse t := by
  refine ⟨fun ls h => ⟨parse_flatMap_line h, parse_dropLast h⟩, fun t => ⟨fun l hl => toList_parse_line hl t,
    toList_parse_last, fun l hl => ?_, size_parse t, parse_render_parse t, parse_append, fun u => parse_padded, ?_⟩⟩
  · exact ⟨oneLine_of_mem_parse hl, (parse t).trimmed l hl⟩
  · exact (parse_padded (Text.padded_withReturns t)).2 (Text.terminated_withReturns t).2

/-- An empty line at the end is a line too, and blanks in it do not matter. -/
theorem parse_line_by_line_of_blank_line :
    let ls : List Text := [[' ', 'h', '\t'], [], ['\r', '-']]
    let t : Text := [' ', 'h', '\t', '\n', '\n']
    let u : Text := ['\x0b', ' ', 'h', '\t', '\u2028', '\n', '\r', '\n']
    (∀ l ∈ ls, l.OneLine) ∧ parse (t ++ ['\r', '-', '\n']) = ofList ls ∧
      parse (t ++ ['\r', '-']) = ofList ls ∧ (parse (t ++ ['\r', '-'])).toList = [['h'], [], ['-']] ∧
      t.Terminated ∧
      parse (t ++ ['\r', '-']) = parse t ++ parse ['\r', '-'] ∧ t.Padded u ∧ u.Terminated ∧ parse u = parse t := by
  intro ls t u
  have hls : ∀ l ∈ ls, l.OneLine := by decide
  have ht : t.Terminated := .inr rfl
  have hu : u.Terminated := .inr rfl
  have hblank : ∀ c ∈ ['\x0b', ' ', '\t', '\u2028'], Text.isBlank c ∧ c ≠ '\n' := by
    simp only [List.mem_cons, List.not_mem_nil, or_false]
    rintro c (rfl | rfl | rfl | rfl) <;> decide
  have hfirst : Text.LinePadded [' ', 'h', '\t'] ['\x0b', ' ', 'h', '\t', '\u2028'] :=
    @Text.LinePadded.intro [' '] ['\t'] ['\x0b', ' '] ['\t', '\u2028'] ['h'] (by decide) (by decide) (by decide)
      hblank
  have hsecond : Text.LinePadded [] ['\r'] := .append_return Text.oneLine_nil
  have hpadded : t.Padded u := .line hfirst (.line hsecond (.last (.refl Text.oneLine_nil)))
  obtain ⟨hwritten, hread⟩ := parse_line_by_line
  obtain ⟨hall, hshort⟩ := hwritten ls hls
  obtain ⟨-, -, -, -, -, happend, hblanks, -⟩ := hread t
  -- the three lines, one after the other
  have hvalue : (parse (t ++ ['\r', '-'])).toList = [['h'], [], ['-']] := by
    refine ((hread ['\n', '\r', '-']).1 [' ', 'h', '\t'] (by decide)).trans (congrArg (_ :: ·) ?_)
    refine ((hread ['\r', '-']).1 [] (by decide)).trans (congrArg (_ :: ·) ?_)
    exact (hread ['\r', '-']).2.1 (by decide)
  exact ⟨hls, hall, hshort (by decide), hvalue, ht, happend ht _, hpadded, hu, (hblanks u hpadded).2 fun _ => hu⟩

end Lines
end DumpCheck
