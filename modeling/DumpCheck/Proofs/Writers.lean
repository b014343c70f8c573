import DumpCheck.Console

/-!
# Writing piece by piece

A sink with room for so many bytes takes the same bytes of a text in one piece or in many, and fails
on both or on neither. So it makes no difference how the texts of a list of actions are cut
(`Action.Cut`, `Console.play_cut`), and a report can be followed as two texts and a flush
(`Console.play_report`).
-/

namespace DumpCheck

theorem Text.utf8_append (t u : Text) : (t ++ u).utf8 = t.utf8 ++ u.utf8 :=
  List.flatMap_append

namespace Sink
variable (s : Sink) (t u : Text)

@[simp] theorem write_nil : s.write [] = s := by
  rcases s with ⟨_ | n, received⟩ <;> simp [write, Text.utf8]

@[simp] theorem fits_nil : s.fits [] = true := by
  rcases s with ⟨_ | n, received⟩ <;> simp [fits, Text.utf8]

theorem write_append : s.write (t ++ u) = (s.write t).write u := by
  rcases s with ⟨_ | n, received⟩
  · simp only [write, Text.utf8_append, List.append_assoc]
  · simp only [write, Text.utf8_append, List.length_append, List.take_append, List.append_assoc]
    rw [Nat.sub_sub]

theorem fits_append : s.fits (t ++ u) = (s.fits t && (s.write t).fits u) := by
  rcases s with ⟨_ | n, received⟩
  · rfl
  · simp only [fits, write, Text.utf8_append, List.length_append, ← Bool.decide_and, decide_eq_decide]
    omega

/-- A text that does not fit leaves no room. -/
theorem write_append_of_not_fits (h : s.fits t = false) : s.write (t ++ u) = s.write t := by
  rcases s with ⟨_ | n, received⟩
  · cases h
  · have hn : n < t.utf8.length := by simpa [fits] using h
    have hroom : n - t.utf8.length = 0 := Nat.sub_eq_zero_of_le (Nat.le_of_lt hn)
    rw [write_append]
    simp only [write, hroom, Nat.zero_sub, List.take_zero, List.append_nil]

end Sink

namespace Console
variable {c : Console}

theorem play_append (as bs : List Action) :
    c.play (as ++ bs) = match c.play as with
      | (c, .ok ()) => c.play bs
      | (c, .error e) => (c, .error e) := by
  induction as generalizing c with
  | nil => rfl
  | cons a as ih =>
    simp only [List.cons_append, play]
    rcases c.act a with ⟨c', _ | _⟩
    · rfl
    · exact ih

theorem play_singleton (a : Action) : c.play [a] = c.act a := by
  simp only [play]
  rcases c.act a with ⟨c', _ | _⟩ <;> rfl

theorem play_cons (a : Action) (as : List Action) :
    c.play (a :: as) = match c.act a with
      | (c, .ok ()) => c.play as
      | (c, .error e) => (c, .error e) :=
  rfl

theorem play_pair (a b : Action) :
    c.play [a, b] = match c.act a with
      | (c, .ok ()) => c.act b
      | (c, .error e) => (c, .error e) := by
  simp only [play_cons a, play_singleton]

theorem play_logs (rs : List Record) (as : List Action) :
    c.play (rs.map .log ++ as) = { c with log := rs.reverse ++ c.log }.play as := by
  induction rs generalizing c with
  | nil => rfl
  | cons r rs ih =>
    rw [List.map_cons, List.cons_append, List.reverse_cons, List.append_assoc]
    exact ih

/-! ### Texts in pieces -/

/-- If a text in two pieces is written as in one, it is so in any number of pieces. -/
theorem play_pieces {write : Text → Action} (hnil : ∀ c : Console, c.act (write []) = (c, .ok ()))
    (hpair : ∀ (c : Console) (t u : Text), c.play [write t, write u] = c.act (write (t ++ u)))
    (ts : List Text) : c.play (ts.map write) = c.act (write ts.flatten) := by
  induction ts generalizing c with
  | nil => exact (hnil c).symm
  | cons t ts ih =>
    rw [List.map_cons, List.flatten_cons, ← hpair, play_cons, play_cons]
    rcases c.act (write t) with ⟨c', _ | _⟩
    · rfl
    · exact ih.trans (play_singleton _).symm

theorem play_outs (ts : List Text) : c.play (ts.map .out) = c.act (.out ts.flatten) := by
  refine play_pieces (fun c => ?_) (fun c t u => ?_) ts
  · simp [act]
  · rw [play_pair]
    cases h : c.out.fits t with
    | true => simp [act, Sink.write_append, Sink.fits_append, h]
    | false => simp [act, Sink.write_append_of_not_fits, Sink.fits_append, h]

theorem play_errs (ts : List Text) : c.play (ts.map .err) = c.act (.err ts.flatten) := by
  refine play_pieces (fun c => ?_) (fun c t u => ?_) ts
  · simp [act]
  · rw [play_pair]
    cases h : c.err.fits t with
    | true => simp [act, Sink.write_append, Sink.fits_append, h]
    | false => simp [act, Sink.write_append_of_not_fits, Sink.fits_append, h]

theorem play_warns (ts : List Text) : c.play (ts.map .warn) = c.act (.warn ts.flatten) :=
  play_pieces (fun c => by simp [act]) (fun c t u => by simp [play, act, Sink.write_append]) ts

end Console

/-- The same actions, with any text among them written in pieces. -/
inductive Action.Cut : List Action → List Action → Prop
  | nil : Cut [] []
  | whole {as bs} (a : Action) (rest : Cut as bs) : Cut (a :: as) (a :: bs)
  | out {as bs} (ts : List Text) (rest : Cut as bs) : Cut (.out ts.flatten :: as) (ts.map .out ++ bs)
  | err {as bs} (ts : List Text) (rest : Cut as bs) : Cut (.err ts.flatten :: as) (ts.map .err ++ bs)
  | warn {as bs} (ts : List Text) (rest : Cut as bs) : Cut (.warn ts.flatten :: as) (ts.map .warn ++ bs)

theorem Action.Cut.refl : (as : List Action) → Cut as as
  | [] => .nil
  | a :: as => .whole a (refl as)

namespace Console
variable {c : Console}

theorem play_cut {as bs : List Action} (h : Action.Cut as bs) : c.play bs = c.play as := by
  induction h generalizing c with
  | nil => rfl
  | whole a _ ih => simp only [play_cons, ih]
  | out ts _ ih => simp only [play_append, play_outs, play_cons, ih]
  | err ts _ ih => simp only [play_append, play_errs, play_cons, ih]
  | warn ts _ ih => simp only [play_append, play_warns, play_cons, ih]

/-! ### Reports -/

/-- The error output is written to only if the output has taken all of its text. -/
theorem play_report (out err : Text) :
    c.play [.out out, .err err, .flush] =
      ({ c with out := c.out.write out, err := if c.out.fits out then c.err.write err else c.err },
        if c.out.fits out && c.err.fits err then if c.flushes then .ok () else .error .flush
        else .error .full) := by
  cases hout : c.out.fits out with
  | false => simp [play, act, hout]
  | true => cases herr : c.err.fits err <;> cases hflush : c.flushes <;> simp [play, act, hout, herr, hflush]

end Console
end DumpCheck
