/-!
# Tables with sorted keys

A table holds its entries in strictly ascending order of their keys, so two tables with the same
entries are equal and are listed in the same order, however they were filled.

* `get?_insert`: what is found after an entry is put in.
-/

namespace TransportGen

variable {κ : Type} {α : Type}

/-! ## Keys -/

/-- Keys in a linear order. -/
class LinearKey (κ : Type) [LT κ] : Prop where
  irrefl : ∀ a : κ, ¬ a < a
  trans : ∀ {a b c : κ}, a < b → b < c → a < c
  /-- Of two different keys one comes first. -/
  connected : ∀ {a b : κ}, ¬ a < b → ¬ b < a → a = b

theorem LinearKey.of_isLinearOrder [LT κ] [LE κ] [Std.IsLinearOrder κ] [Std.LawfulOrderLT κ] :
    LinearKey κ where
  irrefl _ := Std.lt_irrefl
  trans := Std.lt_trans
  connected hab hba := Std.le_antisymm (Std.not_lt.1 hba) (Std.not_lt.1 hab)

instance : LinearKey String := .of_isLinearOrder

instance : LinearKey (List String) := .of_isLinearOrder

/-! ## Entries in order -/

/-- Puts an entry into a list of entries in ascending order, in the place of one with its key. -/
def insertSorted [LT κ] [DecidableLT κ] (key : κ) (value : α) : List (κ × α) → List (κ × α)
  | [] => [(key, value)]
  | entry :: rest =>
    if key < entry.1 then (key, value) :: entry :: rest
    else if entry.1 < key then entry :: insertSorted key value rest
    else (key, value) :: rest

/-- Strictly ascending keys. -/
def Ascending [LT κ] (entries : List (κ × α)) : Prop :=
  entries.Pairwise fun a b => a.1 < b.1

section Order

variable [LT κ] [DecidableLT κ]

theorem mem_insertSorted {key : κ} {value : α} {entries : List (κ × α)} {x : κ × α}
    (h : x ∈ insertSorted key value entries) : x = (key, value) ∨ x ∈ entries := by
  induction entries with
  | nil => simpa [insertSorted] using h
  | cons entry rest ih =>
    simp only [insertSorted] at h
    split at h
    · simpa using h
    · split at h
      · rcases List.mem_cons.1 h with h | h
        · simp [h]
        · rcases ih h with h | h <;> simp [h]
      · rcases List.mem_cons.1 h with h | h <;> simp [h]

theorem Ascending.insertSorted [LinearKey κ] {key : κ} {value : α} {entries : List (κ × α)}
    (h : Ascending entries) : Ascending (insertSorted key value entries) := by
  induction entries with
  | nil => simp [TransportGen.insertSorted, Ascending]
  | cons entry rest ih =>
    obtain ⟨hhead, htail⟩ := List.pairwise_cons.1 h
    simp only [TransportGen.insertSorted]
    split
    · rename_i hlt
      refine List.pairwise_cons.2 ⟨fun x hx => ?_, h⟩
      rcases List.mem_cons.1 hx with rfl | hx
      · exact hlt
      · exact LinearKey.trans hlt (hhead x hx)
    · split
      · rename_i hlt
        refine List.pairwise_cons.2 ⟨fun x hx => ?_, ih htail⟩
        rcases mem_insertSorted hx with rfl | hx
        · exact hlt
        · exact hhead x hx
      · rename_i h₁ h₂
        have hkey : key = entry.1 := LinearKey.connected h₁ h₂
        exact List.pairwise_cons.2 ⟨fun x hx => hkey ▸ hhead x hx, htail⟩

end Order

/-! ## Tables -/

/-- A finite map whose entries are in strictly ascending order of their keys. -/
structure Table (κ α : Type) [LT κ] where
  /-- The entries, in order. -/
  entries : List (κ × α)
  /-- No key occurs twice and each entry comes before those with a greater key. -/
  ascending : Ascending entries

namespace Table

section Basic

variable [LT κ]

/-- The table without entries. -/
def empty : Table κ α := ⟨[], List.Pairwise.nil⟩

instance : EmptyCollection (Table κ α) := ⟨empty⟩

instance : Inhabited (Table κ α) := ⟨empty⟩

@[ext] theorem ext {s t : Table κ α} (h : s.entries = t.entries) : s = t := by
  cases s; cases t; cases h; rfl

instance [DecidableEq κ] [DecidableEq α] : DecidableEq (Table κ α) := fun s t =>
  decidable_of_iff (s.entries = t.entries) ⟨Table.ext, fun h => h ▸ rfl⟩

/-- The value that stands beside a key first. -/
def find [DecidableEq κ] (key : κ) : List (κ × α) → Option α
  | [] => none
  | entry :: rest => if key = entry.1 then some entry.2 else find key rest

/-- The entry of a key. -/
def get? [DecidableEq κ] (t : Table κ α) (key : κ) : Option α := find key t.entries

/-- Whether a key has an entry. -/
def contains [DecidableEq κ] (t : Table κ α) (key : κ) : Bool := (t.get? key).isSome

/-- Whether the table has no entries. -/
def isEmpty (t : Table κ α) : Bool := t.entries.isEmpty

/-- The number of entries. -/
def size (t : Table κ α) : Nat := t.entries.length

/-- The keys, in order. -/
def keys (t : Table κ α) : List κ := t.entries.map Prod.fst

/-- The values, in the order of their keys. -/
def values (t : Table κ α) : List α := t.entries.map Prod.snd

/-- The table with one entry. -/
def singleton (key : κ) (value : α) : Table κ α :=
  ⟨[(key, value)], List.pairwise_singleton _ _⟩

end Basic

variable [LT κ] [DecidableLT κ] [LinearKey κ]

/-- The table with one entry put in, in the place of an older one with its key. -/
def insert (t : Table κ α) (key : κ) (value : α) : Table κ α :=
  ⟨insertSorted key value t.entries, t.ascending.insertSorted⟩

/-- The table of entries that are put in one after another. -/
def ofList (entries : List (κ × α)) : Table κ α :=
  entries.foldl (fun t entry => t.insert entry.1 entry.2) empty

/-- The table without some of its entries. -/
def filter (t : Table κ α) (keep : κ → α → Bool) : Table κ α :=
  ⟨t.entries.filter fun entry => keep entry.1 entry.2, List.Pairwise.filter _ t.ascending⟩

/-- The table with its values mapped. -/
def map {β : Type} (f : α → β) (t : Table κ α) : Table κ β :=
  ⟨t.entries.map fun entry => (entry.1, f entry.2), by
    simpa [Ascending, List.pairwise_map] using t.ascending⟩

theorem get?_insert [DecidableEq κ] (t : Table κ α) (key k : κ) (value : α) :
    (t.insert key value).get? k = if k = key then some value else t.get? k := by
  obtain ⟨entries, h⟩ := t
  simp only [insert, get?]
  induction entries with
  | nil => simp [insertSorted, find]
  | cons entry rest ih =>
    obtain ⟨-, htail⟩ := List.pairwise_cons.1 h
    simp only [insertSorted]
    split
    · simp [find]
    · split
      · rename_i hlt
        simp only [find, ih htail]
        by_cases hk : k = entry.1
        · subst hk
          have hne : entry.1 ≠ key := fun he => by
            rw [he] at hlt
            exact LinearKey.irrefl _ hlt
          simp [hne]
        · simp [hk]
      · rename_i h₁ h₂
        have hkey : key = entry.1 := LinearKey.connected h₁ h₂
        by_cases hk : k = key <;> simp [find, hk, ← hkey]

end Table

end TransportGen
