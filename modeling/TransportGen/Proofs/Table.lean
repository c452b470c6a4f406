import Mathlib.Algebra.GroupWithZero.Nat
import TransportGen.Table

/-!
# Entries put in one after another

* `Table.get?_ofList`: the last entry of a key wins; `Table.get?_ofList_eq_some_iff`: where all
  entries of a key agree, any of them is found.
* `Table.mem_keys_ofList`, `Table.isEmpty_ofList`: no key comes or goes.
* `Table.ext_get?`: tables in which the same is found are equal, so entries of different keys may be
  put in either way round (`Table.insert_comm`).
* `Table.sum_values_insert`: what an entry adds to a sum over the values.
-/

namespace TransportGen

variable {κ α : Type}

namespace Table

section Keys

variable [LT κ] [DecidableEq κ]

theorem mem_keys_iff {t : Table κ α} {key : κ} :
    key ∈ t.keys ↔ ∃ value, t.get? key = some value := by
  obtain ⟨entries, h⟩ := t
  simp only [keys, get?]
  induction entries with
  | nil => simp [find]
  | cons entry rest ih =>
    have hrest := ih (List.pairwise_cons.1 h).2
    by_cases hkey : key = entry.1
    · simp [find, hkey]
    · simp [find, hkey, hrest]

omit [DecidableEq κ] in
theorem isEmpty_iff {t : Table κ α} : t.isEmpty = true ↔ t.keys = [] := by
  simp [isEmpty, keys]

end Keys

variable [LT κ] [DecidableLT κ] [LinearKey κ] [DecidableEq κ]

theorem get?_foldl_insert (t : Table κ α) (entries : List (κ × α)) (key : κ) :
    (entries.foldl (fun t entry => t.insert entry.1 entry.2) t).get? key =
      ((entries.filter (·.1 = key)).getLast?.map Prod.snd).or (t.get? key) := by
  induction entries generalizing t with
  | nil => rfl
  | cons entry rest ih =>
    rw [List.foldl_cons, ih, get?_insert, List.filter_cons]
    by_cases hkey : entry.1 = key
    · cases hlast : (rest.filter (·.1 = key)).getLast? <;> simp [hkey, hlast, List.getLast?_cons]
    · simp [hkey, Ne.symm hkey]

/-- **The last entry wins.** -/
theorem get?_ofList (entries : List (κ × α)) (key : κ) :
    (ofList entries).get? key = (entries.filter (·.1 = key)).getLast?.map Prod.snd := by
  rw [ofList, get?_foldl_insert]
  exact Option.or_none

theorem mem_keys_ofList {entries : List (κ × α)} {key : κ} :
    key ∈ (ofList entries).keys ↔ ∃ entry ∈ entries, entry.1 = key := by
  rw [mem_keys_iff]
  simp only [get?_ofList, Option.map_eq_some_iff, List.getLast?_eq_some_iff]
  constructor
  · rintro ⟨_, entry, ⟨before, h⟩, -⟩
    have hmem : entry ∈ entries.filter (·.1 = key) := h ▸ List.mem_append_right _ List.mem_cons_self
    exact ⟨entry, (List.mem_filter.1 hmem).1, by simpa using (List.mem_filter.1 hmem).2⟩
  · rintro ⟨entry, hmem, hkey⟩
    have hne : entries.filter (·.1 = key) ≠ [] :=
      List.ne_nil_of_mem (List.mem_filter.2 ⟨hmem, by simpa using hkey⟩)
    obtain ⟨before, last, h⟩ := List.eq_nil_or_concat _ |>.resolve_left hne
    exact ⟨last.2, last, ⟨before, h.trans List.concat_eq_append⟩, rfl⟩

theorem isEmpty_ofList {entries : List (κ × α)} : (ofList entries).isEmpty = entries.isEmpty := by
  cases entries with
  | nil => rfl
  | cons entry rest =>
    have hmem : entry.1 ∈ (ofList (entry :: rest)).keys :=
      mem_keys_ofList.2 ⟨entry, List.mem_cons_self, rfl⟩
    have hne := mt isEmpty_iff.1 (List.ne_nil_of_mem hmem)
    simpa using hne

/-- Where entries of one key have one value, all of them are found. -/
theorem get?_ofList_eq_some_iff {entries : List (κ × α)}
    (h : ∀ a ∈ entries, ∀ b ∈ entries, a.1 = b.1 → a.2 = b.2) {key : κ} {value : α} :
    (ofList entries).get? key = some value ↔ (key, value) ∈ entries := by
  rw [get?_ofList, Option.map_eq_some_iff]
  constructor
  · rintro ⟨entry, hlast, rfl⟩
    obtain ⟨hmem, hkey⟩ := List.mem_filter.1 (List.mem_of_getLast? hlast)
    rw [← of_decide_eq_true hkey]
    exact hmem
  · intro hmem
    have hfiltered : (key, value) ∈ entries.filter (·.1 = key) :=
      List.mem_filter.2 ⟨hmem, decide_eq_true rfl⟩
    obtain ⟨last, hlast⟩ := Option.isSome_iff_exists.1
      (List.getLast?_isSome.2 (List.ne_nil_of_mem hfiltered))
    obtain ⟨hlast_mem, hkey⟩ := List.mem_filter.1 (List.mem_of_getLast? hlast)
    exact ⟨last, hlast, h last hlast_mem (key, value) hmem (of_decide_eq_true hkey)⟩

/-! ## Tables as functions -/

omit [DecidableLT κ] [DecidableEq κ] in
theorem nodup_keys (t : Table κ α) : t.keys.Nodup := by
  refine List.pairwise_map.2 (t.ascending.imp ?_)
  intro a b hlt heq
  rw [heq] at hlt
  exact LinearKey.irrefl _ hlt

omit [DecidableLT κ] in
theorem get?_eq_some_iff {t : Table κ α} {key : κ} {value : α} :
    t.get? key = some value ↔ (key, value) ∈ t.entries := by
  obtain ⟨entries, h⟩ := t
  simp only [get?]
  induction entries with
  | nil => simp [find]
  | cons entry rest ih =>
    obtain ⟨hhead, htail⟩ := List.pairwise_cons.1 h
    by_cases hkey : key = entry.1
    · subst hkey
      have hrest : ∀ value, (entry.1, value) ∉ rest := fun value hmem =>
        LinearKey.irrefl entry.1 (hhead (entry.1, value) hmem)
      simp [find, hrest, Prod.ext_iff, eq_comm]
    · have hne : (key, value) ≠ entry := fun heq => hkey (congrArg Prod.fst heq)
      simp [find, hkey, hne, ih htail]

omit [DecidableLT κ] [LinearKey κ] in
theorem get?_eq_none_iff {t : Table κ α} {key : κ} : t.get? key = none ↔ key ∉ t.keys := by
  rw [mem_keys_iff, Option.eq_none_iff_forall_ne_some, not_exists]

omit [DecidableLT κ] in
/-- **Tables are functions.** Two tables in which the same is found are equal. -/
theorem ext_get? {s t : Table κ α} (h : ∀ key, s.get? key = t.get? key) : s = t := by
  have hnodup : ∀ t : Table κ α, t.entries.Nodup := fun t =>
    (List.pairwise_map.1 t.nodup_keys).imp fun hne heq => hne (congrArg Prod.fst heq)
  have hperm : s.entries.Perm t.entries := by
    refine (List.perm_ext_iff_of_nodup (hnodup s) (hnodup t)).2 fun entry => ?_
    rw [← get?_eq_some_iff, ← get?_eq_some_iff, h]
  refine Table.ext (hperm.eq_of_pairwise (fun a b _ _ hab hba => ?_) s.ascending t.ascending)
  exact absurd (LinearKey.trans hab hba) (LinearKey.irrefl _)

theorem mem_keys_insert {t : Table κ α} {key k : κ} {value : α} :
    k ∈ (t.insert key value).keys ↔ k = key ∨ k ∈ t.keys := by
  simp only [mem_keys_iff, get?_insert]
  by_cases hk : k = key
  · simp [hk]
  · simp [hk]

theorem insert_comm (t : Table κ α) {a b : κ} (hne : a ≠ b) (x y : α) :
    (t.insert a x).insert b y = (t.insert b y).insert a x := by
  apply ext_get?
  intro key
  simp only [get?_insert]
  by_cases ha : key = a
  · have hb : key ≠ b := ha ▸ hne
    rw [if_neg hb, if_pos ha, if_pos ha]
  · rw [if_neg ha, if_neg ha]

theorem insert_insert (t : Table κ α) (key : κ) (x y : α) :
    (t.insert key x).insert key y = t.insert key y := by
  apply ext_get?
  intro k
  simp only [get?_insert]
  by_cases hk : k = key
  · rw [if_pos hk, if_pos hk]
  · rw [if_neg hk, if_neg hk, if_neg hk]

/-- A sum over the values grows by the new value and loses the one that stood there. -/
theorem sum_values_insert (weight : α → Nat) (t : Table κ α) (key : κ) (value : α) :
    ((t.insert key value).values.map weight).sum + ((t.get? key).map weight).getD 0 =
      (t.values.map weight).sum + weight value := by
  obtain ⟨entries, h⟩ := t
  simp only [insert, get?, values]
  induction entries with
  | nil => simp [insertSorted, find]
  | cons entry rest ih =>
    obtain ⟨hhead, htail⟩ := List.pairwise_cons.1 h
    simp only [insertSorted]
    split
    · rename_i hlt
      have hnone : (Table.mk (entry :: rest) h).get? key = none := by
        rw [get?_eq_none_iff]
        intro hmem
        obtain ⟨e, he, rfl⟩ := List.mem_map.1 hmem
        rcases List.mem_cons.1 he with rfl | he
        · exact LinearKey.irrefl _ hlt
        · exact LinearKey.irrefl _ (LinearKey.trans hlt (hhead e he))
      rw [get?] at hnone
      simp only [hnone, List.map_cons, List.sum_cons, Option.map_none, Option.getD_none]
      omega
    · split
      · rename_i hlt
        have hne : key ≠ entry.1 := fun heq => LinearKey.irrefl entry.1 (heq ▸ hlt)
        have hrest := ih htail
        simp only [find, if_neg hne, List.map_cons, List.sum_cons]
        omega
      · rename_i h₁ h₂
        have hkey : key = entry.1 := LinearKey.connected h₁ h₂
        simp only [find, if_pos hkey, List.map_cons, List.sum_cons, Option.map_some,
          Option.getD_some]
        omega

theorem size_insert {t : Table κ α} {key : κ} (h : t.get? key = none) (value : α) :
    (t.insert key value).size = t.size + 1 := by
  have hsum := sum_values_insert (fun _ => 1) t key value
  simpa [h, values, size, Function.comp_def, List.map_const', List.sum_replicate_nat] using hsum

end Table

end TransportGen
