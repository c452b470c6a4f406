import TransportGen.Output.Store

/-!
# Writing through a store

Writing files through the sink of a store never fails, so a run is a function on stores:
`Store.settle` is the store after something was done about one file, `Store.settleAll` after a list
of generated files.

* `handwritten?_settleAll`: files that are somebody's own stay as they are, and none comes to be,
  if all that is written carries the marker.
* `get?_settleAll`: what a path holds after files were written to different paths.
* `settleAll_eq_self`: nothing is written where every file is up to date or somebody's own.
-/

namespace TransportGen.Store

/-- The contents of a file that is somebody's own. -/
def handwritten? (store : Store) (path : FilePath) : Option Bytes :=
  (store.get? path).filter (! hasMarker ·)

/-- What is done about a generated file. -/
def actionAt (store : Store) (path : FilePath) (new : Bytes) : WriteAction :=
  (FileState.of (store.get? path)).action (store.get? path) new

/-- The store after something was done about a file. -/
def settle (store : Store) (path : FilePath) (new : Bytes) (action : WriteAction) : Store :=
  if action.writes then { store.put path new with writes := store.writes + 1 } else store

/-- The store after a generated file was written where the policy allows it. -/
def settleAt (store : Store) (path : FilePath) (new : Bytes) : Store :=
  store.settle path new (store.actionAt path new)

/-- The store after generated files. -/
def settleAll (store : Store) (targets : List (FilePath × Bytes)) : Store :=
  targets.foldl (fun store target => store.settleAt target.1 target.2) store

/-- What happens to generated files, one after another. -/
def outcomes : Store → List (FilePath × Bytes) → List FileOutcome
  | _, [] => []
  | store, (path, new) :: rest =>
    ⟨path, store.actionAt path new⟩ :: outcomes (store.settleAt path new) rest

/-! ## Runs of the sink -/

/-- A run goes on in the store that its first part leaves. -/
theorem run_bind {ε α β : Type} {p : ExceptT ε (StateM Store) α}
    {f : α → ExceptT ε (StateM Store) β} {store next : Store} {a : α}
    (h : p.run.run store = (.ok a, next)) : (p >>= f).run.run store = (f a).run.run next := by
  rw [ExceptT.run_bind, StateT.run_bind, h]
  rfl

theorem run_writeIf (store : Store) (path : FilePath) (new : Bytes) (action : WriteAction) :
    (do if action.writes then sink.write path new
        pure action : ExceptT StorageFailure (StateM Store) WriteAction).run.run store =
      (.ok action, store.settle path new action) := by
  unfold settle
  cases action.writes <;> rfl

theorem run_apply (store : Store) (path : FilePath) (new : Bytes) :
    (sink.apply path new).run.run store =
      (.ok (store.actionAt path new), store.settleAt path new) :=
  run_writeIf store path new (store.actionAt path new)

theorem run_replace (store : Store) (path : FilePath) (new : Bytes) :
    (sink.replace path new).run.run store =
      (.ok (Sink.replacement (store.get? path) new),
        store.settle path new (Sink.replacement (store.get? path) new)) :=
  run_writeIf store path new (Sink.replacement (store.get? path) new)

theorem run_applyAll (store : Store) (targets : List (FilePath × Bytes)) :
    (sink.applyAll targets).run.run store =
      (.ok (store.outcomes targets), store.settleAll targets) := by
  induction targets generalizing store with
  | nil => rfl
  | cons target rest ih =>
    rw [Sink.applyAll, run_bind (run_apply store target.1 target.2), run_bind (ih _)]
    rfl

/-! ## One file -/

theorem handwritten?_eq_some_iff {store : Store} {path : FilePath} {bytes : Bytes} :
    store.handwritten? path = some bytes ↔
      store.get? path = some bytes ∧ hasMarker bytes = false := by
  simp [handwritten?, Option.filter_eq_some_iff]

theorem get?_congr (store : Store) {path other : FilePath} (h : other.key = path.key) :
    store.get? other = store.get? path := by
  simp only [get?, h]

theorem handwritten?_congr {a b : Store} {path other : FilePath}
    (h : a.get? path = b.get? other) : a.handwritten? path = b.handwritten? other := by
  simp only [handwritten?, h]

/-- What can happen to a generated file: it meets somebody's own file, or it is up to date, or it is
written. -/
theorem actionAt_cases (store : Store) (path : FilePath) (new : Bytes) :
    (∃ bytes, store.handwritten? path = some bytes ∧ store.get? path = some bytes ∧
      store.actionAt path new = .skip) ∨
    (store.handwritten? path = none ∧ store.get? path = some new ∧
      store.actionAt path new = .unchanged) ∨
    (store.handwritten? path = none ∧ store.get? path ≠ some new ∧
      (store.actionAt path new = .create ∨ store.actionAt path new = .overwrite)) := by
  unfold actionAt handwritten?
  cases h : store.get? path with
  | none => simp [FileState.of, FileState.action]
  | some bytes =>
    by_cases hmarker : hasMarker bytes
    · by_cases hnew : bytes = new
      · subst hnew
        simp [FileState.of, FileState.action, Option.filter_some, hmarker]
      · simp [FileState.of, FileState.action, Option.filter_some, hmarker, hnew]
    · simp [FileState.of, FileState.action, Option.filter_some, hmarker]

/-- A file is passed over exactly if it is somebody's own. -/
theorem actionAt_eq_skip_iff (store : Store) (path : FilePath) (new : Bytes) :
    store.actionAt path new = .skip ↔ (store.handwritten? path).isSome := by
  rcases store.actionAt_cases path new with
    ⟨bytes, hown, -, haction⟩ | ⟨hown, -, haction⟩ | ⟨hown, -, haction | haction⟩
  all_goals simp [hown, haction]

theorem get?_settle (store : Store) (path other : FilePath) (new : Bytes) (action : WriteAction) :
    (store.settle path new action).get? other =
      if action.writes ∧ other.key = path.key then some new else store.get? other := by
  unfold settle
  split
  · rename_i hw
    change (store.put path new).get? other = _
    simp [get?_put, hw]
  · rename_i hw
    simp [hw]

theorem writes_settle (store : Store) (path : FilePath) (new : Bytes) (action : WriteAction) :
    (store.settle path new action).writes = store.writes + if action.writes then 1 else 0 := by
  unfold settle
  split <;> rfl

/-- **One file.** A generated file leaves what is somebody's own at its path, or else its own
bytes, and nothing else changes. -/
theorem get?_settleAt (store : Store) (path other : FilePath) (new : Bytes) :
    (store.settleAt path new).get? other =
      if other.key = path.key then some ((store.handwritten? path).getD new)
      else store.get? other := by
  rw [settleAt, get?_settle]
  by_cases hkey : other.key = path.key
  · simp only [hkey, and_true, if_true, store.get?_congr hkey]
    rcases store.actionAt_cases path new with
      ⟨bytes, hown, hget, haction⟩ | ⟨hown, hget, haction⟩ | ⟨hown, -, haction | haction⟩
    · simp [hown, hget, haction, WriteAction.writes]
    · simp [hown, hget, haction, WriteAction.writes]
    · simp [hown, haction, WriteAction.writes]
    · simp [hown, haction, WriteAction.writes]
  · simp [hkey]

theorem handwritten?_settleAt (store : Store) (path : FilePath) {new : Bytes}
    (hnew : hasMarker new = true) :
    (store.settleAt path new).handwritten? = store.handwritten? := by
  funext other
  by_cases hkey : other.key = path.key
  · have hold : store.handwritten? other = store.handwritten? path :=
      handwritten?_congr (store.get?_congr hkey)
    rw [hold, handwritten?, get?_settleAt, if_pos hkey]
    cases h : store.handwritten? path with
    | none => simp [hnew]
    | some bytes => simp [(handwritten?_eq_some_iff.1 h).2]
  · exact handwritten?_congr (by rw [get?_settleAt, if_neg hkey])

/-- Nothing is done about a file that is up to date, or somebody's own. -/
theorem settleAt_eq_self {store : Store} {path : FilePath} {new : Bytes}
    (h : store.get? path = some ((store.handwritten? path).getD new)) :
    (store.actionAt path new = .unchanged ∨ store.actionAt path new = .skip) ∧
      store.settleAt path new = store := by
  have haction : store.actionAt path new = .unchanged ∨ store.actionAt path new = .skip := by
    rcases store.actionAt_cases path new with
      ⟨bytes, -, -, haction⟩ | ⟨-, -, haction⟩ | ⟨hown, hget, -⟩
    · exact Or.inr haction
    · exact Or.inl haction
    · rw [hown, Option.getD_none] at h
      exact (hget h).elim
  refine ⟨haction, ?_⟩
  rcases haction with h | h <;> simp [settleAt, settle, h, WriteAction.writes]

/-! ## Files one after another -/

theorem settleAll_cons (store : Store) (target : FilePath × Bytes)
    (rest : List (FilePath × Bytes)) :
    store.settleAll (target :: rest) = (store.settleAt target.1 target.2).settleAll rest := rfl

theorem settleAll_append (store : Store) (a b : List (FilePath × Bytes)) :
    store.settleAll (a ++ b) = (store.settleAll a).settleAll b := List.foldl_append

theorem outcomes_append (store : Store) (a b : List (FilePath × Bytes)) :
    store.outcomes (a ++ b) = store.outcomes a ++ (store.settleAll a).outcomes b := by
  induction a generalizing store with
  | nil => rfl
  | cons target rest ih =>
    simp only [List.cons_append, outcomes, settleAll_cons, ih]

/-- Each file has one outcome, in order. -/
theorem map_path_outcomes (store : Store) (targets : List (FilePath × Bytes)) :
    (store.outcomes targets).map FileOutcome.path = targets.map Prod.fst := by
  induction targets generalizing store with
  | nil => rfl
  | cons target rest ih => simp only [outcomes, List.map_cons, ih]

/-- Each outcome that writes is one write. -/
theorem writes_settleAll (store : Store) (targets : List (FilePath × Bytes)) :
    (store.settleAll targets).writes =
      store.writes + (store.outcomes targets).countP (·.action.writes) := by
  induction targets generalizing store with
  | nil => rfl
  | cons target rest ih =>
    rw [settleAll_cons, ih, settleAt, writes_settle, outcomes, List.countP_cons]
    simp only [settleAt]
    omega

/-- **Nobody's files are touched.** If all files carry the marker, what is somebody's own stays as
it is, and nothing becomes somebody's own. -/
theorem handwritten?_settleAll (store : Store) {targets : List (FilePath × Bytes)}
    (h : ∀ target ∈ targets, hasMarker target.2 = true) :
    (store.settleAll targets).handwritten? = store.handwritten? := by
  induction targets generalizing store with
  | nil => rfl
  | cons target rest ih =>
    rw [List.forall_mem_cons] at h
    rw [settleAll_cons, ih _ h.2, handwritten?_settleAt store target.1 h.1]

theorem get?_settleAll_of_ne (store : Store) {targets : List (FilePath × Bytes)} {path : FilePath}
    (h : ∀ target ∈ targets, path.key ≠ target.1.key) :
    (store.settleAll targets).get? path = store.get? path := by
  induction targets generalizing store with
  | nil => rfl
  | cons target rest ih =>
    rw [List.forall_mem_cons] at h
    rw [settleAll_cons, ih _ h.2, get?_settleAt, if_neg h.1]

/-- **What a run leaves.** Where the paths are different, each holds what was somebody's own there,
or else the bytes that were generated for it. -/
theorem get?_settleAll (store : Store) {targets : List (FilePath × Bytes)}
    (hkeys : targets.Pairwise fun a b => a.1.key ≠ b.1.key) {target : FilePath × Bytes}
    (h : target ∈ targets) :
    (store.settleAll targets).get? target.1 =
      some ((store.handwritten? target.1).getD target.2) := by
  induction targets generalizing store with
  | nil => cases h
  | cons first rest ih =>
    obtain ⟨hfirst, hrest⟩ := List.pairwise_cons.1 hkeys
    rw [settleAll_cons]
    rcases List.mem_cons.1 h with rfl | hmem
    · rw [get?_settleAll_of_ne _ hfirst, get?_settleAt, if_pos rfl]
    · have hne : target.1.key ≠ first.1.key := (hfirst target hmem).symm
      rw [ih _ hrest hmem]
      congr 2
      exact handwritten?_congr (by rw [get?_settleAt, if_neg hne])

/-- Nothing is done where every file is up to date, or somebody's own. -/
theorem settleAll_eq_self {store : Store} {targets : List (FilePath × Bytes)}
    (h : ∀ target ∈ targets,
      store.get? target.1 = some ((store.handwritten? target.1).getD target.2)) :
    (∀ outcome ∈ store.outcomes targets,
      outcome.action = .unchanged ∨ outcome.action = .skip) ∧
      store.settleAll targets = store := by
  induction targets with
  | nil => exact ⟨fun _ h => (List.not_mem_nil h).elim, rfl⟩
  | cons target rest ih =>
    rw [List.forall_mem_cons] at h
    obtain ⟨haction, hself⟩ := settleAt_eq_self h.1
    obtain ⟨hactions, hrest⟩ := ih h.2
    rw [settleAll_cons, outcomes, hself]
    exact ⟨List.forall_mem_cons.2 ⟨haction, hactions⟩, hrest⟩

/-- The files that are passed over are those that are somebody's own at the start. -/
theorem skipped_outcomes (store : Store) {targets : List (FilePath × Bytes)}
    (h : ∀ target ∈ targets, hasMarker target.2 = true) :
    ((store.outcomes targets).filter (·.action = .skip)).map FileOutcome.path =
      (targets.filter fun target => (store.handwritten? target.1).isSome).map Prod.fst := by
  induction targets generalizing store with
  | nil => rfl
  | cons target rest ih =>
    rw [List.forall_mem_cons] at h
    have hrest := ih (store.settleAt target.1 target.2) h.2
    rw [handwritten?_settleAt store target.1 h.1] at hrest
    simp only [outcomes, List.filter_cons, decide_eq_true_eq, actionAt_eq_skip_iff]
    split <;> simp [hrest]

end TransportGen.Store
