import TransportGen.Output.Store

/-!
# One run beside another

The same files may be written through two sinks. `Follows` says that the second run does what the
first one does, up to an operation that fails for it alone. It is a property of single operations
(`Sink.Follows`) that whole runs inherit: `Sink.Follows.apply`, `Sink.Follows.replace` and
`Sink.Follows.applyAll`.

`Sink.journaled` makes a sink keep a journal of its operations, each with the state in which it was
made. It changes nothing else (`Sink.journaled_follows`).
-/

namespace TransportGen

/-- How the states of two runs correspond. -/
structure Pairing (σ τ : Type) where
  /-- While both go on. -/
  inStep : σ → τ → Prop
  /-- After the second one has stopped with a failure; the first one may still go on. -/
  stopped : StorageFailure → σ → τ → Prop

/-- A program in one state follows a program in another: it gives the same result, or it stops with
an error that carries the failure of a sink. -/
structure Follows {σ τ ε α : Type} (pairing : Pairing σ τ) (carries : StorageFailure → ε → Prop)
    (p : ExceptT ε (StateM σ) α) (q : ExceptT ε (StateM τ) α) : Prop where
  run : ∀ s t, pairing.inStep s t →
    ((q.run.run t).1 = (p.run.run s).1 ∧ pairing.inStep (p.run.run s).2 (q.run.run t).2) ∨
      ∃ failure e, (q.run.run t).1 = .error e ∧ carries failure e ∧
        pairing.stopped failure (p.run.run s).2 (q.run.run t).2
  /-- What the first one still does changes nothing for the second one, once that has stopped. -/
  keeps : ∀ failure s t, pairing.stopped failure s t → pairing.stopped failure (p.run.run s).2 t

namespace Follows

variable {σ τ ε α β : Type} {pairing : Pairing σ τ} {carries : StorageFailure → ε → Prop}

theorem pure (a : α) :
    Follows pairing carries (pure a : ExceptT ε (StateM σ) α) (pure a) where
  run _ _ h := Or.inl ⟨rfl, h⟩
  keeps _ _ _ h := h

/-- A run goes on with the result of its first part, in the state that this part leaves. -/
theorem run_bind (p : ExceptT ε (StateM σ) α) (f : α → ExceptT ε (StateM σ) β) (s : σ) :
    (p >>= f).run.run s = match p.run.run s with
      | (.ok a, next) => (f a).run.run next
      | (.error e, next) => (.error e, next) := by
  rw [ExceptT.run_bind, StateT.run_bind]
  rcases p.run.run s with ⟨a | e, next⟩ <;> rfl

theorem bind {p : ExceptT ε (StateM σ) α} {q : ExceptT ε (StateM τ) α}
    {f : α → ExceptT ε (StateM σ) β} {g : α → ExceptT ε (StateM τ) β}
    (h : Follows pairing carries p q) (hf : ∀ a, Follows pairing carries (f a) (g a)) :
    Follows pairing carries (p >>= f) (q >>= g) where
  run s t hst := by
    have hrun := h.run s t hst
    rw [run_bind, run_bind]
    rcases hp : p.run.run s with ⟨r, next⟩
    rcases hq : q.run.run t with ⟨r', next'⟩
    rw [hp, hq] at hrun
    rcases hrun with ⟨hr, hnext⟩ | ⟨failure, e, hr, he, hnext⟩
    · cases hr
      cases r with
      | error e => exact Or.inl ⟨rfl, hnext⟩
      | ok a => exact (hf a).run next next' hnext
    · cases hr
      refine Or.inr ⟨failure, e, rfl, he, ?_⟩
      cases r with
      | error e => exact hnext
      | ok a => exact (hf a).keeps failure next next' hnext
  keeps failure s t hst := by
    have hnext := h.keeps failure s t hst
    rw [run_bind]
    rcases hp : p.run.run s with ⟨r, next⟩
    rw [hp] at hnext
    cases r with
    | error e => exact hnext
    | ok a => exact (hf a).keeps failure next t hnext

/-- Errors may be described, if what they carry stays. -/
theorem adapt {ε' : Type} {carries' : StorageFailure → ε' → Prop} {p : ExceptT ε (StateM σ) α}
    {q : ExceptT ε (StateM τ) α} (h : Follows pairing carries p q) {describe : ε → ε'}
    (hcarries : ∀ failure e, carries failure e → carries' failure (describe e)) :
    Follows pairing carries' (p.adapt describe) (q.adapt describe) := by
  have hadapt : ∀ {ρ : Type} (x : ExceptT ε (StateM ρ) α) (s : ρ),
      (x.adapt describe).run.run s = ((x.run.run s).1.mapError describe, (x.run.run s).2) := by
    intro ρ x s
    change (ExceptT.mk (Except.mapError describe <$> x.run)).run.run s = _
    rw [ExceptT.run_mk, StateT.run_map]
    rfl
  refine ⟨fun s t hst => ?_, fun failure s t hst => ?_⟩
  · rw [hadapt, hadapt]
    rcases h.run s t hst with ⟨hr, hnext⟩ | ⟨failure, e, hr, he, hnext⟩
    · exact Or.inl ⟨by rw [hr], hnext⟩
    · exact Or.inr ⟨failure, describe e, by rw [hr]; rfl, hcarries failure e he, hnext⟩
  · rw [hadapt]
    exact h.keeps failure s t hst

end Follows

/-! ## Sinks -/

namespace Sink

variable {σ τ : Type} {pairing : Pairing σ τ} {a : Sink (StateM σ)} {b : Sink (StateM τ)}

/-- Each operation of a sink follows that of another one. -/
structure Follows (pairing : Pairing σ τ) (a : Sink (StateM σ)) (b : Sink (StateM τ)) : Prop where
  read : ∀ path, TransportGen.Follows pairing Eq (a.read path) (b.read path)
  write : ∀ path new, TransportGen.Follows pairing Eq (a.write path new) (b.write path new)

namespace Follows

theorem writeIf (h : a.Follows pairing b) (path : FilePath) (new : Bytes) (action : WriteAction) :
    TransportGen.Follows pairing Eq
      (do if action.writes then a.write path new
          pure action)
      (do if action.writes then b.write path new
          pure action) := by
  cases action.writes with
  | true => exact (h.write path new).bind fun _ => .pure action
  | false => exact .pure action

theorem apply (h : a.Follows pairing b) (path : FilePath) (new : Bytes) :
    TransportGen.Follows pairing Eq (a.apply path new) (b.apply path new) :=
  (h.read path).bind fun _ => h.writeIf path new _

theorem replace (h : a.Follows pairing b) (path : FilePath) (new : Bytes) :
    TransportGen.Follows pairing Eq (a.replace path new) (b.replace path new) :=
  (h.read path).bind fun _ => h.writeIf path new _

theorem applyAll (h : a.Follows pairing b) (targets : List (FilePath × Bytes)) :
    TransportGen.Follows pairing Eq (a.applyAll targets) (b.applyAll targets) := by
  induction targets with
  | nil => exact .pure []
  | cons target rest ih =>
    exact (h.apply target.1 target.2).bind fun action => ih.bind fun outcomes => .pure _

end Follows

end Sink

/-! ## Journals -/

/-- An operation of a sink. -/
inductive Operation where
  | read (path : FilePath)
  | write (path : FilePath) (new : Bytes)
  deriving DecidableEq

/-- An operation that was made, and the state in which it was made. -/
structure JournalEntry (σ : Type) where
  operation : Operation
  before : σ

/-- The state of a sink, and the operations that were made so far, the first one first. -/
structure Journal (σ : Type) where
  state : σ
  entries : List (JournalEntry σ) := []

namespace Journal

variable {σ : Type}

/-- The operations that were made. -/
def operations (journal : Journal σ) : List Operation := journal.entries.map (·.operation)

/-- The journal after an operation that leads to a state. -/
def enter (journal : Journal σ) (operation : Operation) (next : σ) : Journal σ :=
  ⟨next, journal.entries ++ [⟨operation, journal.state⟩]⟩

@[simp] theorem state_enter (journal : Journal σ) (operation : Operation) (next : σ) :
    (journal.enter operation next).state = next := rfl

@[simp] theorem entries_enter (journal : Journal σ) (operation : Operation) (next : σ) :
    (journal.enter operation next).entries =
      journal.entries ++ [⟨operation, journal.state⟩] := rfl

@[simp] theorem operations_enter (journal : Journal σ) (operation : Operation) (next : σ) :
    (journal.enter operation next).operations = journal.operations ++ [operation] := by
  simp [operations]

@[simp] theorem length_operations (journal : Journal σ) :
    journal.operations.length = journal.entries.length := List.length_map _

/-- A program that enters the operation which it is into the journal. -/
def entering {ε α : Type} (operation : Operation) (p : ExceptT ε (StateM σ) α) :
    ExceptT ε (StateM (Journal σ)) α :=
  ExceptT.mk fun journal =>
    ((p.run.run journal.state).1, journal.enter operation (p.run.run journal.state).2)

theorem run_entering {ε α : Type} (operation : Operation) (p : ExceptT ε (StateM σ) α)
    (journal : Journal σ) :
    (entering operation p).run.run journal =
      ((p.run.run journal.state).1, journal.enter operation (p.run.run journal.state).2) := rfl

/-- A journal beside the sink itself, which nothing ever stops. -/
def unread : Pairing (Journal σ) σ where
  inStep journal state := journal.state = state
  stopped _ _ _ := False

end Journal

/-- The sink that keeps a journal. -/
def Sink.journaled {σ : Type} (sink : Sink (StateM σ)) : Sink (StateM (Journal σ)) where
  read path := Journal.entering (.read path) (sink.read path)
  write path new := Journal.entering (.write path new) (sink.write path new)

theorem Follows.of_entering {σ ε α : Type} {carries : StorageFailure → ε → Prop}
    (operation : Operation) (p : ExceptT ε (StateM σ) α) :
    Follows Journal.unread carries (Journal.entering operation p) p where
  run _ _ h := by
    cases h
    exact Or.inl ⟨rfl, rfl⟩
  keeps _ _ _ h := h

/-- **Journals change nothing.** A sink does what it does with a journal. -/
theorem Sink.journaled_follows {σ : Type} (sink : Sink (StateM σ)) :
    sink.journaled.Follows Journal.unread sink where
  read path := .of_entering (.read path) (sink.read path)
  write path new := .of_entering (.write path new) (sink.write path new)

end TransportGen
