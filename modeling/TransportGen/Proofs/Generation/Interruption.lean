import TransportGen.Proofs.Generation.Regeneration
import TransportGen.Proofs.Output.Following

/-!
# Runs that are cut short

A file that cannot be read or written ends a run at once. `Sink.FailsAt` describes a sink that
serves a store, except that one operation fails. A run through it makes the operations of the run on
the store up to that one, and none after it (`stops_at_failure`): everything that is written is
written by operations that the run follows one by one (`write_follows`).
-/

namespace TransportGen

/-! ## Sinks that fail once -/

section Failing

variable {τ : Type}

/-- A program of a sink that shows a store and counts its operations, beside a program on the store:
it is one operation, and it does the same unless it is the `k`-th one, which fails and changes
nothing. -/
def ServesUntil (k : Nat) (failure : StorageFailure) (storeOf : τ → Store) (made : τ → Nat)
    {α : Type} (p : ExceptT StorageFailure (StateM Store) α)
    (q : ExceptT StorageFailure (StateM τ) α) : Prop :=
  ∀ t, made (q.run.run t).2 = made t + 1 ∧
    if made t + 1 = k then
      (q.run.run t).1 = .error failure ∧ storeOf (q.run.run t).2 = storeOf t
    else
      (q.run.run t).1 = (p.run.run (storeOf t)).1 ∧
        storeOf (q.run.run t).2 = (p.run.run (storeOf t)).2

/-- The sink behaves like a store, except that its `k`-th operation fails. -/
structure Sink.FailsAt (k : Nat) (failure : StorageFailure) (storeOf : τ → Store)
    (made : τ → Nat) (sink : Sink (StateM τ)) : Prop where
  read : ∀ path, ServesUntil k failure storeOf made (Store.sink.read path) (sink.read path)
  write : ∀ path new,
    ServesUntil k failure storeOf made (Store.sink.write path new) (sink.write path new)

/-- The journal of a run on a store, and that of a run through a sink whose `k`-th operation fails:
up to this operation they are the same, and then the second one ends in the store that the first
run had just before it. -/
def upToFailure (k : Nat) (failure : StorageFailure) (storeOf : τ → Store) (made : τ → Nat) :
    Pairing (Journal Store) (Journal τ) where
  inStep free broken :=
    broken.operations = free.operations ∧ storeOf broken.state = free.state ∧
      made broken.state = free.entries.length ∧ free.entries.length < k
  stopped f free broken :=
    f = failure ∧ k ≤ free.entries.length ∧ broken.operations = free.operations.take k ∧
      free.entries[k - 1]?.map (·.before) = some (storeOf broken.state)

variable {k : Nat} {failure : StorageFailure} {storeOf : τ → Store} {made : τ → Nat}

/-- **One operation.** Both runs make it, unless it is the one that fails. -/
theorem ServesUntil.follows {α : Type} {p : ExceptT StorageFailure (StateM Store) α}
    {q : ExceptT StorageFailure (StateM τ) α} (h : ServesUntil k failure storeOf made p q)
    (operation : Operation) :
    Follows (upToFailure k failure storeOf made) Eq (Journal.entering operation p)
      (Journal.entering operation q) where
  run free broken hstep := by
    obtain ⟨hoperations, hstore, hmade, hk⟩ := hstep
    obtain ⟨hcount, hserves⟩ := h broken.state
    rw [hmade] at hserves hcount
    rw [Journal.run_entering, Journal.run_entering]
    by_cases hlast : free.entries.length + 1 = k
    · subst hlast
      rw [if_pos rfl] at hserves
      refine Or.inr ⟨failure, failure, hserves.1, rfl, rfl, ?_, ?_, ?_⟩
      · simp
      · simp [hoperations, List.take_of_length_le]
      · simp [hserves.2, hstore]
    · rw [if_neg hlast, hstore] at hserves
      refine Or.inl ⟨hserves.1, ?_, hserves.2, ?_, ?_⟩
      · simp [hoperations]
      · simpa using hcount
      · simp only [Journal.entries_enter, List.length_append, List.length_singleton]
        omega
  keeps f free broken hstopped := by
    obtain ⟨hf, hk, hoperations, hbefore⟩ := hstopped
    obtain ⟨entry, hentry, -⟩ := Option.map_eq_some_iff.1 hbefore
    have hindex : k - 1 < free.entries.length := (List.getElem?_eq_some_iff.1 hentry).1
    rw [Journal.run_entering]
    refine ⟨hf, ?_, ?_, ?_⟩
    · simp only [Journal.entries_enter, List.length_append]
      omega
    · rw [Journal.operations_enter, List.take_append_of_le_length (by simpa using hk)]
      exact hoperations
    · rw [Journal.entries_enter, List.getElem?_append_left hindex]
      exact hbefore

/-- Every operation through a sink that fails once follows that of the store. -/
theorem Sink.FailsAt.follows {sink : Sink (StateM τ)}
    (h : sink.FailsAt k failure storeOf made) :
    Store.sink.journaled.Follows (upToFailure k failure storeOf made) sink.journaled where
  read path := (h.read path).follows (.read path)
  write path new := (h.write path new).follows (.write path new)

/-- A program of a sink with a count of its operations, of which the `k`-th one fails. -/
def failingAt {ε α : Type} (k : Nat) (failure : ε) (p : ExceptT ε (StateM τ) α) :
    ExceptT ε (StateM (τ × Nat)) α :=
  ExceptT.mk fun state =>
    if state.2 + 1 = k then (.error failure, state.1, state.2 + 1)
    else ((p.run.run state.1).1, (p.run.run state.1).2, state.2 + 1)

/-- The sink whose `k`-th operation fails. -/
def Sink.interrupted (sink : Sink (StateM τ)) (k : Nat) (failure : StorageFailure) :
    Sink (StateM (τ × Nat)) where
  read path := failingAt k failure (sink.read path)
  write path new := failingAt k failure (sink.write path new)

theorem servesUntil_failingAt {α : Type} (k : Nat) (failure : StorageFailure)
    (p : ExceptT StorageFailure (StateM Store) α) :
    ServesUntil k failure Prod.fst Prod.snd p (failingAt k failure p) := by
  intro state
  have hrun : (failingAt k failure p).run.run state =
      if state.2 + 1 = k then (.error failure, state.1, state.2 + 1)
      else ((p.run.run state.1).1, (p.run.run state.1).2, state.2 + 1) := rfl
  rw [hrun]
  split
  · exact ⟨rfl, rfl, rfl⟩
  · exact ⟨rfl, rfl, rfl⟩

theorem failsAt_interrupted (k : Nat) (failure : StorageFailure) :
    (Store.sink.interrupted k failure).FailsAt k failure Prod.fst Prod.snd where
  read path := servesUntil_failingAt k failure (Store.sink.read path)
  write path new := servesUntil_failingAt k failure (Store.sink.write path new)

end Failing

/-! ## Runs -/

/-- The trouble is that a file could not be read or written. -/
def Trouble.Reports (failure : StorageFailure) (trouble : Trouble) : Prop :=
  trouble.cause = .storage failure

namespace Generation

section Runs

variable {σ τ : Type} {pairing : Pairing σ τ} {a : Sink (StateM σ)} {b : Sink (StateM τ)}

theorem during_follows {α : Type} {p : ExceptT StorageFailure (StateM σ) α}
    {q : ExceptT StorageFailure (StateM τ) α} (h : Follows pairing Eq p q) (steps : List Step) :
    Follows pairing Trouble.Reports (during steps .storage p) (during steps .storage q) :=
  h.adapt fun _ _ heq => congrArg Cause.storage heq.symm

theorem writeService_follows (h : a.Follows pairing b) (s : ServiceSpec) :
    Follows pairing Trouble.Reports (writeService a s) (writeService b s) :=
  during_follows (h.applyAll s.targets) _

theorem writeServices_follows (h : a.Follows pairing b) (report : Report)
    (services : List ServiceSpec) :
    Follows pairing Trouble.Reports (writeServices a report services)
      (writeServices b report services) := by
  induction services generalizing report with
  | nil => exact .pure report
  | cons s rest ih => exact (writeService_follows h s).bind fun outcomes => ih _

theorem writeDocument_follows (h : a.Follows pairing b) (settings : Settings) (types : TypeIndex)
    (services : List ServiceSpec) (report : Report) :
    Follows pairing Trouble.Reports (writeDocument a settings types services report)
      (writeDocument b settings types services report) := by
  rcases writeDocument_cases settings types services with ⟨failures, hnone⟩ | ⟨bytes, hsome⟩
  · rw [hnone, hnone]
    exact .pure _
  · rw [hsome, hsome]
    exact (during_follows (h.replace _ bytes) _).bind fun action => .pure _

/-- **A whole run** follows, if each operation does. -/
theorem write_follows (h : a.Follows pairing b) (settings : Settings) (scan : Scan) :
    Follows pairing Trouble.Reports (write a settings scan) (write b settings scan) :=
  (writeServices_follows h _ scan.services).bind fun report =>
    writeDocument_follows h settings scan.types scan.services report

/-- A run with a journal gives what the run without one gives. -/
theorem run_write_journaled (sink : Sink (StateM σ)) (settings : Settings) (scan : Scan)
    (start : σ) :
    (write sink settings scan).run.run start =
      (((write sink.journaled settings scan).run.run ⟨start, []⟩).1,
        ((write sink.journaled settings scan).run.run ⟨start, []⟩).2.state) := by
  rcases (write_follows sink.journaled_follows settings scan).run ⟨start, []⟩ start rfl with
    ⟨hresult, hstate⟩ | ⟨_, _, -, -, hstopped⟩
  · exact Prod.ext hresult hstate.symm
  · exact hstopped.elim

end Runs

section CutShort

variable {τ : Type} {k : Nat} {failure : StorageFailure} {storeOf : τ → Store} {made : τ → Nat}

/-- What becomes of a run if the `k`-th operation fails: `report` and `free` are what the run gives
without a failure, `result` and `broken` what it gives with it. -/
structure CutShort (k : Nat) (failure : StorageFailure) (storeOf : τ → Store) (report : Report)
    (free : Journal Store) (result : Except Trouble Report) (broken : Journal τ) : Prop where
  /-- It ends with the failure, after the first `k` operations and in the store before the last of
  them. -/
  stopped : k ≤ free.entries.length →
    (∃ steps, result = .error ⟨steps, .storage failure⟩) ∧
      broken.operations = free.operations.take k ∧
      free.entries[k - 1]?.map (·.before) = some (storeOf broken.state)
  /-- There are fewer operations than `k`, and nothing happens to them. -/
  finished : free.entries.length < k →
    result = .ok report ∧ broken.operations = free.operations ∧
      storeOf broken.state = free.state

/-- **A failure ends the run.** A run through a sink whose `k`-th operation fails makes the first `k`
operations of the run on the store, and no others; then it reports the failure. The journals only
show what the two runs do. -/
theorem stops_at_failure {sink : Sink (StateM τ)} (hsink : sink.FailsAt k failure storeOf made)
    (hk : 0 < k) (settings : Settings) (scan : Scan) {start : τ} (hstart : made start = 0) :
    ∃ report free result broken,
      (write Store.sink.journaled settings scan).run.run ⟨storeOf start, []⟩ =
        (.ok report, free) ∧
      (write Store.sink settings scan).run.run (storeOf start) = (.ok report, free.state) ∧
      (write sink.journaled settings scan).run.run ⟨start, []⟩ = (result, broken) ∧
      (write sink settings scan).run.run start = (result, broken.state) ∧
      CutShort k failure storeOf report free result broken := by
  have hstep : (upToFailure k failure storeOf made).inStep ⟨storeOf start, []⟩ ⟨start, []⟩ :=
    ⟨rfl, rfl, hstart, hk⟩
  have hfollows := (write_follows hsink.follows settings scan).run _ _ hstep
  have hplain := run_write_journaled Store.sink settings scan (storeOf start)
  have hplain' := run_write_journaled sink settings scan start
  obtain ⟨report, final, hreport, -⟩ := run_write settings scan (storeOf start)
  rcases hfree : (write Store.sink.journaled settings scan).run.run ⟨storeOf start, []⟩ with
    ⟨result₀, free⟩
  rcases hbroken : (write sink.journaled settings scan).run.run ⟨start, []⟩ with ⟨result, broken⟩
  rw [hfree] at hfollows hplain
  rw [hbroken] at hfollows hplain'
  have hresult₀ : result₀ = .ok report := (congrArg Prod.fst (hplain.symm.trans hreport))
  subst hresult₀
  refine ⟨report, free, result, broken, rfl, hplain, rfl, hplain', ?_⟩
  rcases hfollows with ⟨hresult, hoperations, hstore, -, hlength⟩ |
    ⟨f, e, hresult, he, hf, hlength, hoperations, hbefore⟩
  · exact ⟨fun h => absurd hlength (Nat.not_lt.2 h), fun _ => ⟨hresult, hoperations, hstore⟩⟩
  · refine ⟨fun _ => ⟨⟨e.steps, ?_⟩, hoperations, hbefore⟩, fun h => absurd hlength (Nat.not_le.2 h)⟩
    rw [← hf, ← he]
    exact hresult

end CutShort

/-- The second file of a service cannot be written. -/
theorem stops_at_failure_ping :
    (Store.sink.interrupted 4 ⟨⟨"src"⟩, "disk full"⟩).FailsAt 4 ⟨⟨"src"⟩, "disk full"⟩
        Prod.fst Prod.snd ∧
      ∃ steps state,
        (write (Store.sink.interrupted 4 ⟨⟨"src"⟩, "disk full"⟩) { input := ⟨"src"⟩ }
            { services := [pingService] }).run.run ({}, 0) =
          (.error ⟨steps, .storage ⟨⟨"src"⟩, "disk full"⟩⟩, state) := by
  have hsink := failsAt_interrupted 4 ⟨⟨"src"⟩, "disk full"⟩
  obtain ⟨report, free, result, broken, hfree, -, -, hrun, hcut⟩ :=
    stops_at_failure hsink (by decide) { input := ⟨"src"⟩ } { services := [pingService] }
      (rfl : Prod.snd (({}, 0) : Store × Nat) = 0)
  have hlength : 4 ≤ ((write Store.sink.journaled { input := ⟨"src"⟩ }
      { services := [pingService] }).run.run ⟨{}, []⟩).2.entries.length := by
    decide +kernel
  rw [hfree] at hlength
  obtain ⟨⟨steps, hresult⟩, -⟩ := hcut.stopped hlength
  exact ⟨hsink, steps, broken.state, by rw [hrun, hresult]⟩

end Generation

end TransportGen
