import TransportGen.Proofs.Generation.Regeneration

/-!
# Dry runs

A dry run reads the files that a run would read, and writes none. It meets every file as it was at
the start, and so does the run itself where the paths are different: `outcomes_eq_foreseen` for the
files of services, `dryRun_predicts` for the whole report.
-/

namespace TransportGen.Store

/-! ## Files -/

/-- What would happen to generated files, if each met the store as it is. -/
def foreseen (store : Store) (targets : List (FilePath × Bytes)) : List FileOutcome :=
  targets.map fun target => ⟨target.1, store.actionAt target.1 target.2⟩

theorem actionAt_congr {a b : Store} {path : FilePath} (h : a.get? path = b.get? path)
    (new : Bytes) : a.actionAt path new = b.actionAt path new := by
  simp only [actionAt, h]

theorem run_writeIf_readOnly (store : Store) (path : FilePath) (new : Bytes)
    (action : WriteAction) :
    (do if action.writes then sink.readOnly.write path new
        pure action : ExceptT StorageFailure (StateM Store) WriteAction).run.run store =
      (.ok action, store) := by
  cases action.writes <;> rfl

theorem run_apply_readOnly (store : Store) (path : FilePath) (new : Bytes) :
    (sink.readOnly.apply path new).run.run store = (.ok (store.actionAt path new), store) :=
  run_writeIf_readOnly store path new (store.actionAt path new)

theorem run_replace_readOnly (store : Store) (path : FilePath) (new : Bytes) :
    (sink.readOnly.replace path new).run.run store =
      (.ok (Sink.replacement (store.get? path) new), store) :=
  run_writeIf_readOnly store path new (Sink.replacement (store.get? path) new)

theorem run_applyAll_readOnly (store : Store) (targets : List (FilePath × Bytes)) :
    (sink.readOnly.applyAll targets).run.run store = (.ok (store.foreseen targets), store) := by
  induction targets with
  | nil => rfl
  | cons target rest ih =>
    rw [Sink.applyAll, run_bind (run_apply_readOnly store target.1 target.2), run_bind ih]
    rfl

/-- **Nothing is read that was written before.** Where the paths are different, the outcomes of a
run are those that are foreseen in any store that holds the same files at these paths. -/
theorem outcomes_eq_foreseen {a b : Store} {targets : List (FilePath × Bytes)}
    (hpaths : targets.Pairwise fun x y => x.1.key ≠ y.1.key)
    (hsame : ∀ target ∈ targets, a.get? target.1 = b.get? target.1) :
    a.outcomes targets = b.foreseen targets := by
  induction targets generalizing a with
  | nil => rfl
  | cons first rest ih =>
    obtain ⟨hfirst, hrest⟩ := List.pairwise_cons.1 hpaths
    rw [List.forall_mem_cons] at hsame
    have hlater : ∀ target ∈ rest,
        (a.settleAt first.1 first.2).get? target.1 = b.get? target.1 := by
      intro target htarget
      rw [get?_settleAt, if_neg (hfirst target htarget).symm]
      exact hsame.2 target htarget
    rw [outcomes, ih hrest hlater, actionAt_congr hsame.1]
    rfl

end TransportGen.Store

namespace TransportGen.Generation

open Store

/-! ## Runs -/

/-- The report with what is foreseen for services added. -/
def foreseenReport (store : Store) (report : Report) (services : List ServiceSpec) : Report :=
  services.foldl (fun report s => report.addService s.interfaceName (store.foreseen s.targets))
    report

theorem run_writeServices_readOnly (store : Store) (report : Report)
    (services : List ServiceSpec) :
    (writeServices sink.readOnly report services).run.run store =
      (.ok (foreseenReport store report services), store) := by
  induction services generalizing report with
  | nil => rfl
  | cons s rest ih =>
    have hservice : (writeService sink.readOnly s).run.run store =
        (.ok (store.foreseen s.targets), store) :=
      run_during _ _ (run_applyAll_readOnly store s.targets)
    rw [writeServices, run_bind hservice, ih]
    rfl

theorem reportAfter_eq_foreseenReport {a b : Store} {services : List ServiceSpec}
    (hpaths : (targetsOf services).Pairwise fun x y => x.1.key ≠ y.1.key)
    (hsame : ∀ target ∈ targetsOf services, a.get? target.1 = b.get? target.1)
    (report : Report) : reportAfter a report services = foreseenReport b report services := by
  induction services generalizing a report with
  | nil => rfl
  | cons s rest ih =>
    rw [targetsOf_cons] at hpaths hsame
    obtain ⟨hfirst, hrest, hbetween⟩ := List.pairwise_append.1 hpaths
    rw [List.forall_mem_append] at hsame
    have hlater : ∀ target ∈ targetsOf rest,
        (a.settleAll s.targets).get? target.1 = b.get? target.1 := by
      intro target htarget
      rw [get?_settleAll_of_ne a fun first hmem => (hbetween first hmem target htarget).symm]
      exact hsame.2 target htarget
    rw [reportAfter, ih hrest hlater, outcomes_eq_foreseen hfirst hsame.1]
    rfl

/-- **A dry run predicts the run.** Where the paths of the files of services are different, it gives
the report of the run, and leaves the store as it is. -/
theorem dryRun_predicts (settings : Settings) (scan : Scan) (store : Store)
    (hpaths : (targetsOf scan.services).Pairwise fun a b => a.1.key ≠ b.1.key) :
    ∃ report final, (write sink settings scan).run.run store = (.ok report, final) ∧
      (write sink.readOnly settings scan).run.run store = (.ok report, store) := by
  have hfiles : filesReport store scan =
      foreseenReport store { failures := scan.failures } scan.services :=
    reportAfter_eq_foreseenReport hpaths (fun _ _ => rfl) _
  have hdocument : (store.settleAll (targetsOf scan.services)).get? settings.documentPath =
      store.get? settings.documentPath :=
    get?_settleAll_of_ne store fun _ h => (key_ne_documentPath settings h).symm
  have hreal : (write sink settings scan).run.run store =
      (writeDocument sink settings scan.types scan.services (filesReport store scan)).run.run
        (store.settleAll (targetsOf scan.services)) :=
    run_bind (run_writeServices store { failures := scan.failures } scan.services)
  have hdry : (write sink.readOnly settings scan).run.run store =
      (writeDocument sink.readOnly settings scan.types scan.services
        (filesReport store scan)).run.run store := by
    rw [hfiles]
    exact run_bind (run_writeServices_readOnly store { failures := scan.failures } scan.services)
  rw [hreal, hdry]
  rcases writeDocument_cases settings scan.types scan.services with ⟨failures, h⟩ | ⟨bytes, h⟩
  · rw [h, h]
    exact ⟨_, _, rfl, rfl⟩
  · rw [h, h, run_bind (run_during _ _ (run_replace _ _ bytes)),
      run_bind (run_during _ _ (run_replace_readOnly store _ bytes)), hdocument]
    exact ⟨_, _, rfl, rfl⟩

/-- A store in which somebody has written the file of a mock. -/
def ownMockStore : Store := ({} : Store).put ⟨"src/ping/mock.rs"⟩ (Text.utf8 "// by hand\n")

/-- A file of somebody's own may be among the targets. -/
theorem dryRun_predicts_ping :
    ((targetsOf [pingService]).Pairwise fun a b => a.1.key ≠ b.1.key) ∧
      ∃ report final,
        (write sink { input := ⟨"src"⟩ } { services := [pingService] }).run.run ownMockStore =
          (.ok report, final) ∧
        (write sink.readOnly { input := ⟨"src"⟩ } { services := [pingService] }).run.run
          ownMockStore = (.ok report, ownMockStore) := by
  have hpaths : (targetsOf [pingService]).Pairwise fun a b => a.1.key ≠ b.1.key := by
    decide +kernel
  exact ⟨hpaths, dryRun_predicts { input := ⟨"src"⟩ } { services := [pingService] } ownMockStore
    hpaths⟩

end TransportGen.Generation
