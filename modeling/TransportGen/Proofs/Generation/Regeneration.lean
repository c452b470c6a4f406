import TransportGen.Proofs.Generation.Targets
import TransportGen.Proofs.Generation.Writing
import TransportGen.Proofs.Text.Utf8

/-!
# Runs after runs

What a run leaves where it generates files does not depend on the runs before it, and a second run
finds nothing to do (`regeneration_stable`). This rests on three facts.

* `handwritten?_storeAfterRuns`: no run adds or takes away a file that is somebody's own, at a path
  that files of services are written to.
* `run_write_again`: a run that finds its own files in place writes nothing.
* `Scan.passesOver_of_hasMarker`: a scan passes over every file that carries the marker.
-/

namespace TransportGen

/-! ## Scans of generated files -/

theorem Files.readText_eq {m : Type → Type} [Monad m] [LawfulMonad m] {files : Files m}
    {path : FilePath} {text : String} (h : files.read path = pure (Text.utf8 text)) :
    files.readText path = pure text := by
  rw [Files.readText, h, pure_bind, Text.decode?_utf8]

/-- Scans pass over the files with a text, wherever they meet it. -/
def Scan.PassesOver (text : String) : Prop :=
  ∀ (m : Type → Type) [Monad m] [LawfulMonad m] (files : Files m) (root path : FilePath)
    (rest : List FilePath), files.read path = pure (Text.utf8 text) →
      readSources files root (path :: rest) = readSources files root rest

theorem Scan.passesOver_of_hasMarker {text : String} (hmarker : hasMarker (Text.utf8 text) = true) :
    PassesOver text := by
  intro m _ _ files root path rest h
  have hread : during [.read path] .access (files.readText path) = pure text := by
    rw [during, Files.readText_eq h]
    exact map_pure _ _
  rw [readSources, hread, pure_bind, if_pos hmarker]

namespace Generation

open Store

/-- The store after a run. -/
def storeAfter (settings : Settings) (scan : Scan) (store : Store) : Store :=
  ((write sink settings scan).run.run store).2

/-- The store after runs, one after another. -/
def storeAfterRuns (runs : List (Settings × Scan)) (store : Store) : Store :=
  runs.foldl (fun store run => storeAfter run.1 run.2 store) store

theorem run_write_storeAfter (settings : Settings) (scan : Scan) (store : Store) :
    ∃ report, (write sink settings scan).run.run store =
        (.ok report, storeAfter settings scan store) ∧
      Finished settings scan.services store report (storeAfter settings scan store) := by
  obtain ⟨report, final, hrun, h⟩ := run_write settings scan store
  have hfinal : storeAfter settings scan store = final := by rw [storeAfter, hrun]
  exact ⟨report, hfinal ▸ hrun, hfinal ▸ h⟩

/-! ## Earlier runs -/

theorem handwritten?_storeAfter (settings : Settings) (scan : Scan) (store : Store)
    {path : FilePath} (hpath : path.key ≠ settings.documentPath.key) :
    (storeAfter settings scan store).handwritten? path = store.handwritten? path := by
  obtain ⟨_, -, h⟩ := run_write_storeAfter settings scan store
  rw [handwritten?_congr (h.get? path hpath), handwritten?_settleAll_targetsOf]

theorem key_ne_documentPath (settings : Settings) {services : List ServiceSpec}
    {target : FilePath × Bytes} (h : target ∈ targetsOf services) :
    target.1.key ≠ settings.documentPath.key := by
  obtain ⟨s, -, htarget⟩ := List.mem_flatMap.1 h
  exact documentPath_key_ne settings htarget

/-- **Runs keep what is somebody's own.** -/
theorem handwritten?_storeAfterRuns (runs : List (Settings × Scan)) (store : Store)
    {services : List ServiceSpec} {target : FilePath × Bytes} (h : target ∈ targetsOf services) :
    (storeAfterRuns runs store).handwritten? target.1 = store.handwritten? target.1 := by
  induction runs generalizing store with
  | nil => rfl
  | cons run rest ih =>
    exact (ih _).trans (handwritten?_storeAfter run.1 run.2 store (key_ne_documentPath run.1 h))

/-! ## The same run again -/

/-- What a run leaves at a path that it generates a file for. -/
theorem get?_storeAfter (settings : Settings) (scan : Scan) (store : Store)
    (hkeys : (targetsOf scan.services).Pairwise fun a b => a.1.key ≠ b.1.key)
    {target : FilePath × Bytes} (h : target ∈ targetsOf scan.services) :
    (storeAfter settings scan store).get? target.1 =
      some ((store.handwritten? target.1).getD target.2) := by
  obtain ⟨_, -, hfinished⟩ := run_write_storeAfter settings scan store
  rw [hfinished.get? _ (key_ne_documentPath settings h), get?_settleAll store hkeys h]

theorem storeAfter_inPlace (settings : Settings) (scan : Scan) (store : Store)
    (hkeys : (targetsOf scan.services).Pairwise fun a b => a.1.key ≠ b.1.key) :
    ∀ target ∈ targetsOf scan.services, (storeAfter settings scan store).get? target.1 =
      some (((storeAfter settings scan store).handwritten? target.1).getD target.2) := by
  intro target htarget
  rw [handwritten?_storeAfter settings scan store (key_ne_documentPath settings htarget)]
  exact get?_storeAfter settings scan store hkeys htarget

theorem get?_settle_replacement (store : Store) (path : FilePath) (new : Bytes) :
    (store.settle path new (Sink.replacement (store.get? path) new)).get? path = some new := by
  rw [get?_settle]
  cases h : store.get? path with
  | none => simp [Sink.replacement, WriteAction.writes]
  | some bytes =>
    by_cases hbytes : bytes = new
    · simp [Sink.replacement, WriteAction.writes, hbytes]
    · simp [Sink.replacement, WriteAction.writes, hbytes]

/-- **A run on its own result does nothing.** -/
theorem run_write_again (settings : Settings) (scan : Scan) (store : Store)
    (hkeys : (targetsOf scan.services).Pairwise fun a b => a.1.key ≠ b.1.key) :
    ∃ report, (write sink settings scan).run.run (storeAfter settings scan store) =
        (.ok report, storeAfter settings scan store) ∧
      (∀ outcome ∈ report.files, outcome.action = .unchanged ∨ outcome.action = .skip) ∧
      ∀ outcome ∈ report.document, outcome.action = .unchanged := by
  obtain ⟨hactions, hstore⟩ := settleAll_eq_self (storeAfter_inPlace settings scan store hkeys)
  rw [← files_filesReport] at hactions
  rcases run_write_cases settings scan with ⟨failures, h⟩ | ⟨bytes, h⟩
  · have hrun := h (storeAfter settings scan store)
    rw [hstore] at hrun
    refine ⟨_, hrun, hactions, ?_⟩
    simp [document_filesReport]
  · -- the first run has left the bytes of the document, which do not depend on the store
    have hfirst : (storeAfter settings scan store).get? settings.documentPath = some bytes := by
      rw [storeAfter, h store _ rfl]
      exact get?_settle_replacement _ _ _
    have hunchanged : WriteAction.unchanged = Sink.replacement
        (((storeAfter settings scan store).settleAll (targetsOf scan.services)).get?
          settings.documentPath) bytes := by
      rw [hstore, hfirst]
      exact (if_pos rfl).symm
    have hrun := h (storeAfter settings scan store) _ hunchanged
    rw [hstore] at hrun
    refine ⟨_, hrun, hactions, ?_⟩
    simp

/-- **Regeneration does not depend on history.** After any runs, a run whose paths are different
leaves at each of them what it would have left at the start: what was somebody's own there, or else
the generated bytes. The same run again writes nothing, and passes over each file or finds it, and
the document, up to date. Every file of every service belongs to the generator for later runs, and
later scans pass over it. -/
theorem regeneration_stable (settings : Settings) (scan : Scan) (earlier : List (Settings × Scan))
    (store : Store)
    (hkeys : (targetsOf scan.services).Pairwise fun a b => a.1.key ≠ b.1.key) :
    (∀ target ∈ targetsOf scan.services,
      (storeAfter settings scan (storeAfterRuns earlier store)).get? target.1 =
        some ((store.handwritten? target.1).getD target.2) ∧
      (storeAfter settings scan (storeAfterRuns earlier store)).get? target.1 =
        (storeAfter settings scan store).get? target.1) ∧
    (∃ report, (write sink settings scan).run.run (storeAfterRuns earlier store) =
      (.ok report, storeAfter settings scan (storeAfterRuns earlier store))) ∧
    (∃ report, (write sink settings scan).run.run
          (storeAfter settings scan (storeAfterRuns earlier store)) =
        (.ok report, storeAfter settings scan (storeAfterRuns earlier store)) ∧
      (∀ outcome ∈ report.files, outcome.action = .unchanged ∨ outcome.action = .skip) ∧
      ∀ outcome ∈ report.document, outcome.action = .unchanged) ∧
    ∀ s : ServiceSpec, ∀ file ∈ s.files,
      FileState.of (some (Text.utf8 file.content)) = .generated ∧
      Scan.PassesOver file.content := by
  refine ⟨fun target htarget => ?_, ?_, run_write_again settings scan _ hkeys, ?_⟩
  · have hafter := get?_storeAfter settings scan (storeAfterRuns earlier store) hkeys htarget
    rw [handwritten?_storeAfterRuns earlier store htarget] at hafter
    exact ⟨hafter, hafter.trans (get?_storeAfter settings scan store hkeys htarget).symm⟩
  · obtain ⟨report, hrun, -⟩ := run_write_storeAfter settings scan (storeAfterRuns earlier store)
    exact ⟨report, hrun⟩
  · intro s file hfile
    have hmarker := hasMarker_of_mem_files hfile
    exact ⟨if_pos hmarker, Scan.passesOver_of_hasMarker hmarker⟩

/-- A service of one trait in `src/lib.rs`. -/
def pingService : ServiceSpec where
  interfaceName := "Ping"
  methods := []
  importPath := "crate::Ping"
  modulePath := "crate"
  sourcePath := ⟨"src/lib.rs"⟩
  processors := [.metrics, .mock]
  errorType := none
  errorVariants := none
  imports := []
  document := {}

/-- A run after one that met each path twice. -/
theorem regeneration_ping :
    ((targetsOf [pingService]).Pairwise fun a b => a.1.key ≠ b.1.key) ∧
      ∀ target ∈ targetsOf [pingService],
        (storeAfter { input := ⟨"src"⟩ } { services := [pingService] }
          (storeAfterRuns [({ input := ⟨"src"⟩ }, { services := [pingService, pingService] })]
            {})).get? target.1 = some target.2 := by
  have hpaths : (targetsOf [pingService]).Pairwise fun a b => a.1.key ≠ b.1.key := by
    decide +kernel
  refine ⟨hpaths, fun target htarget => ?_⟩
  exact ((regeneration_stable { input := ⟨"src"⟩ } { services := [pingService] }
    [({ input := ⟨"src"⟩ }, { services := [pingService, pingService] })] {} hpaths).1
      target htarget).1

end Generation

end TransportGen
