import TransportGen.Proofs.Output.Marker
import TransportGen.Proofs.Output.Writing

/-!
# Runs on a store

On the sink of a store the write part of a run never fails. First the files of all services are
settled, one after another (`run_writeServices`), then the API document, whose bytes do not depend
on the store (`run_writeDocument`). `run_write_cases` and `run_write` put the two together.
-/

namespace TransportGen.Generation

open Store

/-- The files of services, in the order in which they are written. -/
def targetsOf (services : List ServiceSpec) : List (FilePath × Bytes) :=
  services.flatMap ServiceSpec.targets

/-- The report with the outcomes of services added. -/
def reportAfter (store : Store) (report : Report) : List ServiceSpec → Report
  | [] => report
  | s :: rest =>
    reportAfter (store.settleAll s.targets)
      (report.addService s.interfaceName (store.outcomes s.targets)) rest

/-- The notices about the files of somebody's own that services would have replaced. -/
def noticesOf (store : Store) (services : List ServiceSpec) : List SkipNotice :=
  services.flatMap fun s =>
    (s.targets.filter fun target => (store.handwritten? target.1).isSome).map
      fun target => ⟨s.interfaceName, target.1⟩

theorem hasMarker_of_mem_targetsOf {services : List ServiceSpec} {target : FilePath × Bytes}
    (h : target ∈ targetsOf services) : hasMarker target.2 = true := by
  obtain ⟨s, -, htarget⟩ := List.mem_flatMap.1 h
  exact hasMarker_of_mem_targets htarget

theorem handwritten?_settleAll_targetsOf (store : Store) (services : List ServiceSpec) :
    (store.settleAll (targetsOf services)).handwritten? = store.handwritten? :=
  handwritten?_settleAll store fun _ => hasMarker_of_mem_targetsOf

theorem targetsOf_cons (s : ServiceSpec) (rest : List ServiceSpec) :
    targetsOf (s :: rest) = s.targets ++ targetsOf rest := rfl

/-! ## Services -/

theorem run_during {α : Type} {p : ExceptT StorageFailure (StateM Store) α} {store next : Store}
    {a : α} (steps : List Step) (cause : StorageFailure → Cause)
    (h : p.run.run store = (.ok a, next)) :
    (during steps cause p).run.run store = (.ok a, next) := by
  change (ExceptT.mk (Except.mapError _ <$> p.run)).run.run store = _
  rw [ExceptT.run_mk, StateT.run_map, h]
  rfl

theorem run_writeService (store : Store) (s : ServiceSpec) :
    (writeService sink s).run.run store =
      (.ok (store.outcomes s.targets), store.settleAll s.targets) :=
  run_during _ _ (run_applyAll store s.targets)

theorem run_writeServices (store : Store) (report : Report) (services : List ServiceSpec) :
    (writeServices sink report services).run.run store =
      (.ok (reportAfter store report services), store.settleAll (targetsOf services)) := by
  induction services generalizing store report with
  | nil => rfl
  | cons s rest ih =>
    rw [writeServices, run_bind (run_writeService store s), ih, targetsOf_cons, settleAll_append]
    rfl

theorem files_reportAfter (store : Store) (report : Report) (services : List ServiceSpec) :
    (reportAfter store report services).files =
      report.files ++ store.outcomes (targetsOf services) := by
  induction services generalizing store report with
  | nil => exact (List.append_nil _).symm
  | cons s rest ih =>
    rw [reportAfter, ih, targetsOf_cons, outcomes_append, ← List.append_assoc]
    rfl

theorem document_reportAfter (store : Store) (report : Report) (services : List ServiceSpec) :
    (reportAfter store report services).document = report.document := by
  induction services generalizing store report with
  | nil => rfl
  | cons s rest ih => exact ih _ _

/-- The notices of one service. -/
theorem notices_of_outcomes (store : Store) (s : ServiceSpec) :
    (((store.outcomes s.targets).filter fun outcome => outcome.action = .skip).map
        fun outcome => SkipNotice.mk s.interfaceName outcome.path) = noticesOf store [s] := by
  have hskipped := congrArg (List.map (SkipNotice.mk s.interfaceName))
    (skipped_outcomes store fun _ => hasMarker_of_mem_targets (s := s))
  simpa [noticesOf, Function.comp_def] using hskipped

/-- What is passed over is what was somebody's own when the run began. -/
theorem skipped_reportAfter (store : Store) (report : Report) (services : List ServiceSpec) :
    (reportAfter store report services).skipped = report.skipped ++ noticesOf store services := by
  induction services generalizing store report with
  | nil => exact (List.append_nil _).symm
  | cons s rest ih =>
    have hown : noticesOf (store.settleAll s.targets) rest = noticesOf store rest := by
      simp only [noticesOf, handwritten?_settleAll store fun _ => hasMarker_of_mem_targets (s := s)]
    have hsplit : noticesOf store (s :: rest) = noticesOf store [s] ++ noticesOf store rest := by
      simp [noticesOf]
    rw [reportAfter, ih, hown, hsplit, ← notices_of_outcomes, ← List.append_assoc]
    rfl

/-! ## The document -/

/-- Whether there is a document depends on the services alone. Either there is none, or its bytes
are put in the place of what the sink holds. -/
theorem writeDocument_cases (settings : Settings) (types : TypeIndex)
    (services : List ServiceSpec) :
    (∃ failures, ∀ {m : Type → Type} [Monad m] (sink : Sink m) (report : Report),
      writeDocument sink settings types services report =
        pure { report with failures := report.failures ++ failures }) ∨
    ∃ bytes, ∀ {m : Type → Type} [Monad m] (sink : Sink m) (report : Report),
      writeDocument sink settings types services report = (do
        let action ← during [.writeDocument] .storage (sink.replace settings.documentPath bytes)
        pure { report with document := some ⟨settings.documentPath, action⟩ }) := by
  by_cases hnone : (services.filter (·.has .swagger)).isEmpty = true
  · refine Or.inl ⟨[], fun sink report => ?_⟩
    simp only [writeDocument, hnone, if_true, List.append_nil]
  · cases hdocument : ApiDocument.aggregate types settings.info (services.filter (·.has .swagger))
      with
    | error failure =>
      refine Or.inl ⟨[failure], fun sink report => ?_⟩
      simp only [writeDocument, hnone, hdocument]
      rfl
    | ok document =>
      refine Or.inr ⟨Text.utf8 (document.serialize settings.format), fun sink report => ?_⟩
      simp only [writeDocument, hnone, hdocument]
      rfl

/-- **The document.** Either it is not written, whatever the store holds, or its bytes are put in
the place of what is there. -/
theorem run_writeDocument (settings : Settings) (types : TypeIndex) (services : List ServiceSpec) :
    (∃ failures, ∀ store report,
      (writeDocument sink settings types services report).run.run store =
        (.ok { report with failures := report.failures ++ failures }, store)) ∨
    ∃ bytes, ∀ store report,
      (writeDocument sink settings types services report).run.run store =
        (.ok { report with
            document := some ⟨settings.documentPath,
              Sink.replacement (store.get? settings.documentPath) bytes⟩ },
          store.settle settings.documentPath bytes
            (Sink.replacement (store.get? settings.documentPath) bytes)) := by
  rcases writeDocument_cases settings types services with ⟨failures, h⟩ | ⟨bytes, h⟩
  · refine Or.inl ⟨failures, fun store report => ?_⟩
    rw [h]
    rfl
  · refine Or.inr ⟨bytes, fun store report => ?_⟩
    rw [h]
    exact run_bind (run_during _ _ (run_replace store _ _))

/-! ## The whole run -/

/-- The report on the files of all services, before that on the document. -/
def filesReport (store : Store) (scan : Scan) : Report :=
  reportAfter store { failures := scan.failures } scan.services

theorem files_filesReport (store : Store) (scan : Scan) :
    (filesReport store scan).files = store.outcomes (targetsOf scan.services) :=
  files_reportAfter store { failures := scan.failures } scan.services

theorem skipped_filesReport (store : Store) (scan : Scan) :
    (filesReport store scan).skipped = noticesOf store scan.services :=
  skipped_reportAfter store { failures := scan.failures } scan.services

theorem document_filesReport (store : Store) (scan : Scan) :
    (filesReport store scan).document = none :=
  document_reportAfter store { failures := scan.failures } scan.services

/-- **A run.** All files are settled, and then the document is written or not, whatever the store
holds. -/
theorem run_write_cases (settings : Settings) (scan : Scan) :
    (∃ failures, ∀ store, (write sink settings scan).run.run store =
      (.ok { filesReport store scan with
          failures := (filesReport store scan).failures ++ failures },
        store.settleAll (targetsOf scan.services))) ∨
    ∃ bytes, ∀ store action, action = Sink.replacement
        ((store.settleAll (targetsOf scan.services)).get? settings.documentPath) bytes →
      (write sink settings scan).run.run store =
        (.ok { filesReport store scan with document := some ⟨settings.documentPath, action⟩ },
          (store.settleAll (targetsOf scan.services)).settle
            settings.documentPath bytes action) := by
  have hservices : ∀ store, (write sink settings scan).run.run store =
      (writeDocument sink settings scan.types scan.services (filesReport store scan)).run.run
        (store.settleAll (targetsOf scan.services)) :=
    fun store => run_bind (run_writeServices store { failures := scan.failures } scan.services)
  rcases run_writeDocument settings scan.types scan.services with ⟨failures, h⟩ | ⟨bytes, h⟩
  · exact Or.inl ⟨failures, fun store => (hservices store).trans (h _ _)⟩
  · refine Or.inr ⟨bytes, fun store action haction => ?_⟩
    rw [hservices store, h, haction]

/-- What a run on a store leaves. -/
structure Finished (settings : Settings) (services : List ServiceSpec) (store : Store)
    (report : Report) (final : Store) : Prop where
  files : report.files = store.outcomes (targetsOf services)
  skipped : report.skipped = noticesOf store services
  get? : ∀ path, path.key ≠ settings.documentPath.key →
    final.get? path = (store.settleAll (targetsOf services)).get? path
  writes : final.writes = (store.settleAll (targetsOf services)).writes +
    if report.document.any (·.action.writes) then 1 else 0

/-- **A run finishes.** No run on a store fails. -/
theorem run_write (settings : Settings) (scan : Scan) (store : Store) :
    ∃ report final, (write sink settings scan).run.run store = (.ok report, final) ∧
      Finished settings scan.services store report final := by
  have hfiles := files_filesReport store scan
  have hskipped := skipped_filesReport store scan
  rcases run_write_cases settings scan with ⟨failures, h⟩ | ⟨bytes, h⟩
  · refine ⟨_, _, h store, hfiles, hskipped, fun _ _ => rfl, ?_⟩
    simp [document_filesReport]
  · refine ⟨_, _, h store _ rfl, hfiles, hskipped, fun path hpath => ?_, ?_⟩
    · simp [get?_settle, hpath]
    · simp [writes_settle]

end TransportGen.Generation
