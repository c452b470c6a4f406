import TransportGen.Proofs.Generation.Targets
import TransportGen.Proofs.Generation.Writing

/-!
# Files that are somebody's own

A run on a store touches the files that carry the marker, the paths that it generates files for, and
the API document, and nothing else (`handwritten_kept`).
-/

namespace TransportGen.Generation

open Store

theorem countP_writes (outcomes : List FileOutcome) :
    outcomes.countP (·.action.writes) =
      (outcomes.filter fun outcome => outcome.action = .create).length +
        (outcomes.filter fun outcome => outcome.action = .overwrite).length := by
  induction outcomes with
  | nil => rfl
  | cons outcome rest ih =>
    rw [List.countP_cons, ih, List.filter_cons, List.filter_cons]
    cases outcome.action <;> simp [WriteAction.writes] <;> omega

/-- What a run leaves of the contents of a file that is somebody's own. -/
theorem Finished.get?_handwritten {settings : Settings} {services : List ServiceSpec}
    {store final : Store} {report : Report} (h : Finished settings services store report final)
    {path : FilePath} {bytes : Bytes} (hpath : path.key ≠ settings.documentPath.key)
    (hbytes : store.get? path = some bytes) (hmarker : hasMarker bytes = false) :
    final.get? path = some bytes := by
  have hown := congrFun (handwritten?_settleAll_targetsOf store services) path
  rw [handwritten?_eq_some_iff.2 ⟨hbytes, hmarker⟩] at hown
  rw [h.get? path hpath]
  exact (handwritten?_eq_some_iff.1 hown).1

/-- **Hand-written files are never touched.** A run on a store finishes. Apart from the document, a
file without the marker keeps its bytes, and a path that nothing is generated for keeps what it
holds. The report has one notice for each generated file that met a file without the marker, and one
outcome for each generated file; each outcome that says so is one write. -/
theorem handwritten_kept (settings : Settings) (scan : Scan) (store : Store) :
    ∃ report final, (write sink settings scan).run.run store = (.ok report, final) ∧
      (∀ path bytes, path.key ≠ settings.documentPath.key → store.get? path = some bytes →
        hasMarker bytes = false → final.get? path = some bytes) ∧
      (∀ path, (∀ target ∈ targetsOf scan.services, path.key ≠ target.1.key) →
        path.key ≠ settings.documentPath.key → final.get? path = store.get? path) ∧
      report.skipped = noticesOf store scan.services ∧
      report.files.map FileOutcome.path = (targetsOf scan.services).map Prod.fst ∧
      final.writes = store.writes + (report.count .create + report.count .overwrite) +
        if report.document.any (fun outcome =>
          outcome.action = .create ∨ outcome.action = .overwrite) then 1 else 0 := by
  obtain ⟨report, final, hrun, h⟩ := run_write settings scan store
  refine ⟨report, final, hrun, fun _ _ => h.get?_handwritten, ?_, h.skipped, ?_, ?_⟩
  · intro path htargets hpath
    rw [h.get? path hpath, get?_settleAll_of_ne store htargets]
  · rw [h.files, map_path_outcomes]
  · have hwrites : ∀ action : WriteAction,
        action.writes = decide (action = .create ∨ action = .overwrite) := by
      intro action
      cases action <;> rfl
    rw [h.writes, writes_settleAll, ← h.files, countP_writes]
    simp only [hwrites]
    rfl

end TransportGen.Generation
