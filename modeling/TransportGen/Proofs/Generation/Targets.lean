import TransportGen.Proofs.FilePath
import TransportGen.Generation

/-!
# Where files are written

The files of a service have fixed paths below its directory, `Processor.paths` for each kind. The
API document has a name that none of them has, so it never takes the place of a file of a service
(`documentPath_key_ne`).
-/

namespace TransportGen

/-- The paths of the files of a kind, below the directory of the service. -/
def Processor.paths : Processor → List (List String)
  | .httpServer => [["httpserver", "mod.rs"], ["httpserver", "server.rs"],
      ["httpserver", "transport.rs"]]
  | .httpClient | .httpsClient => [["httpclient", "mod.rs"], ["httpclient", "client.rs"],
      ["httpclient", "transport.rs"]]
  | .httpErrors => [["httperrors", "mod.rs"], ["httperrors", "ui.rs"], ["httperrors", "client.rs"]]
  | .metrics => [["instrumenting.rs"]]
  | .log => [["logging.rs"]]
  | .mock => [["mock.rs"]]
  | .swagger => []

theorem map_path_files (kind : Processor) (s : ServiceSpec) :
    (kind.files s).map SourceFile.path = kind.paths := by
  cases kind <;> rfl

/-- The paths of all files that a service may have, below its directory. -/
def artifactPaths : List (List String) := ["mod.rs"] :: Processor.all.flatMap Processor.paths

theorem path_mem_of_mem_sources {s : ServiceSpec} {file : SourceFile} (h : file ∈ s.sources) :
    file.path ∈ artifactPaths := by
  unfold ServiceSpec.sources at h
  split at h
  · cases h
  · rcases List.mem_append.1 h with h | h
    · obtain ⟨kind, -, hfile⟩ := List.mem_flatMap.1 h
      refine List.mem_cons_of_mem _ (List.mem_flatMap.2 ⟨kind, kind.mem_all, ?_⟩)
      rw [← map_path_files kind s]
      exact List.mem_map_of_mem hfile
    · rw [List.mem_singleton.1 h]
      exact List.mem_cons_self

theorem isStep_of_mem_artifactPaths :
    ∀ names ∈ artifactPaths, ∀ name ∈ names, FilePath.IsStep name := by
  decide +kernel

/-- The key of a target: the directory of the service, and below it one of the fixed paths. -/
theorem key_of_mem_targets {s : ServiceSpec} {target : FilePath × Bytes} (h : target ∈ s.targets) :
    ∃ names ∈ artifactPaths,
      target.1.key = s.outputDir.key ++ names.map fun name => "3" ++ name := by
  obtain ⟨file, hfile, rfl⟩ := List.mem_map.1 h
  obtain ⟨source, hsource, rfl⟩ := List.mem_map.1 hfile
  have hpath := path_mem_of_mem_sources hsource
  exact ⟨source.path, hpath,
    FilePath.key_foldl_child s.outputDir (isStep_of_mem_artifactPaths _ hpath)⟩

theorem isStep_fileName (format : DocumentFormat) : FilePath.IsStep format.fileName := by
  cases format <;> decide +kernel

theorem key_documentPath (settings : Settings) :
    settings.documentPath.key =
      (settings.documentDir.getD settings.input).key ++ ["3" ++ settings.format.fileName] := by
  have hstep : ∀ name ∈ [settings.format.fileName], FilePath.IsStep name := by
    simpa using isStep_fileName settings.format
  have hkey := FilePath.key_foldl_child (settings.documentDir.getD settings.input) hstep
  rwa [List.foldl_cons, List.foldl_nil, List.map_singleton] at hkey

theorem getLast?_artifactPaths_ne (format : DocumentFormat) :
    ∀ names ∈ artifactPaths, ∃ last,
      (names.map fun name => "3" ++ name).getLast? = some last ∧ last ≠ "3" ++ format.fileName := by
  cases format <;> decide +kernel

/-- **The document is a file of its own.** No file of a service has its path. -/
theorem documentPath_key_ne (settings : Settings) {s : ServiceSpec} {target : FilePath × Bytes}
    (h : target ∈ s.targets) : target.1.key ≠ settings.documentPath.key := by
  obtain ⟨names, hnames, hkey⟩ := key_of_mem_targets h
  obtain ⟨last, hlast, hne⟩ := getLast?_artifactPaths_ne settings.format names hnames
  intro heq
  have hends : (settings.documentPath.key).getLast? = some last := by
    rw [← heq, hkey, List.getLast?_append, hlast]
    rfl
  rw [key_documentPath, List.getLast?_concat] at hends
  exact hne (Option.some.inj hends).symm

end TransportGen
