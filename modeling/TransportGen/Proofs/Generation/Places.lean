import Mathlib.Data.List.Flatten
import Mathlib.Data.List.Nodup
import TransportGen.Proofs.Generation.Targets
import TransportGen.Proofs.Generation.Writing
import TransportGen.Proofs.Service.Build
import TransportGen.Proofs.Service.Selection

/-!
# Services that write the same file

Two services write the same file exactly if they have one directory, or one of them has the
directory of a part that the other one generates (`ServiceSpec.apart_iff`). The services of a scan
may meet in this way: traits of one file with one name share a directory, whatever modules of the
file they are declared in (`meets_of_same_file`, `not_apart_twins`).
-/

namespace TransportGen

/-! ## Paths of a service -/

namespace ServiceSpec

/-- The paths of the files of a service, below its directory. -/
def paths (s : ServiceSpec) : List (List String) := s.sources.map SourceFile.path

theorem map_key_targets (s : ServiceSpec) :
    s.targets.map (·.1.key) =
      s.paths.map fun names => s.outputDir.key ++ names.map fun name => "3" ++ name := by
  simp only [targets, files, paths, List.map_map]
  refine List.map_congr_left fun file hfile => ?_
  exact FilePath.key_foldl_child s.outputDir
    (isStep_of_mem_artifactPaths _ (path_mem_of_mem_sources hfile))

theorem mem_artifactPaths_of_mem_paths {s : ServiceSpec} {names : List String}
    (h : names ∈ s.paths) : names ∈ artifactPaths := by
  obtain ⟨file, hfile, rfl⟩ := List.mem_map.1 h
  exact path_mem_of_mem_sources hfile

theorem paths_eq (s : ServiceSpec) :
    s.paths = [] ∨ s.paths = s.processors.flatMap Processor.paths ++ [["mod.rs"]] := by
  unfold paths sources
  split
  · exact Or.inl rfl
  · have hkinds : s.kindFiles.map SourceFile.path = s.processors.flatMap Processor.paths := by
      rw [kindFiles, List.map_flatMap]
      simp only [map_path_files]
    right
    rw [List.map_append, hkinds]
    rfl

theorem root_mem_paths {s : ServiceSpec} (h : s.paths ≠ []) : ["mod.rs"] ∈ s.paths := by
  rcases s.paths_eq with hnil | hpaths
  · exact absurd hnil h
  · rw [hpaths]
    exact List.mem_concat_self

/-! ## Two services -/

/-- No file of the one is a file of the other. -/
def Apart (s t : ServiceSpec) : Prop :=
  ∀ a ∈ s.targets, ∀ b ∈ t.targets, a.1.key ≠ b.1.key

/-- A service has files in a directory of its own, which is where the other service is generated. -/
def Holds (s t : ServiceSpec) : Prop :=
  ∃ part, [part, "mod.rs"] ∈ s.paths ∧ t.outputDir.key = s.outputDir.key ++ ["3" ++ part]

/-- Two services with files have one directory, or one of them is inside the other. -/
def Meets (s t : ServiceSpec) : Prop :=
  s.paths ≠ [] ∧ t.paths ≠ [] ∧ (s.outputDir.key = t.outputDir.key ∨ s.Holds t ∨ t.Holds s)

end ServiceSpec

/-- A file of a service stands in its directory, or in a directory of a part; both kinds of files
are called alike only if they declare modules. -/
theorem artifactPaths_shape : ∀ names ∈ artifactPaths,
    (∃ file, names = [file]) ∨ ∃ part file, names = [part, file] ∧
      ([file] ∈ artifactPaths → file = "mod.rs") := by
  have hlength : ∀ names ∈ artifactPaths, names.length = 1 ∨ names.length = 2 ∧
      (names.drop 1 ∈ artifactPaths → names.drop 1 = ["mod.rs"]) := by
    decide +kernel
  intro names hnames
  rcases hlength names hnames with h | ⟨h, hfile⟩
  · exact Or.inl (List.length_eq_one_iff.1 h)
  · obtain ⟨part, file, rfl⟩ := List.length_eq_two.1 h
    exact Or.inr ⟨part, file, rfl, fun hmem => List.singleton_inj.1 (hfile hmem)⟩

namespace ServiceSpec

variable {s t : ServiceSpec}

theorem apart_iff_paths :
    s.Apart t ↔ ∀ a ∈ s.paths, ∀ b ∈ t.paths,
      (s.outputDir.key ++ a.map fun name => "3" ++ name) ≠
        t.outputDir.key ++ b.map fun name => "3" ++ name := by
  have hkeys : s.Apart t ↔
      ∀ a ∈ s.targets.map (·.1.key), ∀ b ∈ t.targets.map (·.1.key), a ≠ b := by
    simp only [Apart, List.forall_mem_map]
  rw [hkeys, map_key_targets, map_key_targets]
  simp only [List.forall_mem_map]

/-- A file in the directory of a service that is also in a part of another one: both declare
modules, and the directory is that part. -/
theorem holds_of_append_eq {part file name : String} (hs : [part, file] ∈ s.paths)
    (ht : [name] ∈ t.paths) (hfile : [file] ∈ artifactPaths → file = "mod.rs")
    (h : (s.outputDir.key ++ [part, file].map fun name => "3" ++ name) =
      t.outputDir.key ++ [name].map fun name => "3" ++ name) : s.Holds t := by
  have hsplit : (s.outputDir.key ++ ["3" ++ part]) ++ ["3" ++ file] =
      t.outputDir.key ++ ["3" ++ name] := by
    rw [List.append_assoc]
    exact h
  obtain ⟨hdir, hname⟩ := List.append_inj' hsplit rfl
  have hnames : file = name := by
    have hlists := congrArg String.toList (List.singleton_inj.1 hname)
    exact String.toList_inj.1 (by simpa using hlists)
  have hmod : file = "mod.rs" := hfile (hnames ▸ mem_artifactPaths_of_mem_paths ht)
  exact ⟨part, hmod ▸ hs, hdir.symm⟩

theorem meets_of_append_eq {a b : List String} (ha : a ∈ s.paths) (hb : b ∈ t.paths)
    (h : (s.outputDir.key ++ a.map fun name => "3" ++ name) =
      t.outputDir.key ++ b.map fun name => "3" ++ name) : s.Meets t := by
  refine ⟨List.ne_nil_of_mem ha, List.ne_nil_of_mem hb, ?_⟩
  rcases artifactPaths_shape a (mem_artifactPaths_of_mem_paths ha) with
    ⟨file, rfl⟩ | ⟨part, file, rfl, hfile⟩
  · rcases artifactPaths_shape b (mem_artifactPaths_of_mem_paths hb) with
      ⟨other, rfl⟩ | ⟨part, other, rfl, hother⟩
    · exact Or.inl (List.append_inj' h rfl).1
    · exact Or.inr (Or.inr (holds_of_append_eq hb ha hother h.symm))
  · rcases artifactPaths_shape b (mem_artifactPaths_of_mem_paths hb) with
      ⟨other, rfl⟩ | ⟨part, other, rfl, -⟩
    · exact Or.inr (Or.inl (holds_of_append_eq ha hb hfile h))
    · exact Or.inl (List.append_inj' h rfl).1

theorem Holds.exists_append_eq (h : s.Holds t) (ht : t.paths ≠ []) :
    ∃ a ∈ s.paths, ∃ b ∈ t.paths, (s.outputDir.key ++ a.map fun name => "3" ++ name) =
      t.outputDir.key ++ b.map fun name => "3" ++ name := by
  obtain ⟨part, hpart, hdir⟩ := h
  refine ⟨_, hpart, _, root_mem_paths ht, ?_⟩
  rw [hdir, List.append_assoc]
  rfl

/-- **When two services are apart.** They write different files exactly if they do not meet. -/
theorem apart_iff : s.Apart t ↔ ¬s.Meets t := by
  rw [apart_iff_paths]
  constructor
  · rintro h ⟨hs, ht, hdir | hholds | hholds⟩
    · refine h _ (root_mem_paths hs) _ (root_mem_paths ht) ?_
      rw [hdir]
    · obtain ⟨a, ha, b, hb, heq⟩ := hholds.exists_append_eq ht
      exact h a ha b hb heq
    · obtain ⟨b, hb, a, ha, heq⟩ := hholds.exists_append_eq hs
      exact h a ha b hb heq.symm
  · exact fun h a ha b hb heq => h (meets_of_append_eq ha hb heq)

end ServiceSpec

/-! ## One service -/

/-- Not both clients are selected, which would write the same files. -/
theorem selectProcessors_ok {marker : String} {lines : List String} {kinds : List Processor}
    (h : selectProcessors marker lines = .ok kinds) :
    kinds.Sublist (Processor.all.filter (· ≠ .httpClient)) ∨
      kinds.Sublist (Processor.all.filter (· ≠ .httpsClient)) := by
  have hfilter : ∀ (wanted : List Processor) (client : Processor), client ∉ wanted →
      (Processor.all.filter (wanted.contains ·)).Sublist (Processor.all.filter (· ≠ client)) := by
    intro wanted client hclient
    refine List.monotone_filter_right _ fun kind hkind => ?_
    rw [decide_eq_true_eq]
    rintro rfl
    exact hclient (List.contains_iff_mem.1 hkind)
  obtain ⟨words, -, hclients, rfl⟩ := selectProcessors_eq_ok_iff.1 h
  rw [← bothClients_iff] at hclients
  have hwanted : ∀ client : Processor, client ≠ .httpErrors → client ∉ kindsOrDefaults words →
      client ∉ withErrors (kindsOrDefaults words) := by
    intro client herrors hclient
    rw [mem_withErrors_iff, not_or, not_and_or]
    exact ⟨hclient, Or.inl herrors⟩
  by_cases hclient : .httpClient ∈ kindsOrDefaults words
  · have hsecure : .httpsClient ∉ kindsOrDefaults words := fun h => hclients ⟨hclient, h⟩
    exact Or.inr (hfilter _ _ (hwanted _ nofun hsecure))
  · exact Or.inl (hfilter _ _ (hwanted _ nofun hclient))

theorem ServiceSpec.Built.nodup_paths {index : TypeIndex} {marker : String} {decl : InterfaceDecl}
    {s : ServiceSpec} (h : Built index marker decl s) : s.paths.Nodup := by
  have hsublist : ∀ kinds : List Processor, s.processors.Sublist kinds →
      (kinds.flatMap Processor.paths ++ [["mod.rs"]]).Nodup → s.paths.Nodup := by
    intro kinds hkinds hnodup
    rcases s.paths_eq with hnil | hpaths
    · rw [hnil]
      exact .nil
    · rw [hpaths]
      exact hnodup.sublist ((hkinds.flatMap _).append_right _)
  rcases selectProcessors_ok h.processors with hkinds | hkinds
  · exact hsublist _ hkinds (by decide +kernel)
  · exact hsublist _ hkinds (by decide +kernel)

theorem ServiceSpec.Built.pairwise_targets {index : TypeIndex} {marker : String}
    {decl : InterfaceDecl} {s : ServiceSpec} (h : Built index marker decl s) :
    s.targets.Pairwise fun a b => a.1.key ≠ b.1.key := by
  have hkeys : (s.targets.map (·.1.key)).Nodup := by
    have hname : Function.Injective fun name : String => "3" ++ name := by
      intro x y hxy
      have hlists := congrArg String.toList hxy
      exact String.toList_inj.1 (by simpa using hlists)
    have hkey : Function.Injective fun names : List String =>
        s.outputDir.key ++ names.map fun name => "3" ++ name :=
      fun a b heq => List.map_injective_iff.2 hname (List.append_cancel_left heq)
    rw [ServiceSpec.map_key_targets]
    exact List.Nodup.map hkey h.nodup_paths
  exact List.pairwise_map.1 hkeys

/-- The module that declares a trait does not count: traits of one file, whose names have one
spelling in snake case, have one directory. -/
theorem ServiceSpec.Built.meets_of_same_file {index : TypeIndex} {marker : String}
    {decl other : InterfaceDecl} {s t : ServiceSpec} (hs : Built index marker decl s)
    (ht : Built index marker other t) (hpath : decl.sourcePath = other.sourcePath)
    (hname : snakeCase decl.name = snakeCase other.name) (hs_files : s.paths ≠ [])
    (ht_files : t.paths ≠ []) : s.Meets t := by
  have hsource : s.sourcePath = t.sourcePath := by rw [hs.eq, ht.eq, hpath]
  have hsnake : s.snakeName = t.snakeName := by rw [snakeName, snakeName, hs.eq, ht.eq, hname]
  refine ⟨hs_files, ht_files, Or.inl ?_⟩
  simp only [outputDir, hsource, hsnake]

/-! ## The services of a scan -/

namespace Scan

/-- The traits that source files declare, in order. -/
def declarations (sources : List SourceText) : List InterfaceDecl :=
  (sources.filterMap outline?).flatMap (·.interfaces)

theorem foldl_addTrait (marker : String) (decls : List InterfaceDecl) (scan : Scan) :
    (decls.foldl (addTrait marker) scan).types = scan.types ∧
      (decls.foldl (addTrait marker) scan).services = scan.services ++
        decls.filterMap fun decl => (ServiceSpec.build scan.types marker decl).toOption.join := by
  induction decls generalizing scan with
  | nil => exact ⟨rfl, (List.append_nil _).symm⟩
  | cons decl rest ih =>
    have hstep : (addTrait marker scan decl).types = scan.types ∧
        (addTrait marker scan decl).services = scan.services ++
          (ServiceSpec.build scan.types marker decl).toOption.join.toList := by
      unfold addTrait
      cases hbuild : ServiceSpec.build scan.types marker decl with
      | error failure => exact ⟨rfl, (List.append_nil _).symm⟩
      | ok service =>
        cases service with
        | none => exact ⟨rfl, (List.append_nil _).symm⟩
        | some s => exact ⟨rfl, rfl⟩
    obtain ⟨htypes, hservices⟩ := ih (addTrait marker scan decl)
    rw [List.foldl_cons, htypes, hservices, hstep.1, hstep.2, List.append_assoc,
      List.filterMap_cons]
    refine ⟨rfl, ?_⟩
    cases (ServiceSpec.build scan.types marker decl).toOption.join with
    | none => rfl
    | some s => rfl

theorem services_ofSources (marker : String) (sources : List SourceText) :
    (ofSources marker sources).services = (declarations sources).filterMap fun decl =>
      (ServiceSpec.build (ofSources marker sources).types marker decl).toOption.join := by
  have hread : (sources.map fun source => (source.path, outline? source)).filterMap Prod.snd =
      sources.filterMap outline? := by
    rw [List.filterMap_map]
    rfl
  unfold ofSources
  simp only [hread]
  rw [(foldl_addTrait marker _ _).1, (foldl_addTrait marker _ _).2]
  exact List.nil_append _

theorem built_of_mem_services {marker : String} {sources : List SourceText} {s : ServiceSpec}
    (h : s ∈ (ofSources marker sources).services) :
    ∃ decl ∈ declarations sources,
      ServiceSpec.Built (ofSources marker sources).types marker decl s := by
  rw [services_ofSources] at h
  obtain ⟨decl, hdecl, hbuild⟩ := List.mem_filterMap.1 h
  exact ⟨decl, hdecl, ServiceSpec.built_of_build (eq_ok_of_toOption_join hbuild)⟩

end Scan

/-- **When the services of a scan are apart.** A scan has the service of each trait that is built,
in order of declaration. No two of them write the same file exactly if no two of them meet, and then
a run writes every path once. -/
theorem services_apart_iff (marker : String) (sources : List SourceText) :
    ((Scan.ofSources marker sources).services = (Scan.declarations sources).filterMap fun decl =>
        (ServiceSpec.build (Scan.ofSources marker sources).types marker decl).toOption.join) ∧
      ((Scan.ofSources marker sources).services.Pairwise ServiceSpec.Apart ↔
        (Scan.ofSources marker sources).services.Pairwise fun s t => ¬s.Meets t) ∧
      ((Scan.ofSources marker sources).services.Pairwise ServiceSpec.Apart ↔
        (Generation.targetsOf (Scan.ofSources marker sources).services).Pairwise
          fun a b => a.1.key ≠ b.1.key) := by
  refine ⟨Scan.services_ofSources marker sources,
    List.Pairwise.iff fun s t => ServiceSpec.apart_iff, ?_⟩
  rw [Generation.targetsOf, List.pairwise_flatMap]
  refine (and_iff_right fun s hs => ?_).symm
  obtain ⟨decl, -, hbuilt⟩ := Scan.built_of_mem_services hs
  exact hbuilt.pairwise_targets

/-- A module that declares a trait. -/
def itemsModule (name : String) : String :=
  "pub mod " ++ name ++ " \x7b\n    /// @gtg mock\n    pub trait Items \x7b\n" ++
    "        /// @gtg method GET\n        fn get(&self) -> u32;\n    \x7d\n\x7d\n"

/-- A file with two inline modules that declare a trait of one name. -/
def twinSource : SourceText where
  path := ⟨"src/lib.rs"⟩
  text := itemsModule "a" ++ itemsModule "b"
  modulePath := "crate"

/-- **Services of a scan may meet.** Two inline modules of one file declare a trait of one name;
both are built, and the files of the one are those of the other. -/
theorem not_apart_twins :
    (Scan.ofSources "@gtg" [twinSource]).services.map (fun s => (s.modulePath, s.outputDir)) =
        [("crate::a", ⟨"src/items"⟩), ("crate::b", ⟨"src/items"⟩)] ∧
      ¬(Scan.ofSources "@gtg" [twinSource]).services.Pairwise ServiceSpec.Apart := by
  have hservices : (Scan.ofSources "@gtg" [twinSource]).services.map
      (fun s => ((s.modulePath, s.outputDir), s.paths.isEmpty)) =
        [(("crate::a", ⟨"src/items"⟩), false), (("crate::b", ⟨"src/items"⟩), false)] := by
    decide +kernel
  refine ⟨?_, fun hapart => ?_⟩
  · have hdirs := congrArg (List.map Prod.fst) hservices
    rwa [List.map_map] at hdirs
  · obtain ⟨s, _, hall, hs, hrest⟩ := List.map_eq_cons_iff.1 hservices
    obtain ⟨t, _, rfl, ht, hnil⟩ := List.map_eq_cons_iff.1 hrest
    rw [List.map_eq_nil_iff.1 hnil] at hall
    rw [hall] at hapart
    have hst : s.Apart t := (List.pairwise_cons.1 hapart).1 t (List.mem_singleton_self t)
    obtain ⟨hs, hsfiles⟩ := Prod.mk.inj hs
    obtain ⟨ht, htfiles⟩ := Prod.mk.inj ht
    have hdir : s.outputDir = t.outputDir := (Prod.mk.inj hs).2.trans (Prod.mk.inj ht).2.symm
    refine ServiceSpec.apart_iff.1 hst ⟨?_, ?_, Or.inl (congrArg FilePath.key hdir)⟩
    · exact List.isEmpty_eq_false_iff.1 hsfiles
    · exact List.isEmpty_eq_false_iff.1 htfiles

end TransportGen
