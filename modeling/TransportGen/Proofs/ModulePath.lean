import TransportGen.Proofs.FilePath
import TransportGen.Proofs.Service.Build
import TransportGen.Scan

/-!
# Modules and directories

The module of a source file and the directory of what is generated for its traits are computed in
different ways: the one from the steps of the path below the source root, the other from the parent
and the stem of the file. Both name the same steps (`ServiceSpec.standsAt`), so a module that is
declared beside a trait is looked for where its code is generated.
-/

namespace TransportGen

/-! ## The module of a file -/

/-- The steps from the source root to where the modules of a file stand: those to its directory,
and its stem unless it stands for its directory. -/
def fileSegments (dirs : List String) (stem : String) : List String :=
  if directoryFiles.contains stem then dirs else dirs ++ [stem]

theorem moduleSegments_append (dirs : List String) (stem : String) :
    moduleSegments (dirs ++ [stem ++ ".rs"]) = fileSegments dirs stem := by
  induction dirs with
  | nil =>
    have hstem : Text.stripEnd? ".rs".toList (stem ++ ".rs").toList = some stem.toList :=
      Text.stripEnd?_eq_some_iff.2 String.toList_append.symm
    rw [List.nil_append, moduleSegments, hstem]
    simp only [String.ofList_toList]
    rfl
  | cons dir dirs ih =>
    have hcons : moduleSegments (dir :: dirs ++ [stem ++ ".rs"]) =
        dir :: moduleSegments (dirs ++ [stem ++ ".rs"]) := by
      cases dirs <;> rfl
    rw [hcons, ih, fileSegments, fileSegments]
    split <;> rfl

theorem modulePath_eq {root file : FilePath} {dirs : List String} {stem : String}
    (h : file.components = root.components ++ (dirs ++ [stem ++ ".rs"]).map Component.name) :
    modulePath root file = "::".intercalate ("crate" :: fileSegments dirs stem) := by
  have hbelow : file.below? root = some ((dirs ++ [stem ++ ".rs"]).map Component.name) :=
    List.isPrefixOf?_eq_some_iff_append_eq.2 h.symm
  have htexts : ((dirs ++ [stem ++ ".rs"]).map Component.name).map Component.text =
      dirs ++ [stem ++ ".rs"] := by
    rw [List.map_map]
    exact List.map_id _
  rw [modulePath, hbelow, Option.getD_some, htexts, moduleSegments_append]

/-- A module inside another one. -/
theorem intercalate_concat (segments : List String) (segment : String) :
    "::".intercalate ("crate" :: (segments ++ [segment])) =
      "::".intercalate ("crate" :: segments) ++ "::" ++ segment := by
  rw [← List.cons_append, String.intercalate_append_of_ne_nil (List.cons_ne_nil _ _)
    (List.cons_ne_nil _ _), String.intercalate_singleton]

theorem intercalate_colons_inj {xs ys : List (List Char)} (hxs : ∀ x ∈ xs, ':' ∉ x)
    (hys : ∀ y ∈ ys, ':' ∉ y) (hxs_ne : xs ≠ []) (hys_ne : ys ≠ [])
    (h : [':', ':'].intercalate xs = [':', ':'].intercalate ys) : xs = ys := by
  induction xs generalizing ys with
  | nil => exact absurd rfl hxs_ne
  | cons x xs ih =>
    obtain ⟨y, ys, rfl⟩ := List.exists_cons_of_ne_nil hys_ne
    rw [List.forall_mem_cons] at hxs hys
    -- a colon after the one text only would be a colon in the other
    by_cases hxs_nil : xs = [] <;> by_cases hys_nil : ys = []
    · subst hxs_nil
      subst hys_nil
      simpa using h
    · rw [hxs_nil, List.intercalate_singleton, List.intercalate_cons_of_ne_nil hys_nil] at h
      exact absurd (by simp [h]) hxs.1
    · rw [hys_nil, List.intercalate_singleton, List.intercalate_cons_of_ne_nil hxs_nil] at h
      exact absurd (by simp [← h]) hys.1
    · rw [List.intercalate_cons_of_ne_nil hxs_nil, List.intercalate_cons_of_ne_nil hys_nil,
        List.append_assoc, List.append_assoc] at h
      obtain ⟨rfl, hrest⟩ := append_cons_inj hxs.1 hys.1 h
      rw [ih hxs.2 hys.2 hxs_nil hys_nil (List.cons.inj hrest).2]

/-- A path of modules without colons in their names spells one list of them. -/
theorem intercalate_crate_inj {segments others : List String}
    (hsegments : ∀ segment ∈ segments, ':' ∉ segment.toList)
    (hothers : ∀ other ∈ others, ':' ∉ other.toList)
    (h : "::".intercalate ("crate" :: segments) = "::".intercalate ("crate" :: others)) :
    segments = others := by
  have hcolons : ∀ names : List String, (∀ name ∈ names, ':' ∉ name.toList) →
      ∀ text ∈ ("crate" :: names).map String.toList, ':' ∉ text := by
    intro names hnames
    rw [List.forall_mem_map, List.forall_mem_cons]
    exact ⟨by decide, hnames⟩
  have hlists := congrArg String.toList h
  rw [String.toList_intercalate, String.toList_intercalate] at hlists
  have hmap := intercalate_colons_inj (hcolons _ hsegments) (hcolons _ hothers) (by simp) (by simp)
    hlists
  have hinjective : Function.Injective String.toList := fun a b hab => String.toList_inj.1 hab
  exact (List.cons.inj (List.map_injective_iff.2 hinjective hmap)).2

/-! ## The directory of a service -/

namespace ServiceSpec

/-- The directory of a service stands below the source root as its module stands below the crate. -/
structure StandsAt (s : ServiceSpec) (root : FilePath) (segments : List String) : Prop where
  modulePath_eq : s.modulePath = "::".intercalate ("crate" :: segments)
  /-- No other segments without colons are spelled so. -/
  unique : (∀ segment ∈ segments, ':' ∉ segment.toList) → ∀ others : List String,
    (∀ other ∈ others, ':' ∉ other.toList) →
      s.modulePath = "::".intercalate ("crate" :: others) → others = segments
  directory : s.outputDir.components =
    ((segments.foldl FilePath.child root).child s.snakeName).components
  /-- The file that declares the generated modules is the module of the service's name, inside the
  module of the trait. -/
  resolves : (∀ segment ∈ segments, FilePath.IsStep segment) → FilePath.IsStep s.snakeName →
    TransportGen.modulePath root (s.outputDir.child "mod.rs") = s.modulePath ++ "::" ++ s.snakeName

section

variable {s : ServiceSpec} {root : FilePath} {dirs : List String} {stem : String}

theorem components_outputDir
    (h : s.sourcePath.components = root.components ++ (dirs ++ [stem ++ ".rs"]).map Component.name)
    (hstem : stem ≠ "") : s.outputDir.components =
      (((fileSegments dirs stem).foldl FilePath.child root).child s.snakeName).components := by
  have hname : s.sourcePath.components =
      root.components ++ dirs.map Component.name ++ [.name (stem ++ "." ++ "rs")] := by
    rw [h, List.map_append, ← List.append_assoc, String.append_assoc]
    rfl
  obtain ⟨parent, hparent, habove⟩ := FilePath.exists_parent? hname
  have hstem? : s.sourcePath.stem? = some stem := FilePath.stem?_eq_some hname hstem (by decide)
  have hdirs : ∀ dir ∈ dirs, FilePath.IsStep dir := by
    intro dir hdir
    have hmem : .name dir ∈ s.sourcePath.components := by
      rw [hname]
      simp [hdir]
    exact FilePath.isStep_of_mem_components hmem
  have hroot : parent.components = (dirs.foldl FilePath.child root).components := by
    rw [habove, FilePath.components_foldl_child root hdirs]
  have hspecial : directoryStems.contains stem ↔ directoryFiles.contains stem := by
    simp only [directoryStems, directoryFiles, List.contains_iff_mem, List.mem_cons, hstem,
      false_or]
    tauto
  rw [outputDir, hparent, hstem?, fileSegments]
  simp only [Option.getD_some, hspecial]
  split
  · exact FilePath.components_child_congr hroot _
  · rw [List.foldl_append]
    exact FilePath.components_child_congr (FilePath.components_child_congr hroot stem) _

theorem standsAt
    (h : s.sourcePath.components = root.components ++ (dirs ++ [stem ++ ".rs"]).map Component.name)
    (hstem : stem ≠ "") (hmodule : s.modulePath = TransportGen.modulePath root s.sourcePath) :
    s.StandsAt root (fileSegments dirs stem) := by
  have hpath := hmodule.trans (TransportGen.modulePath_eq h)
  refine ⟨hpath, ?_, components_outputDir h hstem, ?_⟩
  · intro hsegments others hothers hother
    exact intercalate_crate_inj hothers hsegments (hother.symm.trans hpath)
  · intro hsegments hsnake
    have hchild : (s.outputDir.child "mod.rs").components = root.components ++
        ((fileSegments dirs stem ++ [s.snakeName]) ++ ["mod" ++ ".rs"]).map Component.name := by
      rw [FilePath.components_child _ (by decide), components_outputDir h hstem,
        FilePath.components_child _ hsnake, FilePath.components_foldl_child root hsegments]
      simp
    rw [TransportGen.modulePath_eq hchild, hpath, ← intercalate_concat]
    rfl

end

end ServiceSpec

/-! ## The traits of a file -/

/-- The traits that a source text declares outside of inline modules. -/
def SourceText.topTraits (source : SourceText) : List InterfaceDecl :=
  ((Source.fileItems? source.text).getD []).flatMap fun
    | .module _ _ => []
    | item => (Source.Outline.ofItem source.path source.modulePath item).interfaces

theorem SourceText.of_mem_topTraits {source : SourceText} {decl : InterfaceDecl}
    (h : decl ∈ source.topTraits) :
    decl.modulePath = source.modulePath ∧ decl.sourcePath = source.path := by
  obtain ⟨item, -, hdecl⟩ := List.mem_flatMap.1 h
  cases item with
  | interface name docs methods isGeneric =>
    simp only [Source.Outline.ofItem, List.mem_singleton] at hdecl
    rw [hdecl]
    exact ⟨rfl, rfl⟩
  | type name shape => simp [Source.Outline.ofItem] at hdecl
  | module name items => simp at hdecl
  | other => simp [Source.Outline.ofItem] at hdecl

/-- **Modules and directories agree.** A source file stands below a source root, at any depth and
with any stem, and its module is counted from there. The directory of a service that is built from a
trait at the top level of the file is found from the source root by the segments of that module. -/
theorem outputDir_follows_module {root : FilePath} {source : SourceText} {dirs : List String}
    {stem marker : String} {index : TypeIndex} {decl : InterfaceDecl} {s : ServiceSpec}
    (hfile : source.path.components =
      root.components ++ (dirs ++ [stem ++ ".rs"]).map Component.name) (hstem : stem ≠ "")
    (hmodule : source.modulePath = modulePath root source.path) (hdecl : decl ∈ source.topTraits)
    (hbuild : ServiceSpec.build index marker decl = .ok (some s)) :
    s.StandsAt root (fileSegments dirs stem) := by
  obtain ⟨hdecl_module, hdecl_path⟩ := SourceText.of_mem_topTraits hdecl
  have heq := (ServiceSpec.built_of_build hbuild).eq
  have hpath : s.sourcePath = source.path := by rw [heq, hdecl_path]
  rw [← hpath] at hfile hmodule
  refine ServiceSpec.standsAt hfile hstem ?_
  rw [← hmodule, ← hdecl_module, heq]

/-- A source file with one trait. -/
def itemsSource : SourceText where
  path := ⟨"demo/src/store/items.rs"⟩
  text := "/// @gtg mock\npub trait ItemService \x7b\n    /// @gtg\n    fn get(&self) -> u32;\n\x7d\n"
  modulePath := modulePath ⟨"demo/src"⟩ ⟨"demo/src/store/items.rs"⟩

theorem outputDir_follows_items_module :
    ∃ decl s, decl ∈ itemsSource.topTraits ∧
      ServiceSpec.build {} "@gtg" decl = .ok (some s) ∧
      s.modulePath = "crate::store::items" ∧
      s.outputDir = ⟨"demo/src/store/items/item_service"⟩ ∧
      s.StandsAt ⟨"demo/src"⟩ (fileSegments ["store"] "items") := by
  have hbuild : itemsSource.topTraits.any (fun decl =>
      (ServiceSpec.build {} "@gtg" decl).toOption.join.any fun s =>
        s.modulePath = "crate::store::items" ∧
        s.outputDir = ⟨"demo/src/store/items/item_service"⟩) = true := by
    decide +kernel
  obtain ⟨decl, hdecl, hany⟩ := List.any_eq_true.1 hbuild
  obtain ⟨s, hs, hmodule, hdir⟩ := exists_ok_of_any hany
  exact ⟨decl, s, hdecl, hs, hmodule, hdir,
    outputDir_follows_module (by decide +kernel) (by decide) rfl hdecl hs⟩

end TransportGen
