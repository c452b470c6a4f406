import TransportGen.Proofs.Artifact.Items
import TransportGen.Proofs.Text.Cutting
import TransportGen.Proofs.Text.Pieces

/-!
# Names that generated files import

A generated file brings names into scope with `use`: for the trait, the types that its methods
mention, and what each kind of file needs besides. Paths are imported once, but names are not looked
at.

* `useNames_of_simple`, `useNames_group`: the names that a path brings into scope.
* `ListsPaths.nodup_useNames_iff`: imported paths bring different names into scope exactly if no
  name stands for two of them.
* `imports_apart_iff`: which names of types keep the imports of all files apart.
* `imports_clash_request`: the builder does not refuse other names.
-/

namespace TransportGen

open Artifact

/-! ## The names of a path -/

/-- The name that a segment of a path is bound to: the one after `as`, or its own. -/
def boundName (segment : List Char) : String :=
  match Text.splitLast? " as ".toList segment with
  | some (_, name) => String.ofList name
  | none => String.ofList segment

/-- The names that a `use` of a path brings into scope: one, or those of a group in braces. -/
def useNames (path : String) : List String :=
  let segment := (lastSegment path).toList
  match Text.stripStart? ['\x7b'] segment with
  | some rest =>
    let group := (Text.stripEnd? ['\x7d'] rest).getD rest
    (Text.pieces (· == ',') group).map fun piece => boundName (Text.trim piece)
  | none => [boundName segment]

/-- A name without the characters that have a meaning in paths. -/
def IsSimpleName (name : String) : Prop :=
  ∀ c ∈ name.toList, c ∉ [':', ',', '\x7b'] ∧ Text.isBlank c = false

-- Named, since a search may also find the instance that goes through every character there is.
instance (name : String) : Decidable (IsSimpleName name) :=
  List.decidableBAll (fun c => c ∉ [':', ',', '\x7b'] ∧ Text.isBlank c = false) name.toList

theorem boundName_of_forall_not {segment : List Char}
    (h : ∀ c ∈ segment, Text.isBlank c = false) : boundName segment = String.ofList segment := by
  have hpattern : " as ".toList.reverse = [' ', 's', 'a', ' '] := by decide
  have hblank : ' ' ∉ segment := fun hmem => absurd (h ' ' hmem) (by decide)
  have hsplit : Text.splitLast? " as ".toList segment = none := by
    rw [Text.splitLast?, hpattern, splitAt?_of_not_mem (by simpa using hblank)]
    rfl
  rw [boundName, hsplit]

theorem useNames_of_simple (owner : String) {name : String} (h : IsSimpleName name) :
    useNames (owner ++ "::" ++ name) = [name] := by
  have hcolon : ':' ∉ name.toList := fun hmem => (h _ hmem).1 (by decide)
  have hbrace : Text.stripStart? ['\x7b'] name.toList = none := by
    rw [Option.eq_none_iff_forall_ne_some]
    intro rest hrest
    have hmem : '\x7b' ∈ name.toList := by
      rw [← Text.stripStart?_eq_some_iff.1 hrest]
      exact .head _
    exact (h _ hmem).1 (by decide)
  simp only [useNames, lastSegment_append owner hcolon, hbrace,
    boundName_of_forall_not fun c hc => (h c hc).2, String.ofList_toList]

theorem IsSimpleName.append {a b : String} (ha : IsSimpleName a) (hb : IsSimpleName b) :
    IsSimpleName (a ++ b) := by
  intro c hc
  rw [String.toList_append, List.mem_append] at hc
  exact hc.elim (ha c) (hb c)

/-- A file that declares modules hands on a type and the table of routes. -/
theorem useNames_group (owner : String) {name : String} (h : IsSimpleName name) :
    useNames (owner ++ "::\x7b" ++ name ++ ", ROUTES\x7d") = [name, "ROUTES"] := by
  have hpath : owner ++ "::\x7b" ++ name ++ ", ROUTES\x7d" =
      owner ++ "::" ++ ("\x7b" ++ name ++ ", ROUTES\x7d") := by
    have hopening : "::\x7b" = "::" ++ "\x7b" := by decide
    rw [hopening]
    simp only [String.append_assoc]
  have hcolon : ':' ∉ ("\x7b" ++ name ++ ", ROUTES\x7d").toList := by
    have hname : ':' ∉ name.toList := fun hmem => (h _ hmem).1 (by decide)
    simp [hname]
  have hstart : Text.stripStart? ['\x7b'] ("\x7b" ++ name ++ ", ROUTES\x7d").toList =
      some (name.toList ++ ", ROUTES\x7d".toList) := by
    rw [Text.stripStart?_eq_some_iff]
    simp
  have hend : Text.stripEnd? ['\x7d'] (name.toList ++ ", ROUTES\x7d".toList) =
      some (name.toList ++ ',' :: " ROUTES".toList) := by
    rw [Text.stripEnd?_eq_some_iff]
    simp
  have hpieces : Text.pieces (· == ',') (name.toList ++ ',' :: " ROUTES".toList) =
      [name.toList, " ROUTES".toList] := by
    have hname : ∀ c ∈ name.toList, (c == ',') = false := by
      intro c hc
      have hne := (h c hc).1
      simp only [List.mem_cons, not_or] at hne
      simpa using hne.2.1
    have hroutes : Text.pieces (· == ',') " ROUTES".toList = [" ROUTES".toList] := by decide
    rw [Text.pieces_append_cons (by decide), Text.pieces_of_forall_not hname, hroutes]
    rfl
  have hroutes : boundName (Text.trim " ROUTES".toList) = "ROUTES" := by decide
  have hblank : ∀ c ∈ name.toList, Text.isBlank c = false := fun c hc => (h c hc).2
  simp only [useNames, hpath, lastSegment_append owner hcolon, hstart, hend, Option.getD_some,
    hpieces, List.map_cons, List.map_nil, hroutes, trim_of_forall_not hblank,
    boundName_of_forall_not hblank, String.ofList_toList]

/-! ## The names of a list of paths -/

theorem mem_addPaths {path : String} {paths more : List String} :
    path ∈ addPaths paths more ↔ path ∈ paths ∨ path ∈ more := by
  induction more generalizing paths with
  | nil => simp [addPaths]
  | cons first rest ih =>
    have hstep : path ∈ addPath paths first ↔ path ∈ paths ∨ path = first := by
      unfold addPath
      split
      · rename_i hmem
        rw [List.contains_iff_mem] at hmem
        exact ⟨.inl, fun h => h.elim id fun heq => heq ▸ hmem⟩
      · simp
    rw [addPaths, List.foldl_cons, ← addPaths, ih, hstep, List.mem_cons, or_assoc]

theorem nodup_addPaths {paths : List String} (h : paths.Nodup) (more : List String) :
    (addPaths paths more).Nodup := by
  induction more generalizing paths with
  | nil => exact h
  | cons first rest ih =>
    rw [addPaths, List.foldl_cons, ← addPaths]
    refine ih ?_
    unfold addPath
    split
    · exact h
    · rename_i hmem
      rw [List.contains_iff_mem] at hmem
      rw [← List.concat_eq_append]
      exact h.concat hmem

/-- Paths of names, each of them once. -/
structure ListsPaths (paths : List String) (pairs : List (String × String)) : Prop where
  nodup : paths.Nodup
  mem_iff : ∀ path, path ∈ paths ↔ ∃ pair ∈ pairs, pair.2 = path
  names : ∀ pair ∈ pairs, useNames pair.2 = [pair.1]

namespace ListsPaths

variable {paths : List String} {pairs more : List (String × String)}

theorem nil : ListsPaths [] [] := ⟨List.nodup_nil, by simp, List.forall_mem_nil _⟩

theorem addPaths (h : ListsPaths paths pairs) (hmore : ∀ pair ∈ more, useNames pair.2 = [pair.1]) :
    ListsPaths (addPaths paths (more.map (·.2))) (pairs ++ more) where
  nodup := nodup_addPaths h.nodup _
  mem_iff path := by
    simp only [mem_addPaths, h.mem_iff, List.mem_map, List.mem_append, or_and_right, exists_or]
  names := List.forall_mem_append.2 ⟨h.names, hmore⟩

theorem again (h : ListsPaths paths pairs) : ListsPaths (TransportGen.addPaths [] paths) pairs where
  nodup := nodup_addPaths List.nodup_nil _
  mem_iff path := by rw [mem_addPaths, h.mem_iff, or_iff_right List.not_mem_nil]
  names := h.names

end ListsPaths

/-- No name stands for two paths. -/
def OnePathEach (pairs : List (String × String)) : Prop :=
  ∀ a ∈ pairs, ∀ b ∈ pairs, plainName a.1 = plainName b.1 → a.2 = b.2

instance (pairs : List (String × String)) : Decidable (OnePathEach pairs) :=
  inferInstanceAs (Decidable (∀ a ∈ pairs, ∀ b ∈ pairs, _))

section Names

variable {paths : List String} {pairs : List (String × String)}

theorem ListsPaths.headD_useNames (h : ListsPaths paths pairs) {pair : String × String}
    (hpair : pair ∈ pairs) : (useNames pair.2).headD "" = pair.1 := by
  rw [h.names pair hpair]
  rfl

theorem ListsPaths.flatMap_useNames (h : ListsPaths paths pairs) :
    paths.flatMap useNames = paths.map fun path => (useNames path).headD "" := by
  rw [List.map_eq_flatMap]
  refine List.flatMap_congr fun path hpath => ?_
  obtain ⟨pair, hpair, rfl⟩ := (h.mem_iff path).1 hpath
  rw [h.names pair hpair]
  rfl

theorem ListsPaths.mem_useNames (h : ListsPaths paths pairs) {name : String} :
    name ∈ (paths.flatMap useNames).map plainName ↔ ∃ pair ∈ pairs, plainName pair.1 = name := by
  rw [h.flatMap_useNames, List.map_map, List.mem_map]
  simp only [h.mem_iff, Function.comp_apply]
  constructor
  · rintro ⟨_, ⟨pair, hpair, rfl⟩, hname⟩
    rw [h.headD_useNames hpair] at hname
    exact ⟨pair, hpair, hname⟩
  · rintro ⟨pair, hpair, hname⟩
    refine ⟨pair.2, ⟨pair, hpair, rfl⟩, ?_⟩
    rw [h.headD_useNames hpair, hname]

theorem ListsPaths.nodup_useNames_iff (h : ListsPaths paths pairs) :
    ((paths.flatMap useNames).map plainName).Nodup ↔ OnePathEach pairs := by
  rw [h.flatMap_useNames, List.map_map, List.nodup_map_iff_inj_on h.nodup]
  simp only [h.mem_iff, Function.comp_apply]
  constructor
  · intro hinj a ha b hb heq
    apply hinj _ ⟨a, ha, rfl⟩ _ ⟨b, hb, rfl⟩
    rw [h.headD_useNames ha, h.headD_useNames hb, heq]
  · rintro hone _ ⟨a, ha, rfl⟩ _ ⟨b, hb, rfl⟩ heq
    rw [h.headD_useNames ha, h.headD_useNames hb] at heq
    exact hone a ha b hb heq

end Names

/-! ## What a service imports -/

/-- The names of a service's own that its files import, with their paths: the trait, and the types
that the methods mention. -/
def ownImports (index : TypeIndex) (decl : InterfaceDecl) (methods : List MethodSpec) :
    List (String × String) :=
  (decl.name, decl.importPath) ::
    ((mentionedTypes decl methods).keys.filter (! preludeNames.contains ·)).map fun name =>
      (name, importOf index decl.modulePath name)

theorem importsOf_eq (index : TypeIndex) (decl : InterfaceDecl) (methods : List MethodSpec) :
    importsOf index decl methods = addPaths [] ((ownImports index decl methods).map (·.2)) := by
  rw [importsOf, ownImports, List.map_cons, List.map_map]
  rfl

/-- Types are found under their own names. -/
def TypeIndex.FilesByName (index : TypeIndex) : Prop :=
  ∀ name type, index.get? name = some type → type.name = name

theorem TypeIndex.filesByName_insert {index : TypeIndex} (h : index.FilesByName) (decl : TypeDecl) :
    (index.insert decl).FilesByName := by
  unfold TypeIndex.insert
  split
  · exact h
  · intro name type hget
    rw [TypeIndex.get?, Table.get?_insert] at hget
    split at hget
    · rename_i hname
      rw [← Option.some.inj hget, hname]
    · exact h name type hget

theorem TypeIndex.filesByName_insertAll (types : List TypeDecl) {index : TypeIndex}
    (h : index.FilesByName) : (index.insertAll types).FilesByName := by
  induction types generalizing index with
  | nil => exact h
  | cons type rest ih => exact ih (filesByName_insert h type)

/-- The index of all types of some sources. -/
theorem TypeIndex.name_of_get? {types : List TypeDecl} {name : String} {type : TypeDecl}
    (h : (insertAll {} types).get? name = some type) : type.name = name := by
  have hempty : FilesByName {} := by
    intro name type hget
    cases hget
  exact filesByName_insertAll types hempty name type h

theorem useNames_importOf {types : List TypeDecl} {name : String} (h : IsSimpleName name)
    (modulePath : String) : useNames (importOf (.insertAll {} types) modulePath name) = [name] := by
  have hlibrary : ∀ entry ∈ libraryPaths, useNames entry.2 = [entry.1] := by decide +kernel
  unfold importOf
  split
  · rename_i type htype
    rw [TypeDecl.importPath, TypeIndex.name_of_get? htype]
    exact useNames_of_simple _ h
  · rename_i path _ hlookup
    obtain ⟨before, after, hentries, -⟩ := List.lookup_eq_some_iff.1 hlookup
    have hmem : (name, path) ∈ libraryPaths := by
      rw [hentries]
      exact List.mem_append_right _ (.head _)
    have hnames : useNames path = [name] := hlibrary (name, path) hmem
    exact hnames
  · exact useNames_of_simple _ h

theorem useNames_ownImports {types : List TypeDecl} {decl : InterfaceDecl}
    {methods : List MethodSpec} (hname : IsSimpleName decl.name)
    (hmentioned : ∀ name ∈ (mentionedTypes decl methods).keys, IsSimpleName name) :
    ∀ pair ∈ ownImports (.insertAll {} types) decl methods, useNames pair.2 = [pair.1] := by
  have htrait : useNames decl.importPath = [decl.name] := useNames_of_simple _ hname
  refine List.forall_mem_cons.2 ⟨htrait, List.forall_mem_map.2 fun name hmem => ?_⟩
  exact useNames_importOf (hmentioned name (List.mem_filter.1 hmem).1) _

/-- What the files of a kind import beside that, with the names. -/
def Processor.imports : Processor → List (String × String)
  | .httpServer =>
    [("header", "http::header"), ("Method", "http::Method"), ("Request", "http::Request"),
      ("Response", "http::Response"), ("StatusCode", "http::StatusCode"),
      ("ui", "super::super::httperrors::ui")]
  | .httpClient | .httpsClient =>
    [("header", "http::header"), ("Method", "http::Method"), ("Request", "http::Request"),
      ("Response", "http::Response"),
      ("ClientError", "super::super::httperrors::client::ClientError"),
      ("errors", "super::super::httperrors::client as errors")]
  | .metrics =>
    [("AtomicU64", "std::sync::atomic::AtomicU64"), ("Ordering", "std::sync::atomic::Ordering"),
      ("Arc", "std::sync::Arc"), ("Duration", "std::time::Duration"),
      ("Instant", "std::time::Instant")]
  | .log => [("Instant", "std::time::Instant")]
  | .mock => [("Mutex", "std::sync::Mutex"), ("MutexGuard", "std::sync::MutexGuard")]
  | .httpErrors | .swagger => []

theorem useNames_imports (kind : Processor) :
    ∀ pair ∈ kind.imports, useNames pair.2 = [pair.1] := by
  cases kind <;> decide +kernel

/-! ## The names in scope of a file -/

/-- The path that an item uses. -/
def Item.usePath? (item : Item) : Option String :=
  match item.defines with
  | .use path => some path
  | _ => none

/-- The names that a file imports. -/
def SourceFile.importedNames (file : SourceFile) : List String :=
  ((file.imports ++ file.items.filterMap Item.usePath?).flatMap useNames).map plainName

/-- No two imports of a file bring the same name into scope. -/
def ImportsApart (file : SourceFile) : Prop := file.importedNames.Nodup

instance (file : SourceFile) : Decidable (ImportsApart file) :=
  inferInstanceAs (Decidable (List.Nodup _))

section Uses

variable {methods : List MethodView}

theorem filterMap_usePath?_flatMap {f : MethodView → List Item}
    (h : ∀ m, (f m).filterMap Item.usePath? = []) :
    (methods.flatMap f).filterMap Item.usePath? = [] := by
  rw [List.filterMap_flatMap, List.flatMap_eq_nil_iff]
  exact fun m _ => h m

theorem usePath?_struct (c : Bool) (derived name parameters : String)
    (fields : List (Option String × String)) :
    (if c then [] else [structItem derived name parameters fields]).filterMap Item.usePath? =
      [] := by
  cases c <;> rfl

theorem filterMap_usePath?_serverTransportItems (interface errorType : String) :
    (serverTransportItems interface errorType methods).filterMap Item.usePath? = [] := by
  have hmethod : ∀ m, (serverMethodItems interface m).filterMap Item.usePath? = [] := by
    intro m
    rw [serverMethodItems, responseItems, List.filterMap_append, List.filterMap_append,
      usePath?_struct, usePath?_struct]
    rfl
  have herror : (errorResponseItems errorType).filterMap Item.usePath? = [] := by
    unfold errorResponseItems
    split <;> rfl
  rw [serverTransportItems, List.filterMap_append, List.filterMap_append, List.filterMap_append,
    filterMap_usePath?_flatMap hmethod, herror]
  rfl

theorem filterMap_usePath?_clientTransportItems (errorType : String) :
    (clientTransportItems errorType methods).filterMap Item.usePath? = [] := by
  have hmethod : ∀ m, (clientMethodItems m).filterMap Item.usePath? = [] := by
    intro m
    rw [clientMethodItems, responseItems, List.filterMap_append, List.filterMap_append,
      usePath?_struct, usePath?_struct]
    rfl
  rw [clientTransportItems, List.filterMap_append, List.filterMap_append,
    filterMap_usePath?_flatMap hmethod]
  rfl

theorem filterMap_usePath?_decodeErrorItems (errorType : String) (mappings : List ErrorMapping) :
    (decodeErrorItems errorType mappings).filterMap Item.usePath? = [] := by
  unfold decodeErrorItems decodeItems
  split <;> rfl

theorem filterMap_usePath?_setOff (items : List Item) :
    (setOff items).filterMap Item.usePath? = items.filterMap Item.usePath? := by
  cases items <;> rfl

theorem filterMap_usePath?_mockItems (interface : String) :
    (mockItems interface methods).filterMap Item.usePath? = [] := by
  have hargs : (methods.map argsItem).filterMap Item.usePath? = [] := by
    rw [List.filterMap_map, List.filterMap_eq_nil_iff]
    exact fun _ _ => rfl
  rw [mockItems, List.filterMap_append, List.filterMap_append, filterMap_usePath?_setOff, hargs]
  rfl

/-- A file that declares modules imports what it hands on. -/
theorem importedNames_moduleFile (path : List String) (doc : String) (modules : List ModuleLine)
    (exports : List String) :
    (moduleFile path doc modules exports).importedNames =
      (exports.flatMap useNames).map plainName := by
  have hmodules : (modules.map ModuleLine.item).filterMap Item.usePath? = [] := by
    rw [List.filterMap_map, List.filterMap_eq_nil_iff]
    exact fun _ _ => rfl
  have hexports : (exports.map fun path =>
      (⟨.use path, false, ["pub use " ++ path ++ ";"]⟩ : Item)).filterMap Item.usePath? =
        exports := by
    rw [List.filterMap_map]
    exact List.filterMap_some
  have hpaths : (moduleFile path doc modules exports).items.filterMap Item.usePath? = exports := by
    rw [moduleFile, List.filterMap_append, filterMap_usePath?_setOff, hmodules, hexports]
    rfl
  rw [SourceFile.importedNames, hpaths]
  rfl

end Uses

/-! ## Built services -/

/-- What the files of one kind need of the names that a service imports itself. -/
def Processor.KeepsImportsApart (kind : Processor) (own : List (String × String)) : Prop :=
  match kind with
  | .httpServer | .httpErrors | .metrics | .log | .mock => OnePathEach (own ++ kind.imports)
  | .httpClient | .httpsClient =>
    OnePathEach (own ++ kind.imports) ∧ ∀ pair ∈ own, plainName pair.1 ≠ "HttpTransport"
  | .swagger => True

instance (kind : Processor) (own : List (String × String)) :
    Decidable (kind.KeepsImportsApart own) :=
  match kind with
  | .httpServer | .httpErrors | .metrics | .log | .mock =>
    inferInstanceAs (Decidable (OnePathEach _))
  | .httpClient | .httpsClient => inferInstanceAs (Decidable (_ ∧ _))
  | .swagger => inferInstanceAs (Decidable True)

section Files

variable {s : ServiceSpec} {own : List (String × String)}

theorem importsApart_iff_of_no_use {path : List String} {doc : String} {imports : List String}
    {items : List Item} {pairs : List (String × String)} (h : ListsPaths imports pairs)
    (huse : items.filterMap Item.usePath? = []) :
    ImportsApart ⟨path, doc, imports, items⟩ ↔ OnePathEach pairs := by
  rw [ImportsApart, SourceFile.importedNames, huse, List.append_nil, h.nodup_useNames_iff]

/-- The file of a client's calls also imports the transport. -/
theorem importsApart_iff_of_use {path : List String} {doc : String} {imports : List String}
    {items : List Item} {pairs : List (String × String)} {used name : String}
    (h : ListsPaths imports pairs) (huse : items.filterMap Item.usePath? = [used])
    (hname : (useNames used).map plainName = [name]) :
    ImportsApart ⟨path, doc, imports, items⟩ ↔
      OnePathEach pairs ∧ ∀ pair ∈ pairs, plainName pair.1 ≠ name := by
  rw [ImportsApart, SourceFile.importedNames, huse, List.flatMap_append, List.map_append,
    List.flatMap_singleton, hname, List.nodup_append, h.nodup_useNames_iff,
    and_iff_right (List.nodup_singleton name)]
  refine and_congr_right fun _ => ?_
  simp only [h.mem_useNames, List.mem_singleton]
  constructor
  · exact fun hne pair hpair => hne _ ⟨pair, hpair, rfl⟩ _ rfl
  · rintro hne _ ⟨pair, hpair, rfl⟩ _ rfl
    exact hne pair hpair

theorem importsApart_serverModules {interface : String} (h : IsSimpleName interface) (doc : String)
    (modules : List ModuleLine) :
    ImportsApart (moduleFile ["httpserver", "mod.rs"] doc modules
      ["server::\x7b" ++ (interface ++ "Server") ++ ", ROUTES\x7d"]) := by
  have hgroup : useNames ("server::\x7b" ++ (interface ++ "Server") ++ ", ROUTES\x7d") =
      [interface ++ "Server", "ROUTES"] := by
    have hpath : "server::\x7b" = "server" ++ "::\x7b" := by decide
    rw [hpath]
    exact useNames_group "server" (h.append (by decide))
  have hserver : plainName (interface ++ "Server") = plainName interface ++ "Server" :=
    plainName_append (by decide)
  have hroutes : plainName "ROUTES" = "ROUTES" := by decide
  have hne : plainName interface ++ "Server" ≠ "ROUTES" := append_ne (by decide)
  rw [ImportsApart, importedNames_moduleFile, List.flatMap_singleton, hgroup]
  simp only [List.map_cons, List.map_nil, hserver, hroutes]
  simp [hne]

theorem importsApart_clientModules {interface : String} (h : IsSimpleName interface) (doc : String)
    (modules : List ModuleLine) :
    ImportsApart (moduleFile ["httpclient", "mod.rs"] doc modules
      ["client::\x7b" ++ (interface ++ "Client") ++ ", ROUTES\x7d",
        "transport::HttpTransport"]) := by
  have hgroup : useNames ("client::\x7b" ++ (interface ++ "Client") ++ ", ROUTES\x7d") =
      [interface ++ "Client", "ROUTES"] := by
    have hpath : "client::\x7b" = "client" ++ "::\x7b" := by decide
    rw [hpath]
    exact useNames_group "client" (h.append (by decide))
  have hclient : plainName (interface ++ "Client") = plainName interface ++ "Client" :=
    plainName_append (by decide)
  have hroutes : plainName "ROUTES" = "ROUTES" := by decide
  have htransport : plainName "HttpTransport" = "HttpTransport" := by decide
  have hpath : useNames "transport::HttpTransport" = ["HttpTransport"] := by decide +kernel
  have hne : plainName interface ++ "Client" ≠ "ROUTES" := append_ne (by decide)
  have hother : plainName interface ++ "Client" ≠ "HttpTransport" := append_ne (by decide)
  rw [ImportsApart, importedNames_moduleFile, List.flatMap_cons, List.flatMap_singleton, hgroup,
    hpath]
  simp only [List.cons_append, List.nil_append, List.map_cons, List.map_nil, hclient, hroutes,
    htransport]
  simp [hne, hother]

theorem plainName_ne_of_mem_imports {kind : Processor} :
    ∀ pair ∈ kind.imports, plainName pair.1 ≠ "HttpTransport" := by
  cases kind <;> decide +kernel

theorem importsApart_clientFiles_iff (scheme : String) (hname : IsSimpleName s.interfaceName)
    {imports : List (String × String)}
    (hlists : ListsPaths (addPaths s.imports clientImports) (own ++ imports))
    (himports : ∀ pair ∈ imports, plainName pair.1 ≠ "HttpTransport") :
    (∀ file ∈ clientFiles scheme s, ImportsApart file) ↔
      OnePathEach (own ++ imports) ∧ ∀ pair ∈ own, plainName pair.1 ≠ "HttpTransport" := by
  have htransport : (useNames "super::transport::HttpTransport").map plainName =
      ["HttpTransport"] := by decide +kernel
  have hown : (∀ pair ∈ own ++ imports, plainName pair.1 ≠ "HttpTransport") ↔
      ∀ pair ∈ own, plainName pair.1 ≠ "HttpTransport" := by
    rw [List.forall_mem_append, and_iff_left himports]
  have hcalls : (clientItems s.interfaceName scheme (s.errorType.getD "") s.views).filterMap
      Item.usePath? = ["super::transport::HttpTransport"] := rfl
  simp only [clientFiles, List.forall_mem_cons]
  refine ⟨fun h => ?_,
    fun h => ⟨importsApart_clientModules hname _ _, ?_, ?_, List.forall_mem_nil _⟩⟩
  · obtain ⟨hone, hother⟩ := (importsApart_iff_of_use hlists hcalls htransport).1 h.2.1
    exact ⟨hone, hown.1 hother⟩
  · exact (importsApart_iff_of_use hlists hcalls htransport).2 ⟨h.1, hown.2 h.2⟩
  · exact (importsApart_iff_of_no_use hlists (filterMap_usePath?_clientTransportItems _)).2 h.1

theorem importsApart_files_iff (hname : IsSimpleName s.interfaceName)
    (hown : ListsPaths s.imports own) (kind : Processor) :
    (∀ file ∈ kind.files s, ImportsApart file) ↔ kind.KeepsImportsApart own := by
  have hlists := hown.addPaths (useNames_imports kind)
  cases kind with
  | httpServer =>
    have hrouting : (routingItems s.interfaceName s.views).filterMap Item.usePath? = [] := rfl
    simp only [Processor.files, serverFiles, List.forall_mem_cons]
    refine ⟨fun h => (importsApart_iff_of_no_use hlists hrouting).1 h.2.1,
      fun h => ⟨importsApart_serverModules hname _ _, ?_, ?_, List.forall_mem_nil _⟩⟩
    · exact (importsApart_iff_of_no_use hlists hrouting).2 h
    · exact (importsApart_iff_of_no_use hlists
        (filterMap_usePath?_serverTransportItems _ _)).2 h
  | httpClient | httpsClient =>
    exact importsApart_clientFiles_iff _ hname hlists plainName_ne_of_mem_imports
  | httpErrors =>
    have hmodules : ∀ doc modules, ImportsApart
        (moduleFile ["httperrors", "mod.rs"] doc modules ["client::ClientError"]) := by
      intro doc modules
      rw [ImportsApart, importedNames_moduleFile]
      decide +kernel
    have hencode : ∀ mappings, (encodeErrorItems (s.errorType.getD "") mappings).filterMap
        Item.usePath? = [] := fun _ => rfl
    simp only [Processor.files, errorFiles, List.forall_mem_cons]
    rw [Processor.KeepsImportsApart, Processor.imports, List.append_nil]
    refine ⟨fun h => (importsApart_iff_of_no_use hown.again (hencode _)).1 h.2.1,
      fun h => ⟨hmodules _ _, ?_, ?_, List.forall_mem_nil _⟩⟩
    · exact (importsApart_iff_of_no_use hown.again (hencode _)).2 h
    · exact (importsApart_iff_of_no_use hown.again (filterMap_usePath?_decodeErrorItems _ _)).2 h
  | metrics => exact List.forall_mem_singleton.trans (importsApart_iff_of_no_use hlists rfl)
  | log => exact List.forall_mem_singleton.trans (importsApart_iff_of_no_use hlists rfl)
  | mock =>
    exact List.forall_mem_singleton.trans
      (importsApart_iff_of_no_use hlists (filterMap_usePath?_mockItems _))
  | swagger => exact iff_of_true (List.forall_mem_nil _) trivial

end Files

/-- **Which imports are apart.** In every file of a service that is built from the types and the
trait of some sources, the items record what their code defines, and no two imports bring the same
name into scope exactly if each name that the files of a selected kind import has one path. -/
theorem imports_apart_iff {types : List TypeDecl} {marker : String} {decl : InterfaceDecl}
    {s : ServiceSpec} (h : ServiceSpec.build (.insertAll {} types) marker decl = .ok (some s))
    (hname : IsSimpleName decl.name)
    (hmentioned : ∀ name ∈ (mentionedTypes decl s.methods).keys, IsSimpleName name) :
    (∀ file ∈ s.sources, ∀ item ∈ file.items, item.Records) ∧
      ((∀ file ∈ s.sources, ImportsApart file) ↔ ∀ kind ∈ s.processors,
        kind.KeepsImportsApart (ownImports (.insertAll {} types) decl s.methods)) := by
  have hbuilt := ServiceSpec.built_of_build h
  have hinterface : s.interfaceName = decl.name := by rw [hbuilt.eq]
  have himports : s.imports = importsOf (.insertAll {} types) decl s.methods := by rw [hbuilt.eq]
  have hroot : ImportsApart s.rootFile := by
    rw [ImportsApart, ServiceSpec.rootFile, importedNames_moduleFile]
    exact List.nodup_nil
  have hown : ListsPaths s.imports (ownImports (.insertAll {} types) decl s.methods) := by
    rw [himports, importsOf_eq]
    exact ListsPaths.nil.addPaths (useNames_ownImports hname hmentioned)
  refine ⟨records_sources s, ?_⟩
  rw [s.forall_mem_sources_iff hroot]
  exact forall₂_congr fun kind _ => importsApart_files_iff (hinterface ▸ hname) hown kind

/-- A trait with a method that takes a value of each of some types. -/
def typedTrait (types : List String) : InterfaceDecl :=
  ordersTrait [markedMethod "place" (types.map fun type => ⟨snakeCase type, type⟩)
    ("Failure" :: "String" :: types)]

/-- The trait may mention a type that some files import besides. -/
theorem imports_apart_duration :
    ∃ s, ServiceSpec.build (.insertAll {} [⟨"Order", "crate::model", .hidden⟩]) "@gtg"
        (typedTrait ["Order", "Duration"]) = .ok (some s) ∧
      s.processors = Processor.defaults ∧
      s.imports = ["crate::Orders", "std::time::Duration", "crate::Failure",
        "crate::model::Order"] ∧
      ∀ file ∈ s.sources, ImportsApart file := by
  have hbuild : (ServiceSpec.build (.insertAll {} [⟨"Order", "crate::model", .hidden⟩]) "@gtg"
      (typedTrait ["Order", "Duration"])).toOption.join.any (fun s =>
        s.processors = Processor.defaults ∧
        s.imports = ["crate::Orders", "std::time::Duration", "crate::Failure",
          "crate::model::Order"] ∧
        (∀ name ∈ (mentionedTypes (typedTrait ["Order", "Duration"]) s.methods).keys,
          IsSimpleName name) ∧
        ∀ kind ∈ s.processors, kind.KeepsImportsApart
          (ownImports (.insertAll {} [⟨"Order", "crate::model", .hidden⟩])
            (typedTrait ["Order", "Duration"]) s.methods)) = true := by
    decide +kernel
  obtain ⟨s, hs, hkinds, himports, hmentioned, hapart⟩ := exists_ok_of_any hbuild
  have hname : IsSimpleName (typedTrait ["Order", "Duration"]).name := by decide
  exact ⟨s, hs, hkinds, himports, (imports_apart_iff hs hname hmentioned).2.2 hapart⟩

/-- **Not all imports are apart.** A trait is built whose method takes a type of its own with the
name of one that the server imports. -/
theorem imports_clash_request :
    ∃ s, ServiceSpec.build {} "@gtg" (typedTrait ["Request"]) = .ok (some s) ∧
      ∃ file ∈ s.sources, file.path = ["httpserver", "server.rs"] ∧
        file.imports = ["crate::Orders", "crate::Failure", "crate::Request", "http::header",
          "http::Method", "http::Request", "http::Response", "http::StatusCode",
          "super::super::httperrors::ui"] ∧
        ¬ImportsApart file := by
  refine exists_ok_of_any ?_
  decide +kernel

end TransportGen
