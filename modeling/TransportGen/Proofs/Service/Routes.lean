import TransportGen.Proofs.Service.Build
import TransportGen.Proofs.Template.Matching
import TransportGen.View

/-!
# Paths of a built service

The client of a built service reaches a method through its server exactly if every segment of the
path template of the method is whole (`path_roundTrip_iff`). Templates with other segments are built
as well, and what the client sends for them is not read back (`not_matched_file`).
-/

namespace TransportGen

/-- The template of a built method is accepted, and its variables are those of the method. -/
theorem pathVariables_of_build {index : TypeIndex} {marker : String} {decl : InterfaceDecl}
    {s : ServiceSpec} (h : ServiceSpec.build index marker decl = .ok (some s)) {m : MethodSpec}
    (hm : m ∈ s.methods) : pathVariables m.uriTemplate = .ok m.pathVariables := by
  obtain ⟨_, -, hmethods⟩ := (ServiceSpec.built_of_build h).methods
  obtain ⟨_, -, _, -, hbuilt⟩ := exists_of_mem_right (buildMethods_ok hmethods) hm
  rw [hbuilt.eq]
  exact (distinctVariables_eq_ok_iff.1 hbuilt.vars).1

/-- **Client and server agree on whole segments.** The path that a client builds for a method of a
built service, from values that are not empty, is matched by the server and gives exactly these
values for the variables of the template, in order, if and only if each segment of the template is
free of braces or one variable in braces. -/
theorem path_roundTrip_iff {index : TypeIndex} {marker : String} {decl : InterfaceDecl}
    {s : ServiceSpec} (h : ServiceSpec.build index marker decl = .ok (some s)) {m : MethodSpec}
    (hm : m ∈ s.methods) (values : String → String)
    (hvalues : ∀ name ∈ m.pathVariables, values name ≠ "") :
    matchRoute m.uriTemplate (requestPath values (MethodView.of s.errorType m).urlPieces) =
        some (m.pathVariables.map fun name => (name, values name)) ↔
      ∀ segment ∈ segments m.uriTemplate.toList, IsWholeSegment segment :=
  matchRoute_requestPath_iff (pathVariables_of_build h hm) hvalues

/-- A trait with one method, whose template has a variable `name`. -/
def fileTrait (template : String) : InterfaceDecl where
  name := "Files"
  docs := []
  methods := [{
    name := "fetch"
    docs := ["@gtg method GET", "@gtg uri-path " ++ template]
    receiver := .ref
    params := [⟨"name", "String"⟩]
    unsupportedParam := none
    isGeneric := false
    isAsync := true
    hasDefault := false
    returnType := "Result<String, Failure>"
    okType := some "String"
    errType := some "Failure"
    returnsResult := true
    referencedTypes := ∅ }]
  modulePath := "crate"
  sourcePath := ⟨"src/lib.rs"⟩
  isGeneric := false

/-- A variable that is a segment of its own comes back, even if its value holds a slash. -/
theorem path_roundTrip_file :
    ∃ s m, ServiceSpec.build {} "@gtg" (fileTrait "/files/\x7bname\x7d") = .ok (some s) ∧
      m ∈ s.methods ∧
      matchRoute m.uriTemplate
          (requestPath (fun _ => "a b/c") (MethodView.of s.errorType m).urlPieces) =
        some [("name", "a b/c")] := by
  have hbuild : (ServiceSpec.build {} "@gtg" (fileTrait "/files/\x7bname\x7d")).toOption.join.any
      (fun s => s.methods.map (fun m => (m.uriTemplate, m.pathVariables)) =
        [("/files/\x7bname\x7d", ["name"])]) = true := by
    decide +kernel
  obtain ⟨s, hs, hfacts⟩ := (Option.any_eq_true _ _).1 hbuild
  have hs := eq_ok_of_toOption_join hs
  obtain ⟨m, hmethods, heq⟩ := List.map_eq_singleton_iff.1 (of_decide_eq_true hfacts)
  obtain ⟨htemplate, hvars⟩ := Prod.mk.inj heq
  have hm : m ∈ s.methods := hmethods ▸ List.mem_singleton_self m
  have hwhole : ∀ segment ∈ segments m.uriTemplate.toList, IsWholeSegment segment := by
    have hsegments : segments "/files/\x7bname\x7d".toList =
        [[], ['f', 'i', 'l', 'e', 's'], ['\x7b', 'n', 'a', 'm', 'e', '\x7d']] := by decide +kernel
    rw [htemplate, hsegments]
    simp only [List.forall_mem_cons]
    refine ⟨Or.inl ?_, Or.inl ?_, Or.inr ⟨['n', 'a', 'm', 'e'], ?_, rfl⟩, ?_⟩
    all_goals simp
  have hmatch := (path_roundTrip_iff hs hm (fun _ => "a b/c") (fun _ _ => by decide)).2 hwhole
  rw [hvars] at hmatch
  exact ⟨s, m, hs, hm, hmatch⟩

/-- **Not every template is matched.** A template with a variable inside a segment is built, and the
path that the client sends for it is not matched. -/
theorem not_matched_file :
    ∃ s m, ServiceSpec.build {} "@gtg" (fileTrait "/files/\x7bname\x7d.txt") = .ok (some s) ∧
      m ∈ s.methods ∧ m.uriTemplate = "/files/\x7bname\x7d.txt" ∧ m.pathVariables = ["name"] ∧
      requestPath (fun _ => "a") (MethodView.of s.errorType m).urlPieces = "/files/a.txt" ∧
      matchRoute m.uriTemplate "/files/a.txt" = none := by
  have hbuild : (ServiceSpec.build {} "@gtg"
      (fileTrait "/files/\x7bname\x7d.txt")).toOption.join.any (fun s => s.methods.any fun m =>
        m.uriTemplate = "/files/\x7bname\x7d.txt" ∧ m.pathVariables = ["name"] ∧
        requestPath (fun _ => "a") (MethodView.of s.errorType m).urlPieces = "/files/a.txt" ∧
        matchRoute m.uriTemplate "/files/a.txt" = none) = true := by
    decide +kernel
  obtain ⟨s, hs, hmethods⟩ := (Option.any_eq_true _ _).1 hbuild
  obtain ⟨m, hm, hfacts⟩ := List.any_eq_true.1 hmethods
  exact ⟨s, m, eq_ok_of_toOption_join hs, hm, of_decide_eq_true hfacts⟩

end TransportGen
