import TransportGen.Generation

/-!
# The marker of generated files

Every file that is rendered for a service begins with the line of the marker, so it is told from
files that are somebody's own (`hasMarker_of_mem_targets`), also when it is met again by a scan.
-/

namespace TransportGen

theorem Text.utf8_append (a b : String) : Text.utf8 (a ++ b) = Text.utf8 a ++ Text.utf8 b := by
  simp [Text.utf8]

theorem firstLine_marker (rest : Bytes) :
    firstLine (Text.utf8 generatedMarker ++ 0x0A :: rest) = Text.utf8 generatedMarker := rfl

/-- A file carries the marker if its first line is the marker, whatever follows. -/
theorem hasMarker_marker_line (rest : Bytes) :
    hasMarker (Text.utf8 generatedMarker ++ 0x0A :: rest) = true := by
  unfold hasMarker
  rw [firstLine_marker]
  decide +kernel

theorem linesText_cons (line : String) (rest : List String) :
    linesText (line :: rest) = line ++ "\n" ++ linesText rest := by
  simp [linesText, String.join_cons]

/-- A file is written out with the marker as its first line. -/
theorem SourceFile.exists_content_render (origin : String) (file : SourceFile) :
    ∃ rest, (file.render origin).content = generatedMarker ++ "\n" ++ rest := by
  have hheader : ∃ rest, linesText (headerLines origin file) = generatedMarker ++ "\n" ++ rest :=
    ⟨_, linesText_cons _ _⟩
  obtain ⟨rest, hrest⟩ := hheader
  simp only [SourceFile.render]
  split
  · exact ⟨rest, hrest⟩
  · refine ⟨rest ++ "\n" ++ bodyText file ++ "\n", ?_⟩
    rw [hrest]
    simp only [String.append_assoc]

theorem hasMarker_render (origin : String) (file : SourceFile) :
    hasMarker (Text.utf8 (file.render origin).content) = true := by
  obtain ⟨rest, hrest⟩ := file.exists_content_render origin
  rw [hrest, Text.utf8_append, Text.utf8_append]
  exact hasMarker_marker_line _

theorem hasMarker_of_mem_files {s : ServiceSpec} {file : GeneratedFile} (h : file ∈ s.files) :
    hasMarker (Text.utf8 file.content) = true := by
  obtain ⟨source, -, rfl⟩ := List.mem_map.1 h
  exact hasMarker_render s.importPath source

theorem hasMarker_of_mem_targets {s : ServiceSpec} {target : FilePath × Bytes}
    (h : target ∈ s.targets) : hasMarker target.2 = true := by
  obtain ⟨file, hfile, rfl⟩ := List.mem_map.1 h
  exact hasMarker_of_mem_files hfile

end TransportGen
