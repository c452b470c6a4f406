import TransportGen.Proofs.Schema.NestedType

/-!
# Schemas of nested types

A reference is taken off once at each level, and the item of an array ends at the first semicolon
between its brackets. So a type made of references, slices and arrays is described as its syntax says
where no array is inside the brackets of another type and no reference follows a reference, unless
only a path follows; otherwise not.

* `describesLevels_iff`: which nested types are described level by level.
-/

namespace TransportGen

namespace NestedType

/-! ## Types that are described level by level -/

/-- What is cut where the type is, is described as the type is. -/
theorem describesLevels_of_isReadable {t : NestedType} (h : t.IsReadable) (index : TypeIndex)
    (depth : Nat) : t.DescribesLevels (schemaAt index depth) := by
  induction t with
  | named path name => exact trivial
  | reference mark referent ih =>
    refine ⟨?_, ih h.2⟩
    by_cases hreference : referent.IsReference
    · have hpath := h.1 hreference
      rw [schemaAt_endsPath (t := reference mark referent) hpath, schemaAt_endsPath hpath]
      exact namedSchema_congr (lastSegment_append_text hpath mark.text)
    · exact schemaAt_reference index depth mark hreference
  | slice item ih =>
    refine ⟨fun hne => ?_, ih h.2⟩
    apply schemaAt_bracketText index depth hne
    rw [sliceInner?_of_not_mem (not_mem_of_arrayFree h.1).1, item.trim_text]
  | array item length ih =>
    refine ⟨?_, ih h.2⟩
    have hmem : ';' ∈ item.text ++ ';' :: ' ' :: length :=
      List.mem_append_right _ List.mem_cons_self
    apply schemaAt_bracketText index depth (bracketText_ne_bytes hmem)
    rw [sliceInner?_semicolon (not_mem_of_arrayFree h.1).1, item.trim_text]

/-- The schema of what is cut where the type is says all slices and arrays of the type. -/
theorem isNested_text {t : NestedType} (h : t.IsReadable) (index : TypeIndex) (depth : Nat) :
    IsNested t.brackets (schemaAt index depth t.text) := by
  have hlevels := describesLevels_of_isReadable h index depth
  induction t with
  | named path name => exact trivial
  | reference mark referent ih =>
    rw [hlevels.1]
    exact ih h.2 hlevels.2
  | slice item ih =>
    by_cases hbytes : (slice item).text = "[u8]".toList
    · -- There are no brackets inside those of bytes.
      have hcount := (slice item).brackets_le_count
      have hone : "[u8]".toList.count ']' = 1 := by decide
      rw [hbytes, hone, brackets] at hcount
      have hzero : item.brackets = 0 := Nat.le_zero.1 (Nat.le_of_succ_le_succ hcount)
      have hschema : schemaAt index depth "[u8]".toList = formatSchema "string" "byte" :=
        schemaAt_builtin rfl
      rw [hbytes, hschema]
      exact Or.inl ⟨hzero, rfl⟩
    · rw [hlevels.1 hbytes, brackets, isNested_arraySchema]
      exact ih h.2 hlevels.2
  | array item length ih =>
    rw [hlevels.1, brackets, isNested_arraySchema]
    exact ih h.2 hlevels.2

/-! ## Types that are not -/

section Failures

variable {t : NestedType}

/-- Brackets around an array lose the closing bracket of the array. -/
theorem schemaAt_cut_ne (index : TypeIndex) (depth : Nat) (hreadable : t.IsReadable)
    (h : ¬t.ArrayFree) (rest : List Char) :
    schemaAt index depth (bracketText (t.text ++ rest)) ≠
      arraySchema (schemaAt index depth t.text) := by
  obtain ⟨a, b, htext, hsemicolon, hopen, hcount⟩ := exists_cut hreadable h
  have hbody : t.text ++ rest = a ++ ';' :: (b ++ rest) := by
    rw [htext, List.append_assoc, List.cons_append]
  have hmem : ';' ∈ t.text ++ rest := List.mem_append_left _ (mem_of_not_arrayFree h)
  have hitem : sliceInner? (bracketText (t.text ++ rest)) = some (Text.trim a) := by
    rw [hbody, sliceInner?_semicolon hsemicolon]
  rw [schemaAt_bracketText index depth (bracketText_ne_bytes hmem) hitem]
  intro heq
  have hnested := isNested_text hreadable index depth
  rw [← arraySchema_inj heq] at hnested
  have hopenItem : '<' ∉ Text.trim a := fun hmem => hopen ((trim_sublist a).subset hmem)
  have hle := le_count_of_isNested hopenItem hnested
  exact absurd (Nat.lt_of_le_of_lt (Nat.le_trans hle ((trim_sublist a).count_le ']')) hcount)
    (Nat.lt_irrefl _)

/-- No type that is built in is described like an unknown type. -/
theorem builtinSchema?_ne_object (text : String) :
    builtinSchema? text ≠ some (bareSchema "object") := by
  have hbare : ∀ type, (bareSchema type).field? "type" = some (.string type) := by
    intro type
    rw [bareSchema, field?_ofFields, Table.get?_ofList]
    rfl
  have hformat : ∀ type format, (formatSchema type format).field? "type" = some (.string type) := by
    intro type format
    rw [formatSchema, field?_ofFields, Table.get?_ofList]
    rfl
  have hany : anySchema.field? "type" = none := rfl
  intro h
  have htype := congrArg (Option.bind · fun schema => schema.field? "type") h
  unfold builtinSchema? at htype
  split_ifs at htype <;> simp [hbare, hformat, hany] at htype

/-- An index with one enumeration of a given name. -/
def choiceIndex (name : String) : TypeIndex :=
  TypeIndex.insert {} ⟨name, "crate", .variants [⟨"Only", true⟩]⟩

theorem get?_choiceIndex (name other : String) : (choiceIndex name).get? other =
    if other = name then some ⟨name, "crate", .variants [⟨"Only", true⟩]⟩ else none :=
  Table.get?_insert ∅ name other _

/-- Each name is known to some index, if it is not built in. -/
theorem exists_named_ne_object (name : TypeName) :
    ∃ index : TypeIndex, (∀ other, other ≠ name.1 → index.get? other = none) ∧
      schemaAt index 0 (named [] name).text ≠ bareSchema "object" := by
  have hname : stripReference (named [] name).text = name.1.toList :=
    stripReference_text (t := named [] name) not_false
  cases hbuiltin : builtinSchema? name.1 with
  | some schema =>
    have hschema : schemaAt {} 0 (named [] name).text = schema :=
      schemaAt_builtin (by rw [hname, String.ofList_toList, hbuiltin])
    refine ⟨{}, fun _ _ => rfl, ?_⟩
    rw [hschema]
    rintro rfl
    exact builtinSchema?_ne_object _ hbuiltin
  | none =>
    have hother : String.ofList name.1.toList ∉ builtinNames := by
      rw [String.ofList_toList]
      exact builtinSchema?_eq_none_iff.1 hbuiltin
    have hform : TypeForm.of name.1.toList = .named := of_text (t := named [] name) (Or.inl rfl)
    have hschema : schemaAt (choiceIndex name.1) 0 (named [] name).text = choiceSchema ["Only"] := by
      rw [schemaAt_of_bare hname hother hform, namedSchema, String.ofList_toList,
        lastSegment_eq_self name.2.colon, get?_choiceIndex, if_pos rfl]
      rfl
    refine ⟨choiceIndex name.1, fun other hne => by rw [get?_choiceIndex, if_neg hne], ?_⟩
    rw [hschema]
    intro heq
    have hchoices := field?_choiceSchema ["Only"]
    rw [heq, bareSchema, field?_ofFields_eq_none.2 (by simp)] at hchoices
    exact Option.some_ne_none _ hchoices.symm

/-- Behind two references a name without a path is not found. -/
theorem exists_reference_name_ne (mark mark' : ReferenceMark) (name : TypeName) :
    ∃ index, schemaAt index 0 (reference mark (reference mark' (named [] name))).text ≠
      schemaAt index 0 (reference mark' (named [] name)).text := by
  have hlast : lastSegment (String.ofList (reference mark' (named [] name)).text) =
      String.ofList (reference mark' (named [] name)).text := by
    apply lastSegment_eq_self
    rw [String.toList_ofList]
    intro hmem
    rcases List.mem_append.1 hmem with hmem | hmem
    · exact absurd (of_mem_mark hmem) (by decide)
    · exact name.2.colon hmem
  have hne : String.ofList (reference mark' (named [] name)).text ≠ name.1 := by
    intro heq
    have hmem : '&' ∈ name.1.toList := by
      rw [← heq, String.toList_ofList]
      exact List.mem_cons_self
    exact absurd (name.2.2 '&' hmem) (by decide)
  obtain ⟨index, hunknown, hobject⟩ := exists_named_ne_object name
  refine ⟨index, ?_⟩
  rw [schemaAt_reference_reference, namedSchema, hlast, hunknown _ hne,
    schemaAt_reference index 0 mark' (t := named [] name) not_false]
  exact hobject.symm

/-- Behind two references slices and arrays do not show. -/
theorem schemaAt_reference_brackets_ne (mark mark' : ReferenceMark) (h : t.IsReadable)
    (hreference : ¬t.IsReference) (hbrackets : t.brackets ≠ 0) (index : TypeIndex) :
    schemaAt index 0 (reference mark (reference mark' t)).text ≠
      schemaAt index 0 (reference mark' t).text := by
  obtain ⟨n, hn⟩ := Nat.exists_eq_succ_of_ne_zero hbrackets
  have hnested := isNested_text h index 0
  rw [schemaAt_reference_reference, schemaAt_reference index 0 mark' hreference]
  intro heq
  rw [← heq, hn] at hnested
  exact not_isNested_namedSchema _ hnested

/-- Of two references only one is taken off, so it takes a path to find a type behind them. -/
theorem exists_reference_ne (mark mark' : ReferenceMark)
    (hreadable : (reference mark' t).IsReadable) (hpath : ¬t.EndsPath) :
    ∃ index, schemaAt index 0 (reference mark (reference mark' t)).text ≠
      schemaAt index 0 (reference mark' t).text := by
  cases t with
  | named path name =>
    cases path with
    | nil => exact exists_reference_name_ne mark mark' name
    | cons step path => exact (hpath (List.cons_ne_nil step path)).elim
  | reference mark'' referent => exact (hpath (hreadable.1 trivial)).elim
  | slice item =>
    exact ⟨{}, schemaAt_reference_brackets_ne mark mark' hreadable.2 not_false
      (Nat.succ_ne_zero _) {}⟩
  | array item length =>
    exact ⟨{}, schemaAt_reference_brackets_ne mark mark' hreadable.2 not_false
      (Nat.succ_ne_zero _) {}⟩

end Failures

/-- **Which nested types are described level by level.** -/
theorem describesLevels_iff (type : NestedType) :
    (∀ index, type.DescribesLevels fun text => typeSchema index (String.ofList text)) ↔
      type.IsReadable := by
  have htype : ∀ index, (fun text => typeSchema index (String.ofList text)) = schemaAt index 0 := by
    intro index
    funext text
    rw [typeSchema, String.toList_ofList]
  simp only [htype]
  constructor
  · intro h
    induction type with
    | named path name => exact trivial
    | reference mark referent ih =>
      have hreadable := ih fun index => (h index).2
      refine ⟨fun hreference => ?_, hreadable⟩
      by_contra hpath
      cases referent with
      | named path name => exact hreference
      | reference mark' referent =>
        obtain ⟨index, hne⟩ := exists_reference_ne mark mark' hreadable hpath
        exact hne (h index).1
      | slice item => exact hreference
      | array item length => exact hreference
    | slice item ih =>
      have hreadable := ih fun index => (h index).2
      refine ⟨?_, hreadable⟩
      by_contra harray
      have hcut := schemaAt_cut_ne {} 0 hreadable harray []
      rw [List.append_nil] at hcut
      exact hcut ((h {}).1 (bracketText_ne_bytes (mem_of_not_arrayFree harray)))
    | array item length ih =>
      have hreadable := ih fun index => (h index).2
      refine ⟨?_, hreadable⟩
      by_contra harray
      exact schemaAt_cut_ne {} 0 hreadable harray _ (h {}).1
  · intro h index
    exact describesLevels_of_isReadable h index 0

/-- A row of three numbers. -/
def row : NestedType := array (named [] ⟨"u32", by decide⟩) "3".toList

/-- Two references to a number. -/
def twice : NestedType :=
  reference ⟨none, false⟩ (reference ⟨none, false⟩ (named [] ⟨"u32", by decide⟩))

/-- A matrix loses its rows, and two references are not taken off. -/
theorem levels_lost_matrix :
    typeSchema {} "[[u32; 3]; 3]" ≠ arraySchema (typeSchema {} "[u32; 3]") ∧
      typeSchema {} "&&u32" ≠ typeSchema {} "&u32" := by
  constructor
  · have hrow : "[u32; 3]".toList = row.text := by decide
    have hmatrix : "[[u32; 3]; 3]".toList = bracketText (row.text ++ "; 3".toList) := by decide
    rw [typeSchema, typeSchema, hmatrix, hrow]
    exact schemaAt_cut_ne (t := row) {} 0 ⟨trivial, trivial⟩ not_false "; 3".toList
  · have htext : "&&u32".toList = twice.text := by decide
    have htwice : schemaAt {} 0 twice.text = bareSchema "object" :=
      schemaAt_reference_reference _ _ _
    have honce : typeSchema {} "&u32" = formatSchema "integer" "int32" := schemaAt_builtin rfl
    rw [honce, typeSchema, htext, htwice]
    intro heq
    have hformat := field?_formatSchema "integer" "int32"
    rw [← heq, bareSchema, field?_ofFields_eq_none.2 (by simp)] at hformat
    exact Option.some_ne_none _ hformat.symm

end NestedType

end TransportGen
