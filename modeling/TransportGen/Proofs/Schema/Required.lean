import Mathlib.Data.List.Nodup
import TransportGen.Proofs.Schema.Calls

/-!
# Required fields

A struct's schema requires the fields whose types do not begin with `Option<`, and describes a field
as an optional value if its type is read as one. The two agree for a field exactly if the type is
spelled plainly (`requires_agree_iff`).
-/

namespace TransportGen

/-! ## Optional types -/

/-- A generic type of one argument whose name, without the path before it, is `Option`. It may stand
behind a reference. -/
def IsOption (type : List Char) : Prop :=
  ∃ path body inner, stripReference type = path ++ '<' :: (body ++ ['>']) ∧ '<' ∉ path ∧
    lastSegment (String.ofList path) = "Option" ∧ genericArguments body = [inner]

/-- The schema of the type is that of what it holds, widened for null. -/
def IsWidened (type : List Char) : Prop :=
  ∃ inner, builtinSchema? (String.ofList (stripReference type)) = none ∧
    TypeForm.of (stripReference type) = .optional inner

theorem ofGeneric_eq_optional_iff {name : String} {arguments : List (List Char)}
    {inner : List Char} : TypeForm.ofGeneric name arguments = .optional inner ↔
      name = "Option" ∧ arguments = [inner] := by
  constructor
  · intro h
    unfold TypeForm.ofGeneric at h
    split at h
    · split at h <;> cases h
      exact ⟨‹_›, rfl⟩
    · split_ifs at h <;> split at h <;> cases h
  · rintro ⟨rfl, rfl⟩
    rfl

theorem sliceInner?_of_angle (s : List Char) : sliceInner? (s ++ ['>']) = none := by
  rw [Option.eq_none_iff_forall_ne_some]
  intro item h
  simp only [sliceInner?, Option.bind_eq_bind, Option.bind_eq_some_iff,
    Text.stripStart?_eq_some_iff, Text.stripEnd?_eq_some_iff] at h
  obtain ⟨_, hstart, body, rfl, -⟩ := h
  have hlast := congrArg List.getLast? hstart
  rw [List.getLast?_concat, ← List.append_assoc, List.getLast?_concat] at hlast
  exact absurd hlast (by decide)

theorem of_eq_optional_iff {type inner : List Char} : TypeForm.of type = .optional inner ↔
    ∃ path body, type = path ++ '<' :: (body ++ ['>']) ∧ '<' ∉ path ∧
      lastSegment (String.ofList path) = "Option" ∧ genericArguments body = [inner] := by
  unfold TypeForm.of
  constructor
  · intro h
    split at h
    · cases h
    · split at h
      · rename_i hsplit
        obtain ⟨body, rfl, hpath, rfl⟩ := splitGeneric?_eq_some_iff.1 hsplit
        obtain ⟨hname, harguments⟩ := ofGeneric_eq_optional_iff.1 h
        exact ⟨_, body, rfl, hpath, hname, harguments⟩
      · cases h
  · rintro ⟨path, body, rfl, hpath, hname, harguments⟩
    have hslice : sliceInner? (path ++ '<' :: (body ++ ['>'])) = none := by
      have hangle := sliceInner?_of_angle (path ++ '<' :: body)
      rwa [List.append_assoc, List.cons_append] at hangle
    rw [hslice, splitGeneric?_eq_some_iff.2 ⟨body, rfl, hpath, rfl⟩]
    exact ofGeneric_eq_optional_iff.2 ⟨hname, harguments⟩

/-- The optional types are those that are described so. -/
theorem isOption_iff_isWidened {type : List Char} : IsOption type ↔ IsWidened type := by
  constructor
  · rintro ⟨path, body, inner, htype, hpath, hname, harguments⟩
    have hform := of_eq_optional_iff.2 ⟨path, body, htype, hpath, hname, harguments⟩
    refine ⟨inner, builtinSchema?_eq_none_iff.2 ?_, hform⟩
    -- No type that is built in has this form.
    intro hbuiltin
    have hforms : ∀ text ∈ builtinNames, ∀ inner, TypeForm.of text.toList ≠ .optional inner := by
      intro text htext inner
      have hnone : ∀ text ∈ builtinNames, TypeForm.of text.toList = .named ∨
          TypeForm.of text.toList = .sequence "u8".toList := by decide
      rcases hnone text htext with h | h <;> rw [h] <;> simp
    have hother := hforms _ hbuiltin inner
    rw [String.toList_ofList] at hother
    exact hother hform
  · rintro ⟨inner, -, hform⟩
    obtain ⟨path, body, htype, hpath, hname, harguments⟩ := of_eq_optional_iff.1 hform
    exact ⟨path, body, inner, htype, hpath, hname, harguments⟩

theorem schemaAt_of_isWidened {type : List Char} (index : TypeIndex) (depth : Nat)
    (h : IsWidened type) :
    ∃ inner, wrapped? type = some inner ∧
      schemaAt index depth type = nullable (schemaAt index depth inner) := by
  obtain ⟨inner, hbuiltin, hform⟩ := h
  refine ⟨inner, ?_, ?_⟩
  · rw [wrapped?_eq hbuiltin, hform]
    rfl
  · rw [schemaAt_eq hbuiltin, hform, TypeForm.schema]

/-! ## Spellings -/

/-- What an optional type begins with if nothing stands before its name. -/
def optionStart : List Char := "Option<".toList

/-- The text does not mislead about being an optional type. -/
structure SpellsOption (type : List Char) : Prop where
  /-- No blank, no reference and no path stands before the name of an optional type. -/
  start : IsOption type → optionStart <+: type
  /-- After such a beginning one argument and the closing bracket follow. -/
  argument : ∀ rest, type = optionStart ++ rest →
    ∃ body inner, Text.trimEnd rest = body ++ ['>'] ∧ genericArguments body = [inner]

/-- A text that begins so is no reference. -/
theorem stripReference_optionStart (rest : List Char) :
    stripReference (optionStart ++ rest) = "Option".toList ++ '<' :: Text.trimEnd rest := by
  have hstart : optionStart ++ rest = "Option".toList ++ '<' :: rest := by
    have hoption : optionStart = "Option".toList ++ ['<'] := by decide
    rw [hoption, List.append_assoc, List.singleton_append]
  have htrim : Text.trim (optionStart ++ rest) = "Option".toList ++ '<' :: Text.trimEnd rest := by
    rw [Text.trim, ← trimEnd_append_cons (by decide), ← hstart]
    exact congrArg Text.trimEnd (trimStart_cons (by decide) _)
  rw [stripReference, htrim]
  rfl

theorem isOption_optionStart_iff {rest : List Char} : IsOption (optionStart ++ rest) ↔
    ∃ body inner, Text.trimEnd rest = body ++ ['>'] ∧ genericArguments body = [inner] := by
  rw [IsOption, stripReference_optionStart]
  constructor
  · rintro ⟨path, body, inner, htype, hpath, -, harguments⟩
    exact ⟨body, inner, (append_cons_inj (by decide) hpath htype).2, harguments⟩
  · rintro ⟨body, inner, hrest, harguments⟩
    exact ⟨"Option".toList, body, inner, by rw [hrest], by decide, by decide, harguments⟩

/-- A type is an optional type exactly if it begins like one, as long as it does not mislead. -/
theorem spellsOption_iff {type : List Char} :
    SpellsOption type ↔ (optionStart <+: type ↔ IsOption type) := by
  constructor
  · intro h
    refine ⟨?_, h.start⟩
    rintro ⟨rest, rfl⟩
    exact isOption_optionStart_iff.2 (h.argument rest rfl)
  · intro h
    refine ⟨h.2, ?_⟩
    rintro rest rfl
    exact isOption_optionStart_iff.1 (h.1 (List.prefix_append _ _))

/-! ## Schemas of structs -/

/-- The schema of an object requires a field. -/
def Requires (schema : JsonValue) (name : String) : Prop :=
  ∃ names, schema.field? "required" = some (.strings names) ∧ name ∈ names

theorem requires_recordSchema_iff {properties : List (String × JsonValue)} {required : List String}
    {name : String} : Requires (recordSchema properties required) name ↔ name ∈ required := by
  have hfield : (recordSchema properties required).field? "required" =
      if required.isEmpty then none else some (.strings required) := by
    rw [recordSchema, field?_ofFields, Table.get?_ofList]
    cases required <;> rfl
  rw [Requires, hfield]
  constructor
  · rintro ⟨names, hnames, hmem⟩
    split at hnames
    · cases hnames
    · rw [Option.some.injEq, JsonValue.strings, JsonValue.strings, JsonValue.array.injEq,
        List.map_inj_right fun _ _ => JsonValue.string.inj] at hnames
      rwa [hnames]
  · intro hmem
    refine ⟨required, if_neg ?_, hmem⟩
    intro hempty
    rw [List.isEmpty_iff.1 hempty] at hmem
    cases hmem

theorem isRequired_iff {field : FieldDecl} :
    isRequired field = true ↔ ¬optionStart <+: field.type.toList := by
  rw [isRequired, Option.isNone_iff_eq_none, Option.eq_none_iff_forall_ne_some]
  constructor
  · rintro h ⟨rest, hrest⟩
    exact h rest (Text.stripStart?_eq_some_iff.2 hrest)
  · intro h rest hrest
    exact h ⟨rest, Text.stripStart?_eq_some_iff.1 hrest⟩

/-- The schema of a type describes, inside `depth` other structs, a struct by its fields. -/
structure Expands (index : TypeIndex) (type : String) (depth : Nat) (text : List Char)
    (fields : List FieldDecl) : Prop where
  reaches : Reaches index type depth text
  depth_lt : depth < maxDepth
  struct : structOf? index text = some fields

/-- A field is required exactly if its type does not begin like an optional type. -/
theorem Expands.requires_iff {index : TypeIndex} {type : String} {depth : Nat} {text : List Char}
    {fields : List FieldDecl} (h : Expands index type depth text fields)
    (hnames : (fields.map (·.name)).Nodup) {field : FieldDecl} (hfield : field ∈ fields) :
    Requires (schemaAt index depth text) field.name ↔ ¬optionStart <+: field.type.toList := by
  rw [schemaAt_struct h.struct, if_pos h.depth_lt, requires_recordSchema_iff, ← isRequired_iff,
    List.mem_map]
  constructor
  · rintro ⟨other, hother, hname⟩
    obtain ⟨hmem, hrequired⟩ := List.mem_filter.1 hother
    rwa [← List.inj_on_of_nodup_map hnames hmem hfield hname]
  · intro hrequired
    exact ⟨field, List.mem_filter.2 ⟨hfield, hrequired⟩, rfl⟩

/-- **Which fields are left out.** In the schema of a struct whose fields have different names, a field
is left out of the required ones exactly if it is described as an optional value, for just the fields
whose types are spelled plainly. -/
theorem requires_agree_iff {index : TypeIndex} {type : String} {depth : Nat} {text : List Char}
    {fields : List FieldDecl} (h : Expands index type depth text fields)
    (hnames : (fields.map (·.name)).Nodup) :
    ∀ field ∈ fields, (IsOption field.type.toList ↔ IsWidened field.type.toList) ∧
      ((¬Requires (schemaAt index depth text) field.name ↔ IsOption field.type.toList) ↔
        SpellsOption field.type.toList) := by
  intro field hfield
  refine ⟨isOption_iff_isWidened, ?_⟩
  rw [h.requires_iff hnames hfield, not_not, spellsOption_iff]

/-! ## A struct with optional fields -/

/-- A struct with a field of some type beside a name. -/
def noteFields (type : String) : List FieldDecl := [⟨"name", "String", ∅⟩, ⟨"note", type, ∅⟩]

/-- An index with that struct alone. -/
def notes (type : String) : TypeIndex :=
  TypeIndex.insert {} ⟨"Note", "crate", .record (noteFields type)⟩

theorem nodup_noteFields (type : String) : ((noteFields type).map (·.name)).Nodup := by
  have hnames : (noteFields type).map (·.name) = ["name", "note"] := rfl
  rw [hnames]
  decide

theorem expands_notes (type : String) :
    Expands (notes type) "Note" 0 "Note".toList (noteFields type) := by
  have hname : lastSegment (String.ofList (stripReference "Note".toList)) = "Note" := by decide
  have hget : (notes type).get? "Note" = some ⟨"Note", "crate", .record (noteFields type)⟩ := rfl
  refine ⟨.refl, by decide, ?_⟩
  rw [structOf?, if_pos (by decide), hname, TypeIndex.fields?, hget]
  rfl

/-- A plain optional field is left out, and a text is not. -/
theorem requires_agree_notes :
    ((noteFields "Option<String>").map (·.name)).Nodup ∧
      ¬Requires (typeSchema (notes "Option<String>") "Note") "note" ∧
      Requires (typeSchema (notes "Option<String>") "Note") "name" := by
  have hnames := nodup_noteFields "Option<String>"
  have hagree := requires_agree_iff (expands_notes "Option<String>") hnames
  have hoption : IsOption "Option<String>".toList :=
    ⟨"Option".toList, "String".toList, "String".toList, by decide, by decide, by decide, by decide⟩
  have hstring : ¬IsOption "String".toList := by
    rintro ⟨path, body, inner, htype, -⟩
    have hangle : '<' ∈ stripReference "String".toList := by
      rw [htype]
      exact List.mem_append_right path List.mem_cons_self
    exact absurd hangle (by decide)
  refine ⟨hnames, ?_, ?_⟩
  · have hspells := spellsOption_iff.2 (iff_of_true (by decide) hoption)
    exact ((hagree ⟨"note", "Option<String>", ∅⟩ (by decide)).2.2 hspells).2 hoption
  · have hspells := spellsOption_iff.2 (iff_of_false (by decide) hstring)
    have hname := (hagree ⟨"name", "String", ∅⟩ (by decide)).2.2 hspells
    by_contra hother
    exact hstring (hname.1 hother)

/-- **An optional field that is required.** With a path before its name, the type is described as
optional all the same. -/
theorem requires_option_notes :
    IsOption "std::option::Option<String>".toList ∧
      Requires (typeSchema (notes "std::option::Option<String>") "Note") "note" := by
  refine ⟨⟨"std::option::Option".toList, "String".toList, "String".toList, by decide, by decide,
    by decide, by decide⟩, ?_⟩
  have hnote : (⟨"note", "std::option::Option<String>", ∅⟩ : FieldDecl) ∈
      noteFields "std::option::Option<String>" := by decide
  exact ((expands_notes _).requires_iff (nodup_noteFields _) hnote).2 (by decide)

end TransportGen
