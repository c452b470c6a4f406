import Mathlib.Data.List.Induction
import TransportGen.Proofs.Text.Cutting
import TransportGen.Schema
import TransportGen.Text.IdentifierChar

/-!
# Schemas, form by form

The schema of a type that is not built in is given by its form (`schemaAt_eq`). A generic type, whose
name may follow a path, has the form that its name and its arguments say (`of_genericText`).
-/

namespace TransportGen

/-! ## Unfolding -/

/-- The schema of a type without arguments. -/
def namedSchema (index : TypeIndex) (depth : Nat) (bare : List Char) : JsonValue :=
  match (index.get? (lastSegment (String.ofList bare))).map TypeDecl.shape with
  | some (.record fields) =>
    if depth < maxDepth then
      recordSchema (fields.map fun f => (f.name, schemaAt index (depth + 1) f.type.toList))
        ((fields.filter isRequired).map (·.name))
    else bareSchema "object"
  | some (.variants variants) =>
    if !variants.isEmpty && variants.all (·.isUnit) then choiceSchema (variants.map (·.name))
    else bareSchema "object"
  | _ => bareSchema "object"

/-- The schema of a type of some form. -/
def TypeForm.schema (index : TypeIndex) (depth : Nat) (bare : List Char) : TypeForm → JsonValue
  | optional inner => nullable (schemaAt index depth inner)
  | pointer inner => schemaAt index depth inner
  | sequence item => arraySchema (schemaAt index depth item)
  | mapping value => mapSchema (schemaAt index depth value)
  | generic => bareSchema "object"
  | named => namedSchema index depth bare

section Unfolding

variable {index : TypeIndex} {depth : Nat} {type : List Char}

theorem schemaAt_builtin {schema : JsonValue}
    (h : builtinSchema? (String.ofList (stripReference type)) = some schema) :
    schemaAt index depth type = schema := by
  rw [schemaAt, h]

theorem schemaAt_eq (h : builtinSchema? (String.ofList (stripReference type)) = none) :
    schemaAt index depth type =
      (TypeForm.of (stripReference type)).schema index depth (stripReference type) := by
  rw [schemaAt, h]
  cases hform : TypeForm.of (stripReference type) with
  | optional inner => rfl
  | pointer inner => rfl
  | sequence item => rfl
  | mapping value => rfl
  | generic => rfl
  | named => rfl

/-- The types that are built in. -/
def builtinNames : List String :=
  ["String", "str", "char", "bool", "i8", "i16", "i32", "u8", "u16", "u32", "i64", "u64", "i128",
    "u128", "isize", "usize", "f32", "f64", "Vec<u8>", "[u8]", "()"]

theorem builtinSchema?_eq_none_iff {text : String} :
    builtinSchema? text = none ↔ text ∉ builtinNames := by
  constructor
  · intro hnone hmem
    have hsome : ∀ name ∈ builtinNames, (builtinSchema? name).isSome = true := by decide
    have htext := hsome text hmem
    rw [hnone] at htext
    exact Bool.noConfusion htext
  · intro hmem
    simp only [builtinNames, List.mem_cons, List.not_mem_nil, or_false, not_or] at hmem
    simp [builtinSchema?, hmem]

/-- A generic type is cut at its first angle bracket. -/
theorem splitGeneric?_eq_some_iff {type name : List Char} {arguments : List (List Char)} :
    splitGeneric? type = some (name, arguments) ↔
      ∃ body, type = name ++ '<' :: (body ++ ['>']) ∧ '<' ∉ name ∧
        arguments = genericArguments body := by
  simp only [splitGeneric?, Option.bind_eq_bind, Option.bind_eq_some_iff,
    Text.stripEnd?_eq_some_iff]
  constructor
  · rintro ⟨⟨before, rest⟩, hsplit, body, rfl, heq⟩
    cases heq
    obtain ⟨c, hc, rfl, hbefore⟩ := exists_of_splitFirst hsplit
    rw [beq_iff_eq] at hc
    refine ⟨body, by rw [hc], ?_, rfl⟩
    intro hmem
    exact absurd (hbefore '<' hmem) (by decide)
  · rintro ⟨body, rfl, hname, rfl⟩
    have hbefore : ∀ c ∈ name, (c == '<') = false := by
      intro c hc
      rw [beq_eq_false_iff_ne]
      rintro rfl
      exact hname hc
    exact ⟨(name, body ++ ['>']), splitFirst_append hbefore rfl _, body, rfl, rfl⟩

end Unfolding

/-! ## Identifiers and paths -/

/-- Whether the character may stand in an identifier; raw identifiers have a number sign. -/
def isIdentifierChar (c : Char) : Bool := Text.isIdentifierContinue c || c == '#'

/-- An identifier as it may stand in a path. -/
def IsIdentifier (text : List Char) : Prop := text ≠ [] ∧ ∀ c ∈ text, isIdentifierChar c = true

instance (text : List Char) : Decidable (IsIdentifier text) :=
  decidable_of_iff (text ≠ [] ∧ text.all isIdentifierChar = true)
    (and_congr_right fun _ => List.all_eq_true)

/-- An identifier. -/
abbrev Identifier := { text : List Char // IsIdentifier text }

/-- Identifiers, each before a double colon. -/
def pathText (path : List Identifier) : List Char := path.flatMap fun step => step.1 ++ [':', ':']

/-- A generic type: a path, a name and the text between its angle brackets. -/
def genericText (path : List Identifier) (name : String) (body : List Char) : List Char :=
  pathText path ++ name.toList ++ '<' :: body ++ ['>']

/-- The blanks above ASCII, as ranges. -/
def blankRanges : List Text.CodeRange :=
  [(0x85, 0x85), (0xA0, 0xA0), (0x1680, 0x1680), (0x2000, 0x200A), (0x2028, 0x2029),
    (0x202F, 0x202F), (0x205F, 0x205F), (0x3000, 0x3000)]

theorem identifierContinueRanges_apart : ∀ range ∈ Text.identifierContinueRanges.toList,
    ∀ blanks ∈ blankRanges, range.2 < blanks.1 ∨ blanks.2 < range.1 := by
  decide +kernel

theorem inRanges_of_isBlank {c : Char} (h : Text.isBlank c = true) (hascii : 0x80 ≤ c.toNat) :
    Text.inRanges Text.identifierContinueRanges c.toNat = false := by
  have hblanks : ∃ blanks ∈ blankRanges, blanks.1 ≤ c.toNat ∧ c.toNat ≤ blanks.2 := by
    simp only [Text.isBlank, Bool.or_eq_true, Bool.and_eq_true, decide_eq_true_eq,
      beq_iff_eq] at h
    simp only [blankRanges, List.mem_cons, List.not_mem_nil, or_false, exists_eq_or_imp,
      exists_eq_left]
    omega
  obtain ⟨blanks, hmem, hlow, hhigh⟩ := hblanks
  rw [Text.inRanges, Array.any_eq_false']
  intro range hrange hcode
  have hapart := identifierContinueRanges_apart range (Array.mem_toList_iff.2 hrange) blanks hmem
  simp only [Bool.and_eq_true, decide_eq_true_eq] at hcode
  omega

theorem isBlank_isIdentifierChar {c : Char} (h : isIdentifierChar c = true) :
    Text.isBlank c = false := by
  rw [Bool.eq_false_iff]
  intro hblank
  by_cases hascii : c.toNat < 0x80
  · have hcodes : c.toNat ∈ [9, 10, 11, 12, 13, 0x20] := by
      simp only [Text.isBlank, Bool.or_eq_true, Bool.and_eq_true, decide_eq_true_eq,
        beq_iff_eq] at hblank
      simp only [List.mem_cons, List.not_mem_nil, or_false]
      omega
    have hother : ∀ code ∈ [9, 10, 11, 12, 13, 0x20],
        isIdentifierChar (Char.ofNat code) = false := by decide
    have hchar := hother c.toNat hcodes
    rw [Char.ofNat_toNat, h] at hchar
    exact Bool.noConfusion hchar
  · have hranges := inRanges_of_isBlank hblank (Nat.le_of_not_lt hascii)
    rw [isIdentifierChar, Text.isIdentifierContinue, if_neg hascii, hranges, Bool.false_or,
      beq_iff_eq] at h
    rw [h] at hascii
    exact hascii (by decide)

/-- A character of a path has no meaning outside paths. -/
theorem of_isIdentifierChar {c : Char} (h : isIdentifierChar c = true ∨ c = ':') :
    Text.isBlank c = false ∧ c ∉ ['<', '>', '(', ')', '[', ']', ',', '&', '\''] := by
  constructor
  · rcases h with h | rfl
    · exact isBlank_isIdentifierChar h
    · decide
  · have hreserved : (['<', '>', '(', ')', '[', ']', ',', '&', '\''].all fun d =>
        !isIdentifierChar d && d != ':') = true := by decide
    intro hmem
    have hother := List.all_eq_true.1 hreserved c hmem
    rw [Bool.and_eq_true, Bool.not_eq_true', bne_iff_ne] at hother
    rcases h with h | rfl
    · rw [h] at hother
      exact Bool.noConfusion hother.1
    · exact hother.2 rfl

theorem IsIdentifier.colon {text : List Char} (h : IsIdentifier text) : ':' ∉ text := by
  intro hmem
  exact absurd (h.2 ':' hmem) (by decide)

section Generic

variable {name : String}

/-- The characters before the first angle bracket of a generic type. -/
theorem of_mem_head (path : List Identifier) (hname : IsIdentifier name.toList) {c : Char}
    (hc : c ∈ pathText path ++ name.toList) : isIdentifierChar c = true ∨ c = ':' := by
  rcases List.mem_append.1 hc with hc | hc
  · obtain ⟨step, -, hc⟩ := List.mem_flatMap.1 hc
    rcases List.mem_append.1 hc with hc | hc
    · exact Or.inl (step.2.2 c hc)
    · right
      simpa using hc
  · exact Or.inl (hname.2 c hc)

theorem lastSegment_head (path : List Identifier) (hname : IsIdentifier name.toList) :
    lastSegment (String.ofList (pathText path ++ name.toList)) = name := by
  cases path using List.reverseRecOn with
  | nil =>
    have hpath : String.ofList (pathText [] ++ name.toList) = name := String.ofList_toList
    rw [hpath, lastSegment_eq_self hname.colon]
  | append_singleton path step =>
    have hpath : String.ofList (pathText (path ++ [step]) ++ name.toList) =
        String.ofList (pathText path ++ step.1) ++ "::" ++ name := by
      rw [← String.toList_inj]
      simp [pathText]
    rw [hpath, lastSegment_append _ hname.colon]

theorem exists_head (path : List Identifier) (hname : IsIdentifier name.toList)
    (body : List Char) : ∃ c rest, genericText path name body = c :: rest ∧
      (isIdentifierChar c = true ∨ c = ':') := by
  have hne : pathText path ++ name.toList ≠ [] := by
    intro hnil
    exact hname.1 (List.append_eq_nil_iff.1 hnil).2
  obtain ⟨c, rest, hrest⟩ := List.exists_cons_of_ne_nil hne
  refine ⟨c, rest ++ '<' :: body ++ ['>'], ?_, ?_⟩
  · rw [genericText, hrest]
    rfl
  · apply of_mem_head path hname
    rw [hrest]
    exact List.mem_cons_self

/-- A generic type has no blanks at its ends and is no reference. -/
theorem trim_genericText (path : List Identifier) (hname : IsIdentifier name.toList)
    (body : List Char) : Text.trim (genericText path name body) = genericText path name body := by
  obtain ⟨first, rest, hrest, hfirst⟩ := exists_head path hname body
  apply trim_eq_self
  · intro c hc
    rw [hrest, List.head?_cons, Option.mem_some_iff] at hc
    rw [← hc]
    exact (of_isIdentifierChar hfirst).1
  · intro c hc
    rw [genericText, List.getLast?_concat, Option.mem_some_iff] at hc
    rw [← hc]
    decide

theorem stripReference_genericText (path : List Identifier) (hname : IsIdentifier name.toList)
    (body : List Char) :
    stripReference (genericText path name body) = genericText path name body := by
  obtain ⟨first, rest, hrest, hfirst⟩ := exists_head path hname body
  rw [stripReference, trim_genericText path hname]
  split
  · rename_i referred hreference
    rw [hrest] at hreference
    obtain ⟨rfl, -⟩ := List.cons.inj hreference
    exact absurd hfirst (by decide)
  · rfl

/-- Of the types with an angle bracket, only one is built in. -/
theorem builtinSchema?_genericText (path : List Identifier) {body : List Char}
    (hne : genericText path name body ≠ "Vec<u8>".toList) :
    builtinSchema? (String.ofList (genericText path name body)) = none := by
  have hmem : '<' ∈ genericText path name body := by simp [genericText]
  have hbrackets : ∀ text ∈ builtinNames, text = "Vec<u8>" ∨ '<' ∉ text.toList := by decide
  rw [builtinSchema?_eq_none_iff]
  intro hbuiltin
  rcases hbrackets _ hbuiltin with heq | hother
  · rw [← heq, String.toList_ofList] at hne
    exact hne rfl
  · rw [String.toList_ofList] at hother
    exact hother hmem

theorem splitFirst_genericText (path : List Identifier) (hname : IsIdentifier name.toList)
    (body : List Char) : Text.splitFirst (· == '<') (genericText path name body) =
      some (pathText path ++ name.toList, body ++ ['>']) := by
  have hopen : ∀ c ∈ pathText path ++ name.toList, (c == '<') = false := by
    intro c hc
    have hreserved := (of_isIdentifierChar (of_mem_head path hname hc)).2
    rw [List.mem_cons, not_or] at hreserved
    exact beq_eq_false_iff_ne.2 hreserved.1
  rw [genericText, List.append_assoc _ ('<' :: body), List.cons_append]
  exact splitFirst_append hopen rfl _

/-- Only sequences can be byte strings. -/
theorem genericText_ne_bytes (path : List Identifier) (hname : IsIdentifier name.toList)
    (hvec : name ≠ "Vec") (body : List Char) : genericText path name body ≠ "Vec<u8>".toList := by
  intro heq
  have hsplit := splitFirst_genericText path hname body
  -- Both texts are cut at the first angle bracket.
  have hbytes : Text.splitFirst (· == '<') "Vec<u8>".toList = some ("Vec".toList, "u8>".toList) := by
    decide
  rw [heq, hbytes, Option.some.injEq, Prod.mk.injEq] at hsplit
  have hlast := lastSegment_head path hname
  rw [← hsplit.1, String.ofList_toList, lastSegment_eq_self (by decide)] at hlast
  exact hvec hlast.symm

/-- **The form of a generic type.** -/
theorem of_genericText (path : List Identifier) (hname : IsIdentifier name.toList)
    (body : List Char) :
    TypeForm.of (genericText path name body) = .ofGeneric name (genericArguments body) := by
  obtain ⟨first, rest, hrest, hfirst⟩ := exists_head path hname body
  have hslice : sliceInner? (genericText path name body) = none := by
    have hstart : Text.stripStart? ['['] (genericText path name body) = none := by
      rw [Option.eq_none_iff_forall_ne_some]
      intro inner hinner
      rw [Text.stripStart?_eq_some_iff, hrest] at hinner
      obtain ⟨rfl, -⟩ := List.cons.inj hinner
      exact absurd hfirst (by decide)
    rw [sliceInner?, hstart]
    rfl
  have hsplit : splitGeneric? (genericText path name body) =
      some (pathText path ++ name.toList, genericArguments body) := by
    have hend : Text.stripEnd? ['>'] (body ++ ['>']) = some body :=
      Text.stripEnd?_eq_some_iff.2 rfl
    rw [splitGeneric?, splitFirst_genericText path hname]
    simp only [Option.bind_eq_bind, Option.bind_some, hend]
    rfl
  rw [TypeForm.of, hslice]
  simp only [hsplit, lastSegment_head path hname]

end Generic

end TransportGen
