import TransportGen.Proofs.Schema.Forms

/-!
# Schemas of generic types

A type text is read anew at every level: the name up to the first angle bracket, the arguments up to
the last one, cut at the commas that stand in no brackets. Where the arguments nest, the cuts are
those of the syntax tree, so the schema of the text is the schema of the tree.

* `splitArguments_append`: a text whose brackets nest is passed over in one piece.
* `TypeTree.schemaAt_text`: the schema of the text of a tree.
* `describes_generics`: the wrappers one by one, and every nesting of them.
-/

namespace TransportGen

/-! ## Brackets -/

/-- The bracket that ends what the character begins. -/
def closing? : Char → Option Char
  | '<' => some '>'
  | '(' => some ')'
  | '[' => some ']'
  | _ => none

/-- Whether the character is a bracket that ends something. -/
def isClosing (c : Char) : Bool := c == '>' || c == ')' || c == ']'

/-- Whether the brackets of the text nest, where some are still due from before it, and no comma stands
outside brackets. -/
def isBalanced (due : List Char) : List Char → Bool
  | [] => due.isEmpty
  | c :: s =>
    match closing? c with
    | some close => isBalanced (close :: due) s
    | none =>
      if isClosing c then
        match due with
        | [] => false
        | close :: due => close == c && isBalanced due s
      else (c != ',' || !due.isEmpty) && isBalanced due s

theorem closing?_eq_some {c close : Char} (h : closing? c = some close) :
    c = '<' ∨ c = '(' ∨ c = '[' := by
  unfold closing? at h
  split at h
  · exact Or.inl rfl
  · exact Or.inr (Or.inl rfl)
  · exact Or.inr (Or.inr rfl)
  · cases h

theorem closing?_eq_none {c : Char} (h : closing? c = none) : c ≠ '<' ∧ c ≠ '(' ∧ c ≠ '[' := by
  refine ⟨?_, ?_, ?_⟩ <;> rintro rfl <;> exact absurd h (by decide)

section Scanning

variable {c : Char} {due : List Char}

theorem isBalanced_open {close : Char} (h : closing? c = some close) (s : List Char) :
    isBalanced due (c :: s) = isBalanced (close :: due) s := by
  simp only [isBalanced, h]

theorem isBalanced_close {close : Char} (hopen : closing? c = none) (hclose : isClosing c = true)
    (s : List Char) : isBalanced (close :: due) (c :: s) = (close == c && isBalanced due s) := by
  simp only [isBalanced, hopen, hclose, if_true]

theorem isBalanced_other (hopen : closing? c = none) (hclose : ¬isClosing c = true)
    (s : List Char) :
    isBalanced due (c :: s) = ((c != ',' || !due.isEmpty) && isBalanced due s) := by
  rw [isBalanced.eq_def]
  simp only [hopen, if_neg hclose]

end Scanning

theorem isBalanced_append {due more s t : List Char} (hs : isBalanced due s = true)
    (ht : isBalanced more t = true) : isBalanced (due ++ more) (s ++ t) = true := by
  fun_induction isBalanced due s with
  | case1 due =>
    rw [List.isEmpty_iff] at hs
    rw [hs]
    exact ht
  | case2 due c s close hopen ih =>
    rw [List.cons_append, isBalanced_open hopen]
    exact ih hs
  | case3 c s hopen hclose => exact Bool.noConfusion hs
  | case4 c s hopen hclose close due ih =>
    rw [Bool.and_eq_true] at hs
    rw [List.cons_append, List.cons_append, isBalanced_close hopen hclose, hs.1, ih hs.2]
    rfl
  | case5 due c s hopen hclose ih =>
    rw [Bool.and_eq_true] at hs
    have hcomma : (c != ',' || !(due ++ more).isEmpty) = true := by
      cases due with
      | nil =>
        have hc : (c != ',') = true := by simpa using hs.1
        rw [hc, Bool.true_or]
      | cons close due => simp
    rw [List.cons_append, isBalanced_other hopen hclose, hcomma, ih hs.2]
    rfl

/-- The characters that matter where arguments are cut. -/
def separators : List Char := ['<', '>', '(', ')', '[', ']', ',']

theorem isBalanced_of_plain {s : List Char} (h : ∀ c ∈ s, c ∉ separators) :
    isBalanced [] s = true := by
  induction s with
  | nil => rfl
  | cons c s ih =>
    rw [List.forall_mem_cons] at h
    have hopen : closing? c = none := by
      rw [Option.eq_none_iff_forall_ne_some]
      intro close hclose
      rcases closing?_eq_some hclose with rfl | rfl | rfl <;> exact h.1 (by decide)
    have hother := h.1
    simp only [separators, List.mem_cons, List.not_mem_nil, or_false, not_or] at hother
    have hclose : ¬isClosing c = true := by simp [isClosing, hother]
    rw [isBalanced_other hopen hclose, ih h.2]
    simp [hother]

theorem not_mem_separators {c : Char} (h : isIdentifierChar c = true ∨ c = ':') :
    c ∉ separators := by
  intro hmem
  exact (of_isIdentifierChar h).2 (List.mem_append_left ['&', '\''] hmem)

/-! ## Cutting at commas -/

theorem splitArguments_ne_nil (depth : Nat) (s : List Char) : splitArguments depth s ≠ [] := by
  cases s with
  | nil => exact List.cons_ne_nil _ _
  | cons c s =>
    rw [splitArguments]
    split
    · exact List.cons_ne_nil _ _
    · simp only
      split <;> exact List.cons_ne_nil _ _

theorem splitArguments_comma (s : List Char) :
    splitArguments 0 (',' :: s) = [] :: splitArguments 0 s := rfl

section Cutting

variable {c : Char} {depth : Nat}

/-- A character that is no comma between arguments goes to the piece it stands in. -/
theorem splitArguments_cons (hcut : ¬(c = ',' ∧ depth = 0)) (s : List Char) :
    splitArguments depth (c :: s) =
      (splitArguments
        (if c == '<' || c == '(' || c == '[' then depth + 1
          else if c == '>' || c == ')' || c == ']' then depth - 1 else depth) s).modifyHead
        (c :: ·) := by
  have htest : ¬(c == ',' && depth == 0) = true := by
    rw [Bool.and_eq_true, beq_iff_eq, beq_iff_eq]
    exact hcut
  rw [splitArguments, if_neg htest]
  generalize hinner : (if c == '<' || c == '(' || c == '[' then depth + 1
    else if c == '>' || c == ')' || c == ']' then depth - 1 else depth) = inner
  obtain ⟨piece, pieces, hpieces⟩ := List.exists_cons_of_ne_nil (splitArguments_ne_nil inner s)
  simp only [hpieces, List.modifyHead_cons]

theorem splitArguments_open {close : Char} (h : closing? c = some close) (s : List Char) :
    splitArguments depth (c :: s) = (splitArguments (depth + 1) s).modifyHead (c :: ·) := by
  rcases closing?_eq_some h with rfl | rfl | rfl <;>
    exact splitArguments_cons (by simp) s

theorem splitArguments_close (h : isClosing c = true) (s : List Char) :
    splitArguments (depth + 1) (c :: s) = (splitArguments depth s).modifyHead (c :: ·) := by
  have hc : c = '>' ∨ c = ')' ∨ c = ']' := by simpa [isClosing, or_assoc] using h
  rcases hc with rfl | rfl | rfl <;> exact splitArguments_cons (by simp) s

theorem splitArguments_other (hopen : closing? c = none) (hclose : ¬isClosing c = true)
    (hcut : ¬(c = ',' ∧ depth = 0)) (s : List Char) :
    splitArguments depth (c :: s) = (splitArguments depth s).modifyHead (c :: ·) := by
  have hc := closing?_eq_none hopen
  have htest : ¬(c == '>' || c == ')' || c == ']') = true := hclose
  rw [splitArguments_cons hcut, if_neg htest]
  simp [hc]

end Cutting

/-- Where the brackets nest, no comma separates arguments, and the brackets that were due at the
beginning are closed at the end. -/
theorem splitArguments_append {due s : List Char} (h : isBalanced due s = true) (rest : List Char) :
    splitArguments due.length (s ++ rest) = (splitArguments 0 rest).modifyHead (s ++ ·) := by
  -- The depth of the scan is the number of brackets that are due, all along the text.
  fun_induction isBalanced due s with
  | case1 due =>
    rw [List.isEmpty_iff] at h
    rw [h]
    exact (congrFun List.modifyHead_id _).symm
  | case2 due c s close hopen ih =>
    have hinner := ih h
    rw [List.cons_append, splitArguments_open hopen, ← List.length_cons, hinner,
      List.modifyHead_modifyHead]
    rfl
  | case3 c s hopen hclose => exact Bool.noConfusion h
  | case4 c s hopen hclose close due ih =>
    rw [Bool.and_eq_true] at h
    rw [List.cons_append, List.length_cons, splitArguments_close hclose, ih h.2,
      List.modifyHead_modifyHead]
    rfl
  | case5 due c s hopen hclose ih =>
    rw [Bool.and_eq_true] at h
    have hcut : ¬(c = ',' ∧ due.length = 0) := by
      rintro ⟨rfl, hdue⟩
      rw [List.length_eq_zero_iff] at hdue
      rw [hdue] at h
      exact absurd h.1 (by decide)
    rw [List.cons_append, splitArguments_other hopen hclose hcut, ih h.2,
      List.modifyHead_modifyHead]
    rfl

theorem splitArguments_eq_singleton {s : List Char} (h : isBalanced [] s = true) :
    splitArguments 0 s = [s] := by
  have happend := splitArguments_append h []
  rw [List.append_nil, List.length_nil] at happend
  rw [happend]
  simp [splitArguments]

theorem splitArguments_pair {a b : List Char} (ha : isBalanced [] a = true)
    (hb : isBalanced [] b = true) : splitArguments 0 (a ++ ',' :: b) = [a, b] := by
  have happend := splitArguments_append ha (',' :: b)
  rw [List.length_nil] at happend
  rw [happend, splitArguments_comma, splitArguments_eq_singleton hb]
  simp

/-! ## Arguments -/

/-- A text that can be an argument of a generic type. -/
structure Balanced (text : List Char) : Prop where
  /-- There are no blanks at its ends. -/
  trimmed : Text.trim text = text
  /-- There is something in it. -/
  ne_nil : text ≠ []
  /-- It is no lifetime. -/
  no_quote : text.head? ≠ some '\''
  /-- Its brackets nest, and it has no comma outside them. -/
  nests : isBalanced [] text = true

theorem balanced_iff {text : List Char} : Balanced text ↔ Text.trim text = text ∧ text ≠ [] ∧
    text.head? ≠ some '\'' ∧ isBalanced [] text = true := by
  constructor
  · intro h
    exact ⟨h.trimmed, h.ne_nil, h.no_quote, h.nests⟩
  · rintro ⟨htrimmed, hne, hquote, hnests⟩
    exact ⟨htrimmed, hne, hquote, hnests⟩

instance (text : List Char) : Decidable (Balanced text) := decidable_of_iff' _ balanced_iff

example : Balanced "(u8, [u16; 4])".toList := by decide

-- The head of an arrow counts as a bracket.
example : ¬Balanced "fn(u8) -> u8".toList := by decide

/-- An argument of a generic type. -/
abbrev BalancedText := { text : List Char // Balanced text }

/-- Two arguments. -/
def pairText (first second : List Char) : List Char := first ++ ',' :: ' ' :: second

/-- A lifetime, which is an argument too. -/
def lifetimeText (name : Identifier) : List Char := '\'' :: name.1

/-- Of arguments without lifetimes none is left out. -/
theorem filter_balanced {texts : List (List Char)} (h : ∀ text ∈ texts, Balanced text) :
    texts.filter (·.head? != some '\'') = texts := by
  apply List.filter_eq_self.2
  intro text htext
  exact bne_iff_ne.2 (h text htext).no_quote

theorem genericArguments_single {text : List Char} (h : Balanced text) :
    genericArguments text = [text] := by
  have hlast : ¬([text].getLast? == some []) = true := by simpa using h.ne_nil
  rw [genericArguments, splitArguments_eq_singleton h.nests, List.map_singleton, h.trimmed]
  simp only [if_neg hlast]
  exact filter_balanced (List.forall_mem_singleton.2 h)

theorem genericArguments_pair {first second : List Char} (hfirst : isBalanced [] first = true)
    (hsecond : Balanced second) : genericArguments (pairText first second) =
      [Text.trim first, second].filter (·.head? != some '\'') := by
  have hblank : isBalanced [] (' ' :: second) = true := by
    rw [isBalanced_other rfl (by decide), hsecond.nests]
    rfl
  have hlast : ¬([Text.trim first, second].getLast? == some []) = true := by
    simpa using hsecond.ne_nil
  rw [genericArguments, pairText, splitArguments_pair hfirst hblank]
  simp only [List.map_cons, List.map_nil, trim_blank_cons (by decide : Text.isBlank ' ' = true),
    hsecond.trimmed, if_neg hlast]

theorem isBalanced_lifetimeText (name : Identifier) : isBalanced [] (lifetimeText name) = true := by
  apply isBalanced_of_plain
  intro c hc
  rcases List.mem_cons.1 hc with rfl | hc
  · decide
  · exact not_mem_separators (Or.inl (name.2.2 c hc))

theorem genericArguments_lifetime (name : Identifier) {text : List Char} (h : Balanced text) :
    genericArguments (pairText (lifetimeText name) text) = [text] := by
  have htrim : Text.trim (lifetimeText name) = lifetimeText name := by
    apply trim_of_forall_not
    intro c hc
    rcases List.mem_cons.1 hc with rfl | hc
    · decide
    · exact isBlank_isIdentifierChar (name.2.2 c hc)
  rw [genericArguments_pair (isBalanced_lifetimeText name) h, htrim,
    List.filter_cons_of_neg (by simp [lifetimeText])]
  exact filter_balanced (List.forall_mem_singleton.2 h)

/-! ## Generic types as arguments -/

theorem isBalanced_enclosed {body : List Char} (h : isBalanced [] body = true) :
    isBalanced ['>'] (body ++ ['>']) = true :=
  isBalanced_append h (by decide)

theorem isBalanced_enclosed_pair {first second : List Char} (hfirst : isBalanced [] first = true)
    (hsecond : isBalanced [] second = true) :
    isBalanced ['>'] (pairText first second ++ ['>']) = true := by
  have hrest : isBalanced ['>'] (',' :: ' ' :: (second ++ ['>'])) = true := by
    rw [isBalanced_other rfl (by decide), isBalanced_other rfl (by decide),
      isBalanced_enclosed hsecond]
    rfl
  rw [pairText, List.append_assoc]
  exact isBalanced_append hfirst hrest

theorem balanced_genericText (path : List Identifier) {name : String}
    (hname : IsIdentifier name.toList) {body : List Char}
    (hbody : isBalanced ['>'] (body ++ ['>']) = true) : Balanced (genericText path name body) := by
  obtain ⟨c, rest, hrest, hc⟩ := exists_head path hname body
  refine ⟨trim_genericText path hname body, ?_, ?_, ?_⟩
  · rw [hrest]
    exact List.cons_ne_nil _ _
  · rw [hrest, List.head?_cons]
    intro hquote
    rw [Option.some.inj hquote] at hc
    exact absurd hc (by decide)
  · have hhead : isBalanced [] (pathText path ++ name.toList) = true := by
      apply isBalanced_of_plain
      intro d hd
      exact not_mem_separators (of_mem_head path hname hd)
    rw [genericText, List.append_assoc _ ('<' :: body), List.cons_append]
    apply isBalanced_append hhead
    rw [isBalanced_open rfl]
    exact hbody

/-! ## Trees -/

/-- Pointers that do not show in JSON; `Cow`, which has a lifetime, is not among them. -/
def pointerNames : List String := ["Box", "Arc", "Rc"]

/-- The types of sequences. -/
def sequenceNames : List String := ["Vec", "VecDeque", "HashSet", "BTreeSet"]

/-- The types of maps. -/
def mapNames : List String := ["HashMap", "BTreeMap"]

theorem isIdentifier_option : IsIdentifier "Option".toList := by decide

theorem isIdentifier_cow : IsIdentifier "Cow".toList := by decide

theorem isIdentifier_pointer : ∀ name ∈ pointerNames, IsIdentifier name.toList := by decide

theorem isIdentifier_sequence : ∀ name ∈ sequenceNames, IsIdentifier name.toList := by decide

theorem isIdentifier_map : ∀ name ∈ mapNames, IsIdentifier name.toList := by decide

/-- A type as a tree of wrappers. A name may follow a path. -/
inductive TypeTree where
  /-- Any type. -/
  | leaf (text : BalancedText)
  /-- `Option<T>` -/
  | optional (path : List Identifier) (inner : TypeTree)
  /-- `Box<T>` and the like. -/
  | pointer (path : List Identifier) (name : { name // name ∈ pointerNames }) (inner : TypeTree)
  /-- `Cow<'a, T>` -/
  | borrowed (path : List Identifier) (lifetime : Identifier) (inner : TypeTree)
  /-- `Vec<T>` and the like. -/
  | sequence (path : List Identifier) (name : { name // name ∈ sequenceNames }) (item : TypeTree)
  /-- `HashMap<K, V>` and the like. -/
  | mapping (path : List Identifier) (name : { name // name ∈ mapNames }) (key value : TypeTree)

namespace TypeTree

/-- The type as text. -/
def text : TypeTree → List Char
  | leaf text => text.1
  | optional path inner => genericText path "Option" inner.text
  | pointer path name inner => genericText path name.1 inner.text
  | borrowed path lifetime inner =>
    genericText path "Cow" (pairText (lifetimeText lifetime) inner.text)
  | sequence path name item => genericText path name.1 item.text
  | mapping path name key value => genericText path name.1 (pairText key.text value.text)

/-- The schema of a tree whose leaves have given schemas. -/
def schema (leafSchema : List Char → JsonValue) : TypeTree → JsonValue
  | leaf text => leafSchema text.1
  | optional _ inner => nullable (inner.schema leafSchema)
  | pointer _ _ inner => inner.schema leafSchema
  | borrowed _ _ inner => inner.schema leafSchema
  | sequence path name item =>
    if (sequence path name item).text = "Vec<u8>".toList then formatSchema "string" "byte"
    else arraySchema (item.schema leafSchema)
  | mapping _ _ _ value => mapSchema (value.schema leafSchema)

theorem balanced (tree : TypeTree) : Balanced tree.text := by
  induction tree with
  | leaf text => exact text.2
  | optional path inner ih =>
    exact balanced_genericText path isIdentifier_option (isBalanced_enclosed ih.nests)
  | pointer path name inner ih =>
    exact balanced_genericText path (isIdentifier_pointer _ name.2) (isBalanced_enclosed ih.nests)
  | borrowed path lifetime inner ih =>
    exact balanced_genericText path isIdentifier_cow
      (isBalanced_enclosed_pair (isBalanced_lifetimeText lifetime) ih.nests)
  | sequence path name item ih =>
    exact balanced_genericText path (isIdentifier_sequence _ name.2) (isBalanced_enclosed ih.nests)
  | mapping path name key value ihkey ihvalue =>
    exact balanced_genericText path (isIdentifier_map _ name.2)
      (isBalanced_enclosed_pair ihkey.nests ihvalue.nests)

end TypeTree

/-! ## Schemas -/

section Levels

variable {index : TypeIndex} {depth : Nat} (path : List Identifier)

theorem schemaAt_genericText {name : String} {body : List Char} (hname : IsIdentifier name.toList)
    (hne : genericText path name body ≠ "Vec<u8>".toList) :
    schemaAt index depth (genericText path name body) =
      (TypeForm.ofGeneric name (genericArguments body)).schema index depth
        (genericText path name body) := by
  have hbare := stripReference_genericText path hname body
  have hbuiltin := builtinSchema?_genericText path hne
  rw [← hbare] at hbuiltin
  rw [schemaAt_eq hbuiltin, hbare, of_genericText path hname]

variable (index depth)

theorem schemaAt_option {inner : List Char} (h : Balanced inner) :
    schemaAt index depth (genericText path "Option" inner) =
      nullable (schemaAt index depth inner) := by
  have hne := genericText_ne_bytes path isIdentifier_option (by decide) inner
  rw [schemaAt_genericText path isIdentifier_option hne,
    genericArguments_single h]
  rfl

theorem schemaAt_pointer (name : { name // name ∈ pointerNames }) {inner : List Char}
    (h : Balanced inner) :
    schemaAt index depth (genericText path name.1 inner) = schemaAt index depth inner := by
  have hname := isIdentifier_pointer _ name.2
  have hvec : ∀ name ∈ pointerNames, name ≠ "Vec" := by decide
  have hform : TypeForm.ofGeneric name.1 [inner] = .pointer inner := by
    have hforms : ∀ name ∈ pointerNames, TypeForm.ofGeneric name [inner] = .pointer inner := by
      simp [pointerNames, TypeForm.ofGeneric]
    exact hforms name.1 name.2
  rw [schemaAt_genericText path hname (genericText_ne_bytes path hname (hvec _ name.2) _),
    genericArguments_single h, hform]
  rfl

theorem schemaAt_cow (lifetime : Identifier) {inner : List Char} (h : Balanced inner) :
    schemaAt index depth (genericText path "Cow" (pairText (lifetimeText lifetime) inner)) =
      schemaAt index depth inner := by
  have hne := genericText_ne_bytes path isIdentifier_cow (by decide)
    (pairText (lifetimeText lifetime) inner)
  rw [schemaAt_genericText path isIdentifier_cow hne,
    genericArguments_lifetime lifetime h]
  rfl

theorem schemaAt_sequence (name : { name // name ∈ sequenceNames }) {item : List Char}
    (h : Balanced item) :
    schemaAt index depth (genericText path name.1 item) =
      if genericText path name.1 item = "Vec<u8>".toList then formatSchema "string" "byte"
      else arraySchema (schemaAt index depth item) := by
  have hform : TypeForm.ofGeneric name.1 [item] = .sequence item := by
    have hforms : ∀ name ∈ sequenceNames, TypeForm.ofGeneric name [item] = .sequence item := by
      simp [sequenceNames, TypeForm.ofGeneric]
    exact hforms name.1 name.2
  split
  · rename_i hbytes
    rw [hbytes]
    have hbare : String.ofList (stripReference "Vec<u8>".toList) = "Vec<u8>" := by decide
    apply schemaAt_builtin
    rw [hbare]
    rfl
  · rename_i hother
    rw [schemaAt_genericText path (isIdentifier_sequence _ name.2) hother, genericArguments_single h,
      hform]
    rfl

theorem schemaAt_map (name : { name // name ∈ mapNames }) {key value : List Char}
    (hkey : Balanced key) (hvalue : Balanced value) :
    schemaAt index depth (genericText path name.1 (pairText key value)) =
      mapSchema (schemaAt index depth value) := by
  have hname := isIdentifier_map _ name.2
  have hvec : ∀ name ∈ mapNames, name ≠ "Vec" := by decide
  have harguments : genericArguments (pairText key value) = [key, value] := by
    rw [genericArguments_pair hkey.nests hvalue, hkey.trimmed]
    apply filter_balanced
    intro text htext
    rcases List.mem_cons.1 htext with rfl | htext
    · exact hkey
    · rw [List.mem_singleton.1 htext]
      exact hvalue
  have hform : TypeForm.ofGeneric name.1 [key, value] = .mapping value := by
    have hforms : ∀ name ∈ mapNames, TypeForm.ofGeneric name [key, value] = .mapping value := by
      simp [mapNames, TypeForm.ofGeneric]
    exact hforms name.1 name.2
  rw [schemaAt_genericText path hname (genericText_ne_bytes path hname (hvec _ name.2) _),
    harguments, hform]
  rfl

/-- The schema of the text of a tree is the schema of the tree. -/
theorem TypeTree.schemaAt_text (tree : TypeTree) :
    schemaAt index depth tree.text = tree.schema (schemaAt index depth) := by
  induction tree with
  | leaf text => rfl
  | optional path inner ih =>
    rw [text, schemaAt_option index depth path inner.balanced, ih]
    rfl
  | pointer path name inner ih =>
    rw [text, schemaAt_pointer index depth path name inner.balanced, ih]
    rfl
  | borrowed path lifetime inner ih =>
    rw [text, schemaAt_cow index depth path lifetime inner.balanced, ih]
    rfl
  | sequence path name item ih =>
    rw [text, schemaAt_sequence index depth path name item.balanced, ih]
    rfl
  | mapping path name key value _ ihvalue =>
    rw [text, schemaAt_map index depth path name key.balanced value.balanced, ihvalue]
    rfl

end Levels

/-- How a function from texts to schemas describes generic types. -/
structure DescribesGenerics (schema : List Char → JsonValue) : Prop where
  /-- An optional value may be null. -/
  optional : ∀ (path : List Identifier) (inner : BalancedText),
    schema (genericText path "Option" inner.1) = nullable (schema inner.1)
  /-- A sequence is an array, and `Vec<u8>` without a path is a byte string. -/
  sequence : ∀ (path : List Identifier) (name : { name // name ∈ sequenceNames })
    (item : BalancedText),
    schema (genericText path name.1 item.1) =
      if genericText path name.1 item.1 = "Vec<u8>".toList then formatSchema "string" "byte"
      else arraySchema (schema item.1)
  /-- A map is an object whatever its keys are. -/
  mapping : ∀ (path : List Identifier) (name : { name // name ∈ mapNames })
    (key value : BalancedText),
    schema (genericText path name.1 (pairText key.1 value.1)) = mapSchema (schema value.1)
  /-- A pointer does not show. -/
  pointer : ∀ (path : List Identifier) (name : { name // name ∈ pointerNames })
    (inner : BalancedText), schema (genericText path name.1 inner.1) = schema inner.1
  /-- Neither does a borrowed or owned value. -/
  borrowed : ∀ (path : List Identifier) (lifetime : Identifier) (inner : BalancedText),
    schema (genericText path "Cow" (pairText (lifetimeText lifetime) inner.1)) = schema inner.1
  /-- So it is however deep the wrappers are nested. -/
  tree : ∀ tree : TypeTree, schema tree.text = tree.schema schema

/-- **Generic types are described as their syntax trees say.** -/
theorem describes_generics (index : TypeIndex) :
    DescribesGenerics fun text => typeSchema index (String.ofList text) := by
  have hschema : (fun text => typeSchema index (String.ofList text)) = schemaAt index 0 := by
    funext text
    rw [typeSchema, String.toList_ofList]
  rw [hschema]
  refine ⟨?optional, ?sequence, ?mapping, ?pointer, ?borrowed, ?tree⟩
  case optional => exact fun path inner => schemaAt_option index 0 path inner.2
  case sequence => exact fun path name item => schemaAt_sequence index 0 path name item.2
  case mapping => exact fun path name key value => schemaAt_map index 0 path name key.2 value.2
  case pointer => exact fun path name inner => schemaAt_pointer index 0 path name inner.2
  case borrowed => exact fun path lifetime inner => schemaAt_cow index 0 path lifetime inner.2
  case tree => exact TypeTree.schemaAt_text index 0

end TransportGen
