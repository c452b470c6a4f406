import Mathlib.Data.List.Infix
import TransportGen.View

/-!
# The code of a response in fragments

The code that writes a response on the server, and the code that reads it back on the client, is a
template with names, types and literals put in, and with accesses to fields of the success value and
of the struct of the response body. `Fragment` tells these apart.

* `ServerBody.isMadeOf`, `HeaderView.isMadeOf`, `ClientStep.isMadeOf`: the code, fragment by fragment,
  with no access in the words of the template.
* `ServerBody.isFrom`, `HeaderView.isFrom`, `ClientStep.isFrom`: what the other fragments are.
-/

namespace TransportGen

open Text (quote)

/-! ## Fragments -/

/-- A fragment of generated code. -/
inductive Fragment where
  /-- Words of the template. -/
  | words (text : String)
  /-- A name, a type or a literal that is put in. -/
  | given (text : String)
  /-- A field of a value. -/
  | access (origin field : String)
  deriving DecidableEq

namespace Fragment

/-- The fragment as text. -/
def text : Fragment → List Char
  | words text => text.toList
  | given text => text.toList
  | access origin field => origin.toList ++ '.' :: field.toList

/-- The words of the template, if the fragment is one of them. -/
def words? : Fragment → Option String
  | words text => some text
  | _ => none

/-- The fragment with a blank for what is put in. -/
def blanked (f : Fragment) : List Char := (f.words?.map String.toList).getD ['_']

/-- The fragment accesses one of the fields, or it puts in one of the texts or fields. -/
def IsFrom (fields givens : List String) : Fragment → Prop
  | words _ => True
  | given text => text ∈ givens ∨ text ∈ fields
  | access _ field => field ∈ fields

end Fragment

/-- The starts of an access: to the success value and to the struct of the response body. -/
def accessStarts : List (List Char) := ["value.".toList, "wire.".toList]

/-- There is no access in the text. -/
def AccessFree (s : List Char) : Prop := ∀ start ∈ accessStarts, ¬start <:+: s

instance (s : List Char) : Decidable (AccessFree s) :=
  inferInstanceAs (Decidable (∀ start ∈ accessStarts, ¬start <:+: s))

/-- The text is the fragments one after another. -/
def Renders (text : String) (fragments : List Fragment) : Prop :=
  text.toList = fragments.flatMap Fragment.text

/-- The fragments have all accesses of the text. -/
structure IsMadeOf (text : String) (fragments : List Fragment) : Prop where
  renders : Renders text fragments
  accessFree : AccessFree (fragments.flatMap Fragment.blanked)

namespace Renders

theorem words (text : String) : Renders text [.words text] := by
  simp [Renders, Fragment.text]

theorem given (text : String) : Renders text [.given text] := by
  simp [Renders, Fragment.text]

theorem access (origin field : String) :
    Renders (origin ++ "." ++ field) [.access origin field] := by
  simp [Renders, Fragment.text]

theorem append {s t : String} {a b : List Fragment} (hs : Renders s a) (ht : Renders t b) :
    Renders (s ++ t) (a ++ b) := by
  rw [Renders, String.toList_append, List.flatMap_append, hs, ht]

/-- The words before an access may be written together with the name of the value. -/
theorem wordsAccess {s : String} {fragments : List Fragment} (h : Renders s fragments)
    (words origin field : String) :
    Renders (s ++ (words ++ origin ++ ".") ++ field)
      (fragments ++ [.words words, .access origin field]) := by
  rw [Renders] at h
  simp [Renders, Fragment.text, h]

end Renders

/-! ## Templates without accesses -/

section AccessFree

variable {a b : List Char}

theorem AccessFree.of_infix (h : AccessFree b) (hsub : a <:+: b) : AccessFree a :=
  fun start hstart hstarts => h start hstart (hstarts.trans hsub)

/-- An infix that lacks a character stands on one side of it. -/
theorem infix_append_cons {α : Type} {c : α} {p a b : List α} (hc : c ∉ p)
    (h : p <:+: a ++ c :: b) : p <:+: a ∨ p <:+: b := by
  have hnil : ∀ {q : List α}, (∀ d ∈ q, d ∈ p) → q <+: c :: b → q = [] := by
    intro q hq hcons
    cases q with
    | nil => rfl
    | cons d q =>
      obtain ⟨rfl, -⟩ := List.cons_prefix_cons.1 hcons
      exact absurd (hq d List.mem_cons_self) hc
  rcases List.infix_append_iff.1 h with h | h | ⟨l, r, rfl, hl, hr⟩
  · exact Or.inl h
  · rcases List.infix_cons_iff.1 h with h | h
    · rw [hnil (fun _ hd => hd) h]
      exact Or.inl List.nil_infix
    · exact Or.inr h
  · rw [hnil (fun _ hd => List.mem_append_right _ hd) hr, List.append_nil]
    exact Or.inl hl.isInfix

/-- No access begins before a blank and ends after it. -/
theorem AccessFree.blank (ha : AccessFree a) (hb : AccessFree b) : AccessFree (a ++ '_' :: b) := by
  have hblank : ∀ start ∈ accessStarts, '_' ∉ start := by decide
  intro start hstart hstarts
  rcases infix_append_cons (hblank start hstart) hstarts with h | h
  · exact ha start hstart h
  · exact hb start hstart h

/-- What is put in, and which fields are accessed, does not matter. -/
theorem AccessFree.of_words {fragments others : List Fragment}
    (h : AccessFree (fragments.flatMap Fragment.blanked))
    (heq : fragments.map Fragment.words? = others.map Fragment.words?) :
    AccessFree (others.flatMap Fragment.blanked) := by
  have hblanked : ∀ fragments : List Fragment, fragments.flatMap Fragment.blanked =
      (fragments.map Fragment.words?).flatMap fun w => (w.map String.toList).getD ['_'] := by
    intro fragments
    rw [List.flatMap_map]
    rfl
  rwa [hblanked, ← heq, ← hblanked]

end AccessFree

/-! ## Code in fragments -/

/-- The fragments that take fields over from another value. -/
def takeFragments (type origin : String) (fields : List String) : List Fragment :=
  [.given type, .words " \x7b "] ++
    [Fragment.words ", "].intercalate
      (fields.map fun field => [.given field, .words ": ", .access origin field]) ++
    [.words " \x7d"]

namespace ServerBody

/-- The code of the body. -/
def fragments : ServerBody → List Fragment
  | wire type fields =>
    [.words "serde_json::to_vec(&"] ++ takeFragments type "value" fields ++
      [.words ").map_err(|e| e.to_string())"]
  | whole => [.words whole.expr]
  | field name =>
    [.words "serde_json::to_vec(&", .access "value" name, .words ").map_err(|e| e.to_string())"]
  | raw => [.words raw.expr]
  | empty => [.words empty.expr]

end ServerBody

/-- The code of the header's value. -/
def HeaderView.fragments (h : HeaderView) : List Fragment :=
  match h.value with
  | .literal text => [.given (quote text)]
  | .field name => [.access "value" name, .words ".to_string()"]

namespace ClientStep

/-- The code of an error that a decoding error is turned into. -/
def errorFragments (error : String) : List Fragment :=
  [.words "map_err(|e| ", .given error, .words "::from(ClientError::Decode(e.to_string())))"]

/-- The code of the step. -/
def fragments : ClientStep → List Fragment
  | decodeWire type error =>
    [.words "let wire: ", .given type, .words " = serde_json::from_slice(resp.body())."] ++
      errorFragments error ++ [.words "?;"]
  | takeWire isMutable type fields =>
    [.words (binding isMutable), .words " = "] ++ takeFragments type "wire" fields ++ [.words ";"]
  | decodeWhole isMutable type error =>
    [.words (binding isMutable), .words ": ", .given type,
      .words " = serde_json::from_slice(resp.body())."] ++ errorFragments error ++ [.words "?;"]
  | default isMutable type =>
    [.words (binding isMutable), .words ": ", .given type, .words " = Default::default();"]
  | decodeField name error =>
    [.access "value" name, .words " = serde_json::from_slice(resp.body())."] ++
      errorFragments error ++ [.words "?;"]
  | text isMutable error =>
    [.words (binding isMutable), .words " = String::from_utf8(resp.body().clone())."] ++
      errorFragments error ++ [.words "?;"]
  | bytes isMutable => [.words (binding isMutable), .words " = resp.body().clone();"]
  | header name field =>
    [.words "if let Some(parsed) = resp.headers().get(", .given (quote name),
      .words ").and_then(|v| v.to_str().ok()).and_then(|v| v.parse().ok()) \x7b ",
      .access "value" field, .words " = parsed; \x7d"]

end ClientStep

/-! ## Fields that are taken over -/

theorem flatMap_intercalate {α β : Type} (f : α → List β) (sep : List α) (xss : List (List α)) :
    (sep.intercalate xss).flatMap f = (sep.flatMap f).intercalate (xss.map (·.flatMap f)) := by
  induction xss with
  | nil => rfl
  | cons xs rest ih =>
    cases rest with
    | nil => simp
    | cons ys rest =>
      rw [List.intercalate_cons_cons, List.flatMap_append, List.flatMap_append, ih, List.map_cons,
        List.map_cons, List.map_cons, List.intercalate_cons_cons]

theorem renders_takeFields (type origin : String) (fields : List String) :
    Renders (ServerBody.takeFields type origin fields) (takeFragments type origin fields) := by
  simp only [Renders, takeFragments, ServerBody.takeFields, List.flatMap_append, flatMap_intercalate,
    String.toList_append, String.toList_intercalate, List.map_map]
  simp [Fragment.text, Function.comp_def]

/-- Between fields that are taken over there are but commas. -/
theorem accessFree_fields {before after : List Char} (hbefore : AccessFree before)
    (hafter : AccessFree after) (field : String) (fields : List String) :
    AccessFree (before ++ (", ".toList.intercalate
      ((field :: fields).map fun _ => "_: _".toList) ++ after)) := by
  induction fields generalizing field before with
  | nil => exact hbefore.blank ((by decide : AccessFree ": ".toList).blank hafter)
  | cons next fields ih =>
    rw [List.map_cons, List.map_cons, List.intercalate_cons_cons]
    have hcomma : AccessFree ", ".toList := by decide
    have hrest := ih hcomma next
    exact hbefore.blank ((by decide : AccessFree ": ".toList).blank hrest)

theorem accessFree_takeFragments {before after : List Fragment}
    (hbefore : AccessFree (before.flatMap Fragment.blanked))
    (hafter : AccessFree (" \x7b  \x7d".toList ++ after.flatMap Fragment.blanked))
    (type origin : String) (fields : List String) :
    AccessFree ((before ++ takeFragments type origin fields ++ after).flatMap Fragment.blanked) := by
  have hblanked : (takeFragments type origin fields).flatMap Fragment.blanked =
      '_' :: (" \x7b ".toList ++ ", ".toList.intercalate (fields.map fun _ => "_: _".toList) ++
        " \x7d".toList) := by
    simp only [takeFragments, List.flatMap_append, flatMap_intercalate, List.map_map]
    rfl
  rw [List.flatMap_append, List.flatMap_append, hblanked, List.append_assoc, List.cons_append]
  apply hbefore.blank
  cases fields with
  | nil => exact hafter
  | cons field fields =>
    have hend : AccessFree (" \x7d".toList ++ after.flatMap Fragment.blanked) :=
      hafter.of_infix ⟨" \x7b ".toList, [], by simp⟩
    have hfields := accessFree_fields (by decide : AccessFree " \x7b ".toList) hend field fields
    simpa only [List.append_assoc] using hfields

/-! ## All accesses -/

namespace ServerBody

theorem renders (b : ServerBody) : Renders b.expr b.fragments := by
  cases b with
  | wire type fields =>
    exact ((Renders.words _).append (renders_takeFields type "value" fields)).append (.words _)
  | whole => exact .words _
  | field name => exact ((Renders.words _).append (.access "value" name)).append (.words _)
  | raw => exact .words _
  | empty => exact .words _

theorem accessFree (b : ServerBody) : AccessFree (b.fragments.flatMap Fragment.blanked) := by
  cases b with
  | wire type fields =>
    exact accessFree_takeFragments (by decide +kernel) (by decide +kernel) type "value" fields
  | whole => decide +kernel
  | field name =>
    have hfree : AccessFree ((field "").fragments.flatMap Fragment.blanked) := by decide +kernel
    exact hfree.of_words rfl
  | raw => decide +kernel
  | empty => decide +kernel

theorem isMadeOf (b : ServerBody) : IsMadeOf b.expr b.fragments := ⟨b.renders, b.accessFree⟩

end ServerBody

namespace HeaderView

theorem isMadeOf (h : HeaderView) : IsMadeOf h.serverExpr h.fragments := by
  obtain ⟨name, value⟩ := h
  cases value with
  | literal text =>
    have hfree : AccessFree ([Fragment.given ""].flatMap Fragment.blanked) := by decide
    exact ⟨.given _, hfree.of_words rfl⟩
  | field field =>
    have hfree : AccessFree ((mk "" (.field "")).fragments.flatMap Fragment.blanked) := by
      decide +kernel
    exact ⟨(Renders.access "value" field).append (.words _), hfree.of_words rfl⟩

end HeaderView

namespace ClientStep

theorem renders_error (error : String) : Renders (decodeError error) (errorFragments error) :=
  ((Renders.words _).append (.given error)).append (.words _)

theorem renders (step : ClientStep) : Renders step.code step.fragments := by
  cases step with
  | decodeWire type error =>
    exact ((((Renders.words _).append (.given type)).append (.words _)).append
      (renders_error error)).append (.words _)
  | takeWire isMutable type fields =>
    exact (((Renders.words _).append (.words _)).append
      (renders_takeFields type "wire" fields)).append (.words _)
  | decodeWhole isMutable type error =>
    exact (((((Renders.words _).append (.words _)).append (.given type)).append (.words _)).append
      (renders_error error)).append (.words _)
  | default isMutable type =>
    exact (((Renders.words _).append (.words _)).append (.given type)).append (.words _)
  | decodeField name error =>
    exact (((Renders.access "value" name).append (.words _)).append (renders_error error)).append
      (.words _)
  | text isMutable error =>
    exact (((Renders.words _).append (.words _)).append (renders_error error)).append (.words _)
  | bytes isMutable => exact (Renders.words _).append (.words _)
  | header name field =>
    exact (((Renders.words _).append (.given _)).wordsAccess
      ").and_then(|v| v.to_str().ok()).and_then(|v| v.parse().ok()) \x7b " "value" field).append
        (.words _)

theorem accessFree (step : ClientStep) :
    AccessFree (step.fragments.flatMap Fragment.blanked) := by
  cases step with
  | decodeWire type error =>
    have hfree : AccessFree ((decodeWire "" "").fragments.flatMap Fragment.blanked) := by
      decide +kernel
    exact hfree.of_words rfl
  | takeWire isMutable type fields =>
    have hbefore : ∀ isMutable, AccessFree
        ([Fragment.words (binding isMutable), .words " = "].flatMap Fragment.blanked) := by
      decide +kernel
    exact accessFree_takeFragments (hbefore isMutable) (by decide +kernel) type "wire" fields
  | decodeWhole isMutable type error =>
    have hfree : ∀ isMutable,
        AccessFree ((decodeWhole isMutable "" "").fragments.flatMap Fragment.blanked) := by
      decide +kernel
    exact (hfree isMutable).of_words rfl
  | default isMutable type =>
    have hfree : ∀ isMutable,
        AccessFree ((default isMutable "").fragments.flatMap Fragment.blanked) := by
      decide +kernel
    exact (hfree isMutable).of_words rfl
  | decodeField name error =>
    have hfree : AccessFree ((decodeField "" "").fragments.flatMap Fragment.blanked) := by
      decide +kernel
    exact hfree.of_words rfl
  | text isMutable error =>
    have hfree : ∀ isMutable,
        AccessFree ((text isMutable "").fragments.flatMap Fragment.blanked) := by
      decide +kernel
    exact (hfree isMutable).of_words rfl
  | bytes isMutable =>
    have hfree : ∀ isMutable,
        AccessFree ((bytes isMutable).fragments.flatMap Fragment.blanked) := by
      decide +kernel
    exact hfree isMutable
  | header name field =>
    have hfree : AccessFree ((header "" "").fragments.flatMap Fragment.blanked) := by
      decide +kernel
    exact hfree.of_words rfl

theorem isMadeOf (step : ClientStep) : IsMadeOf step.code step.fragments :=
  ⟨step.renders, step.accessFree⟩

end ClientStep

/-! ## What is put in and accessed -/

/-- The texts that are put into the code of a header and of its value. -/
def HeaderView.insertions (h : HeaderView) : List String :=
  match h.value with
  | .literal text => [h.nameLiteral, quote text]
  | .field _ => [h.nameLiteral]

/-- The texts that are put into a step. -/
def ClientStep.insertions : ClientStep → List String
  | decodeWire type error => [type, error]
  | takeWire _ type _ => [type]
  | decodeWhole _ type error => [type, error]
  | default _ type => [type]
  | decodeField _ error => [error]
  | text _ error => [error]
  | bytes _ => []
  | header name _ => [quote name]

section Sources

variable {fields givens : List String}

theorem forall_mem_intercalate {α : Type} {p : α → Prop} {sep : List α} {xss : List (List α)}
    (hsep : ∀ x ∈ sep, p x) (h : ∀ xs ∈ xss, ∀ x ∈ xs, p x) : ∀ x ∈ sep.intercalate xss, p x := by
  induction xss with
  | nil => exact List.forall_mem_nil _
  | cons xs rest ih =>
    rw [List.forall_mem_cons] at h
    cases rest with
    | nil =>
      rw [List.intercalate_singleton]
      exact h.1
    | cons ys rest =>
      rw [List.intercalate_cons_cons, List.forall_mem_append, List.forall_mem_append]
      exact ⟨⟨h.1, hsep⟩, ih h.2⟩

theorem isFrom_takeFragments {type : String} {names : List String} (htype : type ∈ givens)
    (hnames : ∀ name ∈ names, name ∈ fields) (origin : String) :
    ∀ fragment ∈ takeFragments type origin names, fragment.IsFrom fields givens := by
  have hinits : ∀ fragment ∈ [Fragment.words ", "].intercalate
      (names.map fun field => [.given field, .words ": ", .access origin field]),
      fragment.IsFrom fields givens := by
    apply forall_mem_intercalate
    · simp [Fragment.IsFrom]
    · intro init hinit
      obtain ⟨name, hname, rfl⟩ := List.mem_map.1 hinit
      simp [Fragment.IsFrom, hnames name hname]
  rw [takeFragments, List.forall_mem_append, List.forall_mem_append]
  refine ⟨⟨?_, hinits⟩, ?_⟩
  · simp [Fragment.IsFrom, htype]
  · simp [Fragment.IsFrom]

theorem ServerBody.isFrom {b : ServerBody} (haccesses : ∀ name ∈ b.accesses, name ∈ fields)
    (htype : ∀ type names, b = .wire type names → type ∈ givens) :
    ∀ fragment ∈ b.fragments, fragment.IsFrom fields givens := by
  cases b with
  | wire type names =>
    have htake := isFrom_takeFragments (htype type names rfl) haccesses "value"
    rw [fragments, List.forall_mem_append, List.forall_mem_append]
    refine ⟨⟨?_, htake⟩, ?_⟩
    · simp [Fragment.IsFrom]
    · simp [Fragment.IsFrom]
  | field name => simpa [fragments, accesses, Fragment.IsFrom] using haccesses
  | whole => simp [fragments, Fragment.IsFrom]
  | raw => simp [fragments, Fragment.IsFrom]
  | empty => simp [fragments, Fragment.IsFrom]

theorem HeaderView.isFrom {h : HeaderView} (hfield : ∀ name ∈ h.field?, name ∈ fields)
    (hgivens : ∀ text ∈ h.insertions, text ∈ givens) :
    ∀ fragment ∈ h.fragments, fragment.IsFrom fields givens := by
  obtain ⟨name, value⟩ := h
  cases value with
  | literal text => simp_all [fragments, insertions, Fragment.IsFrom]
  | field field => simp_all [fragments, field?, Fragment.IsFrom]

theorem ClientStep.isFrom {step : ClientStep} (haccesses : ∀ name ∈ step.accesses, name ∈ fields)
    (hgivens : ∀ text ∈ step.insertions, text ∈ givens) :
    ∀ fragment ∈ step.fragments, fragment.IsFrom fields givens := by
  cases step with
  | takeWire isMutable type names =>
    have htake := isFrom_takeFragments (hgivens type List.mem_cons_self) haccesses "wire"
    rw [fragments, List.forall_mem_append, List.forall_mem_append]
    refine ⟨⟨?_, htake⟩, ?_⟩
    · simp [Fragment.IsFrom]
    · simp [Fragment.IsFrom]
  | _ => simp_all [fragments, errorFragments, accesses, ClientStep.insertions, Fragment.IsFrom]

end Sources

end TransportGen
