import Mathlib.Data.List.DropRight
import TransportGen.Proofs.Template.Tokens
import TransportGen.Proofs.Text.Pieces

/-!
# Segments of a template

A template and the paths that are built from it have the same segments: each is made of the same
tokens, spelled in one way or another (`segments_flatMap`), as long as no token but a slash holds a
slash.
-/

namespace TransportGen

/-- The texts between slashes, without slashes at the end. -/
def segments (path : List Char) : List (List Char) :=
  Text.pieces (· == '/') (path.rdropWhile (· == '/'))

namespace TemplateToken

/-- Whether a token is a slash. -/
def isSlash (token : TemplateToken) : Bool := token == char '/'

/-- A spelling has slashes exactly where the token is a slash. -/
def Splits (f : TemplateToken → List Char) (token : TemplateToken) : Prop :=
  if token.isSlash then f token = ['/'] else f token ≠ [] ∧ ∀ c ∈ f token, c ≠ '/'

end TemplateToken

open TemplateToken

/-- The tokens between slashes, without slashes at the end. -/
def tokenSegments (tokens : List TemplateToken) : List (List TemplateToken) :=
  (tokens.rdropWhile isSlash).splitOnP isSlash

section Spelling

variable {f : TemplateToken → List Char}

theorem rdropWhile_flatMap {tokens : List TemplateToken} (h : ∀ token ∈ tokens, Splits f token) :
    (tokens.flatMap f).rdropWhile (· == '/') = (tokens.rdropWhile isSlash).flatMap f := by
  induction tokens using List.reverseRecOn with
  | nil => rfl
  | append_singleton tokens token ih =>
    rw [List.forall_mem_append, List.forall_mem_singleton] at h
    obtain ⟨hbefore, htoken⟩ := h
    rw [List.flatMap_append, List.flatMap_singleton]
    unfold Splits at htoken
    split at htoken
    · rename_i hslash
      rw [htoken, List.rdropWhile_concat_pos _ _ _ rfl, List.rdropWhile_concat_pos _ _ _ hslash,
        ih hbefore]
    · rename_i hslash
      obtain ⟨start, last, hlast⟩ := (List.eq_nil_or_concat (f token)).resolve_left htoken.1
      rw [List.concat_eq_append] at hlast
      have hne : last ≠ '/' := htoken.2 last (hlast ▸ List.mem_append_right _ List.mem_cons_self)
      rw [List.rdropWhile_concat_neg _ _ _ hslash, List.flatMap_append, List.flatMap_singleton,
        hlast, ← List.append_assoc, List.rdropWhile_concat_neg _ _ _ (by simpa using hne)]

theorem pieces_flatMap {tokens : List TemplateToken} (h : ∀ token ∈ tokens, Splits f token) :
    Text.pieces (· == '/') (tokens.flatMap f) =
      (tokens.splitOnP isSlash).map fun segment => segment.flatMap f := by
  induction tokens with
  | nil => rfl
  | cons token tokens ih =>
    rw [List.forall_mem_cons] at h
    obtain ⟨htoken, hrest⟩ := h
    rw [List.flatMap_cons, List.splitOnP_cons_eq_if_modifyHead]
    unfold Splits at htoken
    split at htoken
    · rename_i hslash
      rw [if_pos hslash, htoken, List.map_cons, ← ih hrest]
      rfl
    · rename_i hslash
      rw [if_neg hslash, Text.pieces_append_of_forall_not (by simpa using htoken.2), ih hrest]
      cases tokens.splitOnP isSlash with
      | nil => rfl
      | cons segment others => simp

/-- **Segments.** Cutting what tokens spell is spelling what they are cut into. -/
theorem segments_flatMap {tokens : List TemplateToken} (h : ∀ token ∈ tokens, Splits f token) :
    segments (tokens.flatMap f) = (tokenSegments tokens).map fun segment => segment.flatMap f := by
  have htrimmed : ∀ token ∈ tokens.rdropWhile isSlash, Splits f token :=
    fun token htoken => h token ((List.rdropWhile_prefix _ _).subset htoken)
  rw [segments, rdropWhile_flatMap h, pieces_flatMap htrimmed, tokenSegments]

end Spelling

/-! ## Tokens of segments -/

theorem mem_of_mem_splitOnP {tokens segment : List TemplateToken} {token : TemplateToken}
    (hsegment : segment ∈ tokens.splitOnP isSlash) (h : token ∈ segment) : token ∈ tokens := by
  induction tokens generalizing segment with
  | nil =>
    rw [List.splitOnP_nil, List.mem_singleton] at hsegment
    rwa [hsegment] at h
  | cons first tokens ih =>
    rw [List.splitOnP_cons_eq_if_modifyHead] at hsegment
    split at hsegment
    · rcases List.mem_cons.1 hsegment with rfl | hsegment
      · cases h
      · exact List.mem_cons_of_mem _ (ih hsegment h)
    · cases hsplit : tokens.splitOnP isSlash with
      | nil => exact absurd hsplit (List.splitOnP_ne_nil _ _)
      | cons head others =>
        rw [hsplit, List.modifyHead_cons] at hsegment
        rw [hsplit] at ih
        rcases List.mem_cons.1 hsegment with rfl | hsegment
        · rcases List.mem_cons.1 h with rfl | h
          · exact List.mem_cons_self
          · exact List.mem_cons_of_mem _ (ih List.mem_cons_self h)
        · exact List.mem_cons_of_mem _ (ih (List.mem_cons_of_mem _ hsegment) h)

theorem mem_of_mem_tokenSegments {tokens segment : List TemplateToken} {token : TemplateToken}
    (hsegment : segment ∈ tokenSegments tokens) (h : token ∈ segment) : token ∈ tokens :=
  (List.rdropWhile_prefix _ _).subset (mem_of_mem_splitOnP hsegment h)

theorem name?_of_isSlash {token : TemplateToken} (h : token.isSlash = true) :
    token.name? = none := by
  rw [show token = char '/' by simpa [isSlash] using h]
  rfl

theorem flatMap_variableNames_splitOnP (tokens : List TemplateToken) :
    (tokens.splitOnP isSlash).flatMap variableNames = variableNames tokens := by
  induction tokens with
  | nil => rfl
  | cons token tokens ih =>
    rw [List.splitOnP_cons_eq_if_modifyHead, variableNames, List.filterMap_cons]
    split
    · rename_i hslash
      rw [name?_of_isSlash hslash, List.flatMap_cons, ih]
      rfl
    · cases hsplit : tokens.splitOnP isSlash with
      | nil => exact absurd hsplit (List.splitOnP_ne_nil _ _)
      | cons head others =>
        rw [hsplit, List.flatMap_cons] at ih
        rw [List.modifyHead_cons, List.flatMap_cons, ← variableNames, ← ih]
        cases hname : token.name? <;> simp [variableNames, hname]

theorem variableNames_rdropWhile (tokens : List TemplateToken) :
    variableNames (tokens.rdropWhile isSlash) = variableNames tokens := by
  induction tokens using List.reverseRecOn with
  | nil => rfl
  | append_singleton tokens token ih =>
    by_cases hslash : token.isSlash = true
    · rw [List.rdropWhile_concat_pos _ _ _ hslash, ih]
      simp [variableNames, name?_of_isSlash hslash]
    · rw [List.rdropWhile_concat_neg _ _ _ hslash]

/-- The segments hold the variables of the template, in order. -/
theorem flatMap_variableNames_tokenSegments (tokens : List TemplateToken) :
    (tokenSegments tokens).flatMap variableNames = variableNames tokens := by
  rw [tokenSegments, flatMap_variableNames_splitOnP, variableNames_rdropWhile]

end TransportGen
