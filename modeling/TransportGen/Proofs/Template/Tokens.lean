import TransportGen.Proofs.Except
import TransportGen.UriTemplate

/-!
# Templates as tokens

A path template is a list of tokens, single characters and variables in braces. Every template that
`pathVariables` accepts is spelled by tokens whose characters are no braces and whose names are
names (`exists_tokens`), and `urlPieces` cuts it at the same places (`piecesFrom_spell`).
-/

namespace TransportGen

/-- A character of a path template, or a variable. -/
inductive TemplateToken where
  | char (c : Char)
  | var (name : List Char)
  deriving DecidableEq

namespace TemplateToken

/-- How a token is spelled. -/
def spell : TemplateToken → List Char
  | char c => [c]
  | var name => '\x7b' :: name ++ ['\x7d']

/-- The name of a variable. -/
def name? : TemplateToken → Option String
  | char _ => none
  | var name => some (String.ofList name)

/-- A token may stand in a template: a character is no brace, and a variable has a name. -/
def Fits : TemplateToken → Prop
  | char c => c ≠ '\x7b' ∧ c ≠ '\x7d'
  | var name => Text.isName name = true

end TemplateToken

/-- The template that tokens spell. -/
def spell (tokens : List TemplateToken) : List Char := tokens.flatMap TemplateToken.spell

/-- The variables among tokens. -/
def variableNames (tokens : List TemplateToken) : List String :=
  tokens.filterMap TemplateToken.name?

theorem spell_cons (token : TemplateToken) (rest : List TemplateToken) :
    spell (token :: rest) = token.spell ++ spell rest := List.flatMap_cons

/-! ## Names -/

/-- A name holds no slash and no brace. -/
theorem of_mem_isName {name : List Char} (h : Text.isName name = true) {c : Char} (hc : c ∈ name) :
    c ≠ '/' ∧ c ≠ '\x7b' ∧ c ≠ '\x7d' := by
  have hword : ∀ {c : Char}, Text.isWordChar c = true → c ≠ '/' ∧ c ≠ '\x7b' ∧ c ≠ '\x7d' := by
    intro c hc
    refine ⟨?_, ?_, ?_⟩
    all_goals
      rintro rfl
      exact absurd hc (by decide)
  cases name with
  | nil => cases hc
  | cons first rest =>
    simp only [Text.isName, Bool.and_eq_true, List.all_eq_true] at h
    rcases List.mem_cons.1 hc with rfl | hc
    · refine hword ?_
      have := h.1
      simp only [Text.isWordChar, Char.isAlphanum, Bool.or_eq_true] at this ⊢
      rcases this with h | h
      · exact Or.inl (Or.inl h)
      · exact Or.inr h
    · exact hword (h.2 c hc)

/-! ## Accepted templates -/

/-- The rest of a template that is accepted outside or inside braces. -/
theorem exists_tokens_from {template : String} {s : List Char} :
    (∀ {vars}, variablesFrom template none s = .ok vars →
      ∃ tokens, (∀ token ∈ tokens, token.Fits) ∧ spell tokens = s ∧ variableNames tokens = vars) ∧
    ∀ {read vars}, variablesFrom template (some read) s = .ok vars →
      ∃ more tokens, (∀ token ∈ tokens, token.Fits) ∧ Text.isName (read.reverse ++ more) = true ∧
        more ++ '\x7d' :: spell tokens = s ∧
        String.ofList (read.reverse ++ more) :: variableNames tokens = vars := by
  induction s with
  | nil =>
    constructor
    · rintro vars ⟨⟩
      exact ⟨[], nofun, rfl, rfl⟩
    · rintro read vars ⟨⟩
  | cons c s ih =>
    constructor
    · intro vars h
      rw [variablesFrom] at h
      split at h
      · rename_i hopen
        obtain ⟨name, tokens, hfits, hname, hspell, rfl⟩ := ih.2 h
        refine ⟨.var name :: tokens, List.forall_mem_cons.2 ⟨hname, hfits⟩, ?_, rfl⟩
        rw [spell_cons, ← hspell, hopen]
        simp [TemplateToken.spell]
      · rename_i hopen
        split at h
        · cases h
        · rename_i hclose
          obtain ⟨tokens, hfits, rfl, hvars⟩ := ih.1 h
          exact ⟨.char c :: tokens, List.forall_mem_cons.2 ⟨⟨hopen, hclose⟩, hfits⟩, rfl, hvars⟩
    · intro read vars h
      rw [variablesFrom] at h
      split at h
      · cases h
      split at h
      · rename_i hclose
        split at h
        · rename_i hname
          obtain ⟨names, hnames, rfl⟩ := map_eq_ok.1 h
          obtain ⟨tokens, hfits, rfl, rfl⟩ := ih.1 hnames
          refine ⟨[], tokens, hfits, ?_, ?_, ?_⟩
          · rw [List.append_nil]
            exact hname
          · rw [List.nil_append, hclose]
          · rw [List.append_nil]
        · cases h
      · obtain ⟨more, tokens, hfits, hname, hspell, hvars⟩ := ih.2 h
        rw [List.reverse_cons, List.append_assoc] at hname hvars
        exact ⟨c :: more, tokens, hfits, hname, congrArg (c :: ·) hspell, hvars⟩

/-- **Accepted templates.** They are spelled by tokens, in which the variables stand in order. -/
theorem exists_tokens {template : String} {vars : List String}
    (h : pathVariables template = .ok vars) :
    ∃ tokens, (∀ token ∈ tokens, token.Fits) ∧ spell tokens = template.toList ∧
      variableNames tokens = vars := by
  unfold pathVariables at h
  split at h
  · exact exists_tokens_from.1 h
  · cases h

/-! ## Pieces -/

theorem piecesFrom_name {name : List Char} (hname : ∀ c ∈ name, c ≠ '\x7d')
    (text read s : List Char) :
    piecesFrom text (some read) (name ++ '\x7d' :: s) =
      literalPiece text ++ .variable (String.ofList (read.reverse ++ name)) ::
        piecesFrom [] none s := by
  induction name generalizing read with
  | nil => rw [List.nil_append, piecesFrom, if_pos rfl, List.append_nil]
  | cons c name ih =>
    rw [List.forall_mem_cons] at hname
    rw [List.cons_append, piecesFrom, if_neg hname.1, ih hname.2, List.reverse_cons,
      List.append_assoc]
    rfl

theorem piecesFrom_char {c : Char} (hc : c ≠ '\x7b') (text s : List Char) :
    piecesFrom text none (c :: s) = piecesFrom (c :: text) none s := by
  rw [piecesFrom, if_neg hc]

theorem piecesFrom_var {name : List Char} (hname : Text.isName name = true) (text s : List Char) :
    piecesFrom text none ((TemplateToken.var name).spell ++ s) =
      literalPiece text ++ .variable (String.ofList name) :: piecesFrom [] none s := by
  have hclose : ∀ c ∈ name, c ≠ '\x7d' := fun c hc => (of_mem_isName hname hc).2.2
  rw [TemplateToken.spell, List.append_assoc, List.cons_append, piecesFrom, if_pos rfl,
    List.singleton_append, piecesFrom_name hclose]
  rfl

end TransportGen
