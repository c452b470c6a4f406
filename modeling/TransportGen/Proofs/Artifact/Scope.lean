import TransportGen.Proofs.Artifact.Lets
import TransportGen.Proofs.Service.Parameters
import TransportGen.Proofs.Service.Routes

/-!
# Names in generated functions

The parameters of a method stand in generated functions that have names of their own. `KeepsNames`
says that each name still means what the text takes it to mean at the place where it is used.

* `keepsNames_iff_of_no_decodes`, `keepsNames_decoders_iff`: what this comes to for a function that
  is given its parameters, and for one that decodes them and passes them on at the end.
* `names_kept_iff`: the names that a method of a built service must not give to its parameters.
* `names_lost_find`: the builder does not refuse these names.
-/

namespace TransportGen

open Artifact

/-! ## What a name means -/

/-- A name without the mark of a raw identifier: `r#url` and `url` are one name. -/
def plainName (name : String) : String :=
  ((Text.stripStart? "r#".toList name.toList).map String.ofList).getD name

/-- What the last `let` of a name has bound it to. -/
inductive LetKind where
  /-- Something of the function's own. -/
  | own
  /-- The value that the function decodes for a parameter. -/
  | decoded
  deriving DecidableEq, Repr

/-- The names that a `let` has bound so far. -/
abbrev NameScope := String → Option LetKind

/-- Before the first `let`. -/
def noLets : NameScope := fun _ => none

theorem noLets_ne (x : String) (kind : LetKind) : noLets x ≠ some kind := nofun

namespace Statement

def usedNames (st : Statement) : List String := st.params.map plainName

def decodedNames (st : Statement) : List String := st.decodes.map plainName

def letNames (st : Statement) : List String := st.binds ++ st.decodedNames

/-- A statement takes the value of a parameter, or something of the function's own, only from a
name that stands for it, and it does not bind the name of a decoded parameter that is still to
be used. -/
def Respects (scope : NameScope) (st : Statement) (rest : List Statement) : Prop :=
  (∀ x ∈ st.usedNames, scope x ≠ some .own) ∧ (∀ x ∈ st.locals, scope x ≠ some .decoded) ∧
    ∀ x ∈ st.letNames, scope x = some .decoded → ∀ later ∈ rest, x ∉ later.usedNames

instance (scope : NameScope) (st : Statement) (rest : List Statement) :
    Decidable (st.Respects scope rest) :=
  inferInstanceAs (Decidable (_ ∧ _ ∧ _))

end Statement

/-- The scope after a statement. -/
def NameScope.after (scope : NameScope) (st : Statement) : NameScope := fun name =>
  if name ∈ st.decodedNames then some .decoded
  else if name ∈ st.binds then some .own
  else scope name

/-- Every statement of a function respects the scope in which it stands. -/
def KeepsNames (scope : NameScope) : List Statement → Prop
  | [] => True
  | st :: rest => st.Respects scope rest ∧ KeepsNames (scope.after st) rest

instance decidableKeepsNames (scope : NameScope) :
    (statements : List Statement) → Decidable (KeepsNames scope statements)
  | [] => inferInstanceAs (Decidable True)
  | st :: rest =>
    have := decidableKeepsNames (scope.after st) rest
    inferInstanceAs (Decidable (st.Respects scope rest ∧ KeepsNames (scope.after st) rest))

/-! ## Functions that are given their parameters -/

theorem NameScope.after_ne_own_iff {scope : NameScope} {st : Statement} (h : st.decodes = [])
    {x : String} : scope.after st x ≠ some .own ↔ x ∉ st.binds ∧ scope x ≠ some .own := by
  have hnone : x ∉ st.decodedNames := by
    rw [Statement.decodedNames, h]
    exact List.not_mem_nil
  rw [NameScope.after, if_neg hnone]
  by_cases hx : x ∈ st.binds
  · simp [hx]
  · simp [hx]

theorem NameScope.after_ne_decoded {scope : NameScope} {st : Statement} (h : st.decodes = [])
    (hscope : ∀ x, scope x ≠ some .decoded) (x : String) : scope.after st x ≠ some .decoded := by
  have hnone : x ∉ st.decodedNames := by
    rw [Statement.decodedNames, h]
    exact List.not_mem_nil
  rw [NameScope.after, if_neg hnone]
  split
  · exact nofun
  · exact hscope x

/-- No name that a statement binds is that of a parameter which a later statement uses. -/
def Statement.Clears (a b : Statement) : Prop := ∀ x ∈ b.usedNames, x ∉ a.binds

/-- Nothing is decoded: a parameter must not be used after a `let` of its name. -/
theorem keepsNames_iff_of_no_decodes {statements : List Statement}
    (h : ∀ st ∈ statements, st.decodes = []) {scope : NameScope}
    (hscope : ∀ x, scope x ≠ some .decoded) :
    KeepsNames scope statements ↔
      (∀ st ∈ statements, ∀ x ∈ st.usedNames, scope x ≠ some .own) ∧
        statements.Pairwise Statement.Clears := by
  induction statements generalizing scope with
  | nil => simp [KeepsNames]
  | cons st rest ih =>
    rw [List.forall_mem_cons] at h
    have hrespects : st.Respects scope rest ↔ ∀ x ∈ st.usedNames, scope x ≠ some .own := by
      constructor
      · exact fun hst => hst.1
      · exact fun hst => ⟨hst, fun x _ => hscope x, fun x _ hx => absurd hx (hscope x)⟩
    rw [KeepsNames, ih h.2 (NameScope.after_ne_decoded h.1 hscope), hrespects,
      List.forall_mem_cons, List.pairwise_cons]
    simp only [NameScope.after_ne_own_iff h.1]
    constructor
    · rintro ⟨hst, hrest, hpairs⟩
      exact ⟨⟨hst, fun b hb x hx => (hrest b hb x hx).2⟩,
        fun b hb x hx => (hrest b hb x hx).1, hpairs⟩
    · rintro ⟨⟨hst, hrest⟩, hfirst, hpairs⟩
      exact ⟨hst, fun b hb x hx => ⟨hfirst b hb x hx, hrest b hb x hx⟩, hpairs⟩

/-! ## Functions that decode their parameters -/

theorem NameScope.after_eq_decoded_iff {scope : NameScope} {st : Statement} {x : String}
    (h : scope x = some .decoded → x ∉ st.letNames) :
    scope.after st x = some .decoded ↔ x ∈ st.decodedNames ∨ scope x = some .decoded := by
  rw [NameScope.after]
  split
  · rename_i hmem
    simp [hmem]
  · rename_i hmem
    split
    · rename_i hbinds
      have hne : scope x ≠ some .decoded := fun hx => h hx (List.mem_append_left _ hbinds)
      simp [hmem, hne]
    · simp [hmem]

/-- No statement after one that decodes a parameter may take its name for something of the
function's own, or bind it. -/
def Statement.Spares (a b : Statement) : Prop :=
  ∀ x ∈ a.decodedNames, x ∉ b.locals ∧ x ∉ b.letNames

/-- The induction keeps that what is decoded is used at the end, and that what is used at the end is
decoded by then. -/
theorem keepsNames_concat_iff {decoders : List Statement} {final : Statement}
    (hparams : ∀ st ∈ decoders, st.params = [])
    (hused : ∀ st ∈ decoders, ∀ x ∈ st.decodedNames, x ∈ final.usedNames) {scope : NameScope}
    (hscope : ∀ x, scope x = some .decoded → x ∈ final.usedNames)
    (hall : ∀ x ∈ final.usedNames,
      scope x = some .decoded ∨ ∃ st ∈ decoders, x ∈ st.decodedNames) :
    KeepsNames scope (decoders ++ [final]) ↔
      (∀ st ∈ decoders, ∀ x, scope x = some .decoded → x ∉ st.locals ∧ x ∉ st.letNames) ∧
        decoders.Pairwise Statement.Spares ∧ ∀ x ∈ final.usedNames, x ∉ final.locals := by
  induction decoders generalizing scope with
  | nil =>
    have hdecoded : ∀ x ∈ final.usedNames, scope x = some .decoded := by
      intro x hx
      rcases hall x hx with h | ⟨_, h, -⟩
      · exact h
      · cases h
    constructor
    · rintro ⟨⟨-, hlocals, -⟩, -⟩
      exact ⟨nofun, .nil, fun x hx hlocal => hlocals x hlocal (hdecoded x hx)⟩
    · rintro ⟨-, -, hfinal⟩
      refine ⟨⟨fun x hx => ?_, fun x hx hscoped => hfinal x (hscope x hscoped) hx, nofun⟩, trivial⟩
      rw [hdecoded x hx]
      exact nofun
  | cons st rest ih =>
    rw [List.forall_mem_cons] at hparams hused
    have hrespects : st.Respects scope (rest ++ [final]) ↔
        ∀ x, scope x = some .decoded → x ∉ st.locals ∧ x ∉ st.letNames := by
      constructor
      · rintro ⟨-, hlocals, hlets⟩ x hx
        have hfinal : final ∈ rest ++ [final] := List.mem_concat_self
        exact ⟨fun hmem => hlocals x hmem hx,
          fun hmem => hlets x hmem hx final hfinal (hscope x hx)⟩
      · intro h
        refine ⟨?_, fun x hmem hx => (h x hx).1 hmem, fun x hmem hx => absurd hmem (h x hx).2⟩
        rw [Statement.usedNames, hparams.1]
        exact nofun
    rw [List.cons_append, KeepsNames, hrespects, List.forall_mem_cons, List.pairwise_cons,
      and_assoc]
    refine and_congr_right fun hst => ?_
    have hafter : ∀ x, scope.after st x = some .decoded ↔
        x ∈ st.decodedNames ∨ scope x = some .decoded :=
      fun x => NameScope.after_eq_decoded_iff fun hx => (hst x hx).2
    rw [ih hparams.2 hused.2]
    · simp only [hafter]
      constructor
      · rintro ⟨hrest, hpairs, hfinal⟩
        exact ⟨fun b hb x hx => hrest b hb x (Or.inr hx),
          ⟨fun b hb x hx => hrest b hb x (Or.inl hx), hpairs⟩, hfinal⟩
      · rintro ⟨hrest, ⟨hspares, hpairs⟩, hfinal⟩
        refine ⟨fun b hb x hx => ?_, hpairs, hfinal⟩
        rcases hx with hx | hx
        · exact hspares b hb x hx
        · exact hrest b hb x hx
    · intro x hx
      rcases (hafter x).1 hx with hx | hx
      · exact hused.1 x hx
      · exact hscope x hx
    · intro x hx
      rw [hafter]
      rcases hall x hx with hx | ⟨b, hb, hx⟩
      · exact Or.inl (Or.inr hx)
      · rcases List.mem_cons.1 hb with rfl | hb
        · exact Or.inl (Or.inl hx)
        · exact Or.inr ⟨b, hb, hx⟩

/-- Parameters are decoded one after another and used at the end. -/
theorem keepsNames_decoders_iff {decoders : List Statement} {final : Statement}
    (hparams : ∀ st ∈ decoders, st.params = [])
    (hused : ∀ x, x ∈ final.usedNames ↔ ∃ st ∈ decoders, x ∈ st.decodedNames) :
    KeepsNames noLets (decoders ++ [final]) ↔
      decoders.Pairwise Statement.Spares ∧ ∀ x ∈ final.usedNames, x ∉ final.locals := by
  rw [keepsNames_concat_iff hparams (fun st hst x hx => (hused x).2 ⟨st, hst, hx⟩)
    (fun x hx => absurd hx (noLets_ne x _)) fun x hx => Or.inr ((hused x).1 hx)]
  exact and_iff_right fun _ _ x hx => absurd hx (noLets_ne x _)

/-! ## Requests of a client -/

/-- The names of the parameters that statements use. -/
def usedIn (statements : List Statement) : List String := statements.flatMap Statement.usedNames

section Clears

variable {a : Statement} {idle rest : List Statement}

theorem pairwise_clears_append_iff (h : ∀ st ∈ idle, st.binds = []) :
    (idle ++ rest).Pairwise Statement.Clears ↔ rest.Pairwise Statement.Clears := by
  have hclears : ∀ st ∈ idle, ∀ later, st.Clears later := by
    intro st hst later x _
    rw [h st hst]
    exact List.not_mem_nil
  have hidle : idle.Pairwise Statement.Clears :=
    List.pairwise_of_forall_mem_list fun st hst later _ => hclears st hst later
  rw [List.pairwise_append, and_iff_right hidle]
  exact and_iff_left fun st hst later _ => hclears st hst later

theorem pairwise_clears_cons_iff :
    (a :: rest).Pairwise Statement.Clears ↔
      (∀ name ∈ a.binds, name ∉ usedIn rest) ∧ rest.Pairwise Statement.Clears := by
  have hclears : (∀ b ∈ rest, a.Clears b) ↔ ∀ name ∈ a.binds, name ∉ usedIn rest := by
    simp only [Statement.Clears, usedIn, List.mem_flatMap, not_exists, not_and]
    constructor
    · exact fun h name hname b hb hx => h b hb name hx hname
    · exact fun h b hb x hx hname => h x hname b hb hx
  rw [List.pairwise_cons, hclears]

theorem pairwise_clears_of_idle (h : ∀ b ∈ rest, b.params = []) :
    (a :: rest).Pairwise Statement.Clears := by
  have hclears : ∀ st, ∀ b ∈ rest, Statement.Clears st b := by
    intro st b hb x hx
    rw [Statement.usedNames, h b hb] at hx
    cases hx
  exact List.pairwise_cons.2 ⟨hclears a, List.pairwise_of_forall_mem_list fun st _ => hclears st⟩

end Clears

/-- The parameters that appear in the URL are the variables of the template. -/
theorem usedIn_urlPieces {template : String} {vars : List String}
    (h : pathVariables template = .ok vars) :
    usedIn ((urlPieces template).map urlStatement) = vars.map plainName := by
  obtain ⟨tokens, hfits, hspell, rfl⟩ := exists_tokens h
  have hpieces : ∀ text, usedIn ((piecesFrom text none (spell tokens)).map urlStatement) =
      (variableNames tokens).map plainName := by
    have hliteral : ∀ text, usedIn ((literalPiece text).map urlStatement) = [] := by
      intro text
      unfold literalPiece
      split
      · rfl
      · rfl
    clear hspell h
    induction tokens with
    | nil => exact hliteral
    | cons token rest ih =>
      rw [List.forall_mem_cons] at hfits
      intro text
      rw [spell_cons]
      cases token with
      | char c =>
        have hchar : piecesFrom text none ((TemplateToken.char c).spell ++ spell rest) =
            piecesFrom (c :: text) none (spell rest) := piecesFrom_char hfits.1.1 text _
        rw [hchar]
        exact ih hfits.2 (c :: text)
      | var name =>
        rw [piecesFrom_var hfits.1, List.map_append, usedIn, List.flatMap_append, ← usedIn,
          hliteral, List.nil_append, List.map_cons, List.flatMap_cons, ← usedIn, ih hfits.2]
        rfl
  rw [urlPieces, ← hspell]
  exact hpieces []

theorem usedIn_nil : usedIn [] = [] := rfl

theorem usedIn_append (before after : List Statement) :
    usedIn (before ++ after) = usedIn before ++ usedIn after := List.flatMap_append

theorem usedIn_cons (a : Statement) (rest : List Statement) :
    usedIn (a :: rest) = a.params.map plainName ++ usedIn rest := List.flatMap_cons

/-- The body of a request binds no name before it uses a parameter, as there is one statement that
uses all of them. -/
theorem pairwise_requestBodyStatements {v : MethodView}
    (hone : v.bodyParams = [] ∨ v.rawParams = []) (hraw : v.rawParams.length ≤ 1) {last : Statement}
    (hlast : last.params = []) :
    (requestBodyStatements v ++ [last]).Pairwise Statement.Clears := by
  unfold requestBodyStatements
  cases hbody : v.bodyParams with
  | nil =>
    match h : v.rawParams with
    | [] => exact pairwise_clears_of_idle (by simpa using hlast)
    | [p] => exact pairwise_clears_of_idle (by simpa [contentTypeStatement] using hlast)
    | _ :: _ :: _ => simp [h] at hraw
  | cons p rest =>
    have hnil : v.rawParams = [] := hone.resolve_left (by simp [hbody])
    rw [hnil]
    exact pairwise_clears_of_idle
      (by simpa [jsonBytesStatement, contentTypeStatement] using hlast)

theorem usedIn_requestBodyStatements (v : MethodView) :
    usedIn (requestBodyStatements v) =
      (v.bodyParams ++ v.rawParams).map fun p => plainName p.name := by
  have hjson : usedIn (if v.bodyParams.isEmpty then []
      else [jsonObjectStatement v, jsonBytesStatement, contentTypeStatement v]) =
        v.bodyParams.map fun p => plainName p.name := by
    cases hbody : v.bodyParams with
    | nil => rfl
    | cons p rest => simp [usedIn_cons, usedIn_nil, jsonObjectStatement, jsonBytesStatement,
        contentTypeStatement, hbody]
  have hraw : ∀ ps : List ParamView,
      usedIn (ps.flatMap fun p => [rawBytesStatement p, contentTypeStatement v]) =
        ps.map fun p => plainName p.name := by
    intro ps
    induction ps with
    | nil => rfl
    | cons p ps ih =>
      rw [List.flatMap_cons, usedIn_append, ih]
      rfl
  have hnone : ∀ none : Bool, usedIn (if none then [noBytesStatement] else []) = [] := by
    intro none
    cases none with
    | true => rfl
    | false => rfl
  rw [requestBodyStatements, usedIn_append, usedIn_append, hjson, hraw, hnone, List.append_nil,
    List.map_append]

/-- The names that the client binds before it uses a parameter. -/
def boundBefore : ParamSource → List String
  | .path => ["url"]
  | .query => ["url", "query"]
  | .header | .body => ["url", "query", "builder"]

section Requests

variable {m : MethodSpec} {errorType : Option String}

/-- The names of the parameters that travel in one place. -/
def namesFrom (m : MethodSpec) (source : ParamSource) : List String :=
  (m.paramsFrom source).map fun p => plainName p.name

theorem mem_namesFrom {source : ParamSource} {x : String} :
    x ∈ namesFrom m source ↔ ∃ p ∈ m.params, p.source = source ∧ plainName p.name = x := by
  simp [namesFrom, MethodSpec.paramsFrom, and_assoc]

theorem usedIn_map {f : ParamView → Statement} (h : ∀ p, (f p).usedNames = [plainName p.name])
    (source : ParamSource) :
    usedIn (((m.paramsFrom source).map ParamView.of).map f) = namesFrom m source := by
  have hof : ∀ p, (f (ParamView.of p)).usedNames = [plainName p.name] := fun p => h (.of p)
  simp only [usedIn, List.map_map, List.flatMap_map, Function.comp_apply, hof, namesFrom]
  exact List.map_eq_flatMap.symm

theorem decodes_of_mem_encodeStatements {v : MethodView} :
    ∀ st ∈ encodeStatements v, st.decodes = [] := by
  have hbody : ∀ st ∈ requestBodyStatements v, st.decodes = [] := by
    unfold requestBodyStatements
    refine List.forall_mem_append.2 ⟨List.forall_mem_append.2 ⟨?_, ?_⟩, ?_⟩
    · split <;> simp [jsonObjectStatement, jsonBytesStatement, contentTypeStatement]
    · intro st hst
      obtain ⟨p, -, hst⟩ := List.mem_flatMap.1 hst
      rcases List.mem_pair.1 hst with rfl | rfl
      · rfl
      · rfl
    · split <;> simp [noBytesStatement]
  simp only [encodeStatements, List.forall_mem_append, List.forall_mem_cons, List.forall_mem_map]
  simpa [urlStatement, queryStatement, headerStatement] using hbody

theorem forall_not_mem_boundBefore_iff :
    (∀ p ∈ m.params, plainName p.name ∉ boundBefore p.source) ↔
      ∀ source, ∀ x ∈ boundBefore source, x ∉ namesFrom m source := by
  simp only [mem_namesFrom, not_exists, not_and]
  constructor
  · rintro h source x hx p hp rfl rfl
    exact h p hp hx
  · exact fun h p hp hmem => h p.source _ hmem p hp rfl rfl

/-- The same, by the name that is bound: `url` comes before all parameters, `query` before those
outside the path, and `builder` before the rest. -/
theorem forall_boundBefore_iff {P : ParamSource → String → Prop} :
    (∀ source, ∀ x ∈ boundBefore source, P source x) ↔
      (P .path "url" ∧ P .query "url" ∧ P .header "url" ∧ P .body "url") ∧
        (P .query "query" ∧ P .header "query" ∧ P .body "query") ∧
        P .header "builder" ∧ P .body "builder" := by
  constructor
  · intro h
    have hpath := h .path
    have hquery := h .query
    have hheader := h .header
    have hbody := h .body
    simp only [boundBefore, List.forall_mem_cons] at hpath hquery hheader hbody
    exact ⟨⟨hpath.1, hquery.1, hheader.1, hbody.1⟩, ⟨hquery.2.1, hheader.2.1, hbody.2.1⟩,
      hheader.2.2.1, hbody.2.2.1⟩
  · rintro ⟨⟨hpath, hquery, hheader, hbody⟩, ⟨hquery₂, hheader₂, hbody₂⟩, hheader₃, hbody₃⟩ source
    cases source with
    | path => simpa [boundBefore] using hpath
    | query => simpa [boundBefore] using ⟨hquery, hquery₂⟩
    | header => simpa [boundBefore] using ⟨hheader, hheader₂, hheader₃⟩
    | body => simpa [boundBefore] using ⟨hbody, hbody₂, hbody₃⟩

/-- What the client uses a parameter for comes after some of its own `let`s, as `boundBefore`
says. -/
theorem keepsNames_encodeStatements_iff (hvars : pathVariables m.uriTemplate = .ok m.pathVariables)
    (hpath : ∀ x, x ∈ m.pathVariables.map plainName ↔ x ∈ namesFrom m .path)
    (hraw : isJsonType m.requestContentType = false → (m.paramsFrom .body).length ≤ 1) :
    KeepsNames noLets (encodeStatements (MethodView.of errorType m)) ↔
      ∀ p ∈ m.params, plainName p.name ∉ boundBefore p.source := by
  have hpieces : ∀ x, x ∈ usedIn ((MethodView.of errorType m).urlPieces.map urlStatement) ↔
      x ∈ namesFrom m .path := by
    intro x
    have hused : usedIn ((MethodView.of errorType m).urlPieces.map urlStatement) =
        m.pathVariables.map plainName := usedIn_urlPieces hvars
    rw [hused, hpath]
  have hqueries : usedIn ((MethodView.of errorType m).queryParams.map queryStatement) =
      namesFrom m .query := usedIn_map (fun _ => rfl) .query
  have hheaders : usedIn ((MethodView.of errorType m).headerParams.map headerStatement) =
      namesFrom m .header := usedIn_map (fun _ => rfl) .header
  have hbody : usedIn (requestBodyStatements (MethodView.of errorType m)) = namesFrom m .body := by
    rw [usedIn_requestBodyStatements, bodyParams_append_rawParams, List.map_map]
    rfl
  rw [keepsNames_iff_of_no_decodes decodes_of_mem_encodeStatements fun x => noLets_ne x _,
    and_iff_right fun _ _ x _ => noLets_ne x _, forall_not_mem_boundBefore_iff,
    forall_boundBefore_iff]
  -- only the three `let`s bind names that a later statement may use
  simp only [encodeStatements, List.append_assoc, List.cons_append, List.nil_append]
  rw [pairwise_clears_cons_iff, pairwise_clears_append_iff, pairwise_clears_cons_iff,
    pairwise_clears_append_iff, pairwise_clears_cons_iff, pairwise_clears_cons_iff,
    pairwise_clears_append_iff, and_iff_left (pairwise_requestBodyStatements
      (bodyParams_eq_nil_or errorType m) (length_rawParams_le hraw errorType) rfl)]
  · simp only [List.mem_singleton, forall_eq, List.not_mem_nil, false_imp_iff, implies_true,
      usedIn_append, usedIn_cons, usedIn_nil, List.map_nil, List.nil_append, List.append_nil,
      List.mem_append, hpieces, hqueries, hheaders, hbody, not_or, true_and]
  all_goals
    intro st hst
    obtain ⟨_, -, rfl⟩ := List.mem_map.1 hst
    rfl

end Requests

/-! ## Handlers of a server -/

/-- The statement that decodes a parameter. -/
def decoder (m : MethodSpec) (p : ParameterBinding) : Statement :=
  match p.source with
  | .path => pathStatement (.of p)
  | .query => lookupStatement "query_value" "query parameter" (.of p)
  | .header => lookupStatement "header_value" "header" (.of p)
  | .body => if m.hasJsonBody then fieldStatement (.of p) else rawStatement (.of p)

/-- The names of the server's own that a parameter is decoded from. -/
def decodedFrom (m : MethodSpec) (p : ParameterBinding) : List String :=
  match p.source with
  | .path => ["vars"]
  | .query | .header => ["req"]
  | .body => if m.hasJsonBody then ["body"] else ["req"]

/-- The parameters outside the body, in the order in which a server decodes them. -/
def outsideBody (m : MethodSpec) : List ParameterBinding :=
  m.paramsFrom .path ++ (m.paramsFrom .query ++ m.paramsFrom .header)

/-- The statement between the parameters outside the body and those in it. -/
def letBody (m : MethodSpec) (v : MethodView) : List Statement :=
  if m.hasJsonBody && !(m.paramsFrom .body).isEmpty then [jsonBodyStatement v] else []

section Handlers

variable {m : MethodSpec} {errorType : Option String}

theorem decoder_eq (p : ParameterBinding) :
    decoder m p = ⟨(decoder m p).code, decodedFrom m p, [], [], [p.name]⟩ := by
  unfold decoder decodedFrom
  cases p.source with
  | path => rfl
  | query => rfl
  | header => rfl
  | body => cases m.hasJsonBody <;> rfl

theorem map_decoder {source : ParamSource} {f : ParamView → Statement}
    (h : ∀ p, p.source = source → f (.of p) = decoder m p) :
    ((m.paramsFrom source).map ParamView.of).map f = (m.paramsFrom source).map (decoder m) := by
  rw [List.map_map]
  refine List.map_congr_left fun p hp => h p ?_
  simpa using (List.mem_filter.1 hp).2

theorem handlerStatements_of :
    handlerStatements (MethodView.of errorType m) =
      (outsideBody m).map (decoder m) ++
        (letBody m (MethodView.of errorType m) ++ (m.paramsFrom .body).map (decoder m)) ++
        [callStatement (MethodView.of errorType m)] := by
  have hpath : (MethodView.of errorType m).pathParams.map pathStatement =
      (m.paramsFrom .path).map (decoder m) :=
    map_decoder fun p hp => by rw [decoder, hp]
  have hquery : (MethodView.of errorType m).queryParams.map
      (lookupStatement "query_value" "query parameter") = (m.paramsFrom .query).map (decoder m) :=
    map_decoder fun p hp => by rw [decoder, hp]
  have hheader : (MethodView.of errorType m).headerParams.map
      (lookupStatement "header_value" "header") = (m.paramsFrom .header).map (decoder m) :=
    map_decoder fun p hp => by rw [decoder, hp]
  have hbody : bodyStatements (MethodView.of errorType m) ++
      (MethodView.of errorType m).rawParams.map rawStatement =
        letBody m (MethodView.of errorType m) ++ (m.paramsFrom .body).map (decoder m) := by
    cases hjson : m.hasJsonBody with
    | true =>
      have hfields : ((m.paramsFrom .body).map ParamView.of).map fieldStatement =
          (m.paramsFrom .body).map (decoder m) :=
        map_decoder fun p hp => by rw [decoder, hp, hjson, if_pos rfl]
      have hparams :
          (MethodView.of errorType m).bodyParams = (m.paramsFrom .body).map ParamView.of ∧
            (MethodView.of errorType m).rawParams = [] := by simp [MethodView.of, hjson]
      rw [bodyStatements, letBody, hparams.1, hparams.2, hjson, hfields]
      cases m.paramsFrom .body <;> simp
    | false =>
      have hraw : ((m.paramsFrom .body).map ParamView.of).map rawStatement =
          (m.paramsFrom .body).map (decoder m) :=
        map_decoder fun p hp => by rw [decoder, hp, hjson, if_neg Bool.false_ne_true]
      have hparams : (MethodView.of errorType m).bodyParams = [] ∧
          (MethodView.of errorType m).rawParams = (m.paramsFrom .body).map ParamView.of := by
        simp [MethodView.of, hjson]
      rw [bodyStatements, letBody, hparams.1, hparams.2, hjson, hraw]
      rfl
  rw [handlerStatements, hpath, hquery, hheader, List.append_assoc _ (bodyStatements _), hbody,
    outsideBody, List.map_append, List.map_append]
  simp only [List.append_assoc]

theorem decodedNames_decoder (p : ParameterBinding) :
    (decoder m p).decodedNames = [plainName p.name] := by
  rw [decoder_eq]
  rfl

theorem spares_decoder_iff {p q : ParameterBinding} :
    (decoder m p).Spares (decoder m q) ↔
      plainName p.name ≠ plainName q.name ∧ plainName p.name ∉ decodedFrom m q := by
  have hlets : (decoder m q).letNames = [plainName q.name] := by
    rw [decoder_eq]
    rfl
  have hlocals : (decoder m q).locals = decodedFrom m q := by rw [decoder_eq]
  rw [Statement.Spares, decodedNames_decoder, hlets, hlocals, List.forall_mem_singleton,
    List.mem_singleton, and_comm]

theorem mem_letBody_iff {v : MethodView} {st : Statement} :
    st ∈ letBody m v ↔
      (m.hasJsonBody = true ∧ m.paramsFrom .body ≠ []) ∧ st = jsonBodyStatement v := by
  unfold letBody
  split
  · rename_i h
    simp_all
  · rename_i h
    simp_all

theorem pairwise_spares_insert_iff {before inserted after : List Statement}
    (h : ∀ st ∈ inserted, st.decodes = []) :
    (before ++ (inserted ++ after)).Pairwise Statement.Spares ↔
      (before ++ after).Pairwise Statement.Spares ∧
        ∀ a ∈ before, ∀ b ∈ inserted, a.Spares b := by
  have hspares : ∀ a ∈ inserted, ∀ b, a.Spares b := by
    intro a ha b x hx
    rw [Statement.decodedNames, h a ha] at hx
    cases hx
  have hpairs : inserted.Pairwise Statement.Spares :=
    List.pairwise_of_forall_mem_list fun a ha b _ => hspares a ha b
  simp only [List.pairwise_append, List.forall_mem_append]
  constructor
  · rintro ⟨hbefore, ⟨-, hafter, -⟩, hcross⟩
    exact ⟨⟨hbefore, hafter, fun a ha => (hcross a ha).2⟩, fun a ha => (hcross a ha).1⟩
  · rintro ⟨⟨hbefore, hafter, hcross⟩, hlast⟩
    exact ⟨hbefore, ⟨hpairs, hafter, fun a ha b _ => hspares a ha b⟩,
      fun a ha => ⟨hlast a ha, hcross a ha⟩⟩

/-- The names that a server leaves to the parameters of a method. -/
structure FreeInServer (m : MethodSpec) : Prop where
  call : ∀ p ∈ m.params, plainName p.name ≠ "service"
  order : (outsideBody m ++ m.paramsFrom .body).Pairwise fun p q =>
    plainName p.name ≠ plainName q.name ∧ plainName p.name ∉ decodedFrom m q
  body : m.hasJsonBody = true → m.paramsFrom .body ≠ [] →
    ∀ p ∈ m.params, p.source ≠ .body → plainName p.name ≠ "req"

theorem freeInServer_iff : FreeInServer m ↔
    (∀ p ∈ m.params, plainName p.name ≠ "service") ∧
      (outsideBody m ++ m.paramsFrom .body).Pairwise (fun p q =>
        plainName p.name ≠ plainName q.name ∧ plainName p.name ∉ decodedFrom m q) ∧
      (m.hasJsonBody = true → m.paramsFrom .body ≠ [] →
        ∀ p ∈ m.params, p.source ≠ .body → plainName p.name ≠ "req") := by
  constructor
  · rintro ⟨hcall, horder, hbody⟩
    exact ⟨hcall, horder, hbody⟩
  · rintro ⟨hcall, horder, hbody⟩
    exact ⟨hcall, horder, hbody⟩

instance : Decidable (FreeInServer m) := decidable_of_iff _ freeInServer_iff.symm

theorem mem_paramsFrom {source : ParamSource} {p : ParameterBinding} :
    p ∈ m.paramsFrom source ↔ p ∈ m.params ∧ p.source = source := by
  simp [MethodSpec.paramsFrom]

theorem mem_outsideBody {p : ParameterBinding} :
    p ∈ outsideBody m ↔ p ∈ m.params ∧ p.source ≠ .body := by
  simp only [outsideBody, MethodSpec.paramsFrom, List.mem_append, List.mem_filter,
    decide_eq_true_eq]
  cases p.source <;> simp

theorem mem_decoded {p : ParameterBinding} :
    p ∈ outsideBody m ++ m.paramsFrom .body ↔ p ∈ m.params := by
  rw [outsideBody, List.append_assoc, List.append_assoc]
  exact (perm_of_sources m.params).mem_iff

theorem usedNames_callStatement :
    (callStatement (MethodView.of errorType m)).usedNames = m.params.map (plainName ·.name) := by
  simp only [Statement.usedNames, callStatement, MethodView.of, List.map_map]
  rfl

theorem of_mem_letBody {v : MethodView} {st : Statement} (h : st ∈ letBody m v) :
    st.params = [] ∧ st.decodes = [] := by
  rw [(mem_letBody_iff.1 h).2]
  exact ⟨rfl, rfl⟩

/-- All parameters are decoded, and all are passed on. -/
theorem mem_usedNames_callStatement {x : String} :
    x ∈ (callStatement (MethodView.of errorType m)).usedNames ↔
      ∃ st ∈ (outsideBody m).map (decoder m) ++
        (letBody m (MethodView.of errorType m) ++ (m.paramsFrom .body).map (decoder m)),
        x ∈ st.decodedNames := by
  have hname : ∀ p, x ∈ (decoder m p).decodedNames ↔ plainName p.name = x := by
    intro p
    rw [decodedNames_decoder, List.mem_singleton, eq_comm]
  rw [usedNames_callStatement, List.mem_map]
  constructor
  · rintro ⟨p, hp, hx⟩
    refine ⟨decoder m p, ?_, (hname p).2 hx⟩
    rcases List.mem_append.1 (mem_decoded.2 hp) with hp | hp
    · exact List.mem_append_left _ (List.mem_map_of_mem hp)
    · exact List.mem_append_right _ (List.mem_append_right _ (List.mem_map_of_mem hp))
  · rintro ⟨st, hst, hx⟩
    rcases List.mem_append.1 hst with hst | hst
    · obtain ⟨p, hp, rfl⟩ := List.mem_map.1 hst
      exact ⟨p, (mem_outsideBody.1 hp).1, (hname p).1 hx⟩
    · rcases List.mem_append.1 hst with hst | hst
      · rw [Statement.decodedNames, (of_mem_letBody hst).2] at hx
        cases hx
      · obtain ⟨p, hp, rfl⟩ := List.mem_map.1 hst
        exact ⟨p, (mem_paramsFrom.1 hp).1, (hname p).1 hx⟩

/-- The statement that decodes the body takes what is left of the request, and has a name. -/
theorem spares_letBody_iff {v : MethodView} :
    (∀ a ∈ (outsideBody m).map (decoder m), ∀ b ∈ letBody m v, a.Spares b) ↔
      (m.hasJsonBody = true → m.paramsFrom .body ≠ [] →
        ∀ p ∈ outsideBody m, plainName p.name ≠ "req" ∧ plainName p.name ≠ "body") := by
  have hspares : ∀ p, (decoder m p).Spares (jsonBodyStatement v) ↔
      plainName p.name ≠ "req" ∧ plainName p.name ≠ "body" := by
    intro p
    rw [Statement.Spares, decodedNames_decoder, List.forall_mem_singleton]
    simp [jsonBodyStatement, Statement.letNames, Statement.decodedNames]
  simp only [List.forall_mem_map, mem_letBody_iff]
  constructor
  · exact fun h hjson hne p hp => (hspares p).1 (h p hp _ ⟨⟨hjson, hne⟩, rfl⟩)
  · rintro h p hp _ ⟨⟨hjson, hne⟩, rfl⟩
    exact (hspares p).2 (h hjson hne p hp)

theorem keepsNames_handlerStatements_iff :
    KeepsNames noLets (handlerStatements (MethodView.of errorType m)) ↔ FreeInServer m := by
  have hparams : ∀ st ∈ (outsideBody m).map (decoder m) ++
      (letBody m (MethodView.of errorType m) ++ (m.paramsFrom .body).map (decoder m)),
      st.params = [] := by
    have hdecoder : ∀ p, (decoder m p).params = [] := fun p => by rw [decoder_eq]
    simp only [List.forall_mem_append, List.forall_mem_map]
    exact ⟨fun p _ => hdecoder p, fun st hst => (of_mem_letBody hst).1, fun p _ => hdecoder p⟩
  have hcall : (∀ x ∈ (callStatement (MethodView.of errorType m)).usedNames,
      x ∉ (callStatement (MethodView.of errorType m)).locals) ↔
        ∀ p ∈ m.params, plainName p.name ≠ "service" := by
    rw [usedNames_callStatement, List.forall_mem_map]
    simp only [callStatement, List.mem_singleton]
  rw [handlerStatements_of, keepsNames_decoders_iff hparams fun x => mem_usedNames_callStatement,
    pairwise_spares_insert_iff fun st hst => (of_mem_letBody hst).2, ← List.map_append,
    List.pairwise_map, hcall, spares_letBody_iff]
  simp only [spares_decoder_iff]
  constructor
  · rintro ⟨⟨horder, hbody⟩, hservice⟩
    exact ⟨hservice, horder, fun hjson hne p hp hsource =>
      (hbody hjson hne p (mem_outsideBody.2 ⟨hp, hsource⟩)).1⟩
  · intro h
    refine ⟨⟨h.order, fun hjson hne p hp => ?_⟩, h.call⟩
    obtain ⟨hparam, hsource⟩ := mem_outsideBody.1 hp
    obtain ⟨q, hq⟩ := List.exists_mem_of_ne_nil _ hne
    have hfrom : decodedFrom m q = ["body"] := by
      rw [decodedFrom, (mem_paramsFrom.1 hq).2, hjson]
      rfl
    have hname := ((List.pairwise_append.1 h.order).2.2 p hp q hq).2
    rw [hfrom, List.mem_singleton] at hname
    exact ⟨h.body hjson hne p hparam hsource, hname⟩

end Handlers

/-! ## Built services -/

/-- **Which names are kept.** In the function that encodes requests for a method of a built service,
and in the one that handles them, the statements record what their code binds, and every name stands
for what the text takes it for exactly if no parameter has one of the names that these functions
have bound, or still use, at that place. -/
theorem names_kept_iff {index : TypeIndex} {marker : String} {decl : InterfaceDecl}
    {s : ServiceSpec} (h : ServiceSpec.build index marker decl = .ok (some s)) {m : MethodSpec}
    (hm : m ∈ s.methods) :
    (∀ st ∈ encodeStatements (MethodView.of s.errorType m) ++
        handlerStatements (MethodView.of s.errorType m), st.Records) ∧
      (KeepsNames noLets (encodeStatements (MethodView.of s.errorType m)) ↔
        ∀ p ∈ m.params, plainName p.name ∉ boundBefore p.source) ∧
      (KeepsNames noLets (handlerStatements (MethodView.of s.errorType m)) ↔ FreeInServer m) := by
  obtain ⟨_, -, hmethods⟩ := (ServiceSpec.built_of_build h).methods
  obtain ⟨_, -, d, hparse, hbuilt⟩ := exists_of_mem_right (buildMethods_ok hmethods) hm
  obtain ⟨tags, -, htags⟩ := MethodDirectives.parse_jsonTags hparse
  have hbound := allBound_of_bindParams htags hbuilt.params
  have hraw : isJsonType m.requestContentType = false → (m.paramsFrom .body).length ≤ 1 := by
    have htype : m.requestContentType = d.contentType.getD defaultContentType := by rw [hbuilt.eq]
    rw [htype]
    exact fun hjson => (checkRawBody_ok htags hbuilt.rawBody hjson).1
  have hpath : ∀ x, x ∈ m.pathVariables.map plainName ↔ x ∈ namesFrom m .path := by
    intro x
    simp only [List.mem_map, hbound.mem_vars_iff, mem_namesFrom]
    constructor
    · rintro ⟨_, ⟨p, hp, hpath, rfl⟩, hx⟩
      exact ⟨p, hp, hpath, hx⟩
    · rintro ⟨p, hp, hpath, hx⟩
      exact ⟨p.name, ⟨p, hp, hpath, rfl⟩, hx⟩
  exact ⟨List.forall_mem_append.2 ⟨records_encodeStatements _, records_handlerStatements _⟩,
    keepsNames_encodeStatements_iff (pathVariables_of_build h hm) hpath hraw,
    keepsNames_handlerStatements_iff⟩

/-- A trait with one method. -/
def oneMethodTrait (docs : List String) (params : List ParamDecl) : InterfaceDecl where
  name := "Search"
  docs := []
  methods := [{
    name := "find"
    docs
    receiver := .ref
    params
    unsupportedParam := none
    isGeneric := false
    isAsync := false
    hasDefault := false
    returnType := "Result<String, Failure>"
    okType := some "String"
    errType := some "Failure"
    returnsResult := true
    referencedTypes := ∅ }]
  modulePath := "crate"
  sourcePath := ⟨"src/lib.rs"⟩
  isGeneric := false

/-- Parameters may have a name of the generated functions that is bound later, or used no more. -/
def lateNamesTrait : InterfaceDecl :=
  oneMethodTrait ["@gtg uri-path /\x7bbuilder\x7d", "@gtg query vars"]
    [⟨"builder", "String"⟩, ⟨"vars", "String"⟩, ⟨"text", "String"⟩, ⟨"body", "String"⟩]

theorem names_kept_lateNames :
    ∃ s m, ServiceSpec.build {} "@gtg" lateNamesTrait = .ok (some s) ∧ m ∈ s.methods ∧
      m.params.map (fun p => (p.source, p.name)) =
        [(.path, "builder"), (.query, "vars"), (.body, "text"), (.body, "body")] ∧
      KeepsNames noLets (encodeStatements (MethodView.of s.errorType m)) ∧
      KeepsNames noLets (handlerStatements (MethodView.of s.errorType m)) := by
  have hbuild : (ServiceSpec.build {} "@gtg" lateNamesTrait).toOption.join.any (fun s =>
      s.methods.any fun m => m.params.map (fun p => (p.source, p.name)) =
          [(.path, "builder"), (.query, "vars"), (.body, "text"), (.body, "body")] ∧
        (∀ p ∈ m.params, plainName p.name ∉ boundBefore p.source) ∧ FreeInServer m) = true := by
    decide +kernel
  obtain ⟨s, hs, hmethods⟩ := (Option.any_eq_true _ _).1 hbuild
  obtain ⟨m, hm, hfacts⟩ := List.any_eq_true.1 hmethods
  obtain ⟨hparams, hclient, hserver⟩ := of_decide_eq_true hfacts
  have hs := eq_ok_of_toOption_join hs
  have hnames := names_kept_iff hs hm
  exact ⟨s, m, hs, hm, hparams, hnames.2.1.2 hclient, hnames.2.2.2 hserver⟩

/-- **Not all names are kept.** A trait is built whose parameters are named like what the client and
the server bind themselves: the client encodes its own `url`, and the server calls the parameter
`service`. -/
theorem names_lost_find :
    ∃ s m, ServiceSpec.build {} "@gtg" (oneMethodTrait ["@gtg method GET", "@gtg query url, service"]
        [⟨"url", "String"⟩, ⟨"service", "String"⟩]) = .ok (some s) ∧ m ∈ s.methods ∧
      (codeOf (encodeStatements (MethodView.of s.errorType m))).take 4 =
        ["let mut url = String::from(base_url);", "url.push_str(\"/Search/find\");",
          "let mut query: Vec<(&str, String)> = Vec::new();",
          "query.push((\"url\", url.to_string()));"] ∧
      ¬KeepsNames noLets (encodeStatements (MethodView.of s.errorType m)) ∧
      ¬KeepsNames noLets (handlerStatements (MethodView.of s.errorType m)) := by
  have hbuild : (ServiceSpec.build {} "@gtg" (oneMethodTrait
      ["@gtg method GET", "@gtg query url, service"]
      [⟨"url", "String"⟩, ⟨"service", "String"⟩])).toOption.join.any (fun s => s.methods.any fun m =>
        (codeOf (encodeStatements (MethodView.of s.errorType m))).take 4 =
          ["let mut url = String::from(base_url);", "url.push_str(\"/Search/find\");",
            "let mut query: Vec<(&str, String)> = Vec::new();",
            "query.push((\"url\", url.to_string()));"] ∧
        ¬KeepsNames noLets (encodeStatements (MethodView.of s.errorType m)) ∧
        ¬KeepsNames noLets (handlerStatements (MethodView.of s.errorType m))) = true := by
    decide +kernel
  obtain ⟨s, hs, hmethods⟩ := (Option.any_eq_true _ _).1 hbuild
  obtain ⟨m, hm, hfacts⟩ := List.any_eq_true.1 hmethods
  exact ⟨s, m, eq_ok_of_toOption_join hs, hm, of_decide_eq_true hfacts⟩

end TransportGen
