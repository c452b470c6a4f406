import TransportGen.Proofs.Template.Matching

/-!
# Requests that a template matches

A server compares a path with a template segment by segment, so what it matches is decided by the
pattern of each segment, a text or a variable (`isSome_matchRoute_iff`). Templates match the same
paths exactly if they have the same patterns (`sameRequests_iff_patterns`): the shape of a template
is itself a path that only templates of these patterns match. A shape shows the patterns, and beside
them the slashes at the end, which no request does. So two templates of one shape match the same
paths, and two that match the same paths have one shape exactly if they end with the same slashes
(`routeShape_eq_iff`).
-/

namespace TransportGen

/-! ## Shapes -/

/-- What stands in a shape for a variable. -/
def erased : List Char := ['\x7b', '\x7d']

/-- What stands in a shape for a token. -/
def TemplateToken.shape : TemplateToken → List Char
  | char c => [c]
  | var _ => erased

theorem shapeFrom_name {name : List Char} (hname : ∀ c ∈ name, c ≠ '\x7b' ∧ c ≠ '\x7d')
    (read s : List Char) :
    shapeFrom (some read) (name ++ '\x7d' :: s) = erased ++ shapeFrom none s := by
  induction name generalizing read with
  | nil => rw [List.nil_append, shapeFrom, if_neg (by decide), if_pos rfl, erased]; rfl
  | cons c name ih =>
    rw [List.forall_mem_cons] at hname
    rw [List.cons_append, shapeFrom, if_neg hname.1.1, if_neg hname.1.2, ih hname.2]

theorem shapeFrom_spell {tokens : List TemplateToken} (hfits : ∀ token ∈ tokens, token.Fits) :
    shapeFrom none (spell tokens) = tokens.flatMap TemplateToken.shape := by
  induction tokens with
  | nil => rfl
  | cons token tokens ih =>
    rw [List.forall_mem_cons] at hfits
    obtain ⟨htoken, hrest⟩ := hfits
    rw [spell_cons, List.flatMap_cons, ← ih hrest]
    cases token with
    | char c =>
      have hchar : TemplateToken.spell (.char c) ++ spell tokens = c :: spell tokens := rfl
      rw [hchar, shapeFrom, if_neg htoken.1]
      rfl
    | var name =>
      have hname : ∀ c ∈ name, c ≠ '\x7b' ∧ c ≠ '\x7d' := by
        intro c hc
        exact (of_mem_isName htoken hc).2
      rw [TemplateToken.spell, List.append_assoc, List.cons_append, shapeFrom, if_pos rfl,
        List.singleton_append, shapeFrom_name hname]
      rfl

theorem toList_routeShape {tokens : List TemplateToken} {template : String}
    (hfits : ∀ token ∈ tokens, token.Fits) (hspell : spell tokens = template.toList) :
    (routeShape template).toList = tokens.flatMap TemplateToken.shape := by
  rw [routeShape, String.toList_ofList, ← hspell, shapeFrom_spell hfits]

theorem TemplateToken.splits_shape (token : TemplateToken) : Splits shape token := by
  cases token with
  | char c => exact splits_char rfl
  | var name =>
    refine ⟨List.cons_ne_nil _ _, ?_⟩
    intro c hc
    rcases List.mem_cons.1 hc with rfl | hc
    · decide
    · rw [List.mem_singleton.1 hc]
      decide

/-! ## Slashes at the end -/

/-- The slashes at the end of a template. -/
def trailingSlashes (template : String) : List Char := template.toList.rtakeWhile (· == '/')

/-- Spellings of the same tokens end with the same slashes. -/
theorem rtakeWhile_flatMap {f g : TemplateToken → List Char} {tokens : List TemplateToken}
    (hf : ∀ token ∈ tokens, TemplateToken.Splits f token)
    (hg : ∀ token ∈ tokens, TemplateToken.Splits g token) :
    (tokens.flatMap f).rtakeWhile (· == '/') = (tokens.flatMap g).rtakeWhile (· == '/') := by
  -- A last token that is no slash has no slash at its end, however it is spelled.
  have hend : ∀ {h : TemplateToken → List Char} {token : TemplateToken} (s : List Char),
      ¬token.isSlash = true → TemplateToken.Splits h token →
        (s ++ h token).rtakeWhile (· == '/') = [] := by
    intro h token s hslash hsplits
    rw [TemplateToken.Splits, if_neg hslash] at hsplits
    obtain ⟨start, last, hlast⟩ := (List.eq_nil_or_concat (h token)).resolve_left hsplits.1
    rw [List.concat_eq_append] at hlast
    have hne : last ≠ '/' := hsplits.2 last (hlast ▸ List.mem_append_right _ List.mem_cons_self)
    rw [hlast, ← List.append_assoc, List.rtakeWhile_concat_neg _ _ _ (by simpa using hne)]
  induction tokens using List.reverseRecOn with
  | nil => rfl
  | append_singleton tokens token ih =>
    rw [List.forall_mem_append, List.forall_mem_singleton] at hf hg
    simp only [List.flatMap_append, List.flatMap_singleton]
    by_cases hslash : token.isSlash = true
    · have hf' := hf.2
      have hg' := hg.2
      rw [TemplateToken.Splits, if_pos hslash] at hf' hg'
      rw [hf', hg', List.rtakeWhile_concat_pos _ _ _ rfl, List.rtakeWhile_concat_pos _ _ _ rfl,
        ih hf.1 hg.1]
    · rw [hend _ hslash hf.2, hend _ hslash hg.2]

/-- The segments of a text are all of it but the slashes at its end. -/
theorem segments_eq_iff {s t : List Char} :
    segments s = segments t ↔ s.rdropWhile (· == '/') = t.rdropWhile (· == '/') := by
  have hjoin : ∀ s : List Char,
      ['/'].intercalate (segments s) = s.rdropWhile (· == '/') :=
    fun s => Text.intercalate_pieces '/' _
  constructor
  · intro h
    rw [← hjoin s, h, hjoin t]
  · intro h
    rw [segments, h, segments]

theorem eq_iff_segments {s t : List Char} :
    s = t ↔ segments s = segments t ∧ s.rtakeWhile (· == '/') = t.rtakeWhile (· == '/') := by
  rw [segments_eq_iff]
  constructor
  · rintro rfl
    exact ⟨rfl, rfl⟩
  · rintro ⟨hstart, hend⟩
    rw [← List.rdropWhile_append_rtakeWhile (l := s), hstart, hend,
      List.rdropWhile_append_rtakeWhile]

/-! ## Patterns -/

/-- What a segment of a template matches: a text, or anything if the segment is a variable. -/
inductive SegmentPattern where
  | literal (text : List Char)
  | any
  deriving DecidableEq

namespace SegmentPattern

/-- The pattern of a segment: a segment in braces is a variable. -/
def ofSegment (segment : List Char) : SegmentPattern :=
  if (inBraces? (String.ofList segment)).isSome then .any else .literal segment

/-- Whether a segment of a path is matched. -/
def Matches : SegmentPattern → List Char → Prop
  | literal text, segment => text = segment
  | any, _ => True

/-- A segment that is matched, given one for a variable. -/
def fill (text : List Char) : SegmentPattern → List Char
  | literal own => own
  | any => text

theorem matches_fill (text : List Char) (patterns : List SegmentPattern) :
    List.Forall₂ Matches patterns (patterns.map (fill text)) := by
  rw [List.forall₂_map_right_iff, List.forall₂_same]
  intro pattern _
  cases pattern with
  | literal own => rfl
  | any => trivial

/-- Patterns are the same if they match each other, filled with a text that is in neither. -/
theorem eq_of_matches_fill {text : List Char} {ps qs : List SegmentPattern}
    (hps : literal text ∉ ps) (hqs : literal text ∉ qs)
    (h : List.Forall₂ Matches ps (qs.map (fill text)))
    (h' : List.Forall₂ Matches qs (ps.map (fill text))) : ps = qs := by
  induction ps generalizing qs with
  | nil =>
    cases qs with
    | nil => rfl
    | cons q qs => cases h
  | cons p ps ih =>
    cases qs with
    | nil => cases h
    | cons q qs =>
      rw [List.map_cons, List.forall₂_cons] at h h'
      rw [List.mem_cons, not_or] at hps hqs
      rw [ih hps.2 hqs.2 h.2 h'.2]
      cases p with
      | literal own =>
        have hown : own = q.fill text := h.1
        cases q with
        | literal other => rw [hown]; rfl
        | any => exact absurd (congrArg literal hown.symm) hps.1
      | any =>
        cases q with
        | literal other =>
          have hother : other = text := h'.1
          exact absurd (congrArg literal hother.symm) hqs.1
        | any => rfl

end SegmentPattern

open SegmentPattern (ofSegment fill)

/-- The patterns of the segments of a template. -/
def patternsOf (template : String) : List SegmentPattern :=
  (segments template.toList).map ofSegment

theorem isSome_matchSegments_iff {expected path : List (List Char)} :
    (matchSegments expected path).isSome = true ↔
      List.Forall₂ SegmentPattern.Matches (expected.map ofSegment) path := by
  induction expected generalizing path with
  | nil => cases path <;> simp [matchSegments]
  | cons first expected ih =>
    cases path with
    | nil => simp [matchSegments]
    | cons segment path =>
      rw [matchSegments, List.map_cons, List.forall₂_cons, ← ih, ofSegment]
      cases inBraces? (String.ofList first) with
      | some name => simp [SegmentPattern.Matches]
      | none => by_cases hfirst : first = segment <;> simp [SegmentPattern.Matches, hfirst]

/-- **What a template matches** is decided by its patterns. -/
theorem isSome_matchRoute_iff {template path : String} :
    (matchRoute template path).isSome = true ↔
      List.Forall₂ SegmentPattern.Matches (patternsOf template) (segments path.toList) :=
  isSome_matchSegments_iff

/-- No text in a pattern is in braces. -/
theorem literal_erased_not_mem (template : String) :
    SegmentPattern.literal erased ∉ patternsOf template := by
  intro hmem
  obtain ⟨segment, -, hsegment⟩ := List.mem_map.1 hmem
  unfold ofSegment at hsegment
  split at hsegment
  · cases hsegment
  · rename_i hbraces
    cases hsegment
    exact hbraces (by decide)

/-! ## Templates -/

/-- Whether a text holds no brace. -/
def isFree (text : List Char) : Bool := text.all fun c => c != '\x7b' && c != '\x7d'

theorem isFree_iff {text : List Char} :
    isFree text = true ↔ ∀ c ∈ text, c ≠ '\x7b' ∧ c ≠ '\x7d' := by
  simp [isFree]

theorem isWholeSegment_iff {segment : List Char} :
    IsWholeSegment segment ↔
      (isFree segment || (inBraces? (String.ofList segment)).any (isFree ·.toList)) = true := by
  rw [Bool.or_eq_true, isFree_iff, Option.any_eq_true]
  apply or_congr Iff.rfl
  constructor
  · rintro ⟨name, hfree, hsegment⟩
    refine ⟨String.ofList name, inBraces?_eq_some_iff.2 ?_, ?_⟩
    · rw [String.toList_ofList, hsegment]
    · rw [isFree_iff, String.toList_ofList]
      exact hfree
  · rintro ⟨name, hname, hfree⟩
    exact ⟨name.toList, isFree_iff.1 hfree, inBraces?_eq_some_iff.1 hname⟩

instance (segment : List Char) : Decidable (IsWholeSegment segment) :=
  decidable_of_iff _ isWholeSegment_iff.symm

/-- A template that is accepted, each of whose segments is free of braces or one variable. -/
structure IsWholeTemplate (template : String) : Prop where
  accepted : ∃ vars, pathVariables template = .ok vars
  whole : ∀ segment ∈ segments template.toList, IsWholeSegment segment

/-- Templates that match the same paths. A path begins with a slash. -/
def SameRequests (a b : String) : Prop :=
  ∀ path : String, path.toList.head? = some '/' →
    ((matchRoute a path).isSome = true ↔ (matchRoute b path).isSome = true)

/-- A whole segment is erased to what fills its pattern. -/
theorem flatMap_shape_of_isWholeSegment {segment : List TemplateToken}
    (hfits : ∀ token ∈ segment, token.Fits) (h : IsWholeSegment (spell segment)) :
    segment.flatMap TemplateToken.shape = (ofSegment (spell segment)).fill erased := by
  rcases tokens_of_isWholeSegment hfits h with hchars | ⟨name, rfl⟩
  · have hshape : segment.flatMap TemplateToken.shape = spell segment := by
      apply List.flatMap_congr
      intro token htoken
      obtain ⟨c, rfl⟩ := hchars token htoken
      rfl
    have hbraces : inBraces? (String.ofList (spell segment)) = none := by
      apply inBraces?_eq_none
      intro c hc
      obtain ⟨token, htoken, hc⟩ := List.mem_flatMap.1 hc
      obtain ⟨own, rfl⟩ := hchars token htoken
      rw [List.mem_singleton.1 hc]
      exact hfits _ htoken
    rw [hshape, ofSegment, hbraces]
    rfl
  · have hbraces : inBraces? (String.ofList (spell [.var name])) = some (String.ofList name) := by
      rw [inBraces?_eq_some_iff, String.toList_ofList]
      exact List.append_nil _
    have hany : ofSegment (spell [.var name]) = .any := by
      rw [ofSegment, hbraces]
      rfl
    rw [hany]
    rfl

section Whole

variable {a b : String}

theorem segments_routeShape (h : IsWholeTemplate a) :
    segments (routeShape a).toList = (patternsOf a).map (fill erased) := by
  obtain ⟨vars, hvars⟩ := h.accepted
  obtain ⟨tokens, hfits, hspell, -⟩ := exists_tokens hvars
  have htemplate := segments_spell hfits hspell
  rw [toList_routeShape hfits hspell, segments_flatMap fun token _ => token.splits_shape,
    patternsOf, htemplate, List.map_map, List.map_map]
  apply List.map_congr_left
  intro segment hsegment
  apply flatMap_shape_of_isWholeSegment
  · intro token htoken
    exact hfits token (mem_of_mem_tokenSegments hsegment htoken)
  · apply h.whole
    rw [htemplate]
    exact List.mem_map_of_mem hsegment

theorem rtakeWhile_routeShape (h : IsWholeTemplate a) :
    (routeShape a).toList.rtakeWhile (· == '/') = trailingSlashes a := by
  obtain ⟨vars, hvars⟩ := h.accepted
  obtain ⟨tokens, hfits, hspell, -⟩ := exists_tokens hvars
  rw [toList_routeShape hfits hspell, trailingSlashes, ← hspell]
  apply rtakeWhile_flatMap
  · intro token _
    exact token.splits_shape
  · intro token htoken
    exact TemplateToken.splits_spell (hfits token htoken)

theorem head?_routeShape (h : IsWholeTemplate a) : (routeShape a).toList.head? = some '/' := by
  obtain ⟨vars, hvars⟩ := h.accepted
  unfold pathVariables at hvars
  split at hvars
  · rename_i rest hrest
    rw [routeShape, String.toList_ofList, hrest, shapeFrom, if_neg (by decide)]
    rfl
  · cases hvars

/-- Templates match the shape of one of them exactly if they match it pattern by pattern. -/
theorem isSome_matchRoute_routeShape (h : IsWholeTemplate a) (template : String) :
    (matchRoute template (routeShape a)).isSome = true ↔
      List.Forall₂ SegmentPattern.Matches (patternsOf template)
        ((patternsOf a).map (fill erased)) := by
  rw [isSome_matchRoute_iff, segments_routeShape h]

/-- **The same requests.** Templates match the same paths exactly if they have the same patterns. -/
theorem sameRequests_iff_patterns (ha : IsWholeTemplate a) (hb : IsWholeTemplate b) :
    SameRequests a b ↔ patternsOf a = patternsOf b := by
  constructor
  · intro h
    have hown := (isSome_matchRoute_routeShape ha a).2 (SegmentPattern.matches_fill _ _)
    have hother := (isSome_matchRoute_routeShape hb b).2 (SegmentPattern.matches_fill _ _)
    apply SegmentPattern.eq_of_matches_fill (literal_erased_not_mem a)
      (literal_erased_not_mem b)
    · exact (isSome_matchRoute_routeShape hb a).1 ((h _ (head?_routeShape hb)).2 hother)
    · exact (isSome_matchRoute_routeShape ha b).1 ((h _ (head?_routeShape ha)).1 hown)
  · intro h path _
    rw [isSome_matchRoute_iff, isSome_matchRoute_iff, h]

theorem patterns_eq_iff (ha : IsWholeTemplate a) (hb : IsWholeTemplate b) :
    patternsOf a = patternsOf b ↔
      segments (routeShape a).toList = segments (routeShape b).toList := by
  rw [segments_routeShape ha, segments_routeShape hb]
  constructor
  · intro h
    rw [h]
  · intro h
    apply SegmentPattern.eq_of_matches_fill (literal_erased_not_mem a)
      (literal_erased_not_mem b)
    · rw [← h]
      exact SegmentPattern.matches_fill _ _
    · rw [h]
      exact SegmentPattern.matches_fill _ _

/-- **Shapes.** Templates have one shape exactly if they match the same paths and end with the same
slashes. -/
theorem routeShape_eq_iff (ha : IsWholeTemplate a) (hb : IsWholeTemplate b) :
    routeShape a = routeShape b ↔ SameRequests a b ∧ trailingSlashes a = trailingSlashes b := by
  rw [← String.toList_inj, eq_iff_segments, rtakeWhile_routeShape ha, rtakeWhile_routeShape hb,
    ← patterns_eq_iff ha hb, sameRequests_iff_patterns ha hb]

end Whole

end TransportGen
