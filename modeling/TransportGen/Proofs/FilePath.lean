import Mathlib.Data.List.TakeWhile
import TransportGen.FilePath
import TransportGen.Proofs.Text.Cutting
import TransportGen.Proofs.Text.Pieces

/-!
# Components of joined paths and of parents

What stands below a path adds components to it, however the path is spelled (`components_join`). A
name is one more component (`components_child`), so the key of the whole ends in the names that were
put there (`key_foldl_child`). The parent of a path is without its last component
(`components_of_parent?`); a path has none where it has no component besides the root
(`components_of_parent?_eq_none`).
-/

namespace TransportGen.FilePath

/-- A name that is one component of a path. -/
def IsStep (name : String) : Prop :=
  step? name.toList = some (.name name) ∧ '/' ∉ name.toList

instance (name : String) : Decidable (IsStep name) := inferInstanceAs (Decidable (_ ∧ _))

theorem IsStep.not_isAbsolute {name : String} (h : IsStep name) :
    FilePath.isAbsolute ⟨name⟩ = false := by
  simp only [isAbsolute, beq_eq_false_iff_ne, ne_eq]
  intro hhead
  exact h.2 (List.mem_of_head? hhead)

theorem IsStep.pieces_eq {name : String} (h : IsStep name) :
    Text.pieces (· == '/') name.toList = [name.toList] := Text.pieces_of_not_mem h.2

/-! ## The components of a text -/

/-- What stands before the steps of a path does not change when more is put after a slash. -/
theorem lead_append_slash {u : List Char} (hu : u ≠ []) (t : List Char) :
    lead (u ++ '/' :: t) = lead u := by
  match u with
  | [] => exact absurd rfl hu
  | c :: u =>
    by_cases hslash : c = '/'
    · subst hslash
      rfl
    · by_cases hdot : c = '.'
      · subst hdot
        match u with
        | [] => rfl
        | d :: u => by_cases hd : d = '/' <;> simp [lead, hd]
      · simp [lead, hslash, hdot]

theorem length_lead_le (u : List Char) : (lead u).1.length ≤ u.length := by
  unfold lead
  split <;> simp

/-- The components of a text whose last step comes after a slash. -/
theorem components_append_slash {u : List Char} (hu : u ≠ []) (t : List Char) :
    components ⟨String.ofList (u ++ '/' :: t)⟩ =
      components ⟨String.ofList u⟩ ++ (Text.pieces (· == '/') t).filterMap step? := by
  simp only [components, String.toList_ofList, lead_append_slash hu,
    List.drop_append_of_le_length (length_lead_le u),
    Text.pieces_append_cons (p := (· == '/')) (c := '/') rfl, List.filterMap_append,
    List.append_assoc]

/-- A slash at the end does not count. -/
theorem components_append_slash_nil {u : List Char} (hu : u ≠ []) :
    components ⟨String.ofList (u ++ ['/'])⟩ = components ⟨String.ofList u⟩ := by
  rw [components_append_slash hu]
  simp [Text.pieces, step?]

theorem components_lead (text : List Char) :
    components ⟨String.ofList (lead text).1⟩ = (lead text).2 := by
  unfold lead
  split <;> rfl

theorem lead_append_drop (text : List Char) :
    (lead text).1 ++ text.drop (lead text).1.length = text := by
  unfold lead
  split <;> simp

theorem step?_eq_none_iff {u : List Char} : step? u = none ↔ u = [] ∨ u = ['.'] := by
  unfold step?
  split <;> rename_i h
  · simpa using h
  · rw [Bool.or_eq_true, List.isEmpty_iff, beq_iff_eq] at h
    split <;> simp [h]

/-- The components of one piece, which has nothing before it. -/
theorem components_of_not_mem {u : List Char} (h : '/' ∉ u) (hdot : u ≠ ['.']) :
    components ⟨String.ofList u⟩ = (step? u).toList := by
  have hpieces : Text.pieces (· == '/') u = [u] := Text.pieces_of_not_mem h
  have hlead : lead u = ([], []) := by
    unfold lead
    split
    · exact absurd List.mem_cons_self h
    · exact absurd rfl hdot
    · exact absurd (List.mem_cons_of_mem _ List.mem_cons_self) h
    · rfl
  simp only [components, String.toList_ofList, hlead, List.length_nil, List.drop_zero, hpieces,
    List.nil_append]
  cases hstep : step? u <;> simp [hstep]

/-- Only the empty path has no components. -/
theorem components_eq_nil_iff {path : FilePath} : path.components = [] ↔ path.text = "" := by
  constructor
  · intro hnil
    refine Decidable.byContradiction fun htext => ?_
    have hne : path.text.toList ≠ [] := mt String.toList_eq_nil_iff.1 htext
    -- what stands before the first slash has a component already
    have hpiece : ∀ u : List Char, u ≠ [] → '/' ∉ u → components ⟨String.ofList u⟩ ≠ [] := by
      intro u hu hslash
      by_cases hdot : u = ['.']
      · subst hdot
        decide
      · rw [components_of_not_mem hslash hdot]
        cases hstep : step? u with
        | none => exact absurd (step?_eq_none_iff.1 hstep) (not_or.2 ⟨hu, hdot⟩)
        | some c => exact List.cons_ne_nil c []
    have hpath : components ⟨String.ofList path.text.toList⟩ = [] := by
      rw [String.ofList_toList]
      exact hnil
    generalize path.text.toList = text at hne hpath
    cases hsplit : Text.splitFirst (· == '/') text with
    | none =>
      refine hpiece text hne (fun hslash => ?_) hpath
      exact Bool.noConfusion (forall_not_of_splitFirst hsplit _ hslash)
    | some parts =>
      obtain ⟨c, hc, rfl, hbefore⟩ := exists_of_splitFirst hsplit
      obtain rfl : c = '/' := beq_iff_eq.1 hc
      by_cases hroot : parts.1 = []
      · rw [hroot, components, String.toList_ofList] at hpath
        exact List.cons_ne_nil _ _ hpath
      · rw [components_append_slash hroot, List.append_eq_nil_iff] at hpath
        exact hpiece _ hroot (fun hslash => Bool.noConfusion (hbefore _ hslash)) hpath.1
  · intro h
    rw [components, h]
    rfl

/-- The components of one step, which has nothing before it. -/
theorem components_of_isStep {name : String} (h : IsStep name) :
    components ⟨name⟩ = [.name name] := by
  have hdot : name.toList ≠ ['.'] := by
    intro hdot
    have hstep := h.1
    rw [hdot] at hstep
    cases hstep
  have hname := components_of_not_mem h.2 hdot
  rwa [String.ofList_toList, h.1] at hname

theorem isStep_of_mem_components {path : FilePath} {name : String}
    (h : .name name ∈ path.components) : IsStep name := by
  have hlead : ∀ text : List Char, .name name ∉ (lead text).2 := by
    intro text
    unfold lead
    split <;> simp
  rw [components] at h
  obtain ⟨piece, hpiece, hstep⟩ :=
    List.mem_filterMap.1 ((List.mem_append.1 h).resolve_left (hlead _))
  have hname : name = String.ofList piece := by
    unfold step? at hstep
    split at hstep
    · cases hstep
    · split at hstep
      · cases hstep
      · cases hstep
        rfl
  subst hname
  refine ⟨by rw [String.toList_ofList]; exact hstep, fun hslash => ?_⟩
  rw [String.toList_ofList] at hslash
  exact Bool.noConfusion (Text.forall_not_of_mem_pieces hpiece _ hslash)

/-! ## Joined paths -/

/-- The components of two paths, one below the other. -/
theorem components_join (path below : FilePath) : (path.join below).components =
    if below.isAbsolute = true ∨ path.components = [] then below.components
    else path.components ++ (Text.pieces (· == '/') below.text.toList).filterMap step? := by
  obtain ⟨text⟩ := path
  obtain ⟨suffix⟩ := below
  simp only [join, components_eq_nil_iff]
  by_cases habsolute : FilePath.isAbsolute ⟨suffix⟩ = true
  · rw [if_pos habsolute, if_pos (Or.inl habsolute)]
  by_cases hempty : text = ""
  · rw [if_neg habsolute, if_pos (Or.inr hempty), hempty]
    simp
  rw [if_neg habsolute, if_neg (not_or.2 ⟨habsolute, hempty⟩)]
  have hne : text.toList ≠ [] := mt String.toList_eq_nil_iff.1 hempty
  split
  · -- the path ends in a slash already
    rename_i hend
    have hlast : text.toList.getLast? = some '/' := by simpa [hempty] using hend
    obtain ⟨u, hu⟩ := List.getLast?_eq_some_iff.1 hlast
    have htext : text = String.ofList (u ++ ['/']) := by rw [← hu, String.ofList_toList]
    by_cases hroot : u = []
    · subst hroot
      subst htext
      simp [components, lead, Text.pieces, step?]
    · have hjoin : text ++ suffix = String.ofList (u ++ '/' :: suffix.toList) := by
        rw [htext, ← String.toList_inj]
        simp
      rw [hjoin, components_append_slash hroot, htext, components_append_slash_nil hroot]
  · have hjoin : text ++ "/" ++ suffix = String.ofList (text.toList ++ '/' :: suffix.toList) := by
      rw [← String.toList_inj]
      simp
    rw [hjoin, components_append_slash hne, String.ofList_toList]

theorem components_child_congr {path other : FilePath} (h : path.components = other.components)
    (name : String) : (path.child name).components = (other.child name).components := by
  rw [child, child, components_join, components_join, h]

/-- **One name, one component.** A name below a path is the last component of the whole. -/
theorem components_child (path : FilePath) {name : String} (h : IsStep name) :
    (path.child name).components = path.components ++ [.name name] := by
  rw [child, components_join, h.not_isAbsolute, components_of_isStep h]
  split
  · rename_i hnil
    rw [hnil.resolve_left Bool.false_ne_true]
    rfl
  · rw [h.pieces_eq, List.filterMap_cons, h.1]
    rfl

/-- Names below a path, one below the other. -/
theorem components_foldl_child (path : FilePath) {names : List String}
    (h : ∀ name ∈ names, IsStep name) :
    (names.foldl child path).components = path.components ++ names.map Component.name := by
  induction names generalizing path with
  | nil => simp
  | cons name rest ih =>
    rw [List.forall_mem_cons] at h
    rw [List.foldl_cons, ih _ h.2, components_child path h.1]
    simp

theorem key_foldl_child (path : FilePath) {names : List String}
    (h : ∀ name ∈ names, IsStep name) :
    (names.foldl child path).key = path.key ++ names.map fun name => "3" ++ name := by
  simp [key, components_foldl_child path h, Component.key]

/-! ## Parents -/

/-- After the last step that counts there are idle ones only. -/
theorem exists_dropIdle (steps : List (List Char)) : ∃ idle : List (List Char),
    steps = (dropIdle steps.reverse).reverse ++ idle ∧ idle.filterMap step? = [] := by
  refine ⟨(steps.reverse.takeWhile fun step => (step? step).isNone).reverse, ?_, ?_⟩
  · rw [dropIdle, ← List.reverse_append, List.takeWhile_append_dropWhile, List.reverse_reverse]
  · rw [List.filterMap_eq_nil_iff]
    intro step hstep
    rw [List.mem_reverse] at hstep
    have hidle := List.mem_takeWhile_imp hstep
    exact Option.isNone_iff_eq_none.1 hidle

theorem step?_of_dropIdle {steps rest : List (List Char)} {step : List Char}
    (h : dropIdle steps = step :: rest) : ∃ c, step? step = some c := by
  have hhead := List.head?_dropWhile_not (fun step => (step? step).isNone) steps
  rw [← dropIdle, h] at hhead
  exact Option.isSome_iff_exists.1 (by simpa using hhead)

/-- A path is cut between two of its steps. -/
theorem components_cut {text : List Char} {steps below : List (List Char)}
    (htext : text = (lead text).1 ++ ['/'].intercalate (steps ++ below))
    (hslash : ∀ step ∈ steps ++ below, '/' ∉ step) (hbelow : below ≠ []) :
    components ⟨String.ofList text⟩ =
      components ⟨String.ofList ((lead text).1 ++ ['/'].intercalate steps)⟩ ++
        below.filterMap step? := by
  have hpieces : Text.pieces (· == '/') (['/'].intercalate below) = below :=
    Text.pieces_intercalate (fun step hstep => hslash step (List.mem_append_right _ hstep)) hbelow
  by_cases hnil : steps = []
  · subst hnil
    rw [List.intercalate_nil, List.append_nil, components_lead, components, String.toList_ofList]
    have hdrop : text.drop (lead text).1.length = ['/'].intercalate below :=
      List.append_cancel_left ((lead_append_drop text).trans htext)
    rw [hdrop, hpieces]
  · rw [Text.intercalate_append hnil hbelow, ← List.append_assoc] at htext
    have hne : (lead text).1 ++ ['/'].intercalate steps ≠ [] := by
      intro hempty
      rw [hempty] at htext
      rw [htext] at hempty
      cases hempty
    conv => lhs; rw [htext]
    rw [components_append_slash hne, hpieces]

/-- The components of a path are those of its parent and one more. -/
theorem components_of_parent? {path parent : FilePath} (h : path.parent? = some parent) :
    ∃ last, path.components = parent.components ++ [last] := by
  obtain ⟨text⟩ := path
  obtain ⟨idle, hsteps, hidle⟩ := exists_dropIdle
    (Text.pieces (· == '/') (text.toList.drop (lead text.toList).1.length))
  have htext := lead_append_drop text.toList
  rw [← Text.intercalate_pieces '/' (text.toList.drop _)] at htext
  have hslash : ∀ piece ∈ Text.pieces (· == '/') (text.toList.drop (lead text.toList).1.length),
      '/' ∉ piece :=
    fun piece hpiece hslash => Bool.noConfusion (Text.forall_not_of_mem_pieces hpiece _ hslash)
  simp only [parent?] at h
  split at h
  · rename_i step rest hdrop
    cases h
    obtain ⟨inner, hrest, hinner⟩ := exists_dropIdle rest.reverse
    obtain ⟨last, hlast⟩ := step?_of_dropIdle hdrop
    rw [hdrop, List.reverse_cons, hrest, List.reverse_reverse, List.append_assoc,
      List.append_assoc] at hsteps
    rw [hsteps] at htext hslash
    refine ⟨last, ?_⟩
    have hcut := components_cut htext.symm hslash (by simp)
    rw [String.ofList_toList] at hcut
    rw [hcut]
    simp [hinner, hlast, hidle]
  · rename_i hdrop
    split at h
    · rename_i hhere
      cases h
      rw [hdrop, List.reverse_nil, List.nil_append] at hsteps
      refine ⟨.here, ?_⟩
      rw [components, hsteps, hidle, beq_iff_eq.1 hhere]
      rfl
    · cases h

theorem components_of_parent?_eq_none {path : FilePath} (h : path.parent? = none) :
    path.components = [] ∨ path.components = [.root] := by
  obtain ⟨idle, hsteps, hidle⟩ := exists_dropIdle
    (Text.pieces (· == '/') (path.text.toList.drop (lead path.text.toList).1.length))
  simp only [parent?] at h
  split at h
  · cases h
  · rename_i hdrop
    split at h
    · cases h
    · rename_i hhere
      rw [hdrop, List.reverse_nil, List.nil_append] at hsteps
      rw [components, hsteps, hidle, List.append_nil]
      generalize path.text.toList = text at hhere
      unfold lead at hhere ⊢
      split <;> simp_all

/-- A path that ends in a name has a parent. -/
theorem exists_parent? {path : FilePath} {above : List Component} {name : String}
    (h : path.components = above ++ [.name name]) :
    ∃ parent, path.parent? = some parent ∧ parent.components = above := by
  cases hparent : path.parent? with
  | none =>
    rcases components_of_parent?_eq_none hparent with hnil | hroot
    · rw [hnil] at h
      exact absurd h.symm (List.append_ne_nil_of_right_ne_nil above (List.cons_ne_nil _ _))
    · rw [hroot, ← List.nil_append [Component.root]] at h
      cases List.singleton_inj.1 (List.append_inj' h rfl).2
  | some parent =>
    obtain ⟨last, hlast⟩ := components_of_parent? hparent
    exact ⟨parent, rfl, (List.append_inj' (hlast.symm.trans h) rfl).1⟩

/-! ## File names -/

theorem splitExtension_append {stem extension : String} (hstem : stem ≠ "")
    (hextension : '.' ∉ extension.toList) :
    splitExtension (stem ++ "." ++ extension) = (stem, some extension) := by
  have hname : (stem ++ "." ++ extension).toList.reverse =
      extension.toList.reverse ++ (['.'] ++ stem.toList.reverse) := by simp
  have hsplit : Text.splitLast? ['.'] (stem ++ "." ++ extension).toList =
      some (stem.toList, extension.toList) := by
    rw [Text.splitLast?, hname, List.reverse_singleton, splitAt?_append (by simpa using hextension)]
    simp
  obtain ⟨c, rest, hlist⟩ := List.exists_cons_of_ne_nil (mt String.toList_eq_nil_iff.1 hstem)
  rw [hlist] at hsplit
  rw [splitExtension, hsplit]
  simp only
  rw [← hlist, String.ofList_toList, String.ofList_toList]

/-- The stem of a path that ends in a name. -/
theorem stem?_eq_some {path : FilePath} {above : List Component} {stem extension : String}
    (h : path.components = above ++ [.name (stem ++ "." ++ extension)]) (hstem : stem ≠ "")
    (hextension : '.' ∉ extension.toList) : path.stem? = some stem := by
  have hname : path.fileName? = some (stem ++ "." ++ extension) := by
    rw [fileName?, h, List.getLast?_concat]
  rw [stem?, hname, Option.map_some, splitExtension_append hstem hextension]

end TransportGen.FilePath
