import TransportGen.Artifact.Client

/-!
# The names that generated code binds

A statement of a generated function is code together with a record of the names in it. This module
compares the two: in the functions that encode and handle requests, each statement records the one
name that its code binds with `let`, or none (`records_encodeStatements`,
`records_handlerStatements`).
-/

namespace TransportGen

open Artifact

/-! ## Lines -/

/-- Whether a line is a `let`. -/
def isLet (line : String) : Bool := line.toList.take 4 = "let ".toList

/-- A line is the `let` of a name, after which a blank or a colon stands. -/
def LetOf (name line : String) : Prop :=
  ∃ start rest, (start = "let " ∨ start = "let mut ") ∧ line = start ++ (name ++ rest) ∧
    (rest.toList.head? = some ' ' ∨ rest.toList.head? = some ':')

theorem isLet_append {start : String} (h : 4 ≤ start.toList.length) (rest : String) :
    isLet (start ++ rest) = isLet start := by
  rw [isLet, String.toList_append, List.take_append_of_le_length h, isLet]

theorem isLet_of_mem_indent {code : Code} : ∀ line ∈ indent code, isLet line = false := by
  intro line hline
  obtain ⟨inner, -, rfl⟩ := List.mem_map.1 hline
  split
  · rename_i hempty
    rw [String.isEmpty_iff.1 hempty]
    decide
  · rw [isLet_append (by decide)]
    decide

theorem isLet_of_mem_blockEnd {body : Code} {close : String} :
    ∀ line ∈ indent body ++ ["\x7d" ++ close], isLet line = false := by
  have hclose : isLet ("\x7d" ++ close) = false := by simp [isLet]
  exact List.forall_mem_append.2 ⟨isLet_of_mem_indent, by simpa using hclose⟩

/-! ## Statements -/

/-- A statement records the name that its code binds: its first line is the `let` of that name, or
no `let` if there is none, and its other lines are no `let`s. -/
def Statement.Records (st : Statement) : Prop :=
  ∃ first others, st.code = first :: others ∧ (∀ line ∈ others, isLet line = false) ∧
    (st.binds ++ st.decodes = [] ∧ isLet first = false ∨
      ∃ name, st.binds ++ st.decodes = [name] ∧ LetOf name first)

section Records

variable {st : Statement}

theorem records_of_idle (start : String) (hstart : isLet start = false ∧ 4 ≤ start.toList.length)
    (hcode : ∃ rest others, st.code = (start ++ rest) :: others ∧
      ∀ line ∈ others, isLet line = false)
    (hnames : st.binds ++ st.decodes = []) : st.Records := by
  obtain ⟨rest, others, hcode, hothers⟩ := hcode
  refine ⟨start ++ rest, others, hcode, hothers, Or.inl ⟨hnames, ?_⟩⟩
  rw [isLet_append hstart.2, hstart.1]

theorem records_of_let (start name sep : String) (hstart : start = "let " ∨ start = "let mut ")
    (hsep : sep.toList.head? = some ' ' ∨ sep.toList.head? = some ':')
    (hcode : ∃ rest others, st.code = (start ++ (name ++ (sep ++ rest))) :: others ∧
      ∀ line ∈ others, isLet line = false)
    (hnames : st.binds ++ st.decodes = [name]) : st.Records := by
  obtain ⟨rest, others, hcode, hothers⟩ := hcode
  refine ⟨_, others, hcode, hothers, Or.inr ⟨name, hnames, start, sep ++ rest, hstart, rfl, ?_⟩⟩
  rw [String.toList_append, List.head?_append]
  rcases hsep with hsep | hsep
  · exact Or.inl (by rw [hsep]; rfl)
  · exact Or.inr (by rw [hsep]; rfl)

theorem records_of_line (start name rest : String) (hstart : start = "let " ∨ start = "let mut ")
    (hrest : rest.toList.head? = some ' ' ∨ rest.toList.head? = some ':')
    (hcode : st.code = [start ++ (name ++ rest)]) (hnames : st.binds ++ st.decodes = [name]) :
    st.Records :=
  ⟨_, [], hcode, nofun, Or.inr ⟨name, hnames, start, rest, hstart, rfl, hrest⟩⟩

theorem records_of_setHeader (name value : String) (hcode : st.code = [setHeader name value])
    (hnames : st.binds ++ st.decodes = []) : st.Records := by
  have hline : setHeader name value =
      "builder = builder.header(" ++ name ++ ", " ++ value ++ ");" := rfl
  refine records_of_idle "builder = builder.header(" (by decide) ?_ hnames
  rw [hcode, hline]
  simp only [String.append_assoc]
  exact ⟨_, _, rfl, nofun⟩

end Records

/-! ## Requests of a client -/

theorem records_urlStatement (piece : UrlPiece) : (urlStatement piece).Records := by
  cases piece with
  | literal text =>
    have hcode : (urlStatement (.literal text)).code =
        ["url.push_str(" ++ Text.quote text ++ ");"] := rfl
    refine records_of_idle "url.push_str(" (by decide) ?_ rfl
    rw [hcode, String.append_assoc]
    exact ⟨_, _, rfl, nofun⟩
  | «variable» name =>
    have hcode : (urlStatement (.variable name)).code =
        ["url.push_str(&percent_encode(&" ++ name ++ ".to_string()));"] := rfl
    refine records_of_idle "url.push_str(&percent_encode(&" (by decide) ?_ rfl
    rw [hcode, String.append_assoc]
    exact ⟨_, _, rfl, nofun⟩

theorem records_queryStatement (p : ParamView) : (queryStatement p).Records := by
  cases hoptional : p.optional with
  | true =>
    refine records_of_idle "if let Some(v) = &" (by decide) ?_ rfl
    simp only [queryStatement, hoptional, if_true, block, blockClosing, String.append_assoc,
      List.cons_append]
    exact ⟨_, _, rfl, isLet_of_mem_blockEnd⟩
  | false =>
    refine records_of_idle "query.push((" (by decide) ?_ rfl
    simp only [queryStatement, hoptional, Bool.false_eq_true, if_false, String.append_assoc]
    exact ⟨_, _, rfl, nofun⟩

theorem records_headerStatement (p : ParamView) : (headerStatement p).Records := by
  cases hoptional : p.optional with
  | true =>
    refine records_of_idle "if let Some(v) = &" (by decide) ?_ rfl
    simp only [headerStatement, hoptional, if_true, block, blockClosing, String.append_assoc,
      List.cons_append]
    exact ⟨_, _, rfl, isLet_of_mem_blockEnd⟩
  | false =>
    refine records_of_setHeader p.keyLiteral (p.name ++ ".to_string()") ?_ rfl
    simp only [headerStatement, hoptional, Bool.false_eq_true, if_false]

theorem records_jsonObjectStatement (v : MethodView) : (jsonObjectStatement v).Records := by
  have hstart : "let body = " = "let " ++ ("body" ++ " = ") := by decide
  refine records_of_let "let " "body" " = " (Or.inl rfl) (by decide)
    ⟨requestStruct v.pascal ++ " \x7b", ?_⟩ rfl
  simp only [jsonObjectStatement, blockClosing, List.cons_append]
  rw [hstart]
  simp only [String.append_assoc]
  exact ⟨_, rfl, isLet_of_mem_blockEnd⟩

theorem records_jsonBytesStatement : jsonBytesStatement.Records := by
  have hcode : jsonBytesStatement.code = ["let " ++ ("bytes" ++
      " = serde_json::to_vec(&body).map_err(|e| ClientError::Encode(e.to_string()))?;")] := by
    decide
  exact records_of_line _ _ _ (Or.inl rfl) (by decide) hcode rfl

theorem records_rawBytesStatement (p : ParamView) : (rawBytesStatement p).Records := by
  have hstart : "let bytes = AsRef::<[u8]>::as_ref(&" =
      "let " ++ ("bytes" ++ " = AsRef::<[u8]>::as_ref(&") := by decide
  refine records_of_let "let " "bytes" " = AsRef::<[u8]>::as_ref(&" (Or.inl rfl) (by decide) ?_ rfl
  rw [rawBytesStatement, hstart]
  simp only [String.append_assoc]
  exact ⟨_, _, rfl, nofun⟩

theorem records_requestBodyStatements (v : MethodView) :
    ∀ st ∈ requestBodyStatements v, st.Records := by
  have htype : (contentTypeStatement v).Records := records_of_setHeader _ _ rfl rfl
  unfold requestBodyStatements
  refine List.forall_mem_append.2 ⟨List.forall_mem_append.2 ⟨?_, ?_⟩, ?_⟩
  · split
    · exact nofun
    · simp only [List.forall_mem_cons]
      exact ⟨records_jsonObjectStatement v, records_jsonBytesStatement, htype, nofun⟩
  · intro st hst
    obtain ⟨p, -, hst⟩ := List.mem_flatMap.1 hst
    rcases List.mem_cons.1 hst with rfl | hst
    · exact records_rawBytesStatement p
    · rw [List.mem_singleton.1 hst]
      exact htype
  · split
    · exact List.forall_mem_singleton.2
        (records_of_line "let " "bytes" " = Vec::new();" (Or.inl rfl) (by decide) rfl rfl)
    · exact nofun

/-- **What the client binds** is what its statements record. -/
theorem records_encodeStatements (v : MethodView) : ∀ st ∈ encodeStatements v, st.Records := by
  have hbuilder : "let mut builder = Request::builder().method(Method::" =
      "let mut " ++ ("builder" ++ " = Request::builder().method(Method::") := by decide
  unfold encodeStatements
  simp only [List.forall_mem_append, List.forall_mem_cons, List.forall_mem_map]
  refine ⟨⟨⟨⟨⟨⟨⟨⟨?_, nofun⟩, fun _ _ => records_urlStatement _⟩, ?_, nofun⟩,
    fun _ _ => records_queryStatement _⟩, ?_, ?_, nofun⟩,
    fun _ _ => records_headerStatement _⟩, records_requestBodyStatements v⟩, ?_, nofun⟩
  · exact records_of_line "let mut " "url" " = String::from(base_url);" (Or.inr rfl) (by decide)
      (by decide) rfl
  · exact records_of_line "let mut " "query" ": Vec<(&str, String)> = Vec::new();" (Or.inr rfl)
      (by decide) (by decide) rfl
  · exact ⟨_, [], rfl, nofun, Or.inl ⟨rfl, by decide⟩⟩
  · refine records_of_let "let mut " "builder" " = Request::builder().method(Method::" (Or.inr rfl)
      (by decide) ?_ rfl
    rw [hbuilder]
    simp only [String.append_assoc]
    exact ⟨_, _, rfl, nofun⟩
  · exact ⟨_, _, rfl, isLet_of_mem_indent, Or.inl ⟨rfl, by decide⟩⟩

/-! ## Handlers of a server -/

theorem records_pathStatement (p : ParamView) : (pathStatement p).Records := by
  refine records_of_let "let " p.name ": " (Or.inl rfl) (by decide) ?_ rfl
  simp only [pathStatement, blockClosing, String.append_assoc, List.cons_append]
  exact ⟨_, _, rfl, isLet_of_mem_blockEnd⟩

theorem records_lookupStatement (lookup what : String) (p : ParamView) :
    (lookupStatement lookup what p).Records := by
  refine records_of_let "let " p.name ": " (Or.inl rfl) (by decide) ?_ rfl
  cases hoptional : p.optional with
  | true =>
    simp only [lookupStatement, hoptional, if_true, blockClosing, String.append_assoc,
      List.cons_append]
    exact ⟨_, _, rfl, isLet_of_mem_blockEnd⟩
  | false =>
    simp only [lookupStatement, hoptional, Bool.false_eq_true, if_false, blockClosing,
      String.append_assoc, List.cons_append]
    exact ⟨_, _, rfl, isLet_of_mem_blockEnd⟩

theorem records_jsonBodyStatement (v : MethodView) : (jsonBodyStatement v).Records := by
  have hstart : "let body: " = "let " ++ ("body" ++ ": ") := by decide
  refine records_of_let "let " "body" ": " (Or.inl rfl) (by decide) ?_ rfl
  simp only [jsonBodyStatement, blockClosing, List.cons_append]
  rw [hstart]
  simp only [String.append_assoc]
  exact ⟨_, _, rfl, isLet_of_mem_blockEnd⟩

theorem records_fieldStatement (p : ParamView) : (fieldStatement p).Records := by
  refine records_of_let "let " p.name " = body." (Or.inl rfl) (by decide) ?_ rfl
  simp only [fieldStatement, String.append_assoc]
  exact ⟨_, _, rfl, nofun⟩

theorem records_rawStatement (p : ParamView) : (rawStatement p).Records := by
  cases htext : p.isText with
  | true =>
    refine records_of_let "let " p.name " = match String::from_utf8(req.body().clone())"
      (Or.inl rfl) (by decide) ?_ rfl
    simp only [rawStatement, htext, if_true, blockClosing, String.append_assoc, List.cons_append]
    exact ⟨_, _, rfl, isLet_of_mem_blockEnd⟩
  | false =>
    refine records_of_line "let " p.name " = req.body().clone();" (Or.inl rfl) (by decide) ?_ rfl
    simp only [rawStatement, htext, Bool.false_eq_true, if_false, String.append_assoc]

theorem records_callStatement (v : MethodView) : (callStatement v).Records := by
  cases hresult : v.returnsResult with
  | true =>
    refine records_of_idle "match " (by decide) ?_ (by simp [callStatement, hresult])
    simp only [callStatement, hresult, if_true, block, blockClosing, String.append_assoc,
      List.cons_append]
    exact ⟨_, _, rfl, isLet_of_mem_blockEnd⟩
  | false =>
    have hstart : "let value = " = "let " ++ ("value" ++ " = ") := by decide
    have hencode : ∀ rest, isLet ("encode_" ++ rest) = false := by
      intro rest
      rw [isLet_append (by decide)]
      decide
    refine records_of_let "let " "value" " = " (Or.inl rfl) (by decide) ?_
      (by simp [callStatement, hresult])
    simp only [callStatement, hresult, Bool.false_eq_true, if_false]
    rw [hstart]
    simp only [String.append_assoc]
    exact ⟨_, _, rfl, by simpa using hencode _⟩

/-- **What the server binds** is what its statements record. -/
theorem records_handlerStatements (v : MethodView) : ∀ st ∈ handlerStatements v, st.Records := by
  have hbody : ∀ st ∈ bodyStatements v, st.Records := by
    unfold bodyStatements
    split
    · exact nofun
    · exact List.forall_mem_cons.2 ⟨records_jsonBodyStatement v,
        List.forall_mem_map.2 fun p _ => records_fieldStatement p⟩
  simp only [handlerStatements, List.forall_mem_append, List.forall_mem_map,
    List.forall_mem_singleton]
  exact ⟨⟨⟨⟨⟨fun p _ => records_pathStatement p, fun p _ => records_lookupStatement _ _ p⟩,
    fun p _ => records_lookupStatement _ _ p⟩, hbody⟩, fun p _ => records_rawStatement p⟩,
    records_callStatement v⟩

end TransportGen
