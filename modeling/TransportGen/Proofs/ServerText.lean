import TransportGen.Proofs.Server
import TransportGen.Proofs.Text.Lines

/-!
# Server lists as texts

A server list is written in many ways: its entries end in line feeds or in one of the escapes for
them, blanks stand around them, and some of them are blank altogether. All of these are read as the
same servers (`parseList_layout`). The URL of an entry ends where its first blank stands, so neither
equals signs in it nor separators in the description are taken for the separator (`parse_entry`).
-/

namespace TransportGen

/-! ## Entries -/

namespace Server

/-- The entry that gives a server. -/
def entry (s : Server) : List Char :=
  if s.description = "" then s.url.toList
  else s.url.toList ++ (" = ".toList ++ s.description.toList)

/-- A server that an entry can give. -/
structure HasEntry (s : Server) : Prop where
  url_ne : s.url ≠ ""
  url : ∀ c ∈ s.url.toList, Text.isBlank c = false ∧ c ≠ '\\'
  trimmed : Text.trim s.description.toList = s.description.toList
  description : ∀ c ∈ s.description.toList, c ≠ '\n' ∧ c ≠ '\\'

instance (s : Server) : Decidable s.HasEntry :=
  decidable_of_iff (s.url ≠ "" ∧
      (s.url.toList.all fun c => Text.isBlank c = false ∧ c ≠ '\\') = true ∧
      Text.trim s.description.toList = s.description.toList ∧
      (s.description.toList.all fun c => c ≠ '\n' ∧ c ≠ '\\') = true) (by
    simp only [List.all_eq_true, decide_eq_true_eq]
    exact ⟨fun ⟨hne, hurl, htrimmed, hdescription⟩ => ⟨hne, hurl, htrimmed, hdescription⟩,
      fun h => ⟨h.url_ne, h.url, h.trimmed, h.description⟩⟩)

namespace HasEntry

variable {s : Server}

theorem url_blank (h : s.HasEntry) : ∀ c ∈ s.url.toList, Text.isBlank c = false :=
  fun c hc => (h.url c hc).1

theorem url_toList_ne (h : s.HasEntry) : s.url.toList ≠ [] := mt String.toList_eq_nil_iff.1 h.url_ne

/-- An entry is one line, without escapes. -/
theorem not_mem_entry (h : s.HasEntry) : '\n' ∉ s.entry ∧ '\\' ∉ s.entry := by
  have hurl : '\n' ∉ s.url.toList ∧ '\\' ∉ s.url.toList :=
    ⟨fun hmem => Bool.noConfusion (h.url_blank _ hmem), fun hmem => (h.url _ hmem).2 rfl⟩
  have hdescription : '\n' ∉ s.description.toList ∧ '\\' ∉ s.description.toList :=
    ⟨fun hmem => (h.description _ hmem).1 rfl, fun hmem => (h.description _ hmem).2 rfl⟩
  unfold entry
  split
  · exact hurl
  · simp [hurl, hdescription]

theorem trim_entry (h : s.HasEntry) : Text.trim s.entry = s.entry := by
  unfold entry
  split
  · exact trim_of_forall_not h.url_blank
  · rename_i hdescription
    rw [← List.append_assoc]
    exact trim_word_append h.url_toList_ne h.url_blank h.trimmed
      (mt String.toList_eq_nil_iff.1 hdescription) _

theorem entry_ne_nil (h : s.HasEntry) : s.entry ≠ [] := by
  unfold entry
  split
  · exact h.url_toList_ne
  · exact List.append_ne_nil_of_left_ne_nil h.url_toList_ne _

/-- **One entry.** It is read as the server that it was written for. -/
theorem parse_entry (h : s.HasEntry) : Server.parse (String.ofList s.entry) = .ok s := by
  have hspace : ' ' ∉ s.url.toList := fun hmem => Bool.noConfusion (h.url_blank _ hmem)
  have hurl : ¬(s.url.toList.isEmpty || s.url.toList.any Text.isBlank) = true := by
    rw [Bool.or_eq_true, not_or, List.isEmpty_iff, List.any_eq_true]
    refine ⟨h.url_toList_ne, ?_⟩
    rintro ⟨c, hc, hblank⟩
    exact Bool.noConfusion ((h.url_blank c hc).symm.trans hblank)
  have htext : (String.ofList s.entry).toList = s.entry := String.toList_ofList
  rw [Server.parse, htext, entry]
  by_cases hdescription : s.description = ""
  · have hsplit : Text.splitAt? " = ".toList s.url.toList = none := splitAt?_of_not_mem hspace
    rw [if_pos hdescription, hsplit]
    simp only [trim_of_forall_not h.url_blank, if_neg hurl, String.ofList_toList]
    rw [String.ofList_nil, ← hdescription]
  · have hsplit : Text.splitAt? " = ".toList
        (s.url.toList ++ (" = ".toList ++ s.description.toList)) =
          some (s.url.toList, s.description.toList) := splitAt?_append hspace _
    rw [if_neg hdescription, hsplit]
    simp only [trim_of_forall_not h.url_blank, h.trimmed, if_neg hurl, String.ofList_toList]

end HasEntry

end Server

/-! ## Ends of entries -/

/-- What may stand between two entries. -/
inductive EntryEnd where
  | lineFeed
  /-- A carriage return and a line feed. -/
  | carriageReturn
  /-- A line feed as the two characters `\n`. -/
  | escapedLineFeed
  /-- A carriage return and a line feed as the four characters `\r\n`. -/
  | escapedCarriageReturn
  deriving DecidableEq, Repr

/-- The end as it is written. -/
def EntryEnd.text : EntryEnd → List Char
  | lineFeed => ['\n']
  | carriageReturn => ['\r', '\n']
  | escapedLineFeed => "\\n".toList
  | escapedCarriageReturn => "\\r\\n".toList

/-- A text with line feeds for the escapes. -/
def unescapeLines (raw : List Char) : List Char :=
  Text.replace "\\n".toList ['\n'] (Text.replace "\\r\\n".toList ['\n'] raw)

theorem serverEntries_eq (raw : String) :
    serverEntries raw = (trimmedLines (unescapeLines raw.toList)).map String.ofList := rfl

theorem unescapeLines_append {a : List Char} (h : '\\' ∉ a) (s : List Char) :
    unescapeLines (a ++ s) = a ++ unescapeLines s := by
  have hlong : Text.replace "\\r\\n".toList ['\n'] (a ++ s) =
      a ++ Text.replace "\\r\\n".toList ['\n'] s := replace_append h s
  have hshort : ∀ t, Text.replace "\\n".toList ['\n'] (a ++ t) =
      a ++ Text.replace "\\n".toList ['\n'] t := replace_append h
  rw [unescapeLines, hlong, hshort, unescapeLines]

/-- Each end is a line feed, after blanks at most. -/
theorem unescapeLines_end (ending : EntryEnd) (s : List Char) : ∃ b : List Char,
    (∀ c ∈ b, Text.isBlank c = true) ∧
      unescapeLines (ending.text ++ s) = b ++ '\n' :: unescapeLines s := by
  cases ending with
  | lineFeed => exact ⟨[], by simp, unescapeLines_append (a := ['\n']) (by decide) s⟩
  | carriageReturn =>
    exact ⟨['\r'], List.all_eq_true.1 (by decide), unescapeLines_append (a := ['\r', '\n']) (by decide) s⟩
  | escapedLineFeed =>
    -- the longer escape does not begin here
    have hlong : Text.replace "\\r\\n".toList ['\n'] ("\\n".toList ++ s) =
        "\\n".toList ++ Text.replace "\\r\\n".toList ['\n'] s := rfl
    refine ⟨[], by simp, ?_⟩
    rw [EntryEnd.text, unescapeLines, hlong]
    exact replace_old_append _
  | escapedCarriageReturn =>
    have hlong : Text.replace "\\r\\n".toList ['\n'] ("\\r\\n".toList ++ s) =
        ['\n'] ++ Text.replace "\\r\\n".toList ['\n'] s := replace_old_append s
    refine ⟨[], by simp, ?_⟩
    rw [EntryEnd.text, unescapeLines, hlong]
    exact replace_append (by decide) _

/-! ## Layouts -/

/-- A place for an entry, which may stay blank, with blanks around it. -/
structure ServerSlot where
  before : List Char
  server? : Option Server
  after : List Char
  blank_before : ∀ c ∈ before, Text.isBlank c = true
  blank_after : ∀ c ∈ after, Text.isBlank c = true

namespace ServerSlot

/-- The slot as it is written. -/
def text (slot : ServerSlot) : List Char :=
  slot.before ++ (slot.server?.map Server.entry).getD [] ++ slot.after

variable {slot : ServerSlot}

theorem not_mem_text (h : ∀ s ∈ slot.server?, s.HasEntry) : '\\' ∉ slot.text := by
  have hblank : ∀ b : List Char, (∀ c ∈ b, Text.isBlank c = true) → '\\' ∉ b :=
    fun b hb hmem => Bool.noConfusion (hb _ hmem)
  have hentry : '\\' ∉ (slot.server?.map Server.entry).getD [] := by
    cases hserver : slot.server? with
    | none => exact List.not_mem_nil
    | some s => exact (h s hserver).not_mem_entry.2
  simp [text, hentry, hblank _ slot.blank_before, hblank _ slot.blank_after]

/-- **One slot.** Its server is on its only line that is not blank. -/
theorem trimmedLines_text (h : ∀ s ∈ slot.server?, s.HasEntry) {b : List Char}
    (hb : ∀ c ∈ b, Text.isBlank c = true) :
    trimmedLines (slot.text ++ b) = slot.server?.toList.map Server.entry := by
  have hafter : ∀ c ∈ slot.after ++ b, Text.isBlank c = true :=
    List.forall_mem_append.2 ⟨slot.blank_after, hb⟩
  rw [text, List.append_assoc]
  cases hserver : slot.server? with
  | none =>
    rw [trimmedLines_between slot.blank_before hafter (by simp)]
    rfl
  | some s =>
    have hs := h s hserver
    rw [Option.map_some, Option.getD_some,
      trimmedLines_between slot.blank_before hafter hs.not_mem_entry.1,
      trimmedLines_of_not_mem hs.not_mem_entry.1, hs.trim_entry]
    simp [hs.entry_ne_nil]

end ServerSlot

/-- A way to write a server list: slots, with an end between each two of them. -/
structure ServerLayout where
  first : ServerSlot
  rest : List (EntryEnd × ServerSlot)

namespace ServerLayout

/-- The list as it is written. -/
def text (layout : ServerLayout) : List Char :=
  layout.first.text ++ layout.rest.flatMap fun (ending, slot) => ending.text ++ slot.text

/-- The servers of the slots, in order. -/
def servers (layout : ServerLayout) : List Server :=
  layout.first.server?.toList ++ layout.rest.flatMap fun (_, slot) => slot.server?.toList

/-- **The entries of a layout.** They are those of its servers, in order. -/
theorem trimmedLines_text (layout : ServerLayout) (h : ∀ s ∈ layout.servers, s.HasEntry) :
    trimmedLines (unescapeLines layout.text) = layout.servers.map Server.entry := by
  obtain ⟨first, rest⟩ := layout
  induction rest generalizing first with
  | nil =>
    rw [servers, List.flatMap_nil, List.append_nil] at h
    have hfirst : ∀ s ∈ first.server?, s.HasEntry := by simpa using h
    have hnil : unescapeLines [] = [] := rfl
    rw [text, List.flatMap_nil, unescapeLines_append (ServerSlot.not_mem_text hfirst), hnil,
      ServerSlot.trimmedLines_text hfirst (List.forall_mem_nil _), servers, List.flatMap_nil,
      List.append_nil]
  | cons next rest ih =>
    obtain ⟨ending, slot⟩ := next
    have htext : text ⟨first, (ending, slot) :: rest⟩ =
        first.text ++ (ending.text ++ text ⟨slot, rest⟩) := by simp [text]
    have hservers : servers ⟨first, (ending, slot) :: rest⟩ =
        first.server?.toList ++ servers ⟨slot, rest⟩ := by simp [servers]
    rw [hservers, List.forall_mem_append] at h
    have hfirst : ∀ s ∈ first.server?, s.HasEntry := by simpa using h.1
    obtain ⟨b, hb, hending⟩ := unescapeLines_end ending (text ⟨slot, rest⟩)
    rw [htext, unescapeLines_append (ServerSlot.not_mem_text hfirst), hending, ← List.append_assoc,
      trimmedLines_append_lineFeed, ServerSlot.trimmedLines_text hfirst hb, ih slot h.2, hservers,
      List.map_append]

end ServerLayout

theorem pushEntries_map {servers : List Server} (h : ∀ s ∈ servers, s.HasEntry)
    (listed : List Server) : pushEntries listed (servers.map fun s => String.ofList s.entry) =
      .ok (servers.foldl pushServer listed) := by
  induction servers generalizing listed with
  | nil => rfl
  | cons s rest ih =>
    rw [List.forall_mem_cons] at h
    rw [List.map_cons, pushEntries, h.1.parse_entry]
    exact ih h.2 (pushServer listed s)

/-- **Server lists as texts.** However a list of servers is laid out, it is read, and the result
lists them. A list with one server for each URL is read as it is. -/
theorem parseList_layout (layout : ServerLayout) (h : ∀ s ∈ layout.servers, s.HasEntry) :
    ∃ listed, Server.parseList (String.ofList layout.text) = .ok listed ∧
      Lists layout.servers listed ∧
      ((layout.servers.map (·.url)).Nodup → listed = layout.servers) := by
  have hentries : serverEntries (String.ofList layout.text) =
      layout.servers.map fun s => String.ofList s.entry := by
    rw [serverEntries_eq, String.toList_ofList, layout.trimmedLines_text h, List.map_map]
    rfl
  have hnil : Lists [] [] := .self List.nodup_nil
  have hlists : Lists layout.servers (layout.servers.foldl pushServer []) :=
    hnil.foldl layout.servers
  refine ⟨_, ?_, hlists, fun hnodup => hlists.unique (Lists.self hnodup)⟩
  rw [Server.parseList, hentries, pushEntries_map h]

/-- A slot between single spaces. -/
def ServerSlot.spaced (server? : Option Server) : ServerSlot where
  before := [' ']
  server?
  after := [' ']
  blank_before := isBlank_space
  blank_after := isBlank_space

/-- Two servers, of which one is given twice, with blank entries and with ends of all kinds. -/
def shopLayout : ServerLayout where
  first := .spaced (some ⟨"https://a.example/v1?tenant=a", "one = two"⟩)
  rest := [(.escapedCarriageReturn, .spaced none),
    (.carriageReturn, .spaced (some ⟨"https://b.example", ""⟩)),
    (.escapedLineFeed, .spaced (some ⟨"https://a.example/v1?tenant=a", "again"⟩)),
    (.lineFeed, .spaced none)]

theorem parseList_shopLayout :
    (∀ s ∈ shopLayout.servers, s.HasEntry) ∧
      ∃ listed, Server.parseList (String.ofList shopLayout.text) = .ok listed ∧
        Lists shopLayout.servers listed ∧
        listed = [⟨"https://a.example/v1?tenant=a", "again"⟩, ⟨"https://b.example", ""⟩] := by
  have hentries : ∀ s ∈ shopLayout.servers, s.HasEntry := by decide +kernel
  obtain ⟨listed, hlisted, hlists, -⟩ := parseList_layout shopLayout hentries
  have hresult : (Server.parseList (String.ofList shopLayout.text)).toOption =
      some [⟨"https://a.example/v1?tenant=a", "again"⟩, ⟨"https://b.example", ""⟩] := by
    decide +kernel
  rw [hlisted] at hresult
  exact ⟨hentries, listed, hlisted, hlists, Option.some.inj hresult⟩

end TransportGen
