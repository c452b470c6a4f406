import Mathlib.Data.List.Induction
import Mathlib.Data.List.Nodup
import TransportGen.Proofs.Except
import TransportGen.Server

/-!
# Server lists

A list to which servers are added one by one has one entry for each of their URLs. The URLs stand in
the order in which they first occur, and each entry is the last server with its URL (`Lists`).

* `Lists.pushServer`: what one more server keeps; `Lists.foldl`: a whole sequence of them.
* `Lists.merge`: adding the entries of a list has the effect of adding the servers it lists.
-/

namespace TransportGen

/-! ## First occurrences -/

section FirstOccurrences

variable {α : Type} [DecidableEq α] {xs : List α} {x : α}

theorem eraseDups_concat (xs : List α) (x : α) :
    (xs ++ [x]).eraseDups = if x ∈ xs then xs.eraseDups else xs.eraseDups ++ [x] := by
  rw [List.eraseDups_append]
  by_cases hx : x ∈ xs
  · simp [List.removeAll, hx]
  · simp [List.removeAll, hx, List.eraseDups_cons]

theorem eraseDups_append_eraseDups (xs ys : List α) :
    (xs ++ ys.eraseDups).eraseDups = (xs ++ ys).eraseDups := by
  induction ys using List.reverseRecOn with
  | nil => rfl
  | append_singleton ys y ih =>
    rw [eraseDups_concat, ← List.append_assoc, eraseDups_concat]
    by_cases hy : y ∈ ys
    · rw [if_pos hy, if_pos (List.mem_append_right xs hy), ih]
    · rw [if_neg hy, ← List.append_assoc, eraseDups_concat, ih]
      simp only [List.mem_append, List.mem_eraseDups]

end FirstOccurrences

/-! ## One more server -/

section Push

variable {servers : List Server} {s : Server}

theorem urls_pushServer : (pushServer servers s).map (·.url) =
    if s.url ∈ servers.map (·.url) then servers.map (·.url)
    else servers.map (·.url) ++ [s.url] := by
  induction servers with
  | nil => rfl
  | cons first rest ih =>
    by_cases hurl : first.url = s.url
    · simp [pushServer, hurl]
    · by_cases hrest : s.url ∈ rest.map (·.url)
      · simp [pushServer, hurl, ih, hrest]
      · simp [pushServer, hurl, ih, hrest, Ne.symm hurl]

theorem nodup_pushServer (h : (servers.map (·.url)).Nodup) (s : Server) :
    ((pushServer servers s).map (·.url)).Nodup := by
  rw [urls_pushServer]
  split
  · exact h
  · rename_i hnew
    exact List.nodup_append.2 ⟨h, List.nodup_singleton _, by simpa using hnew⟩

/-- The new server takes the place of the one with its URL. -/
theorem mem_pushServer (h : (servers.map (·.url)).Nodup) {t : Server} :
    t ∈ pushServer servers s ↔ t = s ∨ t ∈ servers ∧ t.url ≠ s.url := by
  induction servers with
  | nil => simp [pushServer]
  | cons first rest ih =>
    rw [List.map_cons, List.nodup_cons] at h
    by_cases hurl : first.url = s.url
    · have hrest : ∀ t ∈ rest, t.url ≠ s.url := fun t ht heq =>
        h.1 (hurl ▸ heq ▸ List.mem_map_of_mem ht)
      have hpush : pushServer (first :: rest) s = s :: rest := by
        rw [pushServer, if_pos hurl, hurl]
      rw [hpush, List.mem_cons, List.mem_cons]
      constructor
      · rintro (rfl | ht)
        · exact Or.inl rfl
        · exact Or.inr ⟨Or.inr ht, hrest t ht⟩
      · rintro (rfl | ⟨rfl | ht, hne⟩)
        · exact Or.inl rfl
        · exact (hne hurl).elim
        · exact Or.inr ht
    · rw [pushServer, if_neg hurl, List.mem_cons, List.mem_cons, ih h.2]
      constructor
      · rintro (rfl | rfl | ⟨ht, hne⟩)
        · exact Or.inr ⟨Or.inl rfl, hurl⟩
        · exact Or.inl rfl
        · exact Or.inr ⟨Or.inr ht, hne⟩
      · rintro (rfl | ⟨rfl | ht, hne⟩)
        · exact Or.inr (Or.inl rfl)
        · exact Or.inl rfl
        · exact Or.inr (Or.inr ⟨ht, hne⟩)

end Push

/-! ## Sequences of servers -/

/-- A list has one entry for each URL in a sequence of servers, in the order in which the URLs first
occur, and the entry is the last server with the URL. -/
structure Lists (servers listed : List Server) : Prop where
  urls : listed.map (·.url) = (servers.map (·.url)).eraseDups
  nodup : (listed.map (·.url)).Nodup
  last : ∀ s ∈ listed, (servers.filter (·.url = s.url)).getLast? = some s

namespace Lists

variable {servers more listed entries : List Server}

theorem self (h : (servers.map (·.url)).Nodup) : Lists servers servers := by
  induction servers using List.reverseRecOn with
  | nil => exact ⟨rfl, h, fun _ hs => (List.not_mem_nil hs).elim⟩
  | append_singleton servers s ih =>
    have hparts := h
    rw [List.map_append, List.nodup_append] at hparts
    obtain ⟨hservers, -, hdisjoint⟩ := hparts
    have hnew : ∀ t ∈ servers, t.url ≠ s.url := fun t ht =>
      hdisjoint _ (List.mem_map_of_mem ht) _ (List.mem_singleton_self _)
    refine ⟨?_, h, fun t ht => ?_⟩
    · rw [List.map_append, List.map_singleton, eraseDups_concat, ← (ih hservers).urls, if_neg]
      simpa using hnew
    · rw [List.filter_append]
      rcases List.mem_append.1 ht with ht | ht
      · have hne : ¬s.url = t.url := fun heq => hnew t ht heq.symm
        simpa [hne] using (ih hservers).last t ht
      · rw [List.mem_singleton.1 ht]
        simp

/-- **One server.** -/
theorem pushServer (h : Lists servers listed) (s : Server) :
    Lists (servers ++ [s]) (pushServer listed s) := by
  refine ⟨?_, nodup_pushServer h.nodup s, fun t ht => ?_⟩
  · rw [urls_pushServer, List.map_append, List.map_singleton, eraseDups_concat, h.urls]
    simp only [List.mem_eraseDups]
  · rw [List.filter_append]
    rcases (mem_pushServer h.nodup).1 ht with rfl | ⟨ht, hne⟩
    · simp
    · simpa [Ne.symm hne] using h.last t ht

/-- **A sequence of servers.** -/
theorem foldl (h : Lists servers listed) (more : List Server) :
    Lists (servers ++ more) (more.foldl TransportGen.pushServer listed) := by
  induction more generalizing servers listed with
  | nil =>
    rw [List.append_nil]
    exact h
  | cons s rest ih =>
    rw [List.append_cons, List.foldl_cons]
    exact ih (h.pushServer s)

/-- A list and the servers that it lists have the same last server with a URL. -/
theorem getLast?_filter (h : Lists servers listed) (url : String) :
    (listed.filter (·.url = url)).getLast? = (servers.filter (·.url = url)).getLast? := by
  cases hlast : (listed.filter (·.url = url)).getLast? with
  | some s =>
    obtain ⟨hs, hurl⟩ := List.mem_filter.1 (List.mem_of_getLast? hlast)
    have hurl : s.url = url := by simpa using hurl
    rw [← hurl]
    exact (h.last s hs).symm
  | none =>
    have hnone : url ∉ listed.map (·.url) := by
      simpa [List.getLast?_eq_none_iff, List.filter_eq_nil_iff] using hlast
    rw [h.urls, List.mem_eraseDups] at hnone
    symm
    simpa [List.getLast?_eq_none_iff, List.filter_eq_nil_iff] using hnone

/-- A sequence of servers is listed in one way. -/
theorem unique (h : Lists servers listed) (hentries : Lists servers entries) : listed = entries := by
  have hurls : listed.map (·.url) = entries.map (·.url) := h.urls.trans hentries.urls.symm
  have hfind : ∀ list : List Server, Lists servers list →
      (list.map (·.url)).map (fun url => (servers.filter (·.url = url)).getLast?) =
        list.map some := by
    intro list hlist
    rw [List.map_map]
    exact List.map_congr_left fun s hs => hlist.last s hs
  have hsome : listed.map some = entries.map some := by
    rw [← hfind listed h, hurls, hfind entries hentries]
  exact List.map_injective_iff.2 (fun _ _ => Option.some.inj) hsome

/-- **Lists on lists.** Adding the entries of one list to another lists the servers of both. -/
theorem merge (h : Lists servers listed) (hmore : Lists more entries) :
    Lists (servers ++ more) (entries.foldl TransportGen.pushServer listed) := by
  have hrun := h.foldl entries
  refine ⟨?_, hrun.nodup, fun s hs => ?_⟩
  · rw [hrun.urls, List.map_append, hmore.urls, eraseDups_append_eraseDups, List.map_append]
  · have hlast := hrun.last s hs
    rw [List.filter_append, List.getLast?_append, hmore.getLast?_filter] at hlast
    rw [List.filter_append, List.getLast?_append]
    exact hlast

end Lists

/-! ## Lists that are read -/

theorem nodup_pushEntries {servers final : List Server} {entries : List String}
    (hservers : (servers.map (·.url)).Nodup) (h : pushEntries servers entries = .ok final) :
    (final.map (·.url)).Nodup := by
  induction entries generalizing servers with
  | nil =>
    cases h
    exact hservers
  | cons entry rest ih =>
    rw [pushEntries] at h
    split at h
    · exact ih (nodup_pushServer hservers _) h
    · cases h

/-- A server list that is read has one entry for each URL. -/
theorem Server.nodup_parseList {raw : String} {servers : List Server}
    (h : Server.parseList raw = .ok servers) : (servers.map (·.url)).Nodup := by
  have hnil : (([] : List Server).map (·.url)).Nodup := List.nodup_nil
  exact nodup_pushEntries hnil h

end TransportGen
