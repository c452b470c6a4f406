import TransportGen.Text.Utf8

/-!
# Reading UTF-8 back

The bytes of a character, whatever follows them, are read as that character
(`units_utf8EncodeChar`), so both decoders give the text back whose UTF-8 form they are given.
-/

namespace TransportGen.Text

namespace Utf8

theorem units_begin {b : UInt8} {p : Pending} (h : begin? b.toNat = some p) (hp : p.missing ≠ 0)
    (rest : Bytes) : units none (b :: rest) = units (some p) rest := by
  simp [units, step, first, h, Pending.settle, hp]

theorem units_more {b : UInt8} {p q : Pending} (h : p.add? b.toNat = some q) (hq : q.missing ≠ 0)
    (rest : Bytes) : units (some p) (b :: rest) = units (some q) rest := by
  simp [units, step, h, Pending.settle, hq]

theorem units_last {b : UInt8} {p q : Pending} (h : p.add? b.toNat = some q) (hq : q.missing = 0)
    (rest : Bytes) :
    units (some p) (b :: rest) = some (Char.ofNat q.value) :: units none rest := by
  simp [units, step, h, Pending.settle, hq]

/-- A byte that goes on with a character adds six bits. -/
theorem add?_continuation {p : Pending} {n : Nat} (hlow : p.low ≤ n % 64 + 0x80)
    (hhigh : n % 64 + 0x80 ≤ p.high) :
    p.add? (UInt8.ofNat (n % 64 + 0x80)).toNat =
      some ⟨p.missing - 1, 0x80, 0xBF, p.value * 64 + n % 64⟩ := by
  rw [UInt8.toNat_ofNat_of_lt' (by simp [UInt8.size]; omega), Pending.add?, if_pos ⟨hlow, hhigh⟩,
    Nat.add_sub_cancel]

/-- The first of two bytes. -/
theorem begin?_two {v : Nat} (hlow : 0x80 ≤ v) (hhigh : v < 0x800) :
    begin? (UInt8.ofNat (v / 64 % 0x20 + 0xC0)).toNat = some ⟨1, 0x80, 0xBF, v / 64⟩ := by
  rw [UInt8.toNat_ofNat_of_lt' (by simp [UInt8.size]; omega)]
  unfold begin?
  rw [if_neg (by omega), if_neg (by omega), if_pos (by omega)]
  simp only [Option.some.injEq, Pending.mk.injEq, true_and]
  omega

/-- The first of three bytes, after which the second has its bounds. -/
theorem begin?_three {v : Nat} (hlow : 0x800 ≤ v) (hhigh : v < 0x10000)
    (hscalar : v < 0xD800 ∨ 0xDFFF < v) :
    ∃ low high, begin? (UInt8.ofNat (v / 4096 % 0x10 + 0xE0)).toNat =
        some ⟨2, low, high, v / 4096⟩ ∧
      low ≤ v / 64 % 64 + 0x80 ∧ v / 64 % 64 + 0x80 ≤ high := by
  rw [UInt8.toNat_ofNat_of_lt' (by simp [UInt8.size]; omega)]
  unfold begin?
  rw [if_neg (by omega), if_neg (by omega), if_neg (by omega)]
  split
  · exact ⟨0xA0, 0xBF, by simp; omega, by omega, by omega⟩
  · split
    · exact ⟨0x80, 0x9F, by simp; omega, by omega, by omega⟩
    · rw [if_pos (by omega)]
      exact ⟨0x80, 0xBF, by simp; omega, by omega, by omega⟩

/-- The first of four bytes, after which the second has its bounds. -/
theorem begin?_four {v : Nat} (hlow : 0x10000 ≤ v) (hhigh : v < 0x110000) :
    ∃ low high, begin? (UInt8.ofNat (v / 262144 % 0x08 + 0xF0)).toNat =
        some ⟨3, low, high, v / 262144⟩ ∧
      low ≤ v / 4096 % 64 + 0x80 ∧ v / 4096 % 64 + 0x80 ≤ high := by
  rw [UInt8.toNat_ofNat_of_lt' (by simp [UInt8.size]; omega)]
  unfold begin?
  rw [if_neg (by omega), if_neg (by omega), if_neg (by omega), if_neg (by omega),
    if_neg (by omega), if_neg (by omega)]
  split
  · exact ⟨0x90, 0xBF, by simp; omega, by omega, by omega⟩
  · split
    · exact ⟨0x80, 0xBF, by simp; omega, by omega, by omega⟩
    · rw [if_pos (by omega)]
      exact ⟨0x80, 0x8F, by simp; omega, by omega, by omega⟩

/-- **One character.** The bytes of a character are read as it. -/
theorem units_utf8EncodeChar (c : Char) (rest : Bytes) :
    units none (String.utf8EncodeChar c ++ rest) = some c :: units none rest := by
  have hvalid : c.toNat < 0xD800 ∨ (0xDFFF < c.toNat ∧ c.toNat < 0x110000) := c.valid
  have hchar : ∀ {n : Nat}, n = c.toNat → Char.ofNat n = c := fun h => h ▸ Char.ofNat_toNat c
  simp only [String.utf8EncodeChar, Char.toNat_val]
  generalize c.toNat = v at hvalid hchar
  split
  · have hbegin : begin? (UInt8.ofNat v).toNat = some ⟨0, 0, 0, v⟩ := by
      rw [UInt8.toNat_ofNat_of_lt' (by simp [UInt8.size]; omega), begin?, if_pos (by omega)]
    simp only [List.cons_append, List.nil_append, units, step, first, hbegin, Pending.settle,
      if_true, hchar rfl]
  · split
    · simp only [List.cons_append, List.nil_append]
      rw [units_begin (begin?_two (by omega) (by omega)) (by simp),
        units_last (add?_continuation (by simp) (by simp; omega)) rfl, hchar (by simp; omega)]
    · split
      · obtain ⟨low, high, hbegin, hlow, hhigh⟩ :=
          begin?_three (v := v) (by omega) (by omega) (by omega)
        simp only [List.cons_append, List.nil_append]
        rw [units_begin hbegin (by simp), units_more (add?_continuation hlow hhigh) (by simp),
          units_last (add?_continuation (by simp) (by simp; omega)) rfl, hchar (by simp; omega)]
      · obtain ⟨low, high, hbegin, hlow, hhigh⟩ := begin?_four (v := v) (by omega) (by omega)
        simp only [List.cons_append, List.nil_append]
        rw [units_begin hbegin (by simp), units_more (add?_continuation hlow hhigh) (by simp),
          units_more (add?_continuation (by simp) (by simp; omega)) (by simp),
          units_last (add?_continuation (by simp) (by simp; omega)) rfl, hchar (by simp; omega)]

theorem units_flatMap (s : List Char) :
    units none (s.flatMap String.utf8EncodeChar) = s.map some := by
  induction s with
  | nil => rfl
  | cons c s ih => rw [List.flatMap_cons, units_utf8EncodeChar, ih, List.map_cons]

end Utf8

/-- Every text is read back from its bytes. -/
theorem decodeLossy_utf8 (s : String) : decodeLossy (utf8 s) = s.toList := by
  rw [decodeLossy, utf8, Utf8.units_flatMap, List.map_map]
  exact List.map_id _

theorem decode?_utf8 (s : String) : decode? (utf8 s) = some s := by
  have hunits : (s.toList.map some).mapM id = some s.toList := by
    simpa using List.mapM_pure (m := Option) (f := id) (l := s.toList)
  rw [decode?, utf8, Utf8.units_flatMap, hunits, Option.map_some, String.ofList_toList]

end TransportGen.Text
