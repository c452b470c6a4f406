import TransportGen.Proofs.Text.Utf8
import TransportGen.Text.Digit

/-!
# Percent coding

What the functions `percent_encode` of a client and `percent_decode` of a server compute. A text
that is encoded holds no slash and no brace (`isInert_of_mem_percentEncode`), and decoding gives it
back (`percentDecode_percentEncode`).
-/

namespace TransportGen

/-! ## Encoding -/

/-- Whether a byte stands for itself: a letter, a digit, or one of `-._~`. -/
def isUnreserved (b : UInt8) : Bool :=
  let c := Char.ofNat b.toNat
  c.isAlphanum || c == '-' || c == '.' || c == '_' || c == '~'

/-- An upper-case hexadecimal digit. -/
def hexDigit (n : Nat) : Char := (Nat.digitChar n).toUpper

/-- The characters for one byte. -/
def escapeByte (b : UInt8) : List Char :=
  if isUnreserved b then [Char.ofNat b.toNat]
  else ['%', hexDigit (b.toNat / 16), hexDigit (b.toNat % 16)]

/-- The encoded text: every byte of it that does not stand for itself is escaped. -/
def percentEncode (raw : String) : String :=
  String.ofList ((Text.utf8 raw).flatMap escapeByte)

/-! ## Decoding -/

/-- The value of a hexadecimal digit, as a byte. -/
def hexByte? (b : UInt8) : Option Nat := Text.hexValue? (Char.ofNat b.toNat)

/-- The bytes with each escape replaced, and each plus by a blank if `plus` says so. A percent sign
without two digits stands for itself. -/
def unescape (plus : Bool) : Bytes → Bytes
  | [] => []
  | 0x25 :: high :: low :: rest =>
    match hexByte? high, hexByte? low with
    | some h, some l => UInt8.ofNat (h * 16 + l) :: unescape plus rest
    | _, _ => 0x25 :: unescape plus (high :: low :: rest)
  | b :: rest => (if plus && b == 0x2B then 0x20 else b) :: unescape plus rest

/-- The decoded text. -/
def percentDecode (plus : Bool) (raw : String) : String :=
  String.ofList (Text.decodeLossy (unescape plus (Text.utf8 raw)))

/-! ## What an encoded text holds -/

/-- An ASCII character that is no slash and no brace. -/
def isInert (c : Char) : Bool := c.toNat < 0x80 && c != '/' && c != '\x7b' && c != '\x7d'

theorem toNat_lt_of_isAlphanum {c : Char} (h : c.isAlphanum = true) : c.toNat < 0x80 := by
  change (decide (c.val ≥ 'A'.val ∧ c.val ≤ 'Z'.val) ||
    (decide (c.val ≥ 'a'.val) && decide (c.val ≤ 'z'.val)) ||
    (decide (c.val ≥ '0'.val) && decide (c.val ≤ '9'.val))) = true at h
  simp only [Bool.or_eq_true, Bool.and_eq_true, decide_eq_true_eq, ge_iff_le,
    UInt32.le_iff_toNat_le] at h
  have hval : c.val.toNat = c.toNat := rfl
  simp only [Char.reduceVal, UInt32.reduceToNat, hval] at h
  omega

theorem isInert_of_isUnreserved {b : UInt8} (h : isUnreserved b = true) :
    isInert (Char.ofNat b.toNat) = true := by
  unfold isUnreserved at h
  generalize Char.ofNat b.toNat = c at h
  have hlt : c.toNat < 0x80 := by
    simp only [Bool.or_eq_true, beq_iff_eq] at h
    rcases h with (((h | rfl) | rfl) | rfl) | rfl
    · exact toNat_lt_of_isAlphanum h
    all_goals decide
  have hne : c ≠ '/' ∧ c ≠ '\x7b' ∧ c ≠ '\x7d' := by
    refine ⟨?_, ?_, ?_⟩
    all_goals
      rintro rfl
      exact absurd h (by decide)
  simp [isInert, hlt, hne]

theorem isInert_hexDigit {d : Nat} (h : d < 16) : isInert (hexDigit d) = true := by
  have hall : ∀ d < 16, isInert (hexDigit d) = true := by decide +kernel
  exact hall d h

theorem isInert_of_mem_escapeByte {b : UInt8} {c : Char} (h : c ∈ escapeByte b) :
    isInert c = true := by
  have hb := b.toNat_lt
  unfold escapeByte at h
  split at h
  · rename_i hunreserved
    rw [List.mem_singleton.1 h]
    exact isInert_of_isUnreserved hunreserved
  · simp only [List.mem_cons, List.not_mem_nil, or_false] at h
    rcases h with rfl | rfl | rfl
    · decide
    · exact isInert_hexDigit (by omega)
    · exact isInert_hexDigit (by omega)

theorem isInert_of_mem_percentEncode {raw : String} {c : Char}
    (h : c ∈ (percentEncode raw).toList) : isInert c = true := by
  rw [percentEncode, String.toList_ofList] at h
  obtain ⟨b, -, hc⟩ := List.mem_flatMap.1 h
  exact isInert_of_mem_escapeByte hc

theorem escapeByte_ne_nil (b : UInt8) : escapeByte b ≠ [] := by
  unfold escapeByte
  split <;> exact List.cons_ne_nil _ _

theorem percentEncode_ne_nil {raw : String} (h : raw ≠ "") : (percentEncode raw).toList ≠ [] := by
  rw [percentEncode, String.toList_ofList, Text.utf8]
  intro hnil
  cases hraw : raw.toList with
  | nil => exact h (String.toList_eq_nil_iff.1 hraw)
  | cons c rest =>
    rw [hraw, List.flatMap_cons, List.flatMap_append] at hnil
    obtain ⟨b, bytes, hbytes⟩ := List.exists_cons_of_ne_nil (String.utf8EncodeChar_ne_nil (c := c))
    rw [hbytes, List.flatMap_cons] at hnil
    simp [escapeByte_ne_nil b] at hnil

/-! ## Reading it back -/

/-- The bytes of a text of ASCII characters. -/
theorem utf8_of_isInert {s : List Char} (h : ∀ c ∈ s, isInert c = true) :
    Text.utf8 (String.ofList s) = s.map fun c => UInt8.ofNat c.toNat := by
  rw [Text.utf8, String.toList_ofList]
  induction s with
  | nil => rfl
  | cons c rest ih =>
    rw [List.forall_mem_cons] at h
    have hc : c.toNat < 0x80 := by
      have := h.1
      simp only [isInert, Bool.and_eq_true, decide_eq_true_eq] at this
      omega
    have hsingle : String.utf8EncodeChar c = [UInt8.ofNat c.toNat] := by
      simp [String.utf8EncodeChar, show c.toNat ≤ 0x7F by omega]
    rw [List.flatMap_cons, List.map_cons, ih h.2, hsingle]
    rfl

theorem hexByte?_hexDigit {d : Nat} (h : d < 16) :
    hexByte? (UInt8.ofNat (hexDigit d).toNat) = some d := by
  have hall : ∀ d < 16, hexByte? (UInt8.ofNat (hexDigit d).toNat) = some d := by decide +kernel
  exact hall d h

theorem unescape_cons_of_ne {b : UInt8} (h : b ≠ 0x25) (rest : Bytes) :
    unescape false (b :: rest) = b :: unescape false rest := by
  rw [unescape]
  · rfl
  · exact fun _ _ _ hb => (h hb).elim

theorem unescape_escape {h l : UInt8} {high low : Nat} (hhigh : hexByte? h = some high)
    (hlow : hexByte? l = some low) (rest : Bytes) :
    unescape false (0x25 :: h :: l :: rest) =
      UInt8.ofNat (high * 16 + low) :: unescape false rest := by
  simp only [unescape, hhigh, hlow]

/-- One byte is read back, whatever follows it. -/
theorem unescape_escapeByte (b : UInt8) (rest : Bytes) :
    unescape false ((escapeByte b).map (fun c => UInt8.ofNat c.toNat) ++ rest) =
      b :: unescape false rest := by
  have hb := b.toNat_lt
  unfold escapeByte
  split
  · rename_i hunreserved
    have hvalid : b.toNat.isValidChar := Or.inl (by omega)
    have hchar : (Char.ofNat b.toNat).toNat = b.toNat := by
      rw [Char.ofNat, dif_pos hvalid]
      rfl
    have hne : b ≠ 0x25 := by
      rintro rfl
      exact absurd hunreserved (by decide)
    simp only [List.map_cons, List.map_nil, hchar, UInt8.ofNat_toNat, List.cons_append,
      List.nil_append, unescape_cons_of_ne hne]
  · have hescape := unescape_escape (hexByte?_hexDigit (d := b.toNat / 16) (by omega))
      (hexByte?_hexDigit (d := b.toNat % 16) (by omega)) rest
    rw [Nat.mul_comm, Nat.div_add_mod, UInt8.ofNat_toNat] at hescape
    exact hescape

theorem unescape_flatMap (bytes : Bytes) :
    unescape false ((bytes.flatMap escapeByte).map fun c => UInt8.ofNat c.toNat) = bytes := by
  induction bytes with
  | nil => rfl
  | cons b rest ih => rw [List.flatMap_cons, List.map_append, unescape_escapeByte, ih]

/-- **Percent coding.** A text is read back from what it is encoded as. -/
theorem percentDecode_percentEncode (raw : String) :
    percentDecode false (percentEncode raw) = raw := by
  have hbytes : Text.utf8 (percentEncode raw) =
      ((Text.utf8 raw).flatMap escapeByte).map fun c => UInt8.ofNat c.toNat := by
    refine utf8_of_isInert fun c hc => ?_
    obtain ⟨b, -, hb⟩ := List.mem_flatMap.1 hc
    exact isInert_of_mem_escapeByte hb
  rw [percentDecode, hbytes, unescape_flatMap, Text.decodeLossy_utf8, String.ofList_toList]

end TransportGen
