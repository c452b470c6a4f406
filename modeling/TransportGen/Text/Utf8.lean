/-!
# UTF-8

Characters as bytes, from one to four of them. `decode?` reads bytes back that are the UTF-8 form of
a text; `decodeLossy` reads any bytes and puts `U+FFFD` for each longest run of bytes that begins a
character and does not finish it.
-/

namespace TransportGen

/-- The contents of a file. -/
abbrev Bytes := List UInt8

namespace Text

/-- The bytes of a text. -/
def utf8 (s : String) : Bytes := s.toList.flatMap String.utf8EncodeChar

namespace Utf8

/-- A character whose first bytes are read. -/
structure Pending where
  /-- The number of bytes that are still to come. -/
  missing : Nat
  /-- The least byte that may come next. -/
  low : Nat
  /-- The greatest byte that may come next. -/
  high : Nat
  /-- The bits read so far. -/
  value : Nat

/-- The character that a first byte begins. The narrower bounds after some first bytes leave out
overlong forms, surrogates and numbers above the last character. -/
def begin? (b : Nat) : Option Pending :=
  if b < 0x80 then some ⟨0, 0, 0, b⟩
  else if b < 0xC2 then none
  else if b < 0xE0 then some ⟨1, 0x80, 0xBF, b - 0xC0⟩
  else if b = 0xE0 then some ⟨2, 0xA0, 0xBF, 0⟩
  else if b = 0xED then some ⟨2, 0x80, 0x9F, b - 0xE0⟩
  else if b < 0xF0 then some ⟨2, 0x80, 0xBF, b - 0xE0⟩
  else if b = 0xF0 then some ⟨3, 0x90, 0xBF, 0⟩
  else if b < 0xF4 then some ⟨3, 0x80, 0xBF, b - 0xF0⟩
  else if b = 0xF4 then some ⟨3, 0x80, 0x8F, b - 0xF0⟩
  else none

/-- The character after one more byte, if that byte may come next. -/
def Pending.add? (p : Pending) (b : Nat) : Option Pending :=
  if p.low ≤ b ∧ b ≤ p.high then some ⟨p.missing - 1, 0x80, 0xBF, p.value * 64 + (b - 0x80)⟩
  else none

/-- A character once all its bytes are there, or else what remains to be read of it. -/
def Pending.settle (p : Pending) : List (Option Char) × Option Pending :=
  if p.missing = 0 then ([some (Char.ofNat p.value)], none) else ([], some p)

/-- What a byte gives that begins a character. -/
def first (b : Nat) : List (Option Char) × Option Pending :=
  match begin? b with
  | some p => p.settle
  | none => ([none], none)

/-- What a byte gives after those of an unfinished character. A byte that does not go on with it
begins another one. -/
def step (pending : Option Pending) (b : Nat) : List (Option Char) × Option Pending :=
  match pending with
  | none => first b
  | some p =>
    match p.add? b with
    | some p => p.settle
    | none => (none :: (first b).1, (first b).2)

/-- The characters of bytes, with `none` for each run that is no character. -/
def units (pending : Option Pending) : Bytes → List (Option Char)
  | [] => if pending.isSome then [none] else []
  | b :: rest =>
    let (done, pending) := step pending b.toNat
    done ++ units pending rest

end Utf8

/-- The text whose UTF-8 form the bytes are. -/
def decode? (bytes : Bytes) : Option String :=
  ((Utf8.units none bytes).mapM id).map String.ofList

/-- The character that stands for bytes that are none. -/
def replacement : Char := '\uFFFD'

/-- The characters of bytes, with a replacement for each run that is no character. -/
def decodeLossy (bytes : Bytes) : List Char :=
  (Utf8.units none bytes).map (·.getD replacement)

end Text

end TransportGen
