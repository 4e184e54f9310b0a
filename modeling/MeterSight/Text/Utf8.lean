/-!
# UTF-8

Bytes to characters, where invalid input is either refused or replaced: every maximal run of
bytes that begins a character and cannot be finished becomes one U+FFFD.
-/
namespace MeterSight.Text

/-- A character under construction: how many bytes are owed, the range of the next one, and the
bits gathered so far. -/
structure Unfinished where
  owed : Nat
  low : Nat
  high : Nat
  bits : Nat

/-- What a first byte promises: a finished character, a character under construction, or nothing. -/
def leadByte (b : Nat) : Option (Char ⊕ Unfinished) :=
  if b < 0x80 then some (.inl (Char.ofNat b))
  else if b < 0xC2 then none
  else if b < 0xE0 then some (.inr ⟨1, 0x80, 0xBF, b - 0xC0⟩)
  else if b < 0xF0 then
    some (.inr ⟨2, if b = 0xE0 then 0xA0 else 0x80, if b = 0xED then 0x9F else 0xBF, b - 0xE0⟩)
  else if b < 0xF5 then
    some (.inr ⟨3, if b = 0xF0 then 0x90 else 0x80, if b = 0xF4 then 0x8F else 0xBF, b - 0xF0⟩)
  else none

/-- The character with the bits of a finished construction or the construction that goes on, after
one more byte in range. -/
def Unfinished.extend (p : Unfinished) (b : Nat) : Option (Char ⊕ Unfinished) :=
  if p.low ≤ b ∧ b ≤ p.high then
    let bits := p.bits * 64 + (b - 0x80)
    if p.owed ≤ 1 then some (.inl (Char.ofNat bits))
    else some (.inr ⟨p.owed - 1, 0x80, 0xBF, bits⟩)
  else none

/-- The character that stands for undecodable bytes. -/
def replacement : Char := '\uFFFD'

/-- Decodes from between characters, or inside the construction `p`. -/
def decodeFrom : Option Unfinished → List UInt8 → List (Option Char)
  | none, [] => []
  | some _, [] => [none]
  | none, b :: rest =>
    match leadByte b.toNat with
    | none => none :: decodeFrom none rest
    | some (.inl c) => some c :: decodeFrom none rest
    | some (.inr p) => decodeFrom (some p) rest
  | some p, b :: rest =>
    match p.extend b.toNat with
    | some (.inl c) => some c :: decodeFrom none rest
    | some (.inr q) => decodeFrom (some q) rest
    | none =>
      none :: match leadByte b.toNat with
        | none => none :: decodeFrom none rest
        | some (.inl c) => some c :: decodeFrom none rest
        | some (.inr q) => decodeFrom (some q) rest

/-- The characters of the bytes, with undecodable runs replaced. -/
def decodeLossy (bytes : List UInt8) : List Char :=
  (decodeFrom none bytes).map (·.getD replacement)

/-- The characters of the bytes, unless some are undecodable. -/
def decode? (bytes : List UInt8) : Option (List Char) := (decodeFrom none bytes).mapM id

end MeterSight.Text
