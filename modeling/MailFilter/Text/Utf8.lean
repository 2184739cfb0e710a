import MailFilter.Platform

/-!
# UTF-8

Bytes are decoded one at a time. Between characters nothing is owed; inside one the decoder holds
the bits read so far, how many continuation bytes are still owed and the range the next one must
lie in, which is what rules out overlong forms and surrogates. A byte outside that range closes
the unfinished character, which counts as one fault, and is then read as a first byte.
-/
namespace MailFilter.Text.Utf8

/-- A character under way. -/
structure Partial where
  bits : Nat
  owed : Nat
  low : Nat
  high : Nat

/-- What a first byte says: a whole character, the start of a longer one, or nothing. -/
inductive Lead where
  | char (code : Nat)
  | start (p : Partial)
  | invalid

def lead (b : Nat) : Lead :=
  if b < 0x80 then .char b
  else if b < 0xC2 then .invalid
  else if b < 0xE0 then .start ⟨b - 0xC0, 1, 0x80, 0xBF⟩
  else if b == 0xE0 then .start ⟨0, 2, 0xA0, 0xBF⟩
  else if b == 0xED then .start ⟨0xD, 2, 0x80, 0x9F⟩
  else if b < 0xF0 then .start ⟨b - 0xE0, 2, 0x80, 0xBF⟩
  else if b == 0xF0 then .start ⟨0, 3, 0x90, 0xBF⟩
  else if b < 0xF4 then .start ⟨b - 0xF0, 3, 0x80, 0xBF⟩
  else if b == 0xF4 then .start ⟨4, 3, 0x80, 0x8F⟩
  else .invalid

/-- The decoded characters, with `none` for each fault. -/
def decodeFrom : Option Partial → List UInt8 → List (Option Char)
  | none, [] => []
  | some _, [] => [none]
  | none, b :: bs =>
    match lead b.toNat with
    | .char n => some (Char.ofNat n) :: decodeFrom none bs
    | .start p => decodeFrom (some p) bs
    | .invalid => none :: decodeFrom none bs
  | some p, b :: bs =>
    let n := b.toNat
    if p.low ≤ n && n ≤ p.high then
      let bits := p.bits * 64 + (n - 0x80)
      if p.owed ≤ 1 then some (Char.ofNat bits) :: decodeFrom none bs
      else decodeFrom (some ⟨bits, p.owed - 1, 0x80, 0xBF⟩) bs
    else
      match lead n with
      | .char m => none :: some (Char.ofNat m) :: decodeFrom none bs
      | .start q => none :: decodeFrom (some q) bs
      | .invalid => none :: none :: decodeFrom none bs

def replacement : Char := Char.ofNat 0xFFFD

/-- Decodes every byte sequence; each fault becomes one replacement character. -/
def decodeLossy (bs : List UInt8) : Text := (decodeFrom none bs).map (·.getD replacement)

/-- Decodes valid UTF-8 only. -/
def decode? (bs : List UInt8) : Option Text := (decodeFrom none bs).mapM id

/-- Decodes one block of a longer sequence: its characters, and the character that it leaves
unfinished. -/
def decodeBlock? : Option Partial → List UInt8 → Option (Text × Option Partial)
  | p, [] => some ([], p)
  | none, b :: bs =>
    match lead b.toNat with
    | .char n => (decodeBlock? none bs).map fun (t, p) => (Char.ofNat n :: t, p)
    | .start p => decodeBlock? (some p) bs
    | .invalid => none
  | some p, b :: bs =>
    let n := b.toNat
    if p.low ≤ n && n ≤ p.high then
      let bits := p.bits * 64 + (n - 0x80)
      if p.owed ≤ 1 then (decodeBlock? none bs).map fun (t, p) => (Char.ofNat bits :: t, p)
      else decodeBlock? (some ⟨bits, p.owed - 1, 0x80, 0xBF⟩) bs
    else none

def encodeChar (c : Char) : List UInt8 :=
  let n := c.toNat
  if n < 0x80 then [n.toUInt8]
  else if n < 0x800 then [(0xC0 + n / 64).toUInt8, (0x80 + n % 64).toUInt8]
  else if n < 0x10000 then
    [(0xE0 + n / 4096).toUInt8, (0x80 + n / 64 % 64).toUInt8, (0x80 + n % 64).toUInt8]
  else
    [(0xF0 + n / 262144).toUInt8, (0x80 + n / 4096 % 64).toUInt8, (0x80 + n / 64 % 64).toUInt8,
      (0x80 + n % 64).toUInt8]

def encode (s : Text) : List UInt8 := s.flatMap encodeChar

/-- Encodes a text without halves. -/
def encode? [Platform] (s : Text) : Option (List UInt8) :=
  if s.any isHalf then none else some (encode s)

theorem eq_of_encode? [Platform] {s : Text} {bytes : List UInt8} (h : encode? s = some bytes) :
    bytes = encode s := by
  unfold encode? at h
  split at h
  · cases h
  · exact (Option.some.inj h).symm

end MailFilter.Text.Utf8
