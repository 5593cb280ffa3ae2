/-! # UTF-8

Characters as bytes and back. `decode?` accepts the shortest form of every character and nothing
else: no surrogates, nothing beyond the last character.
-/

namespace TrackTimer.Text

/-- The six bits of a byte that continues a character. -/
def continuation? (b : UInt8) : Option Nat :=
  if 0x80 ≤ b ∧ b < 0xc0 then some (b.toNat - 0x80) else none

/-- The character with a code, if it is not below the least code for its form. -/
def character? (least code : Nat) : Option Char :=
  if least ≤ code ∧ code.isValidChar then some (.ofNat code) else none

/-- The characters that bytes spell, if they spell any. -/
def decode? : List UInt8 → Option (List Char)
  | [] => some []
  | a :: rest =>
    if a < 0x80 then do
      return .ofNat a.toNat :: (← decode? rest)
    else if a < 0xe0 then
      match rest with
      | b :: rest => do
        let c ← character? 0x80 ((a.toNat - 0xc0) * Nat.pow 2 6 + (← continuation? b))
        return c :: (← decode? rest)
      | [] => none
    else if a < 0xf0 then
      match rest with
      | b :: b' :: rest => do
        let c ← character? 0x800
          ((a.toNat - 0xe0) * Nat.pow 2 12 + (← continuation? b) * Nat.pow 2 6
            + (← continuation? b'))
        return c :: (← decode? rest)
      | _ => none
    else
      match rest with
      | b :: b' :: b'' :: rest => do
        let c ← character? 0x10000
          ((a.toNat - 0xf0) * Nat.pow 2 18 + (← continuation? b) * Nat.pow 2 12
            + (← continuation? b') * Nat.pow 2 6
            + (← continuation? b''))
        return c :: (← decode? rest)
      | _ => none

def encode (c : Char) : List UInt8 :=
  let n := c.toNat
  let tail (shift : Nat) : UInt8 := .ofNat (0x80 + n / Nat.pow 2 shift % Nat.pow 2 6)
  if n < 0x80 then [.ofNat n]
  else if n < 0x800 then [.ofNat (0xc0 + n / Nat.pow 2 6), tail 0]
  else if n < 0x10000 then [.ofNat (0xe0 + n / Nat.pow 2 12), tail 6, tail 0]
  else [.ofNat (0xf0 + n / Nat.pow 2 18), tail 12, tail 6, tail 0]

def bytes (s : String) : List UInt8 := s.toList.flatMap encode

end TrackTimer.Text
