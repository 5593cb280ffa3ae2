import TrackTimer.Json.Value
import TrackTimer.Text.Utf8

/-! # JSON tokens

A text is split into tokens by a machine that takes one byte at a time. Bytes that can be part of a
numeral or a name are collected into a word, and the word is read when it ends; the bytes of a
string literal are collected and its escapes read when it ends.
-/

namespace TrackTimer.Json

inductive Token where
  | openArray
  | closeArray
  | openObject
  | closeObject
  | comma
  | colon
  | scalar (value : Json)

/-! ## String literals -/

inductive Piece where
  /-- A byte that stands for itself, or the byte of a short escape. -/
  | byte (b : UInt8)
  /-- A unit of 16 bits given in hexadecimal. -/
  | unit (u : Nat)

def hexDigit? (b : UInt8) : Option Nat :=
  let n := b.toNat
  if 0x30 ≤ n ∧ n ≤ 0x39 then some (n - 0x30)
  else if 0x41 ≤ n ∧ n ≤ 0x46 then some (n - 0x41 + 10)
  else if 0x61 ≤ n ∧ n ≤ 0x66 then some (n - 0x61 + 10)
  else none

def shortEscape? (b : UInt8) : Option UInt8 :=
  match b.toNat with
  | 0x22 => some 0x22
  | 0x5c => some 0x5c
  | 0x2f => some 0x2f
  | 0x62 => some 0x08
  | 0x66 => some 0x0c
  | 0x6e => some 0x0a
  | 0x72 => some 0x0d
  | 0x74 => some 0x09
  | _ => none

/-- The parts of a string literal, if its escapes are well-formed. -/
def pieces? : List UInt8 → Option (List Piece)
  | [] => some []
  | b :: rest =>
    if b ≠ 0x5c then do
      return .byte b :: (← pieces? rest)
    else
      match rest with
      | [] => none
      | e :: rest =>
        if e ≠ 0x75 then do
          let short ← shortEscape? e
          return .byte short :: (← pieces? rest)
        else
          match rest with
          | h₃ :: h₂ :: h₁ :: h₀ :: rest => do
            let u := (← hexDigit? h₃) * Nat.pow 2 12 + (← hexDigit? h₂) * Nat.pow 2 8
              + (← hexDigit? h₁) * Nat.pow 2 4 + (← hexDigit? h₀)
            return .unit u :: (← pieces? rest)
          | _ => none

/-- Whether a unit is the first of a pair. -/
def isLeading (u : Nat) : Bool := 0xd800 ≤ u && u < 0xdc00

/-- Whether a unit is the second of a pair. -/
def isTrailing (u : Nat) : Bool := 0xdc00 ≤ u && u < 0xe000

/-- The bytes that parts spell, if every unit of a pair has its partner beside it. -/
def spelled? : List Piece → Option (List UInt8)
  | [] => some []
  | .byte b :: rest => do return b :: (← spelled? rest)
  | .unit u :: rest =>
    if isTrailing u then
      none
    else if isLeading u then
      match rest with
      | .unit v :: rest =>
        if isTrailing v then do
          let c := Char.ofNat (0x10000 + (u - 0xd800) * Nat.pow 2 10 + (v - 0xdc00))
          return Text.encode c ++ (← spelled? rest)
        else
          none
      | _ => none
    else do
      return Text.encode (.ofNat u) ++ (← spelled? rest)

def spellingOf (pieces : List Piece) : Spelling := do
  return .ofList (← Text.decode? (← spelled? pieces))

/-! ## Words -/

/-- Whether a byte can be part of a numeral or a name. -/
def isWordByte (b : UInt8) : Bool :=
  let n := b.toNat
  (0x30 ≤ n && n ≤ 0x39) || (0x41 ≤ n && n ≤ 0x5a) || (0x61 ≤ n && n ≤ 0x7a)
    || n == 0x2b || n == 0x2d || n == 0x2e

def ofWord? (care : Care) (word : List Char) : Option Json :=
  if word = ['n', 'u', 'l', 'l'] then some .null
  else if word = ['t', 'r', 'u', 'e'] then some (.bool true)
  else if word = ['f', 'a', 'l', 's', 'e'] then some (.bool false)
  else (Number.ofText? care word).map .number

/-! ## The machine -/

/-- Where the machine stands; collected bytes are kept last one first. -/
inductive Mode where
  | between
  | word (collected : List UInt8)
  | literal (collected : List UInt8)
  | escape (collected : List UInt8)

/-- The tokens found so far, last one first, and where the machine stands. -/
structure Lexer where
  tokens : List Token := []
  mode : Mode := .between

namespace Lexer

/-- Takes a byte that is in no word and no literal. -/
def stepBetween? (tokens : List Token) (b : UInt8) : Option Lexer :=
  match b.toNat with
  | 0x20 | 0x09 | 0x0a | 0x0d => some ⟨tokens, .between⟩
  | 0x5b => some ⟨.openArray :: tokens, .between⟩
  | 0x5d => some ⟨.closeArray :: tokens, .between⟩
  | 0x7b => some ⟨.openObject :: tokens, .between⟩
  | 0x7d => some ⟨.closeObject :: tokens, .between⟩
  | 0x2c => some ⟨.comma :: tokens, .between⟩
  | 0x3a => some ⟨.colon :: tokens, .between⟩
  | 0x22 => some ⟨tokens, .literal []⟩
  | _ => if isWordByte b then some ⟨tokens, .word [b]⟩ else none

def endWord? (care : Care) (tokens : List Token) (collected : List UInt8) :
    Option (List Token) := do
  let value ← ofWord? care (collected.reverse.map fun b => Char.ofNat b.toNat)
  return .scalar value :: tokens

def step? (care : Care) (l : Lexer) (b : UInt8) : Option Lexer :=
  match l.mode with
  | .between => stepBetween? l.tokens b
  | .word collected =>
    if isWordByte b then
      some { l with mode := .word (b :: collected) }
    else do
      stepBetween? (← endWord? care l.tokens collected) b
  | .literal collected =>
    if b = 0x22 then do
      return ⟨.scalar (.string (spellingOf (← pieces? collected.reverse))) :: l.tokens, .between⟩
    else if b = 0x5c then
      some { l with mode := .escape (b :: collected) }
    else if b < 0x20 then
      none
    else
      some { l with mode := .literal (b :: collected) }
  | .escape collected => some { l with mode := .literal (b :: collected) }

/-- The tokens, once there are no more bytes. -/
def finish? (care : Care) (l : Lexer) : Option (List Token) :=
  match l.mode with
  | .between => some l.tokens.reverse
  | .word collected => (endWord? care l.tokens collected).map List.reverse
  | _ => none

end Lexer

def tokens? (care : Care) (bytes : List UInt8) : Option (List Token) :=
  bytes.foldlM (Lexer.step? care) {} >>= Lexer.finish? care

end TrackTimer.Json
