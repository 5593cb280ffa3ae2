import Mathlib.Tactic.Common
import TrackTimer.Text.Utf8

/-! # What decoding accepts

Bytes decode just if they are valid UTF-8 in the sense of the library, and then to the characters that they
encode (`decode?_eq_some_iff`). Both sides are brought to the four forms that a character can have.
-/

namespace TrackTimer.Text

open String (utf8EncodeChar)

/-! ## The parts of a character -/

theorem continuation?_eq_some_iff {b : UInt8} {n : Nat} :
    continuation? b = some n ↔ n < 64 ∧ b.toNat = 0x80 + n := by
  have bounds : 0x80 ≤ b ∧ b < 0xc0 ↔ 0x80 ≤ b.toNat ∧ b.toNat < 0xc0 := by
    rw [UInt8.le_iff_toNat_le, UInt8.lt_iff_toNat_lt]
    rfl
  simp only [continuation?, bounds]
  split
  · simp only [Option.some.injEq]
    omega
  · simp only [reduceCtorEq, false_iff]
    omega

theorem character?_eq_some_iff {least code : Nat} {c : Char} :
    character? least code = some c ↔ least ≤ code ∧ c.toNat = code := by
  rw [character?]
  constructor
  · intro found
    split at found
    · next fits =>
      obtain rfl := Option.some.inj found
      refine ⟨fits.1, ?_⟩
      rw [Char.ofNat, dif_pos fits.2]
      rfl
    · cases found
  · rintro ⟨fits, rfl⟩
    rw [if_pos ⟨fits, c.valid⟩, Char.ofNat_toNat]

/-! ## The forms of a character -/

/-- The bytes of a character by their number. All but the first hold six bits each, and the first holds
what is left. -/
inductive Form (c : Char) : List UInt8 → Prop where
  | one {a : UInt8} (small : c.toNat < 0x80) (first : a.toNat = c.toNat) : Form c [a]
  | two {a b : UInt8} {x y : Nat} (large : 0x80 ≤ c.toNat) (small : c.toNat < 0x800)
      (first : a.toNat = 0xc0 + x) (second : continuation? b = some y)
      (code : c.toNat = x * 64 + y) : Form c [a, b]
  | three {a b b' : UInt8} {x y z : Nat} (large : 0x800 ≤ c.toNat) (small : c.toNat < 0x10000)
      (first : a.toNat = 0xe0 + x) (second : continuation? b = some y)
      (third : continuation? b' = some z)
      (code : c.toNat = x * 4096 + y * 64 + z) : Form c [a, b, b']
  | four {a b b' b'' : UInt8} {w x y z : Nat} (large : 0x10000 ≤ c.toNat)
      (first : a.toNat = 0xf0 + w) (second : continuation? b = some x)
      (third : continuation? b' = some y) (fourth : continuation? b'' = some z)
      (code : c.toNat = w * 262144 + x * 4096 + y * 64 + z) : Form c [a, b, b', b'']

theorem toNat_lt (c : Char) : c.toNat < 0x110000 := by
  have valid : c.toNat.isValidChar := c.valid
  simp only [Nat.isValidChar] at valid
  omega

theorem form_utf8EncodeChar (c : Char) : Form c (utf8EncodeChar c) := by
  have bound := toNat_lt c
  have continues (n : Nat) : continuation? (.ofNat (n % 0x40 + 0x80)) = some (n % 0x40) := by
    rw [continuation?_eq_some_iff, UInt8.toNat_ofNat']
    omega
  have val : c.val.toNat = c.toNat := rfl
  simp only [utf8EncodeChar, val]
  by_cases one : c.toNat ≤ 0x7f
  · rw [if_pos one]
    exact .one (by omega) (by rw [UInt8.toNat_ofNat']; omega)
  by_cases two : c.toNat ≤ 0x7ff
  · rw [if_neg one, if_pos two]
    refine .two (x := c.toNat / 64) (by omega) (by omega) ?_ (continues _) (by omega)
    rw [UInt8.toNat_ofNat']
    omega
  by_cases three : c.toNat ≤ 0xffff
  · rw [if_neg one, if_neg two, if_pos three]
    refine .three (x := c.toNat / 4096) (by omega) (by omega) ?_ (continues _) (continues _) (by omega)
    rw [UInt8.toNat_ofNat']
    omega
  · rw [if_neg one, if_neg two, if_neg three]
    refine .four (w := c.toNat / 262144) (by omega) ?_ (continues _) (continues _) (continues _) (by omega)
    rw [UInt8.toNat_ofNat']
    omega

theorem Form.eq_utf8EncodeChar {c : Char} {bytes : List UInt8} (form : Form c bytes) :
    bytes = utf8EncodeChar c := by
  have byte {b : UInt8} {n : Nat} (value : n = b.toNat) : UInt8.ofNat n = b := by
    rw [value, UInt8.ofNat_toNat]
  have val : c.val.toNat = c.toNat := rfl
  simp only [utf8EncodeChar, val]
  cases form with
  | one small first => rw [if_pos (by omega), byte first.symm]
  | @two a b x y large small first second code =>
    rw [continuation?_eq_some_iff] at second
    rw [if_neg (by omega), if_pos (by omega), byte (b := a) (by omega), byte (b := b) (by omega)]
  | @three a b b' x y z large small first second third code =>
    rw [continuation?_eq_some_iff] at second third
    rw [if_neg (by omega), if_neg (by omega), if_pos (by omega), byte (b := a) (by omega),
      byte (b := b) (by omega), byte (b := b') (by omega)]
  | @four a b b' b'' w x y z large first second third fourth code =>
    rw [continuation?_eq_some_iff] at second third fourth
    have bound := toNat_lt c
    rw [if_neg (by omega), if_neg (by omega), if_neg (by omega), byte (b := a) (by omega),
      byte (b := b) (by omega), byte (b := b') (by omega), byte (b := b'') (by omega)]

/-! ## Decoding -/

theorem first_lt_iff (a : UInt8) :
    (a < 0x80 ↔ a.toNat < 0x80) ∧ (a < 0xe0 ↔ a.toNat < 0xe0) ∧ (a < 0xf0 ↔ a.toNat < 0xf0) := by
  simp only [UInt8.lt_iff_toNat_lt]
  exact ⟨.rfl, .rfl, .rfl⟩

theorem bind_of_eq_some {α β : Type} {found : Option α} {a : α} (is : found = some a)
    (next : α → Option β) : (found >>= next) = next a := by
  rw [is]
  rfl

/-- What is written is read. -/
theorem decode?_append_of_form {c : Char} {first : List UInt8} (form : Form c first)
    (rest : List UInt8) : decode? (first ++ rest) = (decode? rest).map (c :: ·) := by
  rw [Option.map_eq_bind, decode?.eq_def]
  cases form with
  | @one a small first =>
    have one : a < 0x80 := (first_lt_iff a).1.mpr (by omega)
    dsimp only [List.singleton_append]
    rw [if_pos one, first, Char.ofNat_toNat]
    rfl
  | @two a b x y large small first second code =>
    obtain ⟨below80, belowE0, -⟩ := first_lt_iff a
    have notOne : ¬ a < 0x80 := by rw [below80]; omega
    have two : a < 0xe0 := by rw [belowE0]; omega
    have high : a.toNat - 0xc0 = x := by omega
    have found : character? 0x80 (x * Nat.pow 2 6 + y) = some c :=
      character?_eq_some_iff.mpr ⟨code ▸ large, code⟩
    dsimp only [List.cons_append]
    rw [if_neg notOne, if_pos two, bind_of_eq_some second, high, bind_of_eq_some found]
    rfl
  | @three a b b' x y z large small first second third code =>
    obtain ⟨below80, belowE0, belowF0⟩ := first_lt_iff a
    have notOne : ¬ a < 0x80 := by rw [below80]; omega
    have notTwo : ¬ a < 0xe0 := by rw [belowE0]; omega
    have three : a < 0xf0 := by rw [belowF0]; omega
    have high : a.toNat - 0xe0 = x := by omega
    have found : character? 0x800 (x * Nat.pow 2 12 + y * Nat.pow 2 6 + z) = some c :=
      character?_eq_some_iff.mpr ⟨code ▸ large, code⟩
    dsimp only [List.cons_append]
    rw [if_neg notOne, if_neg notTwo, if_pos three, bind_of_eq_some second, bind_of_eq_some third,
      high, bind_of_eq_some found]
    rfl
  | @four a b b' b'' w x y z large first second third fourth code =>
    obtain ⟨below80, belowE0, belowF0⟩ := first_lt_iff a
    have notOne : ¬ a < 0x80 := by rw [below80]; omega
    have notTwo : ¬ a < 0xe0 := by rw [belowE0]; omega
    have notThree : ¬ a < 0xf0 := by rw [belowF0]; omega
    have high : a.toNat - 0xf0 = w := by omega
    have found : character? 0x10000
        (w * Nat.pow 2 18 + x * Nat.pow 2 12 + y * Nat.pow 2 6 + z) = some c :=
      character?_eq_some_iff.mpr ⟨code ▸ large, code⟩
    dsimp only [List.cons_append]
    rw [if_neg notOne, if_neg notTwo, if_neg notThree, bind_of_eq_some second, bind_of_eq_some third,
      bind_of_eq_some fourth, high, bind_of_eq_some found]
    rfl

theorem Form.append_eq {c : Char} {first rest : List UInt8} {later : List Char} (form : Form c first)
    (more : rest = later.flatMap utf8EncodeChar) :
    first ++ rest = (c :: later).flatMap utf8EncodeChar := by
  rw [List.flatMap_cons, ← form.eq_utf8EncodeChar, more]

/-- What is read was written. -/
theorem eq_of_decode? {bytes : List UInt8} {text : List Char} (decodes : decode? bytes = some text) :
    bytes = text.flatMap utf8EncodeChar := by
  fun_induction decode? bytes generalizing text with
  | case1 =>
    obtain rfl := Option.some.inj decodes
    rfl
  | case2 a rest small ih =>
    rw [(first_lt_iff a).1] at small
    obtain ⟨later, decoded, same⟩ := Option.bind_eq_some_iff.mp decodes
    obtain rfl := Option.some.inj same
    have code : (Char.ofNat a.toNat).toNat = a.toNat := by
      rw [Char.ofNat, dif_pos (by left; omega)]
      rfl
    exact (Form.one (by omega) code.symm).append_eq (ih decoded)
  | case3 a notOne two b rest ih =>
    obtain ⟨-, belowE0, -⟩ := first_lt_iff a
    rw [belowE0] at two
    obtain ⟨y, second, decodes⟩ := Option.bind_eq_some_iff.mp decodes
    obtain ⟨c, found, decodes⟩ := Option.bind_eq_some_iff.mp decodes
    obtain ⟨later, decoded, same⟩ := Option.bind_eq_some_iff.mp decodes
    obtain rfl := Option.some.inj same
    obtain ⟨least, code⟩ : 0x80 ≤ (a.toNat - 0xc0) * 64 + y ∧ c.toNat = (a.toNat - 0xc0) * 64 + y :=
      character?_eq_some_iff.mp found
    have bound := (continuation?_eq_some_iff.mp second).1
    -- Six bits alone are too few for this form, so the first byte is no continuation.
    have first : a.toNat = 0xc0 + (a.toNat - 0xc0) := by omega
    exact (Form.two (by omega) (by omega) first second code).append_eq (ih decoded)
  | case4 | case6 | case8 => cases decodes
  | case5 a notOne notTwo three b b' rest ih =>
    obtain ⟨-, belowE0, belowF0⟩ := first_lt_iff a
    rw [belowE0] at notTwo
    rw [belowF0] at three
    obtain ⟨y, second, decodes⟩ := Option.bind_eq_some_iff.mp decodes
    obtain ⟨z, third, decodes⟩ := Option.bind_eq_some_iff.mp decodes
    obtain ⟨c, found, decodes⟩ := Option.bind_eq_some_iff.mp decodes
    obtain ⟨later, decoded, same⟩ := Option.bind_eq_some_iff.mp decodes
    obtain rfl := Option.some.inj same
    obtain ⟨least, code⟩ : 0x800 ≤ (a.toNat - 0xe0) * 4096 + y * 64 + z ∧
        c.toNat = (a.toNat - 0xe0) * 4096 + y * 64 + z :=
      character?_eq_some_iff.mp found
    have bound := (continuation?_eq_some_iff.mp second).1
    have bound' := (continuation?_eq_some_iff.mp third).1
    have first : a.toNat = 0xe0 + (a.toNat - 0xe0) := by omega
    exact (Form.three (by omega) (by omega) first second third code).append_eq (ih decoded)
  | case7 a notOne notTwo notThree b b' b'' rest ih =>
    rw [(first_lt_iff a).2.2] at notThree
    obtain ⟨x, second, decodes⟩ := Option.bind_eq_some_iff.mp decodes
    obtain ⟨y, third, decodes⟩ := Option.bind_eq_some_iff.mp decodes
    obtain ⟨z, fourth, decodes⟩ := Option.bind_eq_some_iff.mp decodes
    obtain ⟨c, found, decodes⟩ := Option.bind_eq_some_iff.mp decodes
    obtain ⟨later, decoded, same⟩ := Option.bind_eq_some_iff.mp decodes
    obtain rfl := Option.some.inj same
    obtain ⟨least, code⟩ : 0x10000 ≤ (a.toNat - 0xf0) * 262144 + x * 4096 + y * 64 + z ∧
        c.toNat = (a.toNat - 0xf0) * 262144 + x * 4096 + y * 64 + z :=
      character?_eq_some_iff.mp found
    have first : a.toNat = 0xf0 + (a.toNat - 0xf0) := by omega
    exact (Form.four (by omega) first second third fourth code).append_eq (ih decoded)

/-- Bytes decode to the characters that they encode, and if they encode none they do not decode. -/
theorem decode?_eq_some_iff {bytes : List UInt8} {text : List Char} :
    decode? bytes = some text ↔ bytes = text.flatMap utf8EncodeChar := by
  refine ⟨eq_of_decode?, ?_⟩
  rintro rfl
  induction text with
  | nil => rfl
  | cons c text ih =>
    rw [List.flatMap_cons, decode?_append_of_form (form_utf8EncodeChar c), ih]
    rfl

theorem isValidUTF8_iff {bytes : List UInt8} :
    bytes.toByteArray.IsValidUTF8 ↔ ∃ text, decode? bytes = some text := by
  simp only [decode?_eq_some_iff]
  constructor
  · rintro ⟨text, same⟩
    exact ⟨text, List.toByteArray_inj.mp same⟩
  · rintro ⟨text, rfl⟩
    exact ⟨text, rfl⟩

end TrackTimer.Text
