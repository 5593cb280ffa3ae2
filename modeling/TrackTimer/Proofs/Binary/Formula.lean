import TrackTimer.Proofs.Binary.Range

/-! # Formulas

A formula keeps the operations that lead to its value, so that it can be asked whether one of them goes
wrong. An operation is regular if it does not overflow, that is, if it has a finite result for finite
operands, and if no divisor is zero and no square root is taken of a number below zero. `Held` is what is
shown of one operation after the other: the formula is regular, and its value is at most a power of two,
unless one of the numbers it starts from was not finite.
-/

namespace TrackTimer.Binary

open Float.Model (UnpackedFloat)
open Float.Model.UnpackedFloat (Sign)

/-- A binary64 number with the operations that compute it. -/
inductive Formula where
  | number (x : Float)
  | add (f g : Formula)
  | sub (f g : Formula)
  | mul (f g : Formula)
  | div (f g : Formula)
  | sqrt (f : Formula)

namespace Formula

instance : Add Formula := ⟨add⟩

instance : Sub Formula := ⟨sub⟩

instance : Mul Formula := ⟨mul⟩

instance : Div Formula := ⟨div⟩

instance : Coe Float Formula := ⟨number⟩

def value : Formula → Float
  | number x => x
  | add f g => f.value + g.value
  | sub f g => f.value - g.value
  | mul f g => f.value * g.value
  | div f g => f.value / g.value
  | sqrt f => f.value.sqrt

/-- The last operation of the formula does not overflow. -/
def Fits (f : Formula) : Prop :=
  match f with
  | number _ => True
  | add g h | sub g h | mul g h | div g h =>
    g.value.isFinite = true → h.value.isFinite = true → f.value.isFinite = true
  | sqrt g => g.value.isFinite = true → f.value.isFinite = true

/-- No operation of the formula overflows, divides by zero or takes a square root of a number below
zero. -/
def IsRegular (f : Formula) : Prop :=
  f.Fits ∧ match f with
    | number _ => True
    | add g h | sub g h | mul g h => g.IsRegular ∧ h.IsRegular
    | div g h => g.IsRegular ∧ h.IsRegular ∧ (h.value == 0.0) = false
    | sqrt g => g.IsRegular ∧ ¬ g.value < 0.0

theorem isRegular_number (x : Float) : IsRegular (number x) := ⟨trivial, trivial⟩

/-- All numbers that the formula starts from are finite. -/
def OfFinite : Formula → Prop
  | number x => x.isFinite = true
  | add f g | sub f g | mul f g | div f g => f.OfFinite ∧ g.OfFinite
  | sqrt f => f.OfFinite

theorem isFinite_of_isRegular {f : Formula} (regular : f.IsRegular) (finite : f.OfFinite) :
    f.value.isFinite = true := by
  induction f with
  | number x => exact finite
  | add f g first second | sub f g first second | mul f g first second =>
    obtain ⟨fits, regularF, regularG⟩ := regular
    exact fits (first regularF finite.1) (second regularG finite.2)
  | div f g first second =>
    obtain ⟨fits, regularF, regularG, -⟩ := regular
    exact fits (first regularF finite.1) (second regularG finite.2)
  | sqrt f operand =>
    obtain ⟨fits, regularF, -⟩ := regular
    exact fits (operand regularF finite)

end Formula

/-! ## Operands of a finite result

What is not finite stays so under all operations but one: a finite number divided by an infinity is zero.
-/

variable {spec : Float.Model.Format} {x y : UnpackedFloat} {a b : Float}

theorem isFinite_neg (x : UnpackedFloat) : x.neg.isFinite = x.isFinite := by
  cases x <;> rfl

theorem operands_finite_of_add (finite : (UnpackedFloat.add spec x y).isFinite = true) :
    x.isFinite = true ∧ y.isFinite = true := by
  cases x with
  | notANumber => cases y <;> cases finite
  | infinity s =>
    cases y with
    | infinity t => cases s <;> cases t <;> cases finite
    | notANumber | zero | finite => cases finite
  | zero | finite =>
    cases y with
    | zero | finite => exact ⟨rfl, rfl⟩
    | notANumber | infinity => cases finite

theorem operands_finite_of_mul (finite : (UnpackedFloat.mul spec x y).isFinite = true) :
    x.isFinite = true ∧ y.isFinite = true := by
  cases x with
  | notANumber | infinity => cases y <;> cases finite
  | zero | finite =>
    cases y with
    | zero | finite => exact ⟨rfl, rfl⟩
    | notANumber | infinity => cases finite

theorem dividend_finite (finite : (UnpackedFloat.div spec x y).isFinite = true) :
    x.isFinite = true := by
  cases x with
  | zero | finite => rfl
  | notANumber | infinity => cases y <;> cases finite

theorem radicand_finite (finite : (UnpackedFloat.sqrt spec x).isFinite = true) :
    x.isFinite = true := by
  cases x with
  | zero | finite => rfl
  | notANumber => cases finite
  | infinity s => cases s <;> cases finite

theorem isFinite_of_unpack_pack (finite : (Float.Model.pack x).unpack.isFinite = true) :
    x.isFinite = true := by
  cases x with
  | notANumber => cases finite
  | infinity s => cases s <;> cases finite
  | zero | finite => rfl

theorem isFinite_of_add (finite : (a + b).isFinite = true) :
    a.isFinite = true ∧ b.isFinite = true :=
  operands_finite_of_add (isFinite_of_unpack_pack finite)

theorem isFinite_of_sub (finite : (a - b).isFinite = true) :
    a.isFinite = true ∧ b.isFinite = true := by
  have finite := isFinite_of_unpack_pack finite
  rw [sub_eq_add_neg] at finite
  obtain ⟨first, second⟩ := operands_finite_of_add finite
  rw [isFinite_neg] at second
  exact ⟨first, second⟩

theorem isFinite_of_mul (finite : (a * b).isFinite = true) :
    a.isFinite = true ∧ b.isFinite = true :=
  operands_finite_of_mul (isFinite_of_unpack_pack finite)

theorem isFinite_of_div (finite : (a / b).isFinite = true) : a.isFinite = true :=
  dividend_finite (isFinite_of_unpack_pack finite)

theorem isFinite_of_sqrt (finite : a.sqrt.isFinite = true) : a.isFinite = true :=
  radicand_finite (isFinite_of_unpack_pack finite)

/-! ## Powers of two for a formula -/

namespace Formula

/-- The formula is regular, and its value is at most `2 ^ k` on either side of zero if it is finite. -/
structure Held (f : Formula) (k : Int) : Prop where
  regular : f.IsRegular
  within : f.value.isFinite = true → Within k f.value.toModel.unpack

variable {f g : Formula} {j k l : Int}

theorem Held.mono (held : f.Held j) (le : j ≤ k) : f.Held k :=
  ⟨held.regular, fun finite => (held.within finite).mono le⟩

theorem held_number {x : Float} (within : x.isFinite = true → Within k x.toModel.unpack) :
    Held x k :=
  ⟨isRegular_number x, within⟩

theorem Held.add (first : f.Held k) (second : g.Held k) (room : -1023 ≤ k) (high : k ≤ 970) :
    (f + g).Held (k + 1) := by
  have room : (-1022 : Int) ≤ k + 1 := by omega
  have high : k + 1 ≤ 971 := by omega
  have low : Float.Model.Format.binary64.minExponent ≤ k + 1 := by
    change (-1074 : Int) ≤ k + 1
    omega
  have sum (finite : f.value.isFinite = true) (finiteG : g.value.isFinite = true) :
      Within (k + 1) (f.value + g.value).toModel.unpack :=
    ((first.within finite).add (second.within finiteG) low).unpack_pack room high
  refine ⟨⟨fun finite finiteG => (sum finite finiteG).isFinite, first.regular, second.regular⟩,
    fun finite => ?_⟩
  obtain ⟨finiteF, finiteG⟩ := isFinite_of_add finite
  exact sum finiteF finiteG

theorem Held.sub (first : f.Held k) (second : g.Held k) (room : -1023 ≤ k) (high : k ≤ 970) :
    (f - g).Held (k + 1) := by
  have room : (-1022 : Int) ≤ k + 1 := by omega
  have high : k + 1 ≤ 971 := by omega
  have low : Float.Model.Format.binary64.minExponent ≤ k + 1 := by
    change (-1074 : Int) ≤ k + 1
    omega
  have difference (finite : f.value.isFinite = true) (finiteG : g.value.isFinite = true) :
      Within (k + 1) (f.value - g.value).toModel.unpack :=
    ((first.within finite).sub (second.within finiteG) low).unpack_pack room high
  refine ⟨⟨fun finite finiteG => (difference finite finiteG).isFinite, first.regular,
    second.regular⟩, fun finite => ?_⟩
  obtain ⟨finiteF, finiteG⟩ := isFinite_of_sub finite
  exact difference finiteF finiteG

theorem Held.mul (first : f.Held j) (second : g.Held k) (room : -1022 ≤ j + k)
    (high : j + k ≤ 971) : (f * g).Held (j + k) := by
  have low : Float.Model.Format.binary64.minExponent ≤ j + k := by
    change (-1074 : Int) ≤ j + k
    omega
  have product (finite : f.value.isFinite = true) (finiteG : g.value.isFinite = true) :
      Within (j + k) (f.value * g.value).toModel.unpack :=
    ((first.within finite).mul (second.within finiteG) low).unpack_pack room high
  refine ⟨⟨fun finite finiteG => (product finite finiteG).isFinite, first.regular, second.regular⟩,
    fun finite => ?_⟩
  obtain ⟨finiteF, finiteG⟩ := isFinite_of_mul finite
  exact product finiteF finiteG

theorem Held.div {s : Sign} {n : Nat} {e : Int} {pos : 0 < n} (first : f.Held j)
    (divisor : g.IsRegular) (unpacked : g.value.toModel.unpack = .finite s n e pos)
    (lower : 2 ^ l ≤ magnitude n e) (room : -1022 ≤ j - l) (high : j - l ≤ 971) :
    (f / g).Held (j - l) := by
  have low : Float.Model.Format.binary64.minExponent ≤ j - l := by
    change (-1074 : Int) ≤ j - l
    omega
  have quotient (finite : f.value.isFinite = true) :
      Within (j - l) (f.value / g.value).toModel.unpack := by
    have exact := (first.within finite).div pos lower low s
    rw [← unpacked] at exact
    exact exact.unpack_pack room high
  have notZero : (g.value == 0.0) = false := by
    change UnpackedFloat.beq _ _ = false
    rw [unpacked, unpack_wide_zero]
    cases s <;> rfl
  exact ⟨⟨fun finite _ => (quotient finite).isFinite, first.regular, divisor, notZero⟩,
    fun finite => quotient (isFinite_of_div finite)⟩

theorem Held.sqrt (held : f.Held (2 * k)) (notBelow : ¬ f.value < 0.0) (room : -1022 ≤ k)
    (high : k ≤ 971) : f.sqrt.Held k := by
  have low : Float.Model.Format.binary64.minExponent ≤ k := by
    change (-1074 : Int) ≤ k
    omega
  have root (finite : f.value.isFinite = true) : Within k f.value.sqrt.toModel.unpack :=
    ((held.within finite).sqrt (nonNegative_iff.mpr notBelow) low).unpack_pack room high
  exact ⟨⟨fun finite => (root finite).isFinite, held.regular, notBelow⟩,
    fun finite => root (isFinite_of_sqrt finite)⟩

end Formula

end TrackTimer.Binary
