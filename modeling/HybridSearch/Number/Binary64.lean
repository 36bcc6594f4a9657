/-!
# Double-precision numbers

A scalar is kept as its sixty-four bits, so that two scalars are equal exactly when they are
the same bit for bit, the sign of a NaN included. Arithmetic rounds to nearest, ties to even.
An operand that is a NaN is passed on with its sign; an operation without a result gives
the NaN with the sign bit set. `rank` is the total order on all bit patterns.
-/
namespace HybridSearch

structure Binary64 where
  bits : UInt64
  deriving DecidableEq, Repr

namespace Binary64

def ofFloat (x : Float) : Binary64 := ⟨x.toBits⟩

def toFloat (x : Binary64) : Float := Float.ofBits x.bits

instance : Inhabited Binary64 := ⟨⟨0⟩⟩

/-- The eleven bits below the sign. -/
def exponentField (x : Binary64) : Nat := x.bits.toNat / 0x10000000000000 % 0x800

/-- The lowest fifty-two bits. -/
def fractionField (x : Binary64) : Nat := x.bits.toNat % 0x10000000000000

def isNegative (x : Binary64) : Bool := 0x8000000000000000 ≤ x.bits.toNat

def isFinite (x : Binary64) : Bool := x.exponentField != 2047

def isNaN (x : Binary64) : Bool := x.exponentField == 2047 && x.fractionField != 0

def isInfinite (x : Binary64) : Bool := x.exponentField == 2047 && x.fractionField == 0

def zero : Binary64 := ⟨0⟩

def negativeZero : Binary64 := ⟨0x8000000000000000⟩

def one : Binary64 := ⟨0x3ff0000000000000⟩

def infinity : Binary64 := ⟨0x7ff0000000000000⟩

def negativeInfinity : Binary64 := ⟨0xfff0000000000000⟩

def nan : Binary64 := ⟨0x7ff8000000000000⟩

/-- The NaN that stands for the result of an operation that has none. -/
def undefinedResult : Binary64 := ⟨0xfff8000000000000⟩

/-- Flips the sign bit, of a NaN too. -/
def neg (x : Binary64) : Binary64 := ⟨x.bits ^^^ 0x8000000000000000⟩

instance : Neg Binary64 := ⟨neg⟩

/-- A NaN operand as a result: its payload marked quiet. -/
def quiet (x : Binary64) : Binary64 := ⟨x.bits ||| 0x0008000000000000⟩

/-- A number computed from operands that are no NaN. -/
def settle (x : Float) : Binary64 :=
  if (ofFloat x).isNaN then undefinedResult else ofFloat x

/-- An operation of two operands: the first NaN among them is passed on. -/
def binary (op : Float → Float → Float) (x y : Binary64) : Binary64 :=
  if x.isNaN then x.quiet
  else if y.isNaN then y.quiet
  else settle (op x.toFloat y.toFloat)

def add (x y : Binary64) : Binary64 := binary (· + ·) x y

def sub (x y : Binary64) : Binary64 := binary (· - ·) x y

def mul (x y : Binary64) : Binary64 := binary (· * ·) x y

def div (x y : Binary64) : Binary64 := binary (· / ·) x y

instance : Add Binary64 := ⟨add⟩

instance : Sub Binary64 := ⟨sub⟩

instance : Mul Binary64 := ⟨mul⟩

instance : Div Binary64 := ⟨div⟩

def sqrt (x : Binary64) : Binary64 :=
  if x.isNaN then x.quiet else settle x.toFloat.sqrt

def ln (x : Binary64) : Binary64 :=
  if x.isNaN then x.quiet else settle x.toFloat.log

/-- The nearest double, ties to even. -/
def ofNat (n : Nat) : Binary64 := ofFloat (Float.ofNat n)

instance (n : Nat) : OfNat Binary64 n := ⟨ofNat n⟩

def ofInt (n : Int) : Binary64 :=
  match n with
  | .ofNat m => ofNat m
  | .negSucc m => (ofNat (m + 1)).neg

/-- The double nearest to `digits * 10 ^ exponent`, ties to even. Beyond 310 places before the
point every number is infinite, and 330 places after it every number is zero. -/
def ofDecimal (digits : Nat) (exponent : Int) : Binary64 :=
  let point := (Nat.toDigits 10 digits).length + exponent
  if digits = 0 then zero
  else if 310 < point then infinity
  else if point < -330 then zero
  else match exponent with
    | .ofNat e => ofFloat (Float.ofScientific digits false e)
    | .negSucc e => ofFloat (Float.ofScientific digits true (e + 1))

/-- Numeric comparison: false as soon as an operand is a NaN. -/
def lt (x y : Binary64) : Bool := x.toFloat < y.toFloat

def le (x y : Binary64) : Bool := x.toFloat ≤ y.toFloat

/-- Numeric equality: the two zeros are equal, and a NaN equals nothing. -/
def numEq (x y : Binary64) : Bool := x.toFloat == y.toFloat

/-- The integer part, held within zero and `2 ^ 64 - 1`; a NaN gives zero. -/
def toNatClamped (x : Binary64) : Nat := x.toFloat.toUInt64.toNat

/-- The place in the total order: negative patterns below positive ones, larger magnitudes outside.
Different bit patterns have different ranks. -/
def rank (x : Binary64) : Int :=
  if x.isNegative then 0x7fffffffffffffff - (x.bits.toNat : Int) else x.bits.toNat

theorem rank_injective {x y : Binary64} (h : x.rank = y.rank) : x = y := by
  have hx := x.bits.toNat_lt
  have hy := y.bits.toNat_lt
  have key : x.bits.toNat = y.bits.toNat := by
    unfold rank isNegative at h
    split at h <;> split at h <;> simp_all <;> omega
  cases x
  cases y
  simp_all [UInt64.toNat_inj]

def totalCompare (x y : Binary64) : Ordering := compare x.rank y.rank

end Binary64

end HybridSearch
