import Skirmish.Number.Binary

/-!
# Single-precision numbers

A number is held by its bits. The floating-point numbers of the language have one NaN only, but the
sign of a NaN counts where numbers are ranked (`Number.rank`), so it must not get lost on the way.

Operations are those of the language wherever a NaN has no part in them. What becomes of a NaN
follows the x86-64 processors (`unary`, `binary`):

* a NaN that goes into an operation comes out of it with its sign, the first one of two;
* an operation without a result, such as `∞ - ∞`, gives the negative NaN.

`magnitude` and `ofMagnitude` take a number apart and put it together. A magnitude whose mantissa
has reached the next power of two needs no repair: the bits that `ofMagnitude` computes carry into
the exponent field by themselves.
-/

namespace Skirmish.Number

/-- A single-precision number of IEEE 754, by its bits. -/
structure Single where
  bits : UInt32
deriving DecidableEq, Repr, Inhabited

namespace Single

/-! ## Bits -/

/-- The value of the leading bit of a mantissa of full width, which the bits leave out. -/
def leadingBit : Nat := 0x800000

/-- Whether the sign bit is set, which it is also for the negative zero and the negative NaN. -/
def isNegative (x : Single) : Bool := 0x80000000 ≤ x.bits.toNat

/-- The bits without the sign. -/
def unsignedBits (x : Single) : Nat := x.bits.toNat % 0x80000000

/-- Whether the number is neither infinite nor a NaN. -/
def isFinite (x : Single) : Bool := unsignedBits x < 0x7f800000

/-- Whether it is no number at all. -/
def isNaN (x : Single) : Bool := 0x7f800000 < unsignedBits x

/-- The absolute value of a finite number. -/
def magnitude (x : Single) : Magnitude :=
  let b := unsignedBits x
  if b < leadingBit then ⟨b, -149⟩
  else ⟨b % leadingBit + leadingBit, (b / leadingBit : Nat) - 150⟩

/-- The number with a given sign and unsigned bits. -/
def ofBits (negative : Bool) (bits : Nat) : Single :=
  ⟨UInt32.ofNat (if negative then 0x80000000 + bits else bits)⟩

/-- The infinity of a sign. -/
def infinity (negative : Bool) : Single := ofBits negative 0x7f800000

/-- The NaN of a sign. -/
def nan (negative : Bool) : Single := ofBits negative 0x7fc00000

/-- The number with a given sign and magnitude. The magnitude is one that `binary32.round` gives:
its mantissa has the leading bit unless its exponent is the smallest. -/
def ofMagnitude (negative : Bool) (x : Magnitude) : Single :=
  ofBits negative ((x.exponent + 149).toNat * leadingBit + x.mantissa)

/-! ## Comparisons -/

/-- The number in the arithmetic of the language, where every NaN is the same. -/
def toFloat (x : Single) : Float32 := Float32.ofBits x.bits

instance : LT Single := ⟨fun x y => x.toFloat < y.toFloat⟩

instance : LE Single := ⟨fun x y => x.toFloat ≤ y.toFloat⟩

instance (x y : Single) : Decidable (x < y) := inferInstanceAs (Decidable (x.toFloat < y.toFloat))

instance (x y : Single) : Decidable (x ≤ y) := inferInstanceAs (Decidable (x.toFloat ≤ y.toFloat))

/-- Whether two numbers have the same value. The two zeros do; a NaN has none. -/
def sameValue (x y : Single) : Bool := x.toFloat == y.toFloat

/-! ## Operations -/

/-- The outcome of an operation of the language: where it has no result, the negative NaN. -/
def ofFloat (x : Float32) : Single := if x.isNaN then nan true else ⟨x.toBits⟩

/-- The NaN that comes out of an operation on a NaN: a signalling one falls silent. -/
def quiet (x : Single) : Single := ⟨x.bits ||| 0x400000⟩

/-- An operation on one number. -/
def unary (f : Float32 → Float32) (x : Single) : Single :=
  if x.isNaN then x.quiet else ofFloat (f x.toFloat)

/-- An operation on two numbers. -/
def binary (f : Float32 → Float32 → Float32) (x y : Single) : Single :=
  if x.isNaN then x.quiet
  else if y.isNaN then y.quiet
  else ofFloat (f x.toFloat y.toFloat)

instance : Add Single := ⟨binary (· + ·)⟩

instance : Sub Single := ⟨binary (· - ·)⟩

instance : Mul Single := ⟨binary (· * ·)⟩

instance : Div Single := ⟨binary (· / ·)⟩

/-- The number with the other sign, also of a zero and of a NaN. -/
instance : Neg Single := ⟨fun x => ⟨x.bits ^^^ 0x80000000⟩⟩

def sqrt : Single → Single := unary Float32.sqrt

def sin : Single → Single := unary Float32.sin

def cos : Single → Single := unary Float32.cos

instance (n : Nat) : OfNat Single n := ⟨ofFloat (OfNat.ofNat n)⟩

instance : OfScientific Single :=
  ⟨fun mantissa negative exponent => ofFloat (OfScientific.ofScientific mantissa negative exponent)⟩

end Single

end Skirmish.Number
