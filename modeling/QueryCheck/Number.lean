/-! Numbers: doubles as stored, decimals rounded to them, and the texts that numbers are
written as. -/
namespace QueryCheck

/-! Double-precision numbers as their stored bits: a sign and a 63-bit magnitude.
Magnitudes are ordered like the absolute values they stand for, so the largest
finite number is the one just below infinity, and everything above infinity is
a NaN. Powers are written `Nat.pow`, the same power whatever is imported. -/

structure Binary64 where
  negative : Bool
  magnitude : Nat
  bounded : magnitude < Nat.pow 2 63
  deriving DecidableEq

namespace Binary64

def infinity : Nat := 2047 * Nat.pow 2 52

def ofBits (word : Nat) : Binary64 :=
  ⟨word.testBit 63, word % Nat.pow 2 63, Nat.mod_lt _ (by decide)⟩

def toBits (x : Binary64) : Nat :=
  (if x.negative then Nat.pow 2 63 else 0) + x.magnitude

def isFinite (x : Binary64) : Bool := x.magnitude < infinity

def isInfinite (x : Binary64) : Bool := x.magnitude = infinity

def isNaN (x : Binary64) : Bool := infinity < x.magnitude

/-- How many doublings of the smallest subnormal separate neighbouring numbers
around a finite magnitude: none among subnormals and the first normal numbers. -/
def doublings (magnitude : Nat) : Nat := magnitude / Nat.pow 2 52 - 1

-- In steps of `2 ^ doublings` smallest subnormals.
def significand (magnitude : Nat) : Nat := magnitude - doublings magnitude * Nat.pow 2 52

/-- The exact value of a finite magnitude, counted in smallest subnormals
(`2 ^ -1074`). -/
def units (magnitude : Nat) : Nat := significand magnitude * Nat.pow 2 (doublings magnitude)

end Binary64

/-! Decimals with any number of digits and any exponent, and the double nearest to
each. Rounding is exact: the value is counted in smallest subnormals as a
quotient of naturals, and that quotient is rounded once. The two shortcuts for
huge exponents give what the exact quotient would give. -/

structure Decimal where
  negative : Bool
  digits : Nat
  exponent : Int
  deriving DecidableEq

namespace Binary64

def roundHalfEven (numerator denominator : Nat) : Nat :=
  let quotient := numerator / denominator
  let twice := 2 * (numerator % denominator)
  if twice < denominator then quotient
  else if denominator < twice then quotient + 1
  else quotient + quotient % 2

/-- The magnitude nearest to `numerator / denominator`. The quotient is rounded to
53 significant bits, or to whole subnormals where there are fewer; a carry into
the next power of two, or into infinity, needs no case of its own because
magnitudes count on through it. -/
def nearest (numerator denominator : Nat) : Nat :=
  let scaled := numerator * Nat.pow 2 1074
  let dropped := Nat.log2 (scaled / denominator) - 52
  min infinity
    (dropped * Nat.pow 2 52 + roundHalfEven scaled (denominator * Nat.pow 2 dropped))

/-- The magnitude nearest to `digits × 10 ^ exponent`. From `10 ^ 310` on every
nonzero value is infinite, and below `2 ^ -1075` every value is zero. -/
def nearestDecimal (digits : Nat) (exponent : Int) : Nat :=
  if digits = 0 then 0
  else if 0 ≤ exponent then
    if 310 ≤ exponent then infinity
    else nearest (digits * Nat.pow 10 exponent.toNat) 1
  else if (Nat.log2 digits : Int) + 1 + 3 * exponent < -1075 then 0
  else nearest digits (Nat.pow 10 (-exponent).toNat)

theorem nearest_le_infinity (numerator denominator : Nat) :
    nearest numerator denominator ≤ infinity :=
  Nat.min_le_left _ _

theorem nearestDecimal_le_infinity (digits : Nat) (exponent : Int) :
    nearestDecimal digits exponent ≤ infinity := by
  unfold nearestDecimal
  split
  · exact Nat.zero_le _
  · split
    · split
      · exact Nat.le_refl _
      · exact nearest_le_infinity _ _
    · split
      · exact Nat.zero_le _
      · exact nearest_le_infinity _ _

end Binary64

-- A zero keeps the sign of the decimal.
def Decimal.toBinary64 (d : Decimal) : Binary64 where
  negative := d.negative
  magnitude := Binary64.nearestDecimal d.digits d.exponent
  bounded := Nat.lt_of_le_of_lt (Binary64.nearestDecimal_le_infinity _ _) (by decide)

/-! The fewest decimal digits that read back as a given finite number. Grids of
multiples of a power of ten are tried from coarse to fine. On each grid only the
two neighbours of the exact value can be the answer; the first grid where one of
them reads back is the coarsest, so its digits are the fewest. -/

inductive Tie where
  | up
  | toEven
  deriving DecidableEq

structure DecimalDigits where
  digits : Nat
  exponent : Int
  deriving DecidableEq

namespace DecimalDigits

def readsBackAs (d : DecimalDigits) (magnitude : Nat) : Bool :=
  Binary64.nearestDecimal d.digits d.exponent = magnitude

abbrev ReadingBack (magnitude : Nat) :=
  { d : DecimalDigits // d.readsBackAs magnitude = true }

-- The quotient of a finite magnitude's exact value by `10 ^ exponent`.
def quotient (magnitude : Nat) (exponent : Int) : Nat × Nat :=
  (Binary64.units magnitude * Nat.pow 10 (-exponent).toNat,
    Nat.pow 2 1074 * Nat.pow 10 exponent.toNat)

-- The value lies `remainder / denominator` above `lower`.
def prefersUpper (tie : Tie) (lower remainder denominator : Nat) : Bool :=
  if 2 * remainder < denominator then false
  else if denominator < 2 * remainder then true
  else match tie with
    | .up => true
    | .toEven => lower % 2 = 1

/-- The digits on the grid of multiples of `10 ^ exponent` that read back as
`magnitude`, the nearer ones if there are two. -/
def onGrid? (tie : Tie) (magnitude : Nat) (exponent : Int) : Option (ReadingBack magnitude) :=
  let (numerator, denominator) := quotient magnitude exponent
  let lower : DecimalDigits := ⟨numerator / denominator, exponent⟩
  let upper : DecimalDigits := ⟨numerator / denominator + 1, exponent⟩
  if low : lower.readsBackAs magnitude then
    if both : upper.readsBackAs magnitude ∧
        prefersUpper tie lower.digits (numerator % denominator) denominator then
      some ⟨upper, both.1⟩
    else some ⟨lower, low⟩
  else if high : upper.readsBackAs magnitude then some ⟨upper, high⟩
  else none

def firstAnswer? {α : Type} (grid? : Int → Option α) : Nat → Int → Option α
  | 0, _ => none
  | count + 1, exponent =>
      match grid? exponent with
      | some found => some found
      | none => firstAnswer? grid? count (exponent - 1)

def coarsest? (tie : Tie) (magnitude count : Nat) (exponent : Int) :
    Option (ReadingBack magnitude) :=
  firstAnswer? (onGrid? tie magnitude) count exponent

/-- The exponent of a power of ten that lies above every decimal that reads back as a
nonzero magnitude, and at most a hundred times above it. -/
def ceilingExponent (magnitude : Nat) : Int :=
  ((Nat.log2 (Binary64.units magnitude) : Int) - 1072) * 30103 / 100000 + 1

def exact (magnitude : Nat) : DecimalDigits :=
  ⟨Binary64.units magnitude * Nat.pow 5 1074, -1074⟩

/-- The fewest digits that read back as a finite magnitude. Seventeen digits always
suffice, so twenty grids from the ceiling hold an answer. -/
def shortest (tie : Tie) (magnitude : Nat) : DecimalDigits :=
  if magnitude = 0 then ⟨0, 0⟩
  else
    ((coarsest? tie magnitude 20 (ceilingExponent magnitude)).map Subtype.val).getD
      (exact magnitude)

end DecimalDigits

/-! Number texts. Both formats write the fewest digits that read back, choose
positional or scientific writing by the exponent of the first digit, and differ
only in what a `NumberFormat` decides: from which exponent of the first digit up to
which a number is written positionally, whether a single scientific digit has `.0`
behind it, whether a positive exponent has a plus sign, and which of two equally near
decimals is taken. -/

structure NumberFormat where
  lowestPositional : Int
  highestPositional : Int
  wholeFraction : Bool
  plusSign : Bool
  tie : Tie

namespace NumberFormat

-- Positional from `0.0001` up to sixteen digits, always with a fraction.
def plain : NumberFormat where
  lowestPositional := -4
  highestPositional := 15
  wholeFraction := true
  plusSign := false
  tie := .up

-- Positional from `0.00001` up to sixteen digits; exponents always carry a sign.
def json : NumberFormat where
  lowestPositional := -5
  highestPositional := 15
  wholeFraction := false
  plusSign := true
  tie := .toEven

def zeros (count : Nat) : List Char := List.replicate count '0'

def positional (figures : List Char) (exponent : Int) : List Char :=
  if 0 ≤ exponent then figures ++ zeros exponent.toNat ++ ['.', '0']
  else
    let places := (-exponent).toNat
    if places < figures.length then
      figures.take (figures.length - places) ++ '.' :: figures.drop (figures.length - places)
    else '0' :: '.' :: zeros (places - figures.length) ++ figures

def exponentText (format : NumberFormat) (exponent : Int) : List Char :=
  let sign := if exponent < 0 then ['-'] else if format.plusSign then ['+'] else []
  'e' :: sign ++ Nat.toDigits 10 exponent.natAbs

def scientific (format : NumberFormat) (figures : List Char) (exponent : Int) : List Char :=
  let fraction :=
    match figures.drop 1 with
    | [] => if format.wholeFraction then ['.', '0'] else []
    | more => '.' :: more
  figures.take 1 ++ fraction ++ format.exponentText exponent

def magnitudeText (format : NumberFormat) (magnitude : Nat) : List Char :=
  let shortest := DecimalDigits.shortest format.tie magnitude
  let figures := Nat.toDigits 10 shortest.digits
  let leading := shortest.exponent + figures.length - 1
  if format.lowestPositional ≤ leading ∧ leading ≤ format.highestPositional then
    positional figures shortest.exponent
  else format.scientific figures leading

def finiteText (format : NumberFormat) (x : Binary64) : List Char :=
  (if x.negative then ['-'] else []) ++ format.magnitudeText x.magnitude

end NumberFormat

def Binary64.text (x : Binary64) : String :=
  if x.isNaN then "NaN"
  else if x.isInfinite then (if x.negative then "-Infinity" else "Infinity")
  else String.ofList (NumberFormat.plain.finiteText x)

end QueryCheck
