/-!
# Rounding to binary places

Numbers with 53 binary places, as double precision keeps them.  A rounded value
is a mantissa and a power of two; a tie goes to the even mantissa.
-/

namespace Keychart.Number

def twoPow (n : Nat) : Nat := Nat.pow 2 n

def tenPow (n : Nat) : Nat := Nat.pow 10 n

def precision : Nat := 53

/-- The integer next to a quotient; a tie goes to the even one. -/
def divNearestEven (numerator denominator : Nat) : Nat :=
  let quotient := numerator / denominator
  let twice := 2 * (numerator % denominator)
  if denominator < twice || (twice = denominator && quotient % 2 = 1) then quotient + 1
  else quotient

/-- A natural number rounded to its 53 leading binary places. -/
def roundNat (n : Nat) : Nat :=
  let unit := twoPow (n.log2 + 1 - precision)
  divNearestEven n unit * unit

/-- An integer rounded to its 53 leading binary places. -/
def roundInt : Int → Int
  | .ofNat n => Int.ofNat (roundNat n)
  | .negSucc n => -Int.ofNat (roundNat (n + 1))

/-- The value of a number in double precision. -/
inductive Double where
  /-- The mantissa times a power of two. -/
  | finite (negative : Bool) (mantissa : Nat) (exponent : Int)
  | infinite (negative : Bool)
  | notANumber
deriving DecidableEq, Repr

namespace Double

def scaledRound (numerator denominator : Nat) (exponent : Int) : Nat :=
  if 0 ≤ exponent then divNearestEven numerator (denominator * twoPow exponent.toNat)
  else divNearestEven (numerator * twoPow (-exponent).toNat) denominator

/-- The power of two of the last mantissa place of a quotient; the smallest
numbers share one. -/
def lastPlace (numerator denominator : Nat) : Int :=
  let guess : Int := (numerator.log2 : Int) - denominator.log2 - 52
  let short :=
    if 0 ≤ guess then numerator < denominator * twoPow (guess + 52).toNat
    else if 0 ≤ guess + 52 then numerator < denominator * twoPow (guess + 52).toNat
    else numerator * twoPow (-(guess + 52)).toNat < denominator
  max (-1074) (if short then guess - 1 else guess)

def ofRatio (negative : Bool) (numerator denominator : Nat) : Double :=
  if numerator = 0 then finite negative 0 0
  else
    let exponent := lastPlace numerator denominator
    let mantissa := scaledRound numerator denominator exponent
    if 1024 ≤ (mantissa.log2 : Int) + exponent then infinite negative
    else finite negative mantissa exponent

/-- The double next to a decimal number, given by its digits and the power of
ten of the last of them. -/
def ofDecimal (negative : Bool) (digits : Nat) (exponent : Int) : Double :=
  let magnitude : Int := (Nat.toDigits 10 digits).length + exponent
  if digits = 0 || magnitude < -330 then finite negative 0 0
  else if 310 < magnitude then infinite negative
  else if 0 ≤ exponent then ofRatio negative (digits * tenPow exponent.toNat) 1
  else ofRatio negative digits (tenPow (-exponent).toNat)

def toInt? : Double → Option Int
  | finite negative mantissa exponent =>
    let magnitude? : Option Nat :=
      if 0 ≤ exponent then some (mantissa * twoPow exponent.toNat)
      else
        let unit := twoPow (-exponent).toNat
        if mantissa % unit = 0 then some (mantissa / unit) else none
    magnitude?.map fun magnitude => if negative then -(magnitude : Int) else magnitude
  | _ => none

end Double

end Keychart.Number
