import TunnelKeeper.Decimal.Shortest

/-!
Texts of floating-point numbers. Both notations write the shortest decimal that reads back, and
always a decimal point or an exponent; they differ in the size from which on an exponent is used.
-/

namespace TunnelKeeper.Decimal

/-- The digits of a number around its decimal point: `digits * 10 ^ scale` without exponent. -/
def positional (digits : Nat) (scale : Int) : List Char :=
  let ds := Nat.toDigits 10 digits
  if 0 ≤ scale then ds ++ List.replicate scale.toNat '0' ++ ['.', '0']
  else
    let places := (-scale).toNat
    let padded := List.replicate (places + 1 - ds.length) '0' ++ ds
    padded.take (padded.length - places) ++ '.' :: padded.drop (padded.length - places)

/-- The first digit, the others behind the point, and an exponent with its sign. -/
def scientific (digits : Nat) (scale : Int) : List Char :=
  let ds := Nat.toDigits 10 digits
  let exponent := scale + (ds.length - 1 : Nat)
  let fraction := match ds.drop 1 with
    | [] => []
    | rest => '.' :: rest
  let size := Nat.toDigits 10 exponent.natAbs
  ds.take 1 ++ fraction ++ ['e', if exponent < 0 then '-' else '+'] ++
    List.replicate (2 - size.length) '0' ++ size

/-- The text of a float, given how its digits are laid out. -/
def floatText (layout : Nat → Int → List Char) (x : Float) : String :=
  let bits := x.toBits
  if x.isNaN then "NaN"
  else
    let sign := if bits.toNat < Nat.pow 2 63 then "" else "-"
    if x.isInf then sign ++ "inf"
    else
      let magnitude := Binary.ofBits bits
      if magnitude.significand = 0 then sign ++ "0.0"
      else sign ++ String.ofList (layout magnitude.shortest.1 magnitude.shortest.2)

/-- Without an exponent, however long that is. -/
def plainText : Float → String := floatText positional

/-- With an exponent below `0.0001` and from `10 ^ 16` on. -/
def compactText : Float → String :=
  floatText fun digits scale =>
    let exponent := scale + ((Nat.toDigits 10 digits).length - 1 : Nat)
    if -5 < exponent ∧ exponent < 16 then positional digits scale else scientific digits scale

end TunnelKeeper.Decimal
