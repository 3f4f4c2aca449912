import HealthPanel.Decimal.Shortest

/-!
# Layouts of a decimal number

A layout says how the shortest decimal of a double is written: which magnitudes are positional,
whether a whole number keeps a final `.0`, how an exponent is marked, and where a tie goes.
-/

namespace HealthPanel.Decimal

/-- The decisions a format makes about the text of a number. -/
structure Layout where
  /-- The number is positional when its point falls after this many digits or fewer. -/
  pointAtMost : Option Nat
  /-- The number is positional when fewer zeros than this follow the point. -/
  leadingZerosBelow : Option Nat
  /-- What a whole number carries after its digits. -/
  wholeSuffix : String
  /-- What stands between digits and a non-negative exponent. -/
  exponentMark : String
  tie : Tie

/-- The digits of a number in positional form, its point after `point` digits. -/
def positional (layout : Layout) (digits : List Char) (point : Int) : String :=
  if point ≤ 0 then "0." ++ String.ofList (List.replicate (-point).toNat '0' ++ digits)
  else if digits.length ≤ point then
    String.ofList (digits ++ List.replicate (point.toNat - digits.length) '0')
      ++ layout.wholeSuffix
  else
    String.ofList (digits.take point.toNat) ++ "." ++ String.ofList (digits.drop point.toNat)

/-- The digits of a number in scientific form, one digit before the point. -/
def scientific (layout : Layout) (digits : List Char) (point : Int) : String :=
  let exponent := point - 1
  let mantissa := match digits with
    | [] => ""
    | [d] => String.ofList [d]
    | d :: rest => String.ofList (d :: '.' :: rest)
  mantissa ++ (if 0 ≤ exponent then layout.exponentMark ++ toString exponent
    else "e" ++ toString exponent)

/-- Whether a number whose point stands after `point` digits is written positionally. -/
def Layout.isPositional (layout : Layout) (point : Int) : Bool :=
  layout.pointAtMost.all (fun most => point ≤ most) &&
    layout.leadingZerosBelow.all (fun zeros => -point < zeros)

/-- The text of a decimal. -/
def Layout.decimal (layout : Layout) (d : Decimal) : String :=
  if d.significand = 0 then "0" ++ layout.wholeSuffix
  else
    let digits := Nat.toDigits 10 d.significand
    let point := digits.length + d.exponent
    if layout.isPositional point then positional layout digits point
    else scientific layout digits point

/-- The text of the magnitude of a finite double. -/
def Layout.magnitude (layout : Layout) (x : Float) : String :=
  layout.decimal ((Dyadic.ofFloat x).shortest layout.tie)

/-- The text of the double next to a whole number. -/
def Layout.whole (layout : Layout) (n : Nat) : String :=
  layout.decimal ((Dyadic.ofNat n).shortest layout.tie)

/-- The sign bit of a double. -/
def isNegative (x : Float) : Bool :=
  UInt64.size / 2 ≤ x.toBits.toNat

/-- The text of a double. -/
def Layout.render (layout : Layout) (x : Float) : String :=
  if x.isNaN then "NaN"
  else
    let magnitude := if x.isInf then "inf" else layout.magnitude x
    if isNegative x then "-" ++ magnitude else magnitude

/-- Every digit is written out, and a whole number has no point. -/
def Layout.plain : Layout :=
  { pointAtMost := none, leadingZerosBelow := none, wholeSuffix := "", exponentMark := "e",
    tie := .up }

/-- Every digit is written out, and a whole number keeps one place after its point. -/
def Layout.pointed : Layout :=
  { Layout.plain with wholeSuffix := ".0" }

end HealthPanel.Decimal
