/-!
# Base64

Three bytes are written as four digits of six bits each; one or two bytes at the end are filled up
with equals signs.
-/

namespace HealthPanel.Text

/-- The digits of Base64 in order. -/
def base64Digits : List Char :=
  "ABCDEFGHIJKLMNOPQRSTUVWXYZabcdefghijklmnopqrstuvwxyz0123456789+/".toList

/-- The digit of a number below sixty-four. -/
def base64Digit (n : Nat) : Char :=
  base64Digits.getD (n % 64) '='

/-- Bytes in Base64. -/
def base64 : List UInt8 → List Char
  | [] => []
  | [a] =>
    let n := a.toNat * 16
    [base64Digit (n / 64), base64Digit n, '=', '=']
  | [a, b] =>
    let n := (a.toNat * 256 + b.toNat) * 4
    [base64Digit (n / 4096), base64Digit (n / 64), base64Digit n, '=']
  | a :: b :: c :: rest =>
    let n := (a.toNat * 256 + b.toNat) * 256 + c.toNat
    base64Digit (n / 262144) :: base64Digit (n / 4096) :: base64Digit (n / 64) :: base64Digit n
      :: base64 rest

end HealthPanel.Text
