import HealthPanel.Url.Ipv4

/-!
# IPv6 addresses

An address is eight pieces of sixteen bits, written in hexadecimal with colons between them. A
run of zero pieces may be left out once, and the last two pieces may be written as an IPv4
address.
-/

namespace HealthPanel.Url

/-- An IPv6 address, by its eight pieces. -/
structure Ipv6 where
  pieces : List Nat
  deriving DecidableEq

namespace Ipv6

/-- One to four hexadecimal digits as a piece. -/
def piece? (digits : List Char) : Option Nat :=
  if digits = [] ∨ 4 < digits.length then none else Ipv4.ofDigits? 16 digits

/-- One of the four bytes of an IPv4 address: a decimal number without a zero in front. -/
def byte? (digits : List Char) : Option Nat :=
  if digits = [] ∨ (digits.head? = some '0' ∧ 1 < digits.length) then none
  else (Ipv4.ofDigits? 10 digits).filter (· < 256)

/-- The last piece as written: digits, or an IPv4 address of two pieces. -/
def lastPieces? (text : List Char) : Option (List Nat) :=
  if '.' ∈ text then
    match (text.splitOn '.').mapM byte? with
    | some [a, b, c, d] => some [a * 256 + b, c * 256 + d]
    | _ => none
  else (piece? text).map ([·])

/-- Pieces with colons between them. No text has no pieces. -/
def pieces? (mayEndInIpv4 : Bool) (text : List Char) : Option (List Nat) :=
  if text = [] then some []
  else
    let groups := text.splitOn ':'
    match groups.dropLast.mapM piece?, groups.getLast? with
    | some pieces, some last =>
      if mayEndInIpv4 then (lastPieces? last).map (pieces ++ ·)
      else (piece? last).map (pieces ++ [·])
    | _, _ => none

/-- Splits a text at the first two colons in a row. -/
def splitAtGap : List Char → Option (List Char × List Char)
  | ':' :: ':' :: rest => some ([], rest)
  | c :: rest => (splitAtGap rest).map fun (before, after) => (c :: before, after)
  | [] => none

/-- The address that a text writes. -/
def ofText? (text : List Char) : Option Ipv6 :=
  match splitAtGap text with
  | none =>
    ((pieces? true text).filter fun pieces => pieces.length = 8).map Ipv6.mk
  | some (before, after) => do
    let front ← pieces? false before
    let back ← pieces? true after
    if 7 < front.length + back.length then none
    else return ⟨front ++ List.replicate (8 - front.length - back.length) 0 ++ back⟩

/-- A piece in lower-case hexadecimal. -/
def pieceText (piece : Nat) : String :=
  String.ofList (Nat.toDigits 16 piece)

/-- The length of the run of zeros in front. -/
def zerosInFront (pieces : List Nat) : Nat :=
  (pieces.takeWhile (· = 0)).length

/-- The place and length of the first longest run of zeros. -/
def longestGap (pieces : List Nat) : Nat × Nat :=
  (List.range pieces.length).foldl (fun best i =>
    let length := zerosInFront (pieces.drop i)
    if best.2 < length then (i, length) else best) (0, 0)

/-- The address in brackets, its longest run of two or more zeros left out. -/
def render (ip : Ipv6) : String :=
  let join (pieces : List Nat) := ":".intercalate (pieces.map pieceText)
  let (start, length) := longestGap ip.pieces
  if length < 2 then "[" ++ join ip.pieces ++ "]"
  else "[" ++ join (ip.pieces.take start) ++ "::" ++ join (ip.pieces.drop (start + length)) ++ "]"

end Ipv6

end HealthPanel.Url
