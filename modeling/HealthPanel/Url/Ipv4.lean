/-!
# IPv4 addresses

An address is written as one to four numbers with full stops between them, each in decimal,
octal or hexadecimal; the last number fills all the bytes that the others leave. A domain name
whose last label is such a number must be an address.
-/

namespace HealthPanel.Url

/-- An IPv4 address. -/
structure Ipv4 where
  address : UInt32
  deriving DecidableEq

namespace Ipv4

/-- The digit of a character in the given base. -/
def digit? (base : Nat) (c : Char) : Option Nat :=
  let n := c.toNat
  let value? :=
    if 0x30 ≤ n ∧ n ≤ 0x39 then some (n - 0x30)
    else if 0x61 ≤ n ∧ n ≤ 0x66 then some (n - 0x57)
    else if 0x41 ≤ n ∧ n ≤ 0x46 then some (n - 0x37)
    else none
  value?.filter (· < base)

/-- The number that digits write in the given base. No digits write zero. -/
def ofDigits? (base : Nat) (digits : List Char) : Option Nat :=
  digits.foldlM (fun n c => (digit? base c).map (n * base + ·)) 0

/-- The number that a part of an address writes. -/
def number? : List Char → Option Nat
  | [] => none
  | '0' :: 'x' :: digits => ofDigits? 16 digits
  | '0' :: 'X' :: digits => ofDigits? 16 digits
  | '0' :: c :: digits => ofDigits? 8 (c :: digits)
  | digits => ofDigits? 10 digits

/-- The parts of a domain name, a full stop at its end left out. -/
def parts (domain : String) : List (List Char) :=
  let all := domain.toList.splitOn '.'
  if all.getLast? = some [] then all.dropLast else all

/-- Whether a domain name ends in a number and so must be an address. -/
def endsInNumber (domain : String) : Bool :=
  match (parts domain).getLast? with
  | none => false
  | some last => (last ≠ [] && last.all fun c => '0' ≤ c && c ≤ '9') || (number? last).isSome

/-- The number of an address whose bytes are the given numbers, the last one filling the
rest. -/
def combine : Nat → List Nat → Option Nat
  | _, [] => none
  | bytes, [last] => if last < Nat.pow 256 bytes then some last else none
  | bytes, n :: rest =>
    if n < 256 then (combine (bytes - 1) rest).map (n * Nat.pow 256 (bytes - 1) + ·) else none

/-- The address that a domain name writes. -/
def ofDomain? (domain : String) : Option Ipv4 := do
  let numbers ← (parts domain).mapM number?
  if 4 < numbers.length then none
  else return ⟨(← combine 4 numbers).toUInt32⟩

/-- The address as four decimal numbers. -/
def render (ip : Ipv4) : String :=
  let n := ip.address.toNat
  ".".intercalate ([n / 0x1000000, n / 0x10000 % 256, n / 256 % 256, n % 256].map toString)

end Ipv4

end HealthPanel.Url
