/-!
# Hexadecimal digits

Reading accepts both letter cases; writing uses lower case.
-/

namespace CiFront.Text.Hex

/-- The value of one hexadecimal digit. -/
def digit? (c : Char) : Option Nat :=
  if '0' ≤ c ∧ c ≤ '9' then some (c.toNat - '0'.toNat)
  else if 'a' ≤ c ∧ c ≤ 'f' then some (c.toNat - 'a'.toNat + 10)
  else if 'A' ≤ c ∧ c ≤ 'F' then some (c.toNat - 'A'.toNat + 10)
  else none

/-- Reads digits on top of the value `n` of the digits before them. -/
def valueFrom? : Nat → List Char → Option Nat
  | n, [] => some n
  | n, c :: rest =>
    match digit? c with
    | some d => valueFrom? (16 * n + d) rest
    | none => none

/-- The value of a run of hexadecimal digits; `none` if some character is not one. -/
def value? (s : List Char) : Option Nat :=
  valueFrom? 0 s

/-- The lower-case digit of a value below sixteen. -/
def digitChar (n : Nat) : Char :=
  if n < 10 then Char.ofNat ('0'.toNat + n) else Char.ofNat ('a'.toNat + (n - 10))

/-- The digits of a number, without leading zeros. -/
def digits (n : Nat) : List Char :=
  if n < 16 then [digitChar n] else digits (n / 16) ++ [digitChar (n % 16)]
termination_by n

/-- The digits of a number with zeros in front, at least `width` of them. -/
def padded (width n : Nat) : List Char :=
  let ds := digits n
  List.replicate (width - ds.length) '0' ++ ds

end CiFront.Text.Hex
