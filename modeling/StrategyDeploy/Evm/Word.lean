/-! 256-bit words written as decimal, hexadecimal, octal or binary text. -/
namespace StrategyDeploy.Evm

def wordBound : Nat := Nat.pow 2 256

def digitValue? (c : Char) : Option Nat :=
  if '0' ≤ c && c ≤ '9' then some (c.toNat - '0'.toNat)
  else if 'a' ≤ c && c ≤ 'z' then some (c.toNat - 'a'.toNat + 10)
  else if 'A' ≤ c && c ≤ 'Z' then some (c.toNat - 'A'.toNat + 10)
  else none

def digitsInBase (base : Nat) (acc : Nat) : List Char → Option Nat
  | [] => some acc
  | '_' :: rest => digitsInBase base acc rest
  | c :: rest =>
    match digitValue? c with
    | some d => if d < base then digitsInBase base (base * acc + d) rest else none
    | none => none

def basePrefix : List Char → Nat × List Char
  | '0' :: 'x' :: rest | '0' :: 'X' :: rest => (16, rest)
  | '0' :: 'o' :: rest | '0' :: 'O' :: rest => (8, rest)
  | '0' :: 'b' :: rest | '0' :: 'B' :: rest => (2, rest)
  | cs => (10, cs)

/-- Reads a 256-bit word from its text. -/
def parseWord? (s : String) : Option Nat :=
  let (base, digits) := basePrefix s.toList
  match digitsInBase base 0 digits with
  | some n => if n < wordBound then some n else none
  | none => none

end StrategyDeploy.Evm
