import StrategyDeploy.Text.Blank
import StrategyDeploy.Text.Escaped
import StrategyDeploy.Evm.Word

/-! Amounts: decimal text in human units against whole numbers of a token's smallest unit. -/
namespace StrategyDeploy.Amount

open StrategyDeploy.Text StrategyDeploy.Evm

/-- Why an amount could not be converted. -/
inductive EncodingError where
  | invalidAmount (text : String)
  | precisionLoss (amount : String) (decimals : Nat)
  | overflow (amount : String) (decimals : Nat)
  deriving Repr, DecidableEq, Inhabited

def EncodingError.message : EncodingError → String
  | .invalidAmount text => "Invalid amount: " ++ quote text
  | .precisionLoss amount d => s!"Amount {amount} has more than {d} fractional digits"
  | .overflow amount d => s!"Amount {amount} overflows 256 bits at {d} decimals"

def isDigit (c : Char) : Bool := '0' ≤ c && c ≤ '9'

def digitsValue (cs : List Char) : Nat :=
  cs.foldl (fun acc c => 10 * acc + (c.toNat - '0'.toNat)) 0

/-- The parts before and after the first point; no point gives an empty fraction. -/
def splitPoint (cs : List Char) : List Char × List Char :=
  match cs.span (· ≠ '.') with
  | (whole, []) => (whole, [])
  | (whole, _ :: fraction) => (whole, fraction)

def dropTrailingZeros (cs : List Char) : List Char :=
  (cs.reverse.dropWhile (· = '0')).reverse

def IsPlainDecimal (whole fraction : List Char) : Bool :=
  !(whole.isEmpty && fraction.isEmpty) && whole.all isDigit && fraction.all isDigit

/-- Reads a decimal amount in human units as a whole number of `10 ^ -decimals` units. -/
def parseUnits (amount : String) (decimals : Nat) : Except EncodingError Nat :=
  let (whole, fraction) := splitPoint (trim amount).toList
  if !IsPlainDecimal whole fraction then .error (.invalidAmount amount)
  else
    let significant := dropTrailingZeros fraction
    if decimals < significant.length then .error (.precisionLoss amount decimals)
    else
      let padded := whole ++ significant ++ List.replicate (decimals - significant.length) '0'
      let digits := padded.dropWhile (· = '0')
      if digits.isEmpty then .ok 0
      else if digitsValue digits < wordBound then .ok (digitsValue digits)
      else .error (.overflow amount decimals)

def maxDecimals : Nat := 77

def padDigits (width n : Nat) : List Char :=
  let ds := Nat.toDigits 10 n
  List.replicate (width - ds.length) '0' ++ ds

/-- Writes a whole number of units as the canonical decimal text in human units. -/
def formatUnits (value decimals : Nat) : Except EncodingError String :=
  if maxDecimals < decimals then .error (.invalidAmount s!"\"{decimals}\" is not a valid unit")
  else
    let whole := value / Nat.pow 10 decimals
    let fraction := dropTrailingZeros (padDigits decimals (value % Nat.pow 10 decimals))
    if fraction.isEmpty then .ok (toString whole)
    else .ok (toString whole ++ "." ++ String.ofList fraction)

end StrategyDeploy.Amount
