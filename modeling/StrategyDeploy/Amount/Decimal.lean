/-! Decimal numbers with a 96-bit mantissa and at most 28 fractional digits, read from text. -/
namespace StrategyDeploy.Amount

/-- A decimal: `(-1) ^ negative * mantissa / 10 ^ scale`. -/
structure Decimal where
  negative : Bool
  mantissa : Nat
  scale : Nat
  deriving Repr, DecidableEq

def mantissaBound : Nat := Nat.pow 2 96

def maxScale : Nat := 28

def narrowLimit : Nat := (Nat.pow 2 64 - 1) / 10 - 255

def roundingLength : Nat := 18

def digit? (c : Char) : Option Nat :=
  if '0' ≤ c && c ≤ '9' then some (c.toNat - '0'.toNat) else none

def Decimal.finish (negative seen : Bool) (mantissa scale : Nat) : Option Decimal :=
  if seen then some ⟨negative, mantissa, scale⟩ else none

def tailAllowed (rest : List Char) : Bool := rest.all fun c => (digit? c).isSome || c = '_'

/-- Rounds half up at `next`, the first character not kept; `rest`, what follows it, must be
digits and underscores. -/
def Decimal.roundAt (negative : Bool) (mantissa scale : Nat) (next : Char) (rest : List Char) :
    Option Decimal :=
  let d? := if next = '_' then some 0 else digit? next
  match d?, tailAllowed rest with
  | none, _ | _, false => none
  | some d, true =>
    if d < 5 then some ⟨negative, mantissa, scale⟩
    else if mantissa + 1 < mantissaBound then some ⟨negative, mantissa + 1, scale⟩
    else if scale = 0 then none
    else some ⟨negative, (mantissa + 1 + 4) / 10, scale - 1⟩

/-- Reading with a mantissa that no longer fits 64 bits; `pending` says that the next
character decides the rounding, or the first after it when it is an underscore. -/
def Decimal.readWide (pending point negative : Bool) (mantissa scale : Nat) :
    List Char → Option Decimal
  | [] => Decimal.finish negative true mantissa scale
  | c :: rest =>
    if pending then
      if c = '_' then
        match rest.dropWhile (· = '_') with
        | [] => Decimal.finish negative true mantissa scale
        | next :: tail => Decimal.roundAt negative mantissa scale next tail
      else Decimal.roundAt negative mantissa scale c rest
    else
      match digit? c with
      | some d =>
        let next := 10 * mantissa + d
        if mantissaBound ≤ next then
          if point then Decimal.roundAt negative mantissa scale c rest else none
        else
          let scale' := if point then scale + 1 else scale
          Decimal.readWide (point && maxScale ≤ scale') point negative next scale' rest
      | none =>
        if c = '.' && !point then Decimal.readWide false true negative mantissa scale rest
        else if c = '_' then Decimal.readWide false point negative mantissa scale rest
        else none

/-- Reading with a mantissa that fits 64 bits; `long` says whether rounding may be needed,
`first` whether no character was read yet, `pending` that the next character rounds. -/
def Decimal.readNarrow (long point negative seen first pending : Bool) (mantissa scale : Nat) :
    List Char → Option Decimal
  | [] => Decimal.finish negative seen mantissa scale
  | c :: rest =>
    if pending then Decimal.roundAt negative mantissa scale c rest
    else
      match digit? c with
      | some d =>
        let m := 10 * mantissa + d
        let scale' := if point then scale + 1 else 0
        if point && long && maxScale ≤ scale' then
          Decimal.readNarrow long point negative true false true m scale' rest
        else if long && narrowLimit ≤ m then Decimal.readWide false point negative m scale' rest
        else Decimal.readNarrow long point negative true false false m scale' rest
      | none =>
        if c = '.' && !point then
          Decimal.readNarrow long true negative seen false false mantissa scale rest
        else if c = '-' && first && !seen then
          Decimal.readNarrow long false true false false false mantissa scale rest
        else if c = '+' && first && !seen then
          Decimal.readNarrow long false false false false false mantissa scale rest
        else if c = '_' && seen then
          Decimal.readNarrow long point negative true false false mantissa scale rest
        else none

/-- Reads a decimal without an exponent. -/
def Decimal.parsePlain? (s : String) : Option Decimal :=
  Decimal.readNarrow (roundingLength ≤ s.utf8ByteSize) false false false true false 0 0 s.toList

/-- An unsigned 32-bit count: an optional plus sign and at least one digit. -/
def parseCount? (cs : List Char) : Option Nat :=
  let digits := match cs with
    | '+' :: rest => rest
    | _ => cs
  if digits.isEmpty || !digits.all (fun c => (digit? c).isSome) then none
  else
    let n := digits.foldl (fun acc c => 10 * acc + ((digit? c).getD 0)) 0
    if n < Nat.pow 2 32 then some n else none

/-- Drops trailing digits of a mantissa, rounding half up, until it fits; `none` when it
cannot fit at scale zero. -/
def Decimal.fit (negative : Bool) (mantissa scale : Nat) : Nat → Option Decimal
  | 0 => none
  | fuel + 1 =>
    if mantissa < mantissaBound then some ⟨negative, mantissa, scale⟩
    else if scale = 0 then none
    else Decimal.fit negative ((mantissa + 5) / 10) (scale - 1) fuel

/-- Moves the point of `d` by a power of ten. -/
def Decimal.shift (d : Decimal) (negativeExponent : Bool) (e : Nat) : Option Decimal :=
  if negativeExponent then
    if maxScale < e then none
    else if d.scale + e ≤ maxScale then some { d with scale := d.scale + e }
    else
      let p := Nat.pow 10 (d.scale + e - maxScale)
      some ⟨d.negative, (d.mantissa + p / 2) / p, maxScale⟩
  else if e ≤ d.scale then some { d with scale := d.scale - e }
  else if maxScale < e then none
  else Decimal.fit d.negative (d.mantissa * Nat.pow 10 e) d.scale (d.scale + 1)

/-- Reads a decimal from text, with an optional exponent after `e` or `E`. -/
def Decimal.parse? (s : String) : Option Decimal :=
  match s.toList.span (fun c => c ≠ 'e' && c ≠ 'E') with
  | (_, []) => Decimal.parsePlain? s
  | (base, _ :: exponent) => do
    let d ← Decimal.parsePlain? (String.ofList base)
    match exponent with
    | '-' :: digits => d.shift true (← parseCount? digits)
    | _ => d.shift false (← parseCount? exponent)

def Decimal.scaledTo (a : Decimal) (otherScale : Nat) : Int :=
  let magnitude : Int := a.mantissa * Int.pow 10 otherScale
  if a.negative then -magnitude else magnitude

/-- Whether `a` is less than `b` as numbers; a negative zero equals zero. -/
def Decimal.lt (a b : Decimal) : Bool := decide (a.scaledTo b.scale < b.scaledTo a.scale)

end StrategyDeploy.Amount
