import StrategyDeploy.Toml.Value

/-! TOML scalars and keys, read by step scanners that return the rest of the input. -/
namespace StrategyDeploy.Toml

/-- A scanner: the value read from the front of the input and the rest, or `none`. -/
abbrev Scan (α : Type) := List Char → Option (α × List Char)

def isWs (c : Char) : Bool := c = ' ' || c = '\t'

def skipWs (cs : List Char) : List Char := cs.dropWhile isWs

def isNonAscii (c : Char) : Bool := 0x80 ≤ c.toNat

def isCommentChar (c : Char) : Bool :=
  c = '\t' || (0x20 ≤ c.toNat && c.toNat ≤ 0x7E) || isNonAscii c

def newline? : List Char → Option (List Char)
  | '\n' :: rest => some rest
  | '\r' :: '\n' :: rest => some rest
  | _ => none

def commentRest? : List Char → Option (List Char)
  | [] => some []
  | '\n' :: rest => some ('\n' :: rest)
  | '\r' :: '\n' :: rest => some ('\r' :: '\n' :: rest)
  | c :: rest => if isCommentChar c then commentRest? rest else none

/-- The end of a line after an expression: blanks, an optional comment, a line ending or the
end of input. Returns what follows the line. -/
def lineEnd? (cs : List Char) : Option (List Char) := do
  let cs := skipWs cs
  let cs ← match cs with
    | '#' :: rest => commentRest? rest
    | _ => some cs
  match cs with
  | [] => some []
  | _ => newline? cs

/-- Blanks, comments and line endings, as between array items; `inComment` inside a comment. -/
def skipLayout (inComment : Bool) : List Char → Option (List Char)
  | [] => some []
  | '\n' :: rest => skipLayout false rest
  | '\r' :: '\n' :: rest => skipLayout false rest
  | c :: rest =>
    if inComment then (if isCommentChar c then skipLayout true rest else none)
    else if isWs c then skipLayout false rest
    else if c = '#' then skipLayout true rest
    else some (c :: rest)

/-! ### Strings -/

def hexValue? (cs : List Char) : Option Nat :=
  cs.foldlM (fun acc c =>
    if '0' ≤ c && c ≤ '9' then some (16 * acc + (c.toNat - '0'.toNat))
    else if 'a' ≤ c && c ≤ 'f' then some (16 * acc + (c.toNat - 'a'.toNat + 10))
    else if 'A' ≤ c && c ≤ 'F' then some (16 * acc + (c.toNat - 'A'.toNat + 10))
    else none) 0

def scalar? (n : Nat) : Option Char :=
  if n < 0xD800 || (0xE000 ≤ n && n ≤ 0x10FFFF) then some (Char.ofNat n) else none

def isBasicPlain (c : Char) : Bool :=
  isWs c || c.toNat = 0x21 || (0x23 ≤ c.toNat && c.toNat ≤ 0x5B) ||
    (0x5D ≤ c.toNat && c.toNat ≤ 0x7E) || isNonAscii c

def isLiteralChar (c : Char) : Bool :=
  c = '\t' || (0x20 ≤ c.toNat && c.toNat ≤ 0x26) || (0x28 ≤ c.toNat && c.toNat ≤ 0x7E) ||
    isNonAscii c

/-- The character of a one-letter escape. -/
def shortEscape? (c : Char) : Option Char :=
  match c with
  | 'b' => some '\x08'
  | 't' => some '\t'
  | 'n' => some '\n'
  | 'f' => some '\x0c'
  | 'r' => some '\r'
  | '"' => some '"'
  | '\\' => some '\\'
  | _ => none

/-- The body of a basic string after its opening quote; `acc` holds the text reversed. -/
def basicBody (acc : List Char) : List Char → Option (String × List Char)
  | [] => none
  | '"' :: rest => some (String.ofList acc.reverse, rest)
  | '\\' :: 'u' :: a :: b :: c :: d :: rest =>
    match (hexValue? [a, b, c, d]).bind scalar? with
    | some ch => basicBody (ch :: acc) rest
    | none => none
  | '\\' :: 'U' :: a :: b :: c :: d :: e :: f :: g :: h :: rest =>
    match (hexValue? [a, b, c, d, e, f, g, h]).bind scalar? with
    | some ch => basicBody (ch :: acc) rest
    | none => none
  | '\\' :: e :: rest =>
    match shortEscape? e with
    | some ch => basicBody (ch :: acc) rest
    | none => none
  | c :: rest => if isBasicPlain c then basicBody (c :: acc) rest else none

def literalBody (acc : List Char) : List Char → Option (String × List Char)
  | [] => none
  | '\'' :: rest => some (String.ofList acc.reverse, rest)
  | c :: rest => if isLiteralChar c then literalBody (c :: acc) rest else none

/-- Where a multiline basic string stands after a backslash that ends a line. -/
inductive LineJoin where
  | none
  | pending
  | trimming

/-- The body of a multiline basic string after its opening quotes and first line ending. -/
def mlBasicBody (join : LineJoin) (acc : List Char) : List Char → Option (String × List Char)
  | [] => none
  | '\n' :: rest =>
    match join with
    | .none => mlBasicBody .none ('\n' :: acc) rest
    | _ => mlBasicBody .trimming acc rest
  | '\r' :: '\n' :: rest =>
    match join with
    | .none => mlBasicBody .none ('\n' :: acc) rest
    | _ => mlBasicBody .trimming acc rest
  | '"' :: '"' :: '"' :: '"' :: '"' :: '"' :: _ => none
  | '"' :: '"' :: '"' :: '"' :: '"' :: rest =>
    match join with
    | .pending => none
    | _ => some (String.ofList ('"' :: '"' :: acc).reverse, rest)
  | '"' :: '"' :: '"' :: '"' :: rest =>
    match join with
    | .pending => none
    | _ => some (String.ofList ('"' :: acc).reverse, rest)
  | '"' :: '"' :: '"' :: rest =>
    match join with
    | .pending => none
    | _ => some (String.ofList acc.reverse, rest)
  | '\\' :: 'u' :: a :: b :: c :: d :: rest =>
    match join, (hexValue? [a, b, c, d]).bind scalar? with
    | .pending, _ => none
    | _, some ch => mlBasicBody .none (ch :: acc) rest
    | _, none => none
  | '\\' :: 'U' :: a :: b :: c :: d :: e :: f :: g :: h :: rest =>
    match join, (hexValue? [a, b, c, d, e, f, g, h]).bind scalar? with
    | .pending, _ => none
    | _, some ch => mlBasicBody .none (ch :: acc) rest
    | _, none => none
  | '\\' :: '\r' :: '\n' :: rest =>
    match join with
    | .pending => none
    | _ => mlBasicBody .trimming acc rest
  | '\\' :: e :: rest =>
    match join with
    | .pending => none
    | _ =>
      if isWs e then mlBasicBody .pending acc rest
      else if e = '\n' then mlBasicBody .trimming acc rest
      else
        match shortEscape? e with
        | some ch => mlBasicBody .none (ch :: acc) rest
        | none => none
  | c :: rest =>
    if isWs c then
      match join with
      | .none => mlBasicBody .none (c :: acc) rest
      | j => mlBasicBody j acc rest
    else
      match join with
      | .pending => none
      | _ => if isBasicPlain c then mlBasicBody .none (c :: acc) rest else none

/-- The body of a multiline literal string after its opening apostrophes and first line ending. -/
def mlLiteralBody (acc : List Char) : List Char → Option (String × List Char)
  | [] => none
  | '\'' :: '\'' :: '\'' :: '\'' :: '\'' :: '\'' :: _ => none
  | '\'' :: '\'' :: '\'' :: '\'' :: '\'' :: rest =>
    some (String.ofList ('\'' :: '\'' :: acc).reverse, rest)
  | '\'' :: '\'' :: '\'' :: '\'' :: rest => some (String.ofList ('\'' :: acc).reverse, rest)
  | '\'' :: '\'' :: '\'' :: rest => some (String.ofList acc.reverse, rest)
  | '\n' :: rest => mlLiteralBody ('\n' :: acc) rest
  | '\r' :: '\n' :: rest => mlLiteralBody ('\n' :: acc) rest
  | c :: rest => if isLiteralChar c then mlLiteralBody (c :: acc) rest else none

def dropFirstNewline : List Char → List Char
  | '\n' :: rest => rest
  | '\r' :: '\n' :: rest => rest
  | cs => cs

def string? : Scan String
  | '"' :: '"' :: '"' :: rest => mlBasicBody .none [] (dropFirstNewline rest)
  | '"' :: rest => basicBody [] rest
  | '\'' :: '\'' :: '\'' :: rest => mlLiteralBody [] (dropFirstNewline rest)
  | '\'' :: rest => literalBody [] rest
  | _ => none

/-! ### Keys -/

def isBareKeyChar (c : Char) : Bool := c.isAlphanum || c = '-' || c = '_'

def simpleKey? : Scan String
  | '"' :: rest => basicBody [] rest
  | '\'' :: rest => literalBody [] rest
  | cs =>
    match cs.span isBareKeyChar with
    | ([], _) => none
    | (key, rest) => some (String.ofList key, rest)

/-- The parts of a dotted key after its first part; `fuel` bounds the parts. -/
def dottedRest (fuel : Nat) (acc : List String) (cs : List Char) :
    Option (List String × List Char) :=
  match fuel, skipWs cs with
  | fuel + 1, '.' :: rest =>
    match simpleKey? (skipWs rest) with
    | some (key, rest') => dottedRest fuel (key :: acc) rest'
    | none => none
  | _, _ => some (acc.reverse, cs)

def key? (cs : List Char) : Option (List String × List Char) := do
  let (first, rest) ← simpleKey? cs
  dottedRest rest.length [first] rest

/-! ### Numbers -/

def isDigit (c : Char) : Bool := '0' ≤ c && c ≤ '9'

def isHexDigit (c : Char) : Bool := isDigit c || ('a' ≤ c && c ≤ 'f') || ('A' ≤ c && c ≤ 'F')

def digitsFrom (isD : Char → Bool) (acc : List Char) : List Char → Option (List Char × List Char)
  | '_' :: c :: rest => if isD c then digitsFrom isD (c :: acc) rest else none
  | c :: rest => if isD c then digitsFrom isD (c :: acc) rest else some (acc.reverse, c :: rest)
  | [] => some (acc.reverse, [])

def digits1 (isD : Char → Bool) : List Char → Option (List Char × List Char)
  | c :: rest => if isD c then digitsFrom isD [c] rest else none
  | [] => none

def unsignedDec : List Char → Option (List Char × List Char)
  | '0' :: rest => some (['0'], rest)
  | cs => digits1 isDigit cs

def digitsValue (base : Nat) (cs : List Char) : Nat :=
  cs.foldl (fun acc c => base * acc + ((hexValue? [c]).getD 0)) 0

def int64Bound : Nat := Nat.pow 2 63

def prefixedInt (isD : Char → Bool) (base : Nat) (cs : List Char) : Option (Value × List Char) := do
  let (ds, rest) ← digits1 isD cs
  let n := digitsValue base ds
  if n < int64Bound then some (.integer n, rest) else none

def exponent? : List Char → Option (Int × List Char)
  | '+' :: rest => (digits1 isDigit rest).map fun (ds, r) => ((digitsValue 10 ds : Nat), r)
  | '-' :: rest => (digits1 isDigit rest).map fun (ds, r) => (-(digitsValue 10 ds : Nat), r)
  | cs => (digits1 isDigit cs).map fun (ds, r) => ((digitsValue 10 ds : Nat), r)

/-- Whether `m · 10 ^ e` rounds to positive infinity as a double: it is at least the midpoint
between the largest finite double and `2 ^ 1024`. -/
def overflowsDouble (m : Nat) (e : Int) : Bool :=
  let limit := Nat.pow 2 1024 - Nat.pow 2 970
  let width := (Nat.toDigits 10 m).length
  if m = 0 then false
  else if (width : Int) - 1 + e ≥ 309 then true
  else if (width : Int) - 1 + e ≤ 307 then false
  else if 0 ≤ e then m * Nat.pow 10 e.toNat ≥ limit
  else m ≥ limit * Nat.pow 10 (-e).toNat

/-- A float or an integer after its sign; `negative` tells the sign. -/
def decimalNumber (negative : Bool) (cs : List Char) : Option (Value × List Char) := do
  let (whole, rest) ← unsignedDec cs
  -- a float is refused when it would round to positive infinity
  let float (frac : List Char) (e : Int) (r : List Char) : Option (Value × List Char) :=
    if !negative && overflowsDouble (digitsValue 10 (whole ++ frac)) (e - frac.length) then none
    else some (.float, r)
  match rest with
  | '.' :: rest =>
    let (frac, rest) ← digits1 isDigit rest
    match rest with
    | 'e' :: r | 'E' :: r =>
      let (e, r) ← exponent? r
      float frac e r
    | _ => float frac 0 rest
  | 'e' :: r | 'E' :: r =>
    let (e, r) ← exponent? r
    float [] e r
  | _ =>
    let n := digitsValue 10 whole
    if negative then (if n ≤ int64Bound then some (.integer (-(n : Int)), rest) else none)
    else if n < int64Bound then some (.integer n, rest) else none

def specialFloat? : List Char → Option (Value × List Char)
  | 'i' :: 'n' :: 'f' :: rest => some (.float, rest)
  | 'n' :: 'a' :: 'n' :: rest => some (.float, rest)
  | _ => none

/-! ### Dates and times -/

def fixedDigits : Nat → List Char → Option (Nat × List Char)
  | 0, cs => some (0, cs)
  | n + 1, c :: rest =>
    if isDigit c then
      (fixedDigits n rest).map fun (v, r) => ((c.toNat - '0'.toNat) * Nat.pow 10 n + v, r)
    else none
  | _ + 1, [] => none

def daysInMonth (year month : Nat) : Nat :=
  if month = 2 then
    (if year % 4 = 0 && (year % 100 ≠ 0 || year % 400 = 0) then 29 else 28)
  else if month = 4 || month = 6 || month = 9 || month = 11 then 30 else 31

/-- A full date after its year and hyphen: month, hyphen, day, all in range. -/
def dateRest (year : Nat) (cs : List Char) : Option (List Char) := do
  let (month, rest) ← fixedDigits 2 cs
  if month < 1 || 12 < month then none
  let rest ← match rest with
    | '-' :: r => some r
    | _ => none
  let (day, rest) ← fixedDigits 2 rest
  if day < 1 || daysInMonth year month < day then none
  some rest

def hour? (cs : List Char) : Option (Nat × List Char) := do
  let (h, rest) ← fixedDigits 2 cs
  if 23 < h then none else some (h, rest)

/-- A time after its hour and colon: minutes, colon, seconds and an optional fraction. -/
def timeRest (cs : List Char) : Option (List Char) := do
  let (minute, rest) ← fixedDigits 2 cs
  if 59 < minute then none
  let rest ← match rest with
    | ':' :: r => some r
    | _ => none
  let (second, rest) ← fixedDigits 2 rest
  if 60 < second then none
  match rest with
  | '.' :: r =>
    match r.span isDigit with
    | ([], _) => none
    | (_, r') => some r'
  | _ => some rest

/-- A time offset: `Z` or a signed hour and minute. -/
def offset? : List Char → Option (List Char)
  | 'Z' :: rest | 'z' :: rest => some rest
  | '+' :: rest | '-' :: rest => do
    let (_, rest) ← hour? rest
    let rest ← match rest with
      | ':' :: r => some r
      | _ => none
    let (minute, rest) ← fixedDigits 2 rest
    if 59 < minute then none else some rest
  | _ => none

/-- The optional time part of a date-time after its date. -/
def timeAfterDate (cs : List Char) : Option (List Char) :=
  match cs with
  | d :: rest =>
    if d = 'T' || d = 't' || d = ' ' then
      match hour? rest with
      | some (_, ':' :: r) => do
        let r ← timeRest r
        match r with
        | 'Z' :: _ | 'z' :: _ | '+' :: _ | '-' :: _ => offset? r
        | _ => some r
      | _ => some cs
    else some cs
  | [] => some cs

def dateTime? (cs : List Char) : Option (Option (List Char)) :=
  match fixedDigits 4 cs with
  | some (year, '-' :: rest) => some ((dateRest year rest).bind timeAfterDate)
  | _ =>
    match hour? cs with
    | some (_, ':' :: rest) => some (timeRest rest)
    | _ => none

end StrategyDeploy.Toml
