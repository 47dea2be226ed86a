import StrategyDeploy.Toml.Scalar
import StrategyDeploy.Toml.Tables

/-! Reading a TOML document. -/
namespace StrategyDeploy.Toml

def nestingLimit : Nat := 80

/-- A number, date or time that starts with a digit. -/
def unsignedValue? (cs : List Char) : Option (Value × List Char) :=
  match dateTime? cs with
  | some (some rest) => some (.datetime, rest)
  | some none => none
  | none =>
    match cs with
    | '0' :: 'x' :: rest => prefixedInt isHexDigit 16 rest
    | '0' :: 'o' :: rest => prefixedInt (fun c => '0' ≤ c && c ≤ '7') 8 rest
    | '0' :: 'b' :: rest => prefixedInt (fun c => c = '0' || c = '1') 2 rest
    | _ => decimalNumber false cs

def signedValue? (negative : Bool) (cs : List Char) : Option (Value × List Char) :=
  match cs with
  | 'i' :: _ | 'n' :: _ => specialFloat? cs
  | _ => decimalNumber negative cs

mutual

/-- A value at nesting `depth`. -/
def value? : Nat → Nat → Scan Value
  | 0, _, _ => none
  | fuel + 1, depth, cs =>
    match cs with
    | '"' :: _ | '\'' :: _ => (string? cs).map fun (s, r) => (.string s, r)
    | '[' :: rest =>
      if depth + 1 < nestingLimit then arrayItems fuel (depth + 1) [] rest else none
    | '{' :: rest =>
      if depth + 1 < nestingLimit then inlineFirst fuel (depth + 1) (skipWs rest) else none
    | 't' :: 'r' :: 'u' :: 'e' :: rest => some (.boolean true, rest)
    | 'f' :: 'a' :: 'l' :: 's' :: 'e' :: rest => some (.boolean false, rest)
    | 'i' :: _ | 'n' :: _ => specialFloat? cs
    | '+' :: rest => signedValue? false rest
    | '-' :: rest => signedValue? true rest
    | c :: _ => if isDigit c then unsignedValue? cs else none
    | [] => none

/-- Array items after `[` or a comma; `acc` holds the items reversed. -/
def arrayItems : Nat → Nat → List Value → Scan Value
  | 0, _, _, _ => none
  | fuel + 1, depth, acc, cs =>
    match skipLayout false cs with
    | some (']' :: rest) => some (.array acc.reverse, rest)
    | some cs' =>
      match value? fuel depth cs' with
      | some (v, r) =>
        match skipLayout false r with
        | some (',' :: r') => arrayItems fuel depth (v :: acc) r'
        | some (']' :: r') => some (.array (v :: acc).reverse, r')
        | _ => none
      | none => none
    | none => none

def inlineFirst : Nat → Nat → Scan Value
  | 0, _, _ => none
  | _ + 1, _, '}' :: rest => some (.table [], rest)
  | fuel + 1, depth, cs => inlinePairs fuel depth {} cs

/-- Pairs of an inline table; each pair is followed by a comma or the closing brace. -/
def inlinePairs : Nat → Nat → Tables → Scan Value
  | 0, _, _, _ => none
  | fuel + 1, depth, t, cs =>
    match key? cs with
    | some (keys, r) =>
      match skipWs r with
      | '=' :: r =>
        match value? fuel depth (skipWs r) with
        | some (v, r) =>
          match t.define keys.dropLast (keys.getLast?.getD "") v with
          | some t =>
            match skipWs r with
            | ',' :: r => inlinePairs fuel depth t (skipWs r)
            | '}' :: r => some (t.root, r)
            | _ => none
          | none => none
        | none => none
      | _ => none
    | none => none

end

def headerKey? (cs : List Char) : Option (List String × List Char) := do
  let (keys, rest) ← key? (skipWs cs)
  some (keys, skipWs rest)

/-- The lines of a document from `cs` on. -/
def lines? : Nat → Tables → List Char → Option Tables
  | 0, _, _ => none
  | fuel + 1, t, cs =>
    match skipWs cs with
    | [] => some t
    | '\n' :: rest => lines? fuel t rest
    | '\r' :: '\n' :: rest => lines? fuel t rest
    | '#' :: rest => (commentRest? rest).bind fun r => (lineEnd? r).bind (lines? fuel t)
    | '[' :: '[' :: rest => do
      let (keys, r) ← headerKey? rest
      let r ← match r with
        | ']' :: ']' :: r => some r
        | _ => none
      let t ← t.openArrayTable keys.dropLast (keys.getLast?.getD "")
      lines? fuel t (← lineEnd? r)
    | '[' :: rest => do
      let (keys, r) ← headerKey? rest
      let r ← match r with
        | ']' :: r => some r
        | _ => none
      let t ← t.openTable keys.dropLast (keys.getLast?.getD "")
      lines? fuel t (← lineEnd? r)
    | cs' => do
      let (keys, r) ← key? cs'
      let r ← match skipWs r with
        | '=' :: r => some (skipWs r)
        | _ => none
      let (v, r) ← value? (3 * cs'.length + 3) 0 r
      let t ← t.define keys.dropLast (keys.getLast?.getD "") v
      lines? fuel t (← lineEnd? r)

/-- Reads a TOML document into its root table. -/
def parse? (text : String) : Option Value := do
  let cs := match text.toList with
    | '﻿' :: rest => rest
    | cs => cs
  let t ← lines? (cs.length + 1) {} cs
  some t.root

end StrategyDeploy.Toml
