/-! JSON documents as the command line prints them. -/
namespace StrategyDeploy.Text

/-- A JSON document. -/
inductive JsonDoc where
  | null
  | bool (b : Bool)
  | number (n : Nat)
  | string (s : String)
  | array (items : List JsonDoc)
  | object (entries : List (String × JsonDoc))
  deriving Repr, Inhabited

def JsonDoc.ofOption : Option String → JsonDoc
  | some s => .string s
  | none => .null

/-- The characters standing for one character inside a JSON string. -/
def jsonEscape (c : Char) : List Char :=
  let n := c.toNat
  if c = '"' then ['\\', '"']
  else if c = '\\' then ['\\', '\\']
  else if c = '\n' then ['\\', 'n']
  else if c = '\r' then ['\\', 'r']
  else if c = '\t' then ['\\', 't']
  else if n = 8 then ['\\', 'b']
  else if n = 12 then ['\\', 'f']
  else if n < 32 then
    let hex := fun (d : Nat) => if d < 10 then Char.ofNat (48 + d) else Char.ofNat (87 + d)
    ['\\', 'u', '0', '0', hex (n / 16), hex (n % 16)]
  else [c]

def jsonString (s : String) : String :=
  String.ofList ('"' :: (s.toList.flatMap jsonEscape ++ ['"']))

def indentation (level : Nat) : String := String.ofList (List.replicate (2 * level) ' ')

mutual

/-- A document printed at nesting level `level`. -/
def JsonDoc.pretty (level : Nat) : JsonDoc → String
  | .null => "null"
  | .bool b => if b then "true" else "false"
  | .number n => toString n
  | .string s => jsonString s
  | .array [] => "[]"
  | .array (x :: xs) =>
    "[\n" ++ prettyItems (level + 1) (x :: xs) ++ "\n" ++ indentation level ++ "]"
  | .object [] => "{}"
  | .object (e :: es) =>
    "\x7b\n" ++ prettyEntries (level + 1) (e :: es) ++ "\n" ++ indentation level ++ "\x7d"

def prettyItems (level : Nat) : List JsonDoc → String
  | [] => ""
  | [x] => indentation level ++ x.pretty level
  | x :: xs => indentation level ++ x.pretty level ++ ",\n" ++ prettyItems level xs

def prettyEntries (level : Nat) : List (String × JsonDoc) → String
  | [] => ""
  | [(k, v)] => indentation level ++ jsonString k ++ ": " ++ v.pretty level
  | (k, v) :: es => indentation level ++ jsonString k ++ ": " ++ v.pretty level ++ ",\n" ++
    prettyEntries level es

end

def JsonDoc.render (d : JsonDoc) : String := d.pretty 0

end StrategyDeploy.Text
