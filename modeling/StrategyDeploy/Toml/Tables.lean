import StrategyDeploy.Toml.Value

/-! How TOML definitions build the table tree. -/
namespace StrategyDeploy.Toml

/-- One step of a path: a key, or an element of an array of tables. -/
inductive Seg where
  | key (k : String)
  | index (i : Nat)
  deriving DecidableEq, Repr

/-- The path of a definition from the root table. -/
abbrev Path := List Seg

/-- A definition at a path. -/
inductive Entry where
  | value (v : Value)
  | table (opened dotted : Bool)
  | tables (count : Nat)
  deriving Repr

/-- The definitions of a document so far, and the table that key/value lines go to. -/
structure Tables where
  entries : List (Path × Entry) := []
  current : Path := []
  deriving Repr

def Tables.lookup (t : Tables) (p : Path) : Option Entry :=
  (t.entries.find? (·.1 == p)).map (·.2)

def Tables.record (t : Tables) (p : Path) (e : Entry) : Tables :=
  if t.entries.any (·.1 == p) then
    { t with entries := t.entries.map fun (q, old) => if q == p then (q, e) else (q, old) }
  else { t with entries := t.entries ++ [(p, e)] }

def Tables.isDotted (t : Tables) (p : Path) : Bool :=
  match t.lookup p with
  | some (.table _ true) => true
  | _ => false

/-- Walks keys from `base`, making implicit tables, entering the last element of an array of
tables. Dotted keys may not enter an opened table. -/
def Tables.descend (t : Tables) (base : Path) (dotted : Bool) : List String → Option (Tables × Path)
  | [] => some (t, base)
  | k :: ks =>
    let p := base ++ [.key k]
    match t.lookup p with
    | none => (t.record p (.table false dotted)).descend p dotted ks
    | some (.value _) => none
    | some (.tables n) => t.descend (p ++ [.index (n - 1)]) dotted ks
    | some (.table opened _) => if dotted && opened then none else t.descend p dotted ks

/-- Defines `keys.last = v` in the current table; `keys` is the dotted prefix. -/
def Tables.define (t : Tables) (keys : List String) (last : String) (v : Value) : Option Tables := do
  let (t, parent) ← t.descend t.current true keys
  -- a dotted key lands in a table that dotted keys made, a plain key in the current table
  if t.isDotted parent != !keys.isEmpty then none
  let p := parent ++ [.key last]
  if (t.lookup p).isSome then none
  some (t.record p (.value v))

def Tables.openTable (t : Tables) (keys : List String) (last : String) : Option Tables := do
  let (t, parent) ← t.descend [] false keys
  let p := parent ++ [.key last]
  match t.lookup p with
  | none | some (.table false false) => some { t.record p (.table true false) with current := p }
  | _ => none

def Tables.openArrayTable (t : Tables) (keys : List String) (last : String) : Option Tables := do
  let (t, parent) ← t.descend [] false keys
  let p := parent ++ [.key last]
  match t.lookup p with
  | none => some { t.record p (.tables 1) with current := p ++ [.index 0] }
  | some (.tables n) => some { t.record p (.tables (n + 1)) with current := p ++ [.index n] }
  | _ => none

def childKey (p q : Path) : Option String :=
  if q.length = p.length + 1 && q.take p.length == p then
    match q.getLast? with
    | some (.key k) => some k
    | _ => none
  else none

/-- The entries of the table at `p`, in definition order; `fuel` bounds the depth. -/
def Tables.build (t : Tables) : Nat → Path → List (String × Value)
  | 0, _ => []
  | fuel + 1, p =>
    t.entries.filterMap fun (q, e) =>
      (childKey p q).map fun k =>
        match e with
        | .value v => (k, v)
        | .table _ _ => (k, .table (t.build fuel (p ++ [.key k])))
        | .tables n =>
          (k, .array ((List.range n).map fun i => .table (t.build fuel (p ++ [.key k, .index i]))))

def Tables.root (t : Tables) : Value := .table (t.build (t.entries.length + 1) [])

end StrategyDeploy.Toml
