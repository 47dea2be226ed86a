import StrategyDeploy.Expression.Basic

/-! Composition: entrypoints rendered with their words substituted. -/
namespace StrategyDeploy.Expression

/-- Why composition failed. -/
inductive ComposeError where
  | missingEntrypoint (name : String)
  | unboundBinding (name message : String)
  deriving Repr, DecidableEq, Inhabited

def ComposeError.message : ComposeError → String
  | .missingEntrypoint name => s!"Entrypoint not found in expression: {name}"
  | .unboundBinding name message => s!"Binding {name} has no value: {message}"

/-- Supplied binding values; a later entry for a name overrides an earlier one. -/
abbrev Bindings := List (String × String)

def Bindings.get? (b : Bindings) (name : String) : Option String :=
  (b.reverse.find? (·.1 == name)).map (·.2)

def orderEntrypoints : List String := ["calculate-io", "handle-io"]

def postTaskEntrypoint : String := "handle-add-order"

def code? (e : Expression) (name : String) : Option String :=
  e.sections.findSome? fun s =>
    match s.body with
    | .code text => if s.name == name then some text else none
    | _ => none

/-- What a word becomes: `none` keeps it. -/
def resolve (e : Expression) (b : Bindings) (word : String) :
    Except ComposeError (Option String) :=
  match e.sections.find? (·.name == word) with
  | none => .ok none
  | some s =>
    match s.body with
    | .code _ => .ok none
    | .literal value => .ok (some ((b.get? word).getD value))
    | .elided message =>
      match b.get? word with
      | some value => .ok (some value)
      | none => .error (.unboundBinding word message)

/-- A finished word, substituted. -/
def flushWord (e : Expression) (b : Bindings) (word : List Char) :
    Except ComposeError (List Char) :=
  if word.isEmpty then .ok []
  else
    let w := String.ofList word.reverse
    match e.resolve b w with
    | .ok (some value) => .ok value.toList
    | .ok none => .ok word.reverse
    | .error err => .error err

/-- Substitutes the words of code; `word` holds the current word, reversed. -/
def substituteFrom (e : Expression) (b : Bindings) (word : List Char) :
    List Char → Except ComposeError (List Char)
  | [] => e.flushWord b word
  | c :: rest =>
    if isWordChar c then e.substituteFrom b (c :: word) rest
    else do
      let done ← e.flushWord b word
      let after ← e.substituteFrom b [] rest
      pure (done ++ c :: after)

/-- Code with every word substituted. -/
def substitute (e : Expression) (b : Bindings) (code : String) :
    Except ComposeError String :=
  (e.substituteFrom b [] code.toList).map String.ofList

def renderEntrypoint (e : Expression) (b : Bindings) (index : Nat) (name : String) :
    Except ComposeError String :=
  match e.code? name with
  | none => .error (.missingEntrypoint name)
  | some code => do
    let text ← e.substitute b code
    pure s!"/* {index}. {name} */ \n{text}"

def renderFrom (e : Expression) (b : Bindings) (index : Nat) :
    List String → Except ComposeError (List String)
  | [] => .ok []
  | name :: rest => do
    let first ← e.renderEntrypoint b index name
    let others ← e.renderFrom b (index + 1) rest
    pure (first :: others)

/-- The composed text of the entrypoints, separated by blank lines. -/
def compose (e : Expression) (b : Bindings) (entrypoints : List String) :
    Except ComposeError String :=
  (e.renderFrom b 0 entrypoints).map ("\n\n".intercalate)

end StrategyDeploy.Expression
