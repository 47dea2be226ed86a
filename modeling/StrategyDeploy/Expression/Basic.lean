import StrategyDeploy.Text.Blank
import StrategyDeploy.Text.Lines

/-! Expressions: the `#name` sections of a deployment document's body. -/
namespace StrategyDeploy.Expression

open StrategyDeploy.Text

def isWordChar (c : Char) : Bool := c.isAlphanum || c = '-' || c = '_'

/-- What a section holds. -/
inductive SectionBody where
  | code (text : String)
  | literal (value : String)
  | elided (message : String)
  deriving Repr, DecidableEq, Inhabited

/-- A named section of an expression. -/
structure Section where
  name : String
  body : SectionBody
  deriving Repr, DecidableEq, Inhabited

def Section.isCode (s : Section) : Bool :=
  match s.body with
  | .code _ => true
  | _ => false

end StrategyDeploy.Expression

namespace StrategyDeploy

/-- An expression: its sections in document order. -/
structure Expression where
  sections : List Expression.Section
  deriving Repr, DecidableEq, Inhabited

end StrategyDeploy

namespace StrategyDeploy.Expression

open StrategyDeploy.Text

/-- A header line: the section name and the trimmed text after it, if any. -/
structure Header where
  name : List Char
  inline : Option (List Char)

/-- Reads a header line. -/
def parseHeader : List Char → Option Header
  | '#' :: c :: rest =>
    if isWordChar c then
      match (c :: rest).span (fun d => !isBlank d) with
      | (name, []) => some ⟨name, none⟩
      | (name, _ :: after) =>
        let value := trimChars after
        some ⟨name, if value.isEmpty then none else some value⟩
    else none
  | _ => none

def Header.close (h : Header) (body : List (List Char)) : Section :=
  let body := match h.inline with
    | some ('!' :: message) => SectionBody.elided (String.ofList (trimChars message))
    | some value => SectionBody.literal (String.ofList value)
    | none => SectionBody.code (String.ofList (trimChars (List.intercalate ['\n'] body)))
  ⟨String.ofList h.name, body⟩

/-- Sections of the remaining lines; `open` is the current header and its lines, reversed. -/
def sectionsFrom (current : Option (Header × List (List Char))) :
    List (List Char) → List Section
  | [] =>
    match current with
    | some (h, body) => [h.close body.reverse]
    | none => []
  | line :: rest =>
    match parseHeader line, current with
    | some h, some (prev, body) => prev.close body.reverse :: sectionsFrom (some (h, [])) rest
    | some h, none => sectionsFrom (some (h, [])) rest
    | none, some (prev, body) => sectionsFrom (some (prev, line :: body)) rest
    | none, none => sectionsFrom none rest

/-- Reads an expression body. -/
def parse (body : String) : Expression :=
  ⟨sectionsFrom none (lines body.toList)⟩

def hasEntrypoint (e : Expression) (name : String) : Bool :=
  e.sections.any fun s => s.name == name && s.isCode

def declaredBindings (e : Expression) : List String :=
  (e.sections.filter fun s => !s.isCode).map (·.name)

end StrategyDeploy.Expression
