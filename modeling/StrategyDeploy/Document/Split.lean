import StrategyDeploy.Text.Blank
import StrategyDeploy.Text.Lines

/-! A deployment document is TOML front matter, a separator line and an expression body. -/
namespace StrategyDeploy.Document

open StrategyDeploy.Text

/-- Whether a segment is a separator line. -/
def IsSeparator (seg : List Char) : Bool := trimChars seg == ['-', '-', '-']

def splitSegments (front : List Char) : List (List Char) → Option (List Char × List Char)
  | [] => none
  | seg :: rest =>
    if IsSeparator seg then some (front, rest.flatten) else splitSegments (front ++ seg) rest

/-- Front matter and body of a document. -/
def splitFrontMatter (source : String) : String × String :=
  match splitSegments [] (segments source.toList) with
  | some (front, body) => (String.ofList front, String.ofList body)
  | none => (source, "")

end StrategyDeploy.Document
