/-! Lines of a text. -/
namespace StrategyDeploy.Text

def segmentsFrom (acc : List Char) : List Char → List (List Char)
  | [] => if acc.isEmpty then [] else [acc.reverse]
  | c :: rest =>
    if c = '\n' then (c :: acc).reverse :: segmentsFrom [] rest
    else segmentsFrom (c :: acc) rest

def segments (cs : List Char) : List (List Char) := segmentsFrom [] cs

def stripLineEnd (seg : List Char) : List Char :=
  match seg.reverse with
  | '\n' :: '\r' :: rest => rest.reverse
  | '\n' :: rest => rest.reverse
  | _ => seg

def lines (cs : List Char) : List (List Char) := (segments cs).map stripLineEnd

theorem segmentsFrom_flatten (acc cs : List Char) :
    (segmentsFrom acc cs).flatten = acc.reverse ++ cs := by
  induction cs generalizing acc with
  | nil => cases acc <;> simp [segmentsFrom]
  | cons c rest ih =>
    by_cases h : c = '\n'
    · simp [segmentsFrom, h, ih]
    · simp [segmentsFrom, h, ih]

theorem segments_flatten (cs : List Char) : (segments cs).flatten = cs := by
  simp [segments, segmentsFrom_flatten]

end StrategyDeploy.Text
