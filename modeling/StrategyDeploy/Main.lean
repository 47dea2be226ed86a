import StrategyDeploy.App.CommandLine

/-! The program: reads the files a run asks for, runs it, prints its output. -/

open StrategyDeploy

def readIfPresent (path : String) : IO (Option String) := do
  try
    return some (← IO.FS.readFile path)
  catch _ =>
    return none

def main (args : List String) : IO UInt32 := do
  let configVar ← IO.getEnv App.settingsVariable
  let env := fun (k : String) => if k == App.settingsVariable then configVar else none
  let noFiles : App.Surroundings := ⟨fun _ => none, env⟩
  let mut files : List (String × String) := []
  for path in App.filesRead args noFiles do
    if let some text ← readIfPresent path then files := files ++ [(path, text)]
  let found := files
  let surroundings : App.Surroundings := ⟨fun p => (found.find? (·.1 == p)).map (·.2), env⟩
  let (exit, _) := (App.runCommandLine args surroundings Reader.unreachable).run []
  IO.print exit.stdout
  return exit.code.toUInt32
