import TrustFederation.Client.ScriptedWeb
import TrustFederation.Command.Program
/-!
# The program

Reads the command line and the environment, runs the command and writes what comes of it.
There is no way to the web from here: every request finds no answer, and so no answer
depends on the time.
-/

open TrustFederation

/-- The variables that are set, with their values. -/
def readEnvironment : IO Settings.Environment := do
  let mut found := []
  for name in Settings.variableNames do
    if let some value ← IO.getEnv name then
      found := found ++ [(name, value)]
  return found

/-- Runs the command line. -/
def main (arguments : List String) : IO UInt32 := do
  let environment ← readEnvironment
  let web := Client.ScriptedWeb.web
  let (outcome, _) := Command.runArguments arguments environment web (.empty false) 0
  IO.print outcome.output
  IO.eprint outcome.complaint
  return UInt32.ofNat outcome.exitCode
