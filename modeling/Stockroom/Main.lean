import Stockroom.CommandLine.Preview

/-!
# The command line

Reads the settings from the environment and shows what a command would ask of
the database.
-/

open Stockroom
open Stockroom.CommandLine

/-- The environment as a lookup by key. -/
def environment : IO (String → Option String) := do
  let mut entries : List (String × String) := []
  for key in Settings.keys do
    if let some value ← IO.getEnv key then
      entries := (key, value) :: entries
  return fun key => entries.lookup key

def main (args : List String) : IO UInt32 := do
  match Command.parse args with
  | .error fault =>
      if fault.isRequest then
        IO.println fault.message
        return 0
      IO.eprintln fault.message
      return 2
  | .ok command =>
      let settings := (Settings.load (← environment)).mapError ServiceFault.ofSetting
      match settings.bind fun settings => command.preview settings.limits with
      | .ok json =>
          IO.println json.render
          return 0
      | .error fault =>
          IO.eprintln (fault.code ++ ": " ++ fault.message)
          return 1
