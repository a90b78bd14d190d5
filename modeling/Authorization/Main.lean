import Authorization.Command.Run

namespace Authorization

/-- The environment variables that settings come from. -/
def settingNames : List String :=
  ["DATABASE_URL", "DATABASE_MAX_CONNECTIONS", "CLOSURE_STRATEGY"]

/-- The commands, one on a line. -/
def usage : String :=
  "Usage: authorization <command>\n" ++
    String.join (Command.Name.all.map fun name => "  " ++ name.word ++ "\n")

/-- Writes what a command line says, and gives the exit code. -/
def report (result : Except Rejection Outcome) : IO UInt32 := do
  match result with
  | .error rejection =>
    if rejection.exitCode = 0 then IO.print usage else IO.eprint usage
    return rejection.exitCode.toUInt32
  | .ok outcome =>
    IO.print outcome.stdout
    IO.eprint outcome.stderr
    return outcome.exitCode.toUInt32

end Authorization

/-- Looks up the settings, runs the command line and reports. -/
def main (args : List String) : IO UInt32 := do
  let settings ← Authorization.settingNames.filterMapM fun name => do
    let value ← IO.getEnv name
    return value.map (name, ·)
  Authorization.report (Authorization.Command.run args (fun name => settings.lookup name) {})
