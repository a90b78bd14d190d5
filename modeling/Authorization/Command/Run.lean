import Authorization.Command.Parse
import Authorization.Command.Settings
import Authorization.Json.Form
import Authorization.Service.OnCreation
import Authorization.Service.OnDomain
import Authorization.Service.OnResource
import Authorization.Store.Database

namespace Authorization

/-- What a run writes to its two outputs, and its exit code. -/
structure Outcome where
  exitCode : Nat
  stdout : String
  stderr : String
  deriving DecidableEq

namespace Outcome

def success (stdout : String) : Outcome := ⟨0, stdout, ""⟩

/-- A run that failed. The error is told by the word for its kind and its quoted wording. -/
def failure (error : Error) : Outcome :=
  ⟨1, "", "Error: " ++ error.kind.word ++ "(" ++ Text.quoted error.detail ++ ")\n"⟩

def printed (value : Json) : Outcome := success (value.pretty 0 ++ "\n")

end Outcome

namespace Command

/-- The answer to a command; a migration has none. -/
def answer (command : Command) (database : Database) (strategy : ClosureStrategy) :
    Except Error (Option Json) := do
  let backend := Store.backend database
  let service := backend.service strategy
  match command with
  | migrate => return none
  | resourcePermissions accessor accessed =>
    let permissions ← service.effectiveResourcePermissions accessor accessed
    return some (json permissions)
  | checkResource accessor accessed requested =>
    let granted ← service.hasResourcePermissions accessor accessed requested
    return some (json granted)
  | createPermissions accessor (some className) domainName =>
    let permissions ← service.effectiveResourceCreatePermissions accessor className domainName
    return some (json permissions)
  | createPermissions accessor none _ =>
    let overview ← service.createOverview accessor
    return some (Json.ofOverview overview)
  | descendants domainName =>
    let entries ← (backend.cascade strategy).descendantsByLevel domainName
    return some (.record
      [("domain", json domainName), ("descendants", .list (entries.map Json.ofDescendant))])

/-- Reads the settings, connects and answers. -/
def execute (command : Command) (environment : String → Option String) (database : Database) :
    Except Error (Option Json) := do
  let settings ← Settings.load environment
  database.gate .connect
  command.answer database settings.strategy

/-- Runs a command line. A rejected one is not run at all. -/
def run (words : List String) (environment : String → Option String) (database : Database) :
    Except Rejection Outcome := do
  let command ← parse words
  match command.execute environment database with
  | .error error => return .failure error
  | .ok none => return .success ""
  | .ok (some value) => return .printed value

end Command

end Authorization
