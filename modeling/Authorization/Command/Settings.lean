import Authorization.Hierarchy.Closure

namespace Authorization

structure Settings where
  databaseUrl : String
  maxConnections : UInt32
  strategy : ClosureStrategy
  deriving DecidableEq

namespace Settings

/-- How many connections there may be, if the environment does not tell. -/
def defaultMaxConnections : UInt32 := 5

/-- Reads the number of connections, with blanks around it; it must not be zero. -/
def readMaxConnections (text : Option String) : Except Error UInt32 := do
  let count ← match text with
    | none => .ok defaultMaxConnections
    | some text =>
      (Text.readUInt32 (Text.trim text)).mapError (.invalidMaxConnections text)
  if count = 0 then throw .zeroMaxConnections
  return count

def readStrategy (text : Option String) : Except Error ClosureStrategy :=
  match text with
  | none => .ok .recursive
  | some text => (ClosureStrategy.ofText text).mapError .invalidStrategySetting

/-- Reads the settings: the address of the database, which must not be blank, the number of
connections, and the closure strategy. -/
def load (environment : String → Option String) : Except Error Settings := do
  let databaseUrl ← match environment "DATABASE_URL" with
    | none => .error .missingDatabaseUrl
    | some url => if Text.trim url = "" then .error .missingDatabaseUrl else .ok url
  let maxConnections ← readMaxConnections (environment "DATABASE_MAX_CONNECTIONS")
  let strategy ← readStrategy (environment "CLOSURE_STRATEGY")
  return ⟨databaseUrl, maxConnections, strategy⟩

end Settings

end Authorization
