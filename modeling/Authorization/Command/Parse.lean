import Authorization.Command.Argument

/-! Command lines. A word is read when the next one begins or the line ends, so a word that does not
fit the command is told before a word in front of it that does not read. -/
namespace Authorization

inductive Command where
  | migrate
  | resourcePermissions (accessor accessed : ResourceId)
  | checkResource (accessor accessed : ResourceId) (requested : List ResourcePermission)
  | createPermissions (accessor : ResourceId) (className domainName : Option String)
  | descendants (domainName : String)
  deriving DecidableEq

inductive Rejection where
  | missingCommand
  | help
  | version
  | unknownCommand
  | unknownArgument
  | missingArgument
  | missingValue
  | repeatedOption
  | unneededValue
  | unreadable (cause : Error)
  deriving DecidableEq

namespace Rejection

/-- Asking for help or the version is no failure. -/
def exitCode : Rejection → Nat
  | help | version => 0
  | _ => 2

end Rejection

structure CommandForm where
  /-- How the word at each place is read. -/
  places : List (String → Except Error Argument)
  /-- Whether the last place takes any number of words. -/
  repeatsLast : Bool := false
  /-- The options, each with a value. -/
  options : List String := []

/-- A word that was taken but not read. -/
inductive Pending where
  | nothing
  /-- Words for one place. -/
  | place (read : String → Except Error Argument) (words : List String)
  /-- An option, with its value once that was seen. -/
  | option (name : String) (value : Option String)

structure Scan where
  form : CommandForm
  /-- The number of places that were begun. -/
  begun : Nat := 0
  pending : Pending := .nothing
  arguments : List Argument := []
  options : List (String × String) := []
  /-- Whether a double dash was seen. -/
  trailing : Bool := false

namespace Scan

def setOption (scan : Scan) (name value : String) : Except Rejection Scan :=
  if (scan.options.lookup name).isSome then .error .repeatedOption
  else .ok { scan with options := scan.options ++ [(name, value)] }

def readAll (read : String → Except Error Argument) : List String → Except Rejection (List Argument)
  | [] => .ok []
  | word :: words =>
    match read word with
    | .error cause => .error (.unreadable cause)
    | .ok argument => do
      let arguments ← readAll read words
      return argument :: arguments

def settle (scan : Scan) : Except Rejection Scan :=
  match scan.pending with
  | .nothing => .ok scan
  | .place read words => do
    let arguments ← readAll read words
    return { scan with pending := .nothing, arguments := scan.arguments ++ arguments }
  | .option _ none => .error .missingValue
  | .option name (some value) => { scan with pending := .nothing }.setOption name value

/-- Whether all places were begun and the last one takes more words. -/
def continuesLast (scan : Scan) : Bool :=
  scan.form.repeatsLast && scan.begun == scan.form.places.length

def take (scan : Scan) (word : String) : Except Rejection Scan :=
  -- A word for which there is no place is told before a pending word that does not read.
  match scan.form.places[scan.begun]?, scan.pending with
  | some read, _ => do
    let scan ← scan.settle
    return { scan with begun := scan.begun + 1, pending := .place read [word] }
  | none, .place read words =>
    if scan.continuesLast then
      .ok { scan with pending := .place read (words ++ [word]) }
    else .error .unknownArgument
  | none, _ => .error .unknownArgument

/-- A word as the shell of a command line sees it. -/
inductive Shape where
  | dashes
  /-- A long option, with what follows its first equals sign. -/
  | long (name : String) (value : Option String)
  /-- Short flags, of which the first decides. -/
  | short (flag : Char)
  | plain

/-- What follows the first equals sign, if there is one. -/
def attached? (cs : List Char) : Option String :=
  match cs.dropWhile (· ≠ '=') with
  | [] => none
  | _ :: value => some (String.ofList value)

def shape (word : String) : Shape :=
  match word.toList with
  | ['-', '-'] => .dashes
  | '-' :: '-' :: cs => .long (String.ofList (cs.takeWhile (· ≠ '='))) (attached? cs)
  | '-' :: c :: _ => .short c
  | _ => .plain

/-- Fails with a rejection, unless what is pending does not read. -/
def stop {α : Type} (scan : Scan) (rejection : Rejection) : Except Rejection α := do
  let _ ← scan.settle
  throw rejection

def takeLong (scan : Scan) (name : String) (value : Option String) : Except Rejection Scan :=
  if name = "help" then
    match value with
    | some _ => .error .unneededValue
    | none => scan.stop .help
  else if name ∈ scan.form.options then do
    let scan ← scan.settle
    match value with
    | some value => scan.setOption name value
    | none => return { scan with pending := .option name none }
  else .error .unknownArgument

/-- Takes a word that is no option: the value of an option that waits for one, or a place. -/
def takePlain (scan : Scan) (word : String) : Except Rejection Scan :=
  match scan.pending with
  | .option name none => .ok { scan with pending := .option name (some word) }
  | _ => scan.take word

def step (scan : Scan) (word : String) : Except Rejection Scan :=
  if scan.trailing then scan.take word
  else
    match shape word with
    | .dashes => .ok { scan with trailing := true }
    | .long name value => scan.takeLong name value
    | .short flag => if flag = 'h' then scan.stop .help else .error .unknownArgument
    | .plain => scan.takePlain word

/-- Takes all words of the line and reads what is pending at its end. -/
def run (scan : Scan) : List String → Except Rejection Scan
  | [] => scan.settle
  | word :: words => do
    let scan ← scan.step word
    run scan words

end Scan

namespace Command

inductive Name where
  | migrate
  | resourcePermissions
  | checkResource
  | createPermissions
  | descendants
  deriving DecidableEq

namespace Name

def all : List Name :=
  [migrate, resourcePermissions, checkResource, createPermissions, descendants]

def word : Name → String
  | migrate => "migrate"
  | resourcePermissions => "resource-permissions"
  | checkResource => "check-resource"
  | createPermissions => "create-permissions"
  | descendants => "descendants"

def ofWord? (text : String) : Option Name :=
  all.find? fun name => name.word = text

def form : Name → CommandForm
  | migrate => { places := [] }
  | resourcePermissions => { places := [Argument.readResource, Argument.readResource] }
  | checkResource =>
    { places := [Argument.readResource, Argument.readResource, Argument.readPermission]
      repeatsLast := true }
  | createPermissions =>
    { places := [Argument.readResource], options := ["class", "domain"] }
  | descendants => { places := [Argument.readText] }

end Name

/-- The command that a name and what was read make. -/
def ofParts (name : Name) (arguments : List Argument) (options : List (String × String)) :
    Except Rejection Command :=
  match name, arguments with
  | .migrate, _ => .ok migrate
  | .resourcePermissions, [.resource accessor, .resource accessed] =>
    .ok (resourcePermissions accessor accessed)
  | .checkResource, .resource accessor :: .resource accessed :: first :: others =>
    .ok (checkResource accessor accessed ((first :: others).filterMap Argument.permission?))
  | .createPermissions, [.resource accessor] =>
    let className := options.lookup "class"
    let domainName := options.lookup "domain"
    if domainName.isSome && className.isNone then .error .missingArgument
    else .ok (createPermissions accessor className domainName)
  | .descendants, [.text domainName] => .ok (descendants domainName)
  | _, _ => .error .missingArgument

def parseArguments (name : Name) (words : List String) : Except Rejection Command := do
  let scan ← ({ form := name.form } : Scan).run words
  ofParts name scan.arguments scan.options

def helpWord : String := "help"

/-- Help is there for the commands as a whole, for each command, and for the help word itself. -/
def parseHelp (words : List String) : Rejection :=
  match words with
  | [] => .help
  | [word] => if (Name.ofWord? word).isSome || word = helpWord then .help else .unknownCommand
  | _ => .unknownCommand

/-- Reads a first word that names no command. -/
def parseFlag (word : String) : Rejection :=
  match Scan.shape word with
  | .long "help" none => .help
  | .long "version" none => .version
  | .long "help" (some _) | .long "version" (some _) => .unneededValue
  | .short 'h' => .help
  | .short 'V' => .version
  | .long _ _ | .short _ => .unknownArgument
  | _ => .unknownCommand

/-- Reads a first word after a double dash, where it cannot name a command. -/
def parseTrailing (words : List String) : Rejection :=
  match words with
  | [] => .missingCommand
  | word :: _ =>
    if (Name.ofWord? word).isSome || word = helpWord then .unknownArgument else .unknownCommand

/-- Reads a command line, without the name of the program. -/
def parse (words : List String) : Except Rejection Command :=
  match words with
  | [] => .error .missingCommand
  | word :: words =>
    match Name.ofWord? word with
    | some name => parseArguments name words
    | none =>
      if word = helpWord then .error (parseHelp words)
      else if word = "--" then .error (parseTrailing words)
      else .error (parseFlag word)

end Command

end Authorization
