import Authorization.Permission.Inspect
import Authorization.Store.Statement
import Authorization.Text.Numeral

/-! Errors. Each constructor is one cause with what a report needs of it; the kind of an error and
its wording are functions of the cause. -/
namespace Authorization

inductive Role where
  | accessor
  | accessed
  deriving DecidableEq, Repr

namespace Role

def word : Role → String
  | accessor => "accessor"
  | accessed => "accessed"

end Role

/-- The kinds of errors, by what the caller can do about them. -/
inductive ErrorKind where
  | required
  | validation
  | notFound
  | conflict
  | forbidden
  | invalidState
  | internal
  deriving DecidableEq, Repr

namespace ErrorKind

def word : ErrorKind → String
  | required => "Required"
  | validation => "Validation"
  | notFound => "NotFound"
  | conflict => "Conflict"
  | forbidden => "Forbidden"
  | invalidState => "InvalidState"
  | internal => "Internal"

/-- What a message of this kind starts with. -/
def heading : ErrorKind → String
  | required | notFound => ""
  | validation => "validation error: "
  | conflict => "conflict: "
  | forbidden => "forbidden: "
  | invalidState => "invalid state: "
  | internal => "internal error: "

end ErrorKind

inductive Error where
  /-- A part of the request is blank or empty. -/
  | required (what : String)
  | blankValue
  | unknownSystemName (family : Family) (name : String)
  | reservedName (name : Label)
  | needsAuthenticatable (permission : String) (className : Label)
  | undefinedPermission (permission : String) (className : Label)
  | unknownStrategy (word : String)
  | invalidResourceId (text : String) (reason : Text.NumeralError)
  | missingDatabaseUrl
  | invalidMaxConnections (text : String) (reason : Text.NumeralError)
  | zeroMaxConnections
  | invalidStrategySetting (cause : Error)
  | participantNotFound (role : Role) (id : ResourceId)
  | resourceNotFound (id : ResourceId)
  | classNotFound (id : ResourceClassId)
  | classOfResourceNotFound (id : ResourceClassId) (resource : ResourceId)
  | classNameNotFound (name : Label)
  | domainNotFound (id : DomainId)
  | domainNameNotFound (name : Label)
  | domainExists (name : Label) (id : DomainId)
  | parentMissing (parent : DomainId) (name : Label)
  | classExists (name : Label)
  | resourceExists (id : ResourceId)
  | missingOnResource (accessor : ResourceId) (permissions : List String) (accessed : ResourceId)
  | missingForClass (accessor : ResourceId) (permissions : List String) (className : String)
      (domainName : Label)
  | missingOnDomain (accessor : ResourceId) (permissions : List String) (domainName : String)
  | unknownSystemId (family : Family) (id : Int)
  | mismatchedDomainId (id : Int) (name : String)
  | mismatchedResourceId (id : Option Int) (name : String)
  | malformedResourceCreate (id : Option Int) (wrapped : Option ResourcePermission)
  | malformedDomainCreate (id : Option Int) (wrapped : Option DomainPermission)
  | invalidStoredClass (name : String) (cause : Error)
  | accessorDomainMissing (domain : DomainId) (accessor : ResourceId)
  | grantedDomainMissing (id : DomainId)
  | grantedClassMissing (id : ResourceClassId)
  | accessorClosureUnseeded (id : ResourceId)
  | ancestorChainUnseeded (id : DomainId)
  | descendantClosureUnseeded (id : DomainId)
  | negativeLevel (what : String) (level : Int)
  | statementRefused (statement : Statement) (reason : String)
  | operationFailed (name : String)
  | removalFailed (domain : DomainId)
  deriving DecidableEq

namespace Error

def kind : Error → ErrorKind
  | required _ => .required
  | blankValue | unknownSystemName .. | reservedName _ | needsAuthenticatable ..
  | undefinedPermission .. | unknownStrategy _ | invalidResourceId .. | missingDatabaseUrl
  | invalidMaxConnections .. | zeroMaxConnections | invalidStrategySetting _ => .validation
  | participantNotFound .. | resourceNotFound _ | classNotFound _ | classOfResourceNotFound ..
  | classNameNotFound _ | domainNotFound _ | domainNameNotFound _ => .notFound
  | domainExists .. | parentMissing .. | classExists _ | resourceExists _ => .conflict
  | missingOnResource .. | missingForClass .. | missingOnDomain .. => .forbidden
  | unknownSystemId .. | mismatchedDomainId .. | mismatchedResourceId ..
  | malformedResourceCreate .. | malformedDomainCreate .. | invalidStoredClass ..
  | accessorDomainMissing .. | grantedDomainMissing _ | grantedClassMissing _ => .invalidState
  | accessorClosureUnseeded _ | ancestorChainUnseeded _ | descendantClosureUnseeded _
  | negativeLevel .. | statementRefused .. | operationFailed _ | removalFailed _ => .internal

def listed (permissions : List String) : String :=
  ", ".intercalate permissions

/-- The wording for a create row that does not decide between its two uses. -/
def malformedCreate (target : String) (id : Option Int) (wrapped : Option String) : String :=
  s!"{target} create permission must carry exactly one of a system id ({inspectId id}) " ++
    s!"or a post-create permission ({inspectOption wrapped})"

/-- The wording of a cause. A cause inside another is told with the heading of its own kind. -/
def detail : Error → String
  | required what => s!"{what} required"
  | blankValue => "value must not be empty or whitespace"
  | unknownSystemName family name =>
    s!"invalid system permission name '{name}' for {family.label} permissions"
  | reservedName name => s!"custom permission name '{name}' must not start with '*'"
  | needsAuthenticatable permission className =>
    s!"permission '{permission}' is not valid for unauthenticatable resource class '{className}'"
  | undefinedPermission permission className =>
    s!"permission '{permission}' is not defined for resource class '{className}'"
  | unknownStrategy word =>
    s!"unknown closure strategy '{word}', expected 'recursive' or 'iterative'"
  | invalidResourceId text reason => s!"invalid resource id '{text}': {reason.message}"
  | missingDatabaseUrl => "DATABASE_URL is required"
  | invalidMaxConnections text reason =>
    s!"invalid DATABASE_MAX_CONNECTIONS value '{text}': {reason.message}"
  | zeroMaxConnections => "DATABASE_MAX_CONNECTIONS must be greater than zero"
  | invalidStrategySetting cause =>
    "invalid CLOSURE_STRATEGY: " ++ (cause.kind.heading ++ cause.detail)
  | participantNotFound role id => s!"could not find {role.word} resource {id}"
  | resourceNotFound id => s!"could not find resource {id}"
  | classNotFound id => s!"could not find resource class {id}"
  | classOfResourceNotFound id resource =>
    s!"could not find resource class {id} of resource {resource}"
  | classNameNotFound name => s!"could not find resource class '{name}'"
  | domainNotFound id => s!"could not find domain {id}"
  | domainNameNotFound name => s!"could not find domain '{name}'"
  | domainExists name id => s!"domain '{name}' ({id}) already exists"
  | parentMissing parent name => s!"parent domain {parent} of domain '{name}' does not exist"
  | classExists name => s!"resource class '{name}' already exists"
  | resourceExists id => s!"resource {id} already exists"
  | missingOnResource accessor permissions accessed =>
    s!"resource {accessor} is missing permission(s) {listed permissions} on resource {accessed}"
  | missingForClass accessor permissions className domainName =>
    s!"resource {accessor} is missing create permission(s) {listed permissions} for " ++
      s!"resource class '{className}' in domain '{domainName}'"
  | missingOnDomain accessor permissions domainName =>
    s!"resource {accessor} is missing domain permission(s) {listed permissions} on domain " ++
      s!"'{domainName}'"
  | unknownSystemId family id =>
    s!"invalid system permission id {id} for {family.label} permissions"
  | mismatchedDomainId id name =>
    s!"invalid system permission id {id} for domain permission '{name}'"
  | mismatchedResourceId id name =>
    s!"invalid system permission id {inspectId id} for resource permission '{name}'"
  | malformedResourceCreate id wrapped =>
    malformedCreate "resource" id (wrapped.map ResourcePermission.inspect)
  | malformedDomainCreate id wrapped =>
    malformedCreate "domain" id (wrapped.map DomainPermission.inspect)
  | invalidStoredClass name cause =>
    s!"stored resource class '{name}' is invalid: " ++ (cause.kind.heading ++ cause.detail)
  | accessorDomainMissing domain accessor =>
    s!"domain {domain} of accessor resource {accessor} does not exist"
  | grantedDomainMissing id => s!"granted domain {id} does not exist"
  | grantedClassMissing id => s!"granted resource class {id} does not exist"
  | accessorClosureUnseeded id =>
    s!"accessor closure of resource {id} does not start at the accessor"
  | ancestorChainUnseeded id => s!"ancestor chain of domain {id} does not start at the domain"
  | descendantClosureUnseeded id =>
    s!"descendant closure of domain {id} does not start at the domain"
  | negativeLevel what level =>
    s!"invalid {what} level {level}: {Text.NumeralError.tooSmall.message}"
  | statementRefused statement reason =>
    s!"{statement.failure}: error returned from database: {reason}"
  | operationFailed name => s!"{name} failed"
  | removalFailed domain => s!"remove {domain} failed"

/-- The message of an error: the heading of its kind, then its wording. -/
def message (error : Error) : String :=
  error.kind.heading ++ error.detail

/-- Whatever names it is given, the cause forbids, and its message lists them between these words.
-/
structure Lists (cause : List String → Error) (before after : String) : Prop where
  kind_eq : ∀ names, (cause names).kind = .forbidden
  message_eq : ∀ names, (cause names).message = before ++ ", ".intercalate names ++ after

theorem Lists.of_detail {cause : List String → Error} {before after : String}
    (hkind : ∀ names, (cause names).kind = .forbidden)
    (hdetail : ∀ names, (cause names).detail = before ++ ", ".intercalate names ++ after) :
    Lists cause ("forbidden: " ++ before) after where
  kind_eq := hkind
  message_eq names := by
    rw [message, hkind, hdetail, ErrorKind.heading]
    simp only [String.append_assoc]

theorem lists_missingOnResource (accessor accessed : ResourceId) :
    Lists (missingOnResource accessor · accessed)
      ("forbidden: " ++ s!"resource {accessor} is missing permission(s) ")
      s!" on resource {accessed}" := by
  apply Lists.of_detail
  · exact fun _ => rfl
  · exact fun _ => String.append_assoc

theorem lists_missingForClass (accessor : ResourceId) (className : String) (domainName : Label) :
    Lists (missingForClass accessor · className domainName)
      ("forbidden: " ++ s!"resource {accessor} is missing create permission(s) ")
      (" for " ++ s!"resource class '{className}' in domain '{domainName}'") := by
  apply Lists.of_detail
  · exact fun _ => rfl
  · exact fun _ => String.append_assoc

theorem lists_missingOnDomain (accessor : ResourceId) (domainName : String) :
    Lists (missingOnDomain accessor · domainName)
      ("forbidden: " ++ s!"resource {accessor} is missing domain permission(s) ")
      (" on domain " ++ s!"'{domainName}'") := by
  apply Lists.of_detail
  · exact fun _ => rfl
  · exact fun _ => String.append_assoc

end Error

end Authorization
