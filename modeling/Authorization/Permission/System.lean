namespace Authorization

inductive Family where
  | resource
  | resourceCreate
  | domain
  | domainCreate
  deriving DecidableEq, Repr

namespace Family

def label : Family → String
  | resource => "resource"
  | resourceCreate => "resource create"
  | domain => "domain"
  | domainCreate => "domain create"

/-- How written values name a family. -/
def word : Family → String
  | resource => "resource"
  | resourceCreate => "resource_create"
  | domain => "domain"
  | domainCreate => "domain_create"

end Family

inductive SystemPermission : Family → Type where
  | createResource : SystemPermission .resourceCreate
  | inherit : SystemPermission .resource
  | impersonate : SystemPermission .resource
  | resetCredentials : SystemPermission .resource
  | deleteResource : SystemPermission .resource
  | query : SystemPermission .resource
  | createDomain : SystemPermission .domainCreate
  | superUser : SystemPermission .domain
  | createChildDomain : SystemPermission .domain
  | deleteDomain : SystemPermission .domain
  deriving DecidableEq, Repr

namespace SystemPermission

variable {family : Family}

/-- The number by which rows refer to a system permission. -/
def id : SystemPermission family → Int
  | createResource => -100
  | inherit => -101
  | impersonate => -102
  | resetCredentials => -103
  | deleteResource => -104
  | query => -105
  | createDomain => -300
  | superUser => -301
  | createChildDomain => -302
  | deleteDomain => -303

def name : SystemPermission family → String
  | createResource => "*CREATE"
  | inherit => "*INHERIT"
  | impersonate => "*IMPERSONATE"
  | resetCredentials => "*RESET-CREDENTIALS"
  | deleteResource => "*DELETE"
  | query => "*QUERY"
  | createDomain => "*CREATE"
  | superUser => "*SUPER-USER"
  | createChildDomain => "*CREATE-CHILD-DOMAIN"
  | deleteDomain => "*DELETE"

/-- Permissions about credentials make sense only on resources that may carry them. -/
def needsAuthenticatable : SystemPermission family → Bool
  | impersonate | resetCredentials => true
  | _ => false

/-- The system permissions of a family, in the order in which they are listed. -/
def all : (family : Family) → List (SystemPermission family)
  | .resource => [inherit, impersonate, resetCredentials, deleteResource, query]
  | .resourceCreate => [createResource]
  | .domain => [superUser, createChildDomain, deleteDomain]
  | .domainCreate => [createDomain]

def byName? (family : Family) (name : String) : Option (SystemPermission family) :=
  (all family).find? fun system => system.name = name

def byId? (family : Family) (id : Int) : Option (SystemPermission family) :=
  (all family).find? fun system => system.id = id

theorem mem_all (system : SystemPermission family) : system ∈ all family := by
  cases system <;> decide

/-- Names tell the system permissions of a family apart. -/
theorem byName?_name (system : SystemPermission family) :
    byName? family system.name = some system := by
  cases system <;> decide

/-- Numbers tell the system permissions of a family apart. -/
theorem byId?_id (system : SystemPermission family) : byId? family system.id = some system := by
  cases system <;> decide

end SystemPermission

/-- Names that start with an asterisk are kept for system permissions. -/
def isReservedName (name : String) : Bool :=
  name.toList.head? == some '*'

end Authorization
