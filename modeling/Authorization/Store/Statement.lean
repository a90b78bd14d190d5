import Authorization.Id

namespace Authorization

/-- The grant tables whose rows belong to a domain. -/
inductive ScopedTable where
  | create
  | global
  | domain
  deriving DecidableEq, Repr

namespace ScopedTable

def tableName : ScopedTable → String
  | create => "grant_resource_create_permissions"
  | global => "grant_global_resource_permissions"
  | domain => "grant_domain_permissions"

end ScopedTable

/-- The statements, with the arguments that reports show. -/
inductive Statement where
  | findResource (id : ResourceId)
  | findClass
  | findClassByName
  | listClasses
  | findDomain (id : DomainId)
  | findDomainByName (name : String)
  | listResources
  | listDirect
  | listGlobal
  | listCreate
  | listDomain
  | listDomainCreate
  | listAllGlobal (accessor : ResourceId)
  | listAllCreate (accessor : ResourceId)
  | listAllDomain (accessor : ResourceId)
  | donors
  | parent (id : DomainId)
  | children
  | accessorClosure (id : ResourceId)
  | ancestorClosure (id : DomainId)
  | descendantClosure (id : DomainId)
  | begin
  | delete (table : ScopedTable) (domain : DomainId)
  | commit
  | connect
  deriving DecidableEq, Repr

namespace Statement

/-- The name of a statement, whatever its arguments. -/
def name : Statement → String
  | findResource _ => "find_resource"
  | findClass => "find_class"
  | findClassByName => "find_class_by_name"
  | listClasses => "list_classes"
  | findDomain _ => "find_domain"
  | findDomainByName _ => "find_domain_by_name"
  | listResources => "list_resources"
  | listDirect => "list_direct"
  | listGlobal => "list_global"
  | listCreate => "list_create"
  | listDomain => "list_domain"
  | listDomainCreate => "list_domain_create"
  | listAllGlobal _ => "list_all_global"
  | listAllCreate _ => "list_all_create"
  | listAllDomain _ => "list_all_domain"
  | donors => "donors"
  | parent _ => "parent"
  | children => "children"
  | accessorClosure _ => "closure_accessor"
  | ancestorClosure _ => "closure_ancestors"
  | descendantClosure _ => "closure_descendants"
  | begin => "begin"
  | delete .create _ => "delete_create"
  | delete .global _ => "delete_global"
  | delete .domain _ => "delete_domain"
  | commit => "commit"
  | connect => "connect"

/-- What could not be done when a statement fails. -/
def failure : Statement → String
  | findResource id => s!"failed to find resource {id}"
  | findClass | findClassByName => "failed to find resource class"
  | listClasses => "failed to list resource classes"
  | findDomain id => s!"failed to find domain {id}"
  | findDomainByName name => s!"failed to find domain '{name}'"
  | listResources => "failed to list resources"
  | listDirect => "failed to load resource permissions"
  | listGlobal => "failed to load global resource permissions"
  | listCreate => "failed to load resource create permissions"
  | listDomain => "failed to load domain permissions"
  | listDomainCreate => "failed to load domain create permissions"
  | listAllGlobal accessor => s!"failed to load global resource permissions of resource {accessor}"
  | listAllCreate accessor => s!"failed to load resource create permissions of resource {accessor}"
  | listAllDomain accessor => s!"failed to load domain permissions of resource {accessor}"
  | donors => "failed to list inherit donors"
  | parent id => s!"failed to find parent of domain {id}"
  | children => "failed to list child domains"
  | accessorClosure id => s!"failed to evaluate accessor closure of {id}"
  | ancestorClosure id => s!"failed to evaluate ancestors of domain {id}"
  | descendantClosure id => s!"failed to evaluate descendants of domain {id}"
  | begin => "failed to start grant removal transaction"
  | delete table domain => s!"failed to remove {table.tableName} rows for domain {domain}"
  | commit => "failed to commit grant removal"
  | connect => "failed to connect to database"

end Statement

end Authorization
