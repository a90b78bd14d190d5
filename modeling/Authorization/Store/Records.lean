import Authorization.Hierarchy.Edges
import Authorization.Store.Backend
import Authorization.Store.GrantTables

namespace Authorization

abbrev PermissionTables :=
  GrantTables ResourcePermission ResourceCreatePermission DomainPermission DomainCreatePermission

structure Records where
  domains : List Domain := []
  classes : List ResourceClass := []
  resources : List Resource := []
  grants : PermissionTables := {}

namespace Records

/-- The first resource with an id. -/
def findResource? (records : Records) (id : ResourceId) : Option Resource :=
  records.resources.find? (·.id = id)

def findClass? (records : Records) (id : ResourceClassId) : Option ResourceClass :=
  records.classes.find? (·.id = id)

/-- The first class with exactly this name. -/
def findClassByName? (records : Records) (name : String) : Option ResourceClass :=
  records.classes.find? (·.name.text = name)

def findDomain? (records : Records) (id : DomainId) : Option Domain :=
  records.domains.find? (·.id = id)

def findDomainByName? (records : Records) (name : String) : Option Domain :=
  records.domains.find? (·.name.text = name)

def resourcesOf (records : Records) (classId : ResourceClassId) : List Resource :=
  records.resources.filter (·.classId = classId)

/-- What an accessor holds through a table of grants for classes within domains. -/
def classGrants {π : Type} (rows : GrantRows ClassKey π) (accessor : ResourceId) :
    List (ClassGrant π) :=
  (rows.filter (·.1.accessor = accessor)).map fun row => ⟨row.1.classId, row.1.domainId, row.2⟩

def domainGrants {π : Type} (rows : GrantRows DomainKey π) (accessor : ResourceId) :
    List (DomainGrant π) :=
  (rows.filter (·.1.accessor = accessor)).map fun row => ⟨row.1.domainId, row.2⟩

/-- The edges of the hierarchy: inherit permissions, and the parents of domains. -/
def edges (records : Records) : HierarchyEdges where
  donors := (records.grants.direct.filter (·.2.isInherit)).map
    fun row => (row.1.accessor, row.1.accessed)
  domains := records.domains.map fun domain => (domain.id, domain.parent?)

/-- Lookups that never fail. -/
def directory (records : Records) : Directory where
  findResource id := .ok (records.findResource? id)
  findClass id := .ok (records.findClass? id)
  findClassByName name := .ok (records.findClassByName? name)
  listClasses := .ok records.classes
  findDomain id := .ok (records.findDomain? id)
  findDomainByName name := .ok (records.findDomainByName? name)
  listResources classId := .ok (records.resourcesOf classId)

/-- Grants in row order. -/
def grantSource (records : Records) : GrantSource where
  listDirect accessor accessed := .ok (records.grants.direct.held ⟨accessor, accessed⟩)
  listGlobal accessor classId domain := .ok (records.grants.global.held ⟨accessor, classId, domain⟩)
  listCreate accessor classId domain := .ok (records.grants.create.held ⟨accessor, classId, domain⟩)
  listDomain accessor domain := .ok (records.grants.domain.held ⟨accessor, domain⟩)
  listDomainCreate accessor := .ok (records.grants.domainCreate.held accessor)
  listAllGlobal accessor := .ok (classGrants records.grants.global accessor)
  listAllCreate accessor := .ok (classGrants records.grants.create accessor)
  listAllDomain accessor := .ok (domainGrants records.grants.domain accessor)

end Records

end Authorization
