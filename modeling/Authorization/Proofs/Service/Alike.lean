import Authorization.Proofs.Agree
import Authorization.Proofs.Service.Cells
import Authorization.Proofs.Service.SuperUser
import Authorization.Service.OnCreation
import Authorization.Service.OnDomain
import Authorization.Service.OnResource

/-! Services that read the same directory, the same closures and the same grants in other orders.
Their checks cannot be told apart. -/
namespace Authorization

/-- Grant sources that list the same permissions, each in an order of its own. -/
structure GrantSource.Alike (grants grants' : GrantSource) : Prop where
  listDirect : ∀ accessor accessed,
    Agree List.Perm (grants.listDirect accessor accessed) (grants'.listDirect accessor accessed)
  listGlobal : ∀ accessor classId domain, Agree List.Perm
    (grants.listGlobal accessor classId domain) (grants'.listGlobal accessor classId domain)
  listCreate : ∀ accessor classId domain, Agree List.Perm
    (grants.listCreate accessor classId domain) (grants'.listCreate accessor classId domain)
  listDomain : ∀ accessor domain,
    Agree List.Perm (grants.listDomain accessor domain) (grants'.listDomain accessor domain)
  listDomainCreate : ∀ accessor,
    Agree List.Perm (grants.listDomainCreate accessor) (grants'.listDomainCreate accessor)
  listAllGlobal : ∀ accessor,
    Agree List.Perm (grants.listAllGlobal accessor) (grants'.listAllGlobal accessor)
  listAllCreate : ∀ accessor,
    Agree List.Perm (grants.listAllCreate accessor) (grants'.listAllCreate accessor)
  listAllDomain : ∀ accessor,
    Agree List.Perm (grants.listAllDomain accessor) (grants'.listAllDomain accessor)

/-- Overviews with the same domains and classes and the same cells up to order. -/
def PermissionOverview.Same {π : Type} (overview other : PermissionOverview π) : Prop :=
  KeyedList.Matches (KeyedList.Matches List.Perm) overview other

namespace Service

variable {π : Type}

theorem collectHeld_agrees {held held' : ResourceId → Except Error (List π)}
    (h : ∀ holder, Agree List.Perm (held holder) (held' holder))
    (accessors : List (Ranked ResourceId)) :
    Agree List.Perm (collectHeld accessors held) (collectHeld accessors held') := by
  apply Agree.gather
  intro accessor
  apply (h accessor.node).bind
  intro permissions permissions' hpermissions
  exact .ok (hpermissions.map _)

theorem collectScoped_agrees {held held' : ResourceId → DomainId → Except Error (List π)}
    (h : ∀ holder above, Agree List.Perm (held holder above) (held' holder above))
    (accessors : List (Ranked ResourceId)) (ancestors : List (Ranked DomainId)) :
    Agree List.Perm (collectScoped accessors ancestors held)
      (collectScoped accessors ancestors held') := by
  apply Agree.gather
  intro accessor
  apply Agree.gather
  intro ancestor
  apply (h accessor.node ancestor.node).bind
  intro permissions permissions' hpermissions
  exact .ok (hpermissions.map _)

section Resolved

variable [Permission π] [DecidableEq π] {effective effective' : List (EffectivePermission π)}

theorem resolve_agrees [LawfulPermission π] (superUser : Option Proximity) (defined : List π)
    {collected collected' : Except Error (List (EffectivePermission π))}
    (h : Agree List.Perm collected collected') :
    Agree List.Perm (resolve superUser defined collected)
      (resolve superUser defined collected') := by
  cases superUser with
  | some proximity => exact .ok (List.Perm.refl _)
  | none =>
    cases h with
    | error error => exact .error error
    | ok hcollected => exact .ok (EffectivePermission.merge_perm hcollected)

/-- What is covered does not depend on the order of what is there. -/
theorem covers_eq (h : effective.Perm effective') : covers effective = covers effective' :=
  funext fun _ => h.any_eq

theorem allSatisfied_eq (h : effective.Perm effective') (requested : List π) :
    allSatisfied requested effective = allSatisfied requested effective' :=
  allSatisfied_congr (covers_eq h) requested

theorem demand_eq (h : effective.Perm effective') (requested : List π)
    (forbidden : List String → Error) :
    demand requested effective forbidden = demand requested effective' forbidden :=
  demand_congr (covers_eq h) requested forbidden

variable {checked checked' : Except Error (List (EffectivePermission π))}

theorem check_eq (h : Agree List.Perm checked checked') (requested : List π) :
    (do
      requireRequested requested
      let effective ← checked
      return allSatisfied requested effective) =
    (do
      requireRequested requested
      let effective ← checked'
      return allSatisfied requested effective) := by
  apply Agree.eq
  apply Agree.bind_same
  intro _
  apply h.bind
  intro effective effective' heffective
  rw [allSatisfied_eq heffective]
  exact .ok rfl

theorem require_eq (h : Agree List.Perm checked checked') (requested : List π)
    (forbidden : List String → Error) :
    (do
      requireRequested requested
      let effective ← checked
      demand requested effective forbidden) =
    (do
      requireRequested requested
      let effective ← checked'
      demand requested effective forbidden) := by
  apply Agree.eq
  apply Agree.bind_same
  intro _
  apply h.bind
  intro effective effective' heffective
  rw [demand_eq heffective]
  exact Agree.refl (fun _ => rfl) _

end Resolved

/-- The service with other grants. -/
abbrev reading (service : Service) (grants : GrantSource) : Service :=
  { service with grants }

variable {service : Service} {grants' : GrantSource}

theorem findSuperUser_eq (h : service.grants.Alike grants') (accessors : List (Ranked ResourceId))
    (ancestors : List (Ranked DomainId)) :
    service.findSuperUser accessors ancestors =
      (service.reading grants').findSuperUser accessors ancestors := by
  have hstep : ∀ (accessor : Ranked ResourceId) (ancestor : Ranked DomainId),
      (do
        let permissions ← service.grants.listDomain accessor.node ancestor.node
        return if permissions.any DomainPermission.isSuperUser
          then some (⟨accessor.level, ancestor.level⟩ : Proximity) else none) =
      (do
        let permissions ← grants'.listDomain accessor.node ancestor.node
        return if permissions.any DomainPermission.isSuperUser
          then some (⟨accessor.level, ancestor.level⟩ : Proximity) else none) := by
    intro accessor ancestor
    apply Agree.eq
    apply (h.listDomain accessor.node ancestor.node).bind
    intro permissions permissions' hpermissions
    rw [hpermissions.any_eq]
    exact .ok rfl
  simp only [findSuperUser, hstep]

theorem closestSuperUser_eq {collected collected' : List (EffectivePermission DomainPermission)}
    (h : collected.Perm collected') : closestSuperUser collected = closestSuperUser collected' :=
  Proximity.foldl_closest_congr fun _ => ((h.filter _).map _).mem_iff

section OnResource

variable (h : service.grants.Alike grants')

include h

theorem resolveOnResource_agrees (accessors : List (Ranked ResourceId)) (resource : Resource)
    (resourceClass : ResourceClass) :
    Agree List.Perm
      (service.resolveOnResource accessors resource resourceClass)
      ((service.reading grants').resolveOnResource accessors resource
        resourceClass) := by
  apply Agree.bind_same
  intro ancestors
  rw [findSuperUser_eq h]
  apply Agree.bind_same
  intro superUser
  apply resolve_agrees
  apply (collectHeld_agrees (fun holder => h.listDirect holder resource.id) accessors).bind
  intro direct direct' hdirect
  apply (collectScoped_agrees (fun holder above => h.listGlobal holder resourceClass.id above)
    accessors ancestors).bind
  intro global global' hglobal
  exact .ok (hdirect.append hglobal)

theorem checkedOnResource_agrees (accessorId accessedId : ResourceId)
    (requested : List ResourcePermission) :
    Agree List.Perm
      (service.checkedOnResource accessorId accessedId requested)
      ((service.reading grants').checkedOnResource accessorId accessedId
        requested) := by
  apply Agree.bind_same
  intro _
  apply Agree.bind_same
  intro accessed
  apply Agree.bind_same
  intro resourceClass
  apply Agree.bind_same
  intro _
  apply Agree.bind_same
  intro accessors
  exact resolveOnResource_agrees h accessors accessed resourceClass

theorem checkedGlobal_agrees (accessorId : ResourceId) (className : String) (name : Option String)
    (requested : List ResourcePermission) :
    Agree List.Perm
      (service.checkedGlobal accessorId className name requested)
      ((service.reading grants').checkedGlobal accessorId className name
        requested) := by
  apply Agree.bind_same
  intro accessor
  apply Agree.bind_same
  intro resourceClass
  apply Agree.bind_same
  intro domain
  apply Agree.bind_same
  intro _
  apply Agree.bind_same
  intro accessors
  apply Agree.bind_same
  intro ancestors
  rw [findSuperUser_eq h]
  apply Agree.bind_same
  intro superUser
  apply resolve_agrees
  exact collectScoped_agrees (fun holder above => h.listGlobal holder resourceClass.id above)
    accessors ancestors

theorem permitted_eq (accessors : List (Ranked ResourceId)) (resourceClass : ResourceClass)
    (requested : List ResourcePermission) (candidates : List Resource) :
    service.permitted accessors resourceClass requested candidates =
      (service.reading grants').permitted accessors resourceClass requested
        candidates := by
  have hstep : ∀ resource,
      (do
        let effective ← service.resolveOnResource accessors resource
          resourceClass
        return if allSatisfied requested effective then [resource] else []) =
      (do
        let effective ← (service.reading grants').resolveOnResource accessors
          resource resourceClass
        return if allSatisfied requested effective then [resource] else []) := by
    intro resource
    apply Agree.eq
    apply (resolveOnResource_agrees h accessors resource resourceClass).bind
    intro effective effective' heffective
    rw [allSatisfied_eq heffective]
    exact .ok rfl
  simp only [permitted, hstep]

end OnResource

section OnCreation

variable (h : service.grants.Alike grants')

include h

theorem checkedCreate_agrees (accessorId : ResourceId) (className : String) (name : Option String)
    (requested : List ResourceCreatePermission) :
    Agree (fun result result' => result.1 = result'.1 ∧ result.2.Perm result'.2)
      (service.checkedCreate accessorId className name requested)
      ((service.reading grants').checkedCreate accessorId className name requested) := by
  apply Agree.bind_same
  intro accessor
  apply Agree.bind_same
  intro resourceClass
  apply Agree.bind_same
  intro domain
  apply Agree.bind_same
  intro _
  apply Agree.bind_same
  intro accessors
  apply Agree.bind_same
  intro ancestors
  rw [findSuperUser_eq h]
  apply Agree.bind_same
  intro superUser
  have hcollected := collectScoped_agrees
    (fun holder above => h.listCreate holder resourceClass.id above) accessors ancestors
  apply (resolve_agrees superUser resourceClass.definedCreatePermissions hcollected).bind
  intro effective effective' heffective
  exact .ok ⟨rfl, heffective⟩

theorem effectiveDomainCreatePermissions_agrees (accessorId : ResourceId) :
    Agree List.Perm (service.effectiveDomainCreatePermissions accessorId)
      ((service.reading grants').effectiveDomainCreatePermissions accessorId) := by
  apply Agree.bind_same
  intro _
  apply Agree.bind_same
  intro accessors
  apply (collectHeld_agrees h.listDomainCreate accessors).bind
  intro collected collected' hcollected
  exact .ok (EffectivePermission.merge_perm hcollected)

theorem effectiveDomainPermissions_agrees (accessorId : ResourceId) (text : String) :
    Agree List.Perm (service.effectiveDomainPermissions accessorId text)
      ((service.reading grants').effectiveDomainPermissions accessorId text) := by
  apply Agree.bind_same
  intro _
  apply Agree.bind_same
  intro domain
  apply Agree.bind_same
  intro accessors
  apply Agree.bind_same
  intro ancestors
  apply (collectScoped_agrees h.listDomain accessors ancestors).bind
  intro collected collected' hcollected
  rw [closestSuperUser_eq hcollected]
  exact resolve_agrees _ _ (.ok hcollected)

end OnCreation

section Overviews

theorem collectCells_corresponds {collected collected' : List (ClassGrant (EffectivePermission π))}
    (h : collected.Perm collected') :
    Table.Corresponds List.Perm (collectCells collected) (collectCells collected') := by
  refine ⟨ordered_collectCells _, ordered_collectCells _, fun domain classId => ?_⟩
  rw [cell?_collectCells, cell?_collectCells]
  apply asCell_rel
  exact (h.filter _).map _

/-- The closest grant for each domain does not depend on the order of the grants. -/
theorem foldl_covered_eq {reached reached' : List (DomainId × Proximity)}
    (h : reached.Perm reached') :
    reached.foldl (fun entries candidate =>
        KeyedList.alter candidate.1 (Proximity.closest · candidate.2) entries) [] =
      reached'.foldl (fun entries candidate =>
        KeyedList.alter candidate.1 (Proximity.closest · candidate.2) entries) [] := by
  have hnil : Ascending (([] : KeyedList DomainId Proximity).map (·.1)) := List.Pairwise.nil
  apply KeyedList.Matches.eq
  apply KeyedList.matches_of_lookup (KeyedList.ascending_foldl hnil _)
    (KeyedList.ascending_foldl hnil _)
  intro domain
  have hsame := Proximity.foldl_closest_congr fun _ =>
    ((h.filter fun candidate => candidate.1 = domain).map Prod.snd).mem_iff
  rw [List.foldl_map, List.foldl_map] at hsame
  rw [KeyedList.lookup_foldl hnil, KeyedList.lookup_foldl hnil, List.lookup_nil, hsame]
  generalize List.foldl _ _ _ = found
  cases found with
  | none => exact .none
  | some proximity => exact .some rfl

/-- When no walk down fails, the domains that super-user grants cover are the same. -/
theorem superUserDomains_eq (h : service.grants.Alike grants')
    (hdescendants : ∀ id, ∃ entries, service.closure.descendants id = .ok entries)
    (accessors : List (Ranked ResourceId)) :
    service.superUserDomains accessors = (service.reading grants').superUserDomains accessors := by
  apply Agree.eq
  refine Agree.bind (?_ : Agree List.Perm _ _) ?_
  · apply Agree.gather
    intro accessor
    apply (h.listAllDomain accessor.node).bind
    intro held held' hheld
    apply Agree.gather_perm _ (hheld.filter _)
    intro grant
    obtain ⟨entries, hentries⟩ := hdescendants grant.domainId
    exact ⟨_, bind_of_eq_ok hentries⟩
  · intro reached reached' hreached
    exact .ok (foldl_covered_eq hreached)

theorem nameDomains_agrees {cells cells' : PermissionCells π}
    (h : KeyedList.Matches (KeyedList.Matches List.Perm) cells cells') :
    Agree (List.Forall₂ fun row row' =>
        row.1 = row'.1 ∧ KeyedList.Matches List.Perm row.2 row'.2)
      (service.nameDomains cells) ((service.reading grants').nameDomains cells') := by
  apply Agree.gather_forall₂ h
  rintro ⟨domain, row⟩ ⟨_, row'⟩ ⟨rfl, hrow⟩
  apply Agree.bind_same
  intro found
  apply Agree.bind_same
  intro found
  exact .ok (.cons ⟨rfl, hrow⟩ .nil)

theorem nameClasses_agrees (classes : List ResourceClass)
    {rows rows' : List (Label × KeyedList ResourceClassId (List (EffectivePermission π)))}
    (h : List.Forall₂ (fun row row' =>
      row.1 = row'.1 ∧ KeyedList.Matches List.Perm row.2 row'.2) rows rows') :
    Agree (List.Forall₂ fun entry entry' =>
        entry.1 = entry'.1 ∧ entry.2.1 = entry'.2.1 ∧ entry.2.2.Perm entry'.2.2)
      (nameClasses classes rows) (nameClasses classes rows') := by
  apply Agree.gather_forall₂ h
  rintro ⟨domain, row⟩ ⟨_, row'⟩ ⟨rfl, hrow⟩
  apply Agree.gather_forall₂ hrow
  rintro ⟨classId, cell⟩ ⟨_, cell'⟩ ⟨rfl, hcell⟩
  apply Agree.bind_same
  intro name
  exact .ok (.cons ⟨rfl, rfl, hcell⟩ .nil)

variable [Permission π] [DecidableEq π]

theorem cover_corresponds {cells cells' : PermissionCells π}
    (h : Table.Corresponds List.Perm cells cells') (defined : ResourceClass → List π)
    (classes : List ResourceClass) (covered : KeyedList DomainId Proximity) :
    Table.Corresponds List.Perm (cover defined classes covered cells)
      (cover defined classes covered cells') := by
  rw [cover_eq_foldl, cover_eq_foldl]
  apply h.foldl
  apply List.forall₂_same.mpr
  intro step _
  exact ⟨rfl, rfl, fun _ => List.Perm.refl _⟩

variable [LawfulPermission π]

theorem overviewOf_corresponds
    {entries entries' : List (Label × Label × List (EffectivePermission π))}
    (h : List.Forall₂ (fun entry entry' =>
      entry.1 = entry'.1 ∧ entry.2.1 = entry'.2.1 ∧ entry.2.2.Perm entry'.2.2) entries entries') :
    Table.Corresponds List.Perm (overviewOf entries) (overviewOf entries') := by
  have hnil : Table.Corresponds List.Perm ([] : PermissionOverview π) [] :=
    ⟨.nil, .nil, fun _ _ => .none⟩
  apply hnil.foldl
  apply h.imp
  rintro entry entry' ⟨hdomain, hclass, hcell⟩
  refine ⟨congrArg Label.text hdomain, congrArg Label.text hclass, fun _ => ?_⟩
  exact EffectivePermission.merge_perm hcell

theorem overview_same (h : service.grants.Alike grants')
    (hdescendants : ∀ id, ∃ entries, service.closure.descendants id = .ok entries)
    (accessorId : ResourceId) {listAll listAll' : ResourceId → Except Error (List (ClassGrant π))}
    (hlist : ∀ holder, Agree List.Perm (listAll holder) (listAll' holder))
    (defined : ResourceClass → List π) :
    Agree PermissionOverview.Same (service.overview accessorId listAll defined)
      ((service.reading grants').overview accessorId listAll' defined) := by
  have hspread : ∀ grant : Nat × ClassGrant π, ∃ answer,
      service.spread grant.1 grant.2 = .ok answer := by
    intro grant
    obtain ⟨entries, hentries⟩ := hdescendants grant.2.domainId
    exact ⟨_, bind_of_eq_ok hentries⟩
  apply Agree.bind_same
  intro _
  apply Agree.bind_same
  intro accessors
  -- From here the grants come in different orders, and with them all that is made of them.
  refine Agree.bind (?_ : Agree List.Perm _ _) ?_
  · apply Agree.gather
    intro accessor
    apply (hlist accessor.node).bind
    intro held held' hheld
    exact .ok (hheld.map _)
  intro grants grants'' hperm
  apply (Agree.gather_perm hspread hperm).bind
  intro collected collected' hcollected
  apply Agree.bind_same
  intro classes
  rw [← superUserDomains_eq h hdescendants]
  apply Agree.bind_same
  intro covered
  -- Cells are ascending by handle whatever the order was, so naming goes row by row.
  have hcells := cover_corresponds (collectCells_corresponds hcollected) defined classes covered
  have hmatches := Table.matches_of_cell? hcells.left hcells.right hcells.cells
  apply (nameDomains_agrees hmatches).bind
  intro rows rows' hrows
  apply (nameClasses_agrees classes hrows).bind
  intro entries entries' hentries
  have hoverview := overviewOf_corresponds hentries
  exact .ok (Table.matches_of_cell? hoverview.left hoverview.right hoverview.cells)

end Overviews

/-- Two services that give the same answers, and the same errors, to all questions. What they report
as effective is the same up to order. -/
structure SameAnswers (service other : Service) : Prop where
  hasResourcePermissions : ∀ accessor accessed requested,
    service.hasResourcePermissions accessor accessed requested =
      other.hasResourcePermissions accessor accessed requested
  requireResourcePermissions : ∀ accessor accessed requested,
    service.requireResourcePermissions accessor accessed requested =
      other.requireResourcePermissions accessor accessed requested
  canGrantResourcePermissions : ∀ grantor accessed requested,
    service.canGrantResourcePermissions grantor accessed requested =
      other.canGrantResourcePermissions grantor accessed requested
  effectiveResourcePermissions : ∀ accessor accessed, Agree List.Perm
    (service.effectiveResourcePermissions accessor accessed)
    (other.effectiveResourcePermissions accessor accessed)
  hasGlobalResourcePermissions : ∀ accessor className name requested,
    service.hasGlobalResourcePermissions accessor className name requested =
      other.hasGlobalResourcePermissions accessor className name requested
  effectiveGlobalResourcePermissions : ∀ accessor className name, Agree List.Perm
    (service.effectiveGlobalResourcePermissions accessor className name)
    (other.effectiveGlobalResourcePermissions accessor className name)
  resourcesByPermissions : ∀ accessor className name requested,
    service.resourcesByPermissions accessor className name requested =
      other.resourcesByPermissions accessor className name requested
  hasResourceCreatePermissions : ∀ accessor className name requested,
    service.hasResourceCreatePermissions accessor className name requested =
      other.hasResourceCreatePermissions accessor className name requested
  requireResourceCreatePermissions : ∀ accessor className name requested,
    service.requireResourceCreatePermissions accessor className name requested =
      other.requireResourceCreatePermissions accessor className name requested
  effectiveResourceCreatePermissions : ∀ accessor className name, Agree List.Perm
    (service.effectiveResourceCreatePermissions accessor className name)
    (other.effectiveResourceCreatePermissions accessor className name)
  hasDomainCreatePermissions : ∀ accessor requested,
    service.hasDomainCreatePermissions accessor requested =
      other.hasDomainCreatePermissions accessor requested
  effectiveDomainCreatePermissions : ∀ accessor, Agree List.Perm
    (service.effectiveDomainCreatePermissions accessor)
    (other.effectiveDomainCreatePermissions accessor)
  hasDomainPermissions : ∀ accessor name requested,
    service.hasDomainPermissions accessor name requested =
      other.hasDomainPermissions accessor name requested
  requireDomainPermissions : ∀ accessor name requested,
    service.requireDomainPermissions accessor name requested =
      other.requireDomainPermissions accessor name requested
  effectiveDomainPermissions : ∀ accessor name, Agree List.Perm
    (service.effectiveDomainPermissions accessor name)
    (other.effectiveDomainPermissions accessor name)
  createOverview : ∀ accessor, Agree PermissionOverview.Same
    (service.createOverview accessor) (other.createOverview accessor)
  globalOverview : ∀ accessor, Agree PermissionOverview.Same
    (service.globalOverview accessor) (other.globalOverview accessor)

/-- The order in which grants are listed does not matter to any method. -/
theorem sameAnswers_reading (h : service.grants.Alike grants')
    (hdescendants : ∀ id, ∃ entries, service.closure.descendants id = .ok entries) :
    service.SameAnswers (service.reading grants') := by
  constructor
  · intro accessor accessed requested
    exact check_eq (checkedOnResource_agrees h accessor accessed requested) requested
  · intro accessor accessed requested
    exact require_eq (checkedOnResource_agrees h accessor accessed requested) requested _
  · intro grantor accessed requested
    apply Agree.eq
    apply Agree.bind_same
    intro _
    apply (checkedOnResource_agrees h grantor accessed requested).bind
    intro effective effective' heffective
    simp only [heffective.any_eq]
    exact .ok rfl
  · intro accessor accessed
    exact checkedOnResource_agrees h accessor accessed []
  · intro accessor className name requested
    exact check_eq (checkedGlobal_agrees h accessor className name requested) requested
  · intro accessor className name
    exact checkedGlobal_agrees h accessor className name []
  · intro accessor className name requested
    -- Candidates are listed by the directory, and only the check of each reads grants.
    simp only [resourcesByPermissions, permitted_eq h]
    rfl
  · intro accessor className name requested
    apply Agree.eq
    apply Agree.bind_same
    intro _
    apply (checkedCreate_agrees h accessor className name requested).bind
    rintro ⟨domain, effective⟩ ⟨_, effective'⟩ ⟨rfl, heffective⟩
    exact .ok (allSatisfied_eq heffective requested)
  · intro accessor className name requested
    apply Agree.eq
    apply Agree.bind_same
    intro _
    apply (checkedCreate_agrees h accessor className name requested).bind
    rintro ⟨domain, effective⟩ ⟨_, effective'⟩ ⟨rfl, heffective⟩
    have hdemand := demand_eq heffective requested
      (.missingForClass accessor · className domain.name)
    show Agree _ (demand requested effective _) (demand requested effective' _)
    rw [hdemand]
    exact Agree.refl (fun _ => rfl) _
  · intro accessor className name
    apply (checkedCreate_agrees h accessor className name []).bind
    rintro ⟨domain, effective⟩ ⟨_, effective'⟩ ⟨rfl, heffective⟩
    exact .ok heffective
  · intro accessor requested
    exact check_eq (effectiveDomainCreatePermissions_agrees h accessor) requested
  · exact effectiveDomainCreatePermissions_agrees h
  · intro accessor name requested
    exact check_eq (effectiveDomainPermissions_agrees h accessor name) requested
  · intro accessor name requested
    exact require_eq (effectiveDomainPermissions_agrees h accessor name) requested _
  · exact effectiveDomainPermissions_agrees h
  · intro accessor
    exact overview_same h hdescendants accessor h.listAllCreate _
  · intro accessor
    exact overview_same h hdescendants accessor h.listAllGlobal _

end Service

end Authorization
