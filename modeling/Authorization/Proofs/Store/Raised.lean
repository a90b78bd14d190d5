import Authorization.Proofs.Service.NoLess
import Authorization.Proofs.Service.Decision
import Authorization.Proofs.Store.Interchange

/-! Raised tables: tables with more rows of grants, and with grant options where there were none. -/
namespace Authorization

/-- The same permission, perhaps with the grant option. -/
structure ResourcePermissionRow.Raised (row raised : ResourcePermissionRow) : Prop where
  systemId : raised.systemId = row.systemId
  name : raised.name = row.name
  withGrantOption : row.withGrantOption ≤ raised.withGrantOption

/-- The same create permission, perhaps with the grant option on either level. -/
structure ResourceCreateRow.Raised (row raised : ResourceCreateRow) : Prop where
  systemId : raised.systemId = row.systemId
  postSystemId : raised.postSystemId = row.postSystemId
  postName : raised.postName = row.postName
  postGrantOption : row.postGrantOption.getD false ≤ raised.postGrantOption.getD false
  withGrantOption : row.withGrantOption ≤ raised.withGrantOption

structure DomainPermissionRow.Raised (row raised : DomainPermissionRow) : Prop where
  systemId : raised.systemId = row.systemId
  withGrantOption : row.withGrantOption ≤ raised.withGrantOption

structure DomainCreateRow.Raised (row raised : DomainCreateRow) : Prop where
  systemId : raised.systemId = row.systemId
  postSystemId : raised.postSystemId = row.postSystemId
  postGrantOption : row.postGrantOption.getD false ≤ raised.postGrantOption.getD false
  withGrantOption : row.withGrantOption ≤ raised.withGrantOption

/-- One answer is worth another if it is a permission where the other is, and satisfies it. -/
def Worth {π : Type} [Permission π] [DecidableEq π] (decoded raised : Except Error π) : Prop :=
  ∀ {permission}, decoded = .ok permission →
    ∃ better, raised = .ok better ∧ Permission.isSatisfiedBy permission better = true

namespace ResourcePermission

variable {text : String} {grant grant' : Bool} {permission : ResourcePermission}

/-- A name that spells a permission spells it with any grant option. -/
theorem ofName_eq_ok (h : ofName text grant = .ok permission) (grant' : Bool) :
    permission.withGrantOption = grant ∧ ofName text grant' = .ok ⟨permission.name, grant'⟩ := by
  unfold ofName at h ⊢
  obtain ⟨name, hname, h⟩ := bind_eq_ok_iff.mp h
  rw [bind_of_eq_ok hname]
  split at h
  · next hcustom =>
    cases h
    exact ⟨rfl, dif_pos hcustom⟩
  · next hreserved =>
    obtain ⟨system, hsystem, h⟩ := bind_eq_ok_iff.mp h
    cases h
    exact ⟨rfl, (dif_neg hreserved).trans (bind_of_eq_ok hsystem)⟩

theorem ofStored_worth (id : Option Int) (text : String) (hgrant : grant ≤ grant') :
    Worth (ofStored id text grant) (ofStored id text grant') := by
  intro permission h
  unfold ofStored at h ⊢
  obtain ⟨named, hnamed, h⟩ := bind_eq_ok_iff.mp h
  obtain ⟨hown, hraised⟩ := ofName_eq_ok hnamed grant'
  split at h
  · next hid =>
    cases h
    refine ⟨⟨permission.name, grant'⟩, ?_, ?_⟩
    · rw [bind_of_eq_ok hraised]
      exact if_pos hid
    · rw [← hown] at hgrant
      exact Permission.isSatisfiedBy_of_plain_eq rfl (Bool.le_iff_imp.mp hgrant)
  · cases h

end ResourcePermission

theorem DomainPermission.ofStored_worth {grant grant' : Bool} (id : Int) (hgrant : grant ≤ grant') :
    Worth (ofStored id grant) (ofStored id grant') := by
  intro permission h
  obtain ⟨system, hsystem, h⟩ := bind_eq_ok_iff.mp h
  cases h
  exact ⟨⟨system, grant'⟩, bind_of_eq_ok hsystem,
    Permission.isSatisfiedBy_of_plain_eq rfl (Bool.le_iff_imp.mp hgrant)⟩

namespace CreatePermission

variable {π : Type} [Creatable π] [DecidableEq π] {grant grant' : Bool}

theorem isSatisfiedBy_postCreate {wrapped wrapped' : π}
    (hwrapped : Permission.isSatisfiedBy wrapped wrapped' = true) (hgrant : grant ≤ grant') :
    Permission.isSatisfiedBy (⟨.postCreate wrapped, grant⟩ : CreatePermission π)
      ⟨.postCreate wrapped', grant'⟩ = true := by
  obtain ⟨hbare, hoption, _⟩ := Permission.isSatisfiedBy_iff.mp hwrapped
  refine Permission.isSatisfiedBy_iff.mpr ⟨?_, Bool.le_iff_imp.mp hgrant, ?_⟩
  · exact congrArg (fun permission => CreatePermission.mk (.postCreate permission) false) hbare
  · rintro ⟨htrue, hfalse⟩
    have hlost := hoption (Option.some.inj htrue)
    rw [Option.some.inj hfalse] at hlost
    cases hlost

theorem ofStored_worth (malformed : Option Int → Option π → Error) (id : Option Int)
    {wrapped wrapped' : Option π}
    (hwrapped : Option.Rel (fun permission better =>
      Permission.isSatisfiedBy permission better = true) wrapped wrapped')
    (hgrant : grant ≤ grant') :
    Worth (ofStored malformed id wrapped grant) (ofStored malformed id wrapped' grant') := by
  intro permission h
  cases hwrapped with
  | none =>
    cases id with
    | none => cases h
    | some id =>
      obtain ⟨system, hsystem, h⟩ := bind_eq_ok_iff.mp h
      cases h
      refine ⟨⟨.create, grant'⟩, bind_of_eq_ok hsystem, ?_⟩
      exact Permission.isSatisfiedBy_iff.mpr ⟨rfl, Bool.le_iff_imp.mp hgrant, nofun⟩
  | some hwrapped =>
    cases id with
    | none =>
      cases h
      exact ⟨_, rfl, isSatisfiedBy_postCreate hwrapped hgrant⟩
    | some id => cases h

end CreatePermission

/-- What may be missing is missing on both sides, or else is worth the same. -/
theorem exists_mapM_worth {α π : Type} [Permission π] [DecidableEq π]
    {decode decode' : α → Except Error π} (hworth : ∀ a, Worth (decode a) (decode' a))
    {found : Option α} {decoded : Option π} (h : found.mapM decode = .ok decoded) :
    ∃ raised, found.mapM decode' = .ok raised ∧ Option.Rel (fun permission better =>
      Permission.isSatisfiedBy permission better = true) decoded raised := by
  cases found with
  | none =>
    cases h
    exact ⟨none, rfl, .none⟩
  | some a =>
    obtain ⟨permission, hdecode, h⟩ := bind_eq_ok_iff.mp h
    cases h
    obtain ⟨better, hdecode', hbetter⟩ := hworth a hdecode
    exact ⟨some better, bind_eq_ok hdecode' rfl, .some hbetter⟩

theorem ResourcePermissionRow.Raised.worth {row raised : ResourcePermissionRow}
    (h : row.Raised raised) : Worth row.decode raised.decode := by
  rw [decode, decode, h.systemId, h.name]
  exact ResourcePermission.ofStored_worth _ _ h.withGrantOption

theorem ResourceCreateRow.Raised.worth {row raised : ResourceCreateRow} (h : row.Raised raised) :
    Worth row.decode raised.decode := by
  intro permission hdecode
  rw [decode, h.systemId, h.postSystemId, h.postName]
  obtain ⟨wrapped, hwrapped, hstored⟩ := bind_eq_ok_iff.mp hdecode
  obtain ⟨wrapped', hwrapped', hrel⟩ := exists_mapM_worth
    (fun name => ResourcePermission.ofStored_worth row.postSystemId name h.postGrantOption) hwrapped
  obtain ⟨better, hbetter, hsatisfied⟩ :=
    CreatePermission.ofStored_worth _ row.systemId hrel h.withGrantOption hstored
  exact ⟨better, bind_eq_ok hwrapped' hbetter, hsatisfied⟩

theorem DomainPermissionRow.Raised.worth {row raised : DomainPermissionRow}
    (h : row.Raised raised) : Worth row.decode raised.decode := by
  rw [decode, decode, h.systemId]
  exact DomainPermission.ofStored_worth _ h.withGrantOption

theorem DomainCreateRow.Raised.worth {row raised : DomainCreateRow} (h : row.Raised raised) :
    Worth row.decode raised.decode := by
  intro permission hdecode
  rw [decode, h.systemId, h.postSystemId]
  obtain ⟨wrapped, hwrapped, hstored⟩ := bind_eq_ok_iff.mp hdecode
  obtain ⟨wrapped', hwrapped', hrel⟩ := exists_mapM_worth
    (fun id => DomainPermission.ofStored_worth id h.postGrantOption) hwrapped
  obtain ⟨better, hbetter, hsatisfied⟩ :=
    CreatePermission.ofStored_worth _ row.systemId hrel h.withGrantOption hstored
  exact ⟨better, bind_eq_ok hwrapped' hbetter, hsatisfied⟩

/-- Every row has its raised row under the same key; there may be more rows. -/
def GrantRows.Raised {κ ρ : Type} (raised : ρ → ρ → Prop) (rows rows' : GrantRows κ ρ) : Prop :=
  ∀ key row, (key, row) ∈ rows → ∃ row', (key, row') ∈ rows' ∧ raised row row'

/-- Tables that register the same, where some grants were added and others were raised. -/
structure Tables.Raised (tables raised : Tables) : Prop where
  domains : raised.domains = tables.domains
  classes : raised.classes = tables.classes
  resources : raised.resources = tables.resources
  direct : tables.grants.direct.Raised ResourcePermissionRow.Raised raised.grants.direct
  global : tables.grants.global.Raised ResourcePermissionRow.Raised raised.grants.global
  create : tables.grants.create.Raised ResourceCreateRow.Raised raised.grants.create
  domain : tables.grants.domain.Raised DomainPermissionRow.Raised raised.grants.domain
  domainCreate :
    tables.grants.domainCreate.Raised DomainCreateRow.Raised raised.grants.domainCreate

/-- Every row stands for something. -/
def GrantRows.Decodes {κ ρ π : Type} (decode : ρ → Except Error π) (rows : GrantRows κ ρ) : Prop :=
  ∀ key row, (key, row) ∈ rows → ∃ permission, decode row = .ok permission

/-- All rows of all grant tables stand for something. -/
structure Tables.Decodes (tables : Tables) : Prop where
  direct : tables.grants.direct.Decodes ResourcePermissionRow.decode
  global : tables.grants.global.Decodes ResourcePermissionRow.decode
  create : tables.grants.create.Decodes ResourceCreateRow.decode
  domain : tables.grants.domain.Decodes DomainPermissionRow.decode
  domainCreate : tables.grants.domainCreate.Decodes DomainCreateRow.decode

namespace Tables

/-- The database that holds some tables and refuses no statement. -/
def database (tables : Tables) : Database where
  tables

/-- The authorization service over tables. -/
def service (tables : Tables) (strategy : ClosureStrategy) : Service :=
  (Store.backend tables.database).service strategy

variable (tables : Tables)

/-- Whatever is asked under one key of a table, the answer is what its rows there stand for. -/
theorem exists_query_held {κ ρ π : Type} [DecidableEq κ] {decode : ρ → Except Error π}
    {rows sorted : GrantRows κ ρ} (hrows : rows.Decodes decode) (hsorted : sorted.Perm rows)
    (statement : Statement) (key : κ) :
    ∃ permissions, tables.database.query statement decode (sorted.held key) = .ok permissions ∧
      ∀ permission, permission ∈ permissions ↔
        ∃ row, (key, row) ∈ rows ∧ decode row = .ok permission := by
  have hmem : ∀ {row}, row ∈ sorted.held key ↔ (key, row) ∈ rows := by
    intro row
    rw [GrantRows.mem_held_iff, hsorted.mem_iff]
  have hall : ∀ row ∈ sorted.held key, ∃ permission, decode row = .ok permission :=
    fun row hrow => hrows key row (hmem.mp hrow)
  obtain ⟨permissions, hdecode, hpermissions⟩ := exists_decodeRows hall
  refine ⟨permissions, (Database.query_eq rfl _ _ _).trans hdecode, fun permission => ?_⟩
  simp only [hpermissions, hmem]

theorem walkable : tables.database.Walkable :=
  Database.walkable_of_refusals_eq rfl

end Tables

/-- Holdings that list what the rows of tables stand for. -/
structure Tables.StandFor (tables : Tables) (holdings : Holdings) : Prop where
  direct : ∀ accessor accessed permission, permission ∈ holdings.direct accessor accessed ↔
    ∃ row, (⟨accessor, accessed⟩, row) ∈ tables.grants.direct ∧ row.decode = .ok permission
  global : ∀ accessor classId domain permission,
    permission ∈ holdings.global accessor classId domain ↔
      ∃ row, (⟨accessor, classId, domain⟩, row) ∈ tables.grants.global ∧
        row.decode = .ok permission
  create : ∀ accessor classId domain permission,
    permission ∈ holdings.create accessor classId domain ↔
      ∃ row, (⟨accessor, classId, domain⟩, row) ∈ tables.grants.create ∧
        row.decode = .ok permission
  domain : ∀ accessor domain permission, permission ∈ holdings.domain accessor domain ↔
    ∃ row, (⟨accessor, domain⟩, row) ∈ tables.grants.domain ∧ row.decode = .ok permission
  domainCreate : ∀ accessor permission, permission ∈ holdings.domainCreate accessor ↔
    ∃ row, (accessor, row) ∈ tables.grants.domainCreate ∧ row.decode = .ok permission

/-- A database with tables that decode lists what the rows stand for. -/
theorem Tables.Decodes.exists_lists {tables : Tables} (h : tables.Decodes) :
    ∃ holdings, tables.database.grantSource.Lists holdings ∧ tables.StandFor holdings := by
  choose direct hdirect hdirectly using
    tables.exists_query_held h.direct (List.mergeSort_perm _ _) .listDirect
  choose global hglobal hglobally using
    tables.exists_query_held h.global (List.mergeSort_perm _ _) .listGlobal
  choose create hcreate hcreating using
    tables.exists_query_held h.create (List.Perm.refl _) .listCreate
  choose domain hdomain hdomains using
    tables.exists_query_held h.domain (List.mergeSort_perm _ _) .listDomain
  choose domainCreate hdomainCreate hdomainsCreate using
    tables.exists_query_held h.domainCreate (List.Perm.refl _) .listDomainCreate
  refine ⟨⟨fun accessor accessed => direct ⟨accessor, accessed⟩,
    fun accessor classId above => global ⟨accessor, classId, above⟩,
    fun accessor classId above => create ⟨accessor, classId, above⟩,
    fun accessor above => domain ⟨accessor, above⟩, domainCreate⟩, ?_, ?_⟩
  · exact ⟨fun _ _ => hdirect _, fun _ _ _ => hglobal _, fun _ _ _ => hcreate _,
      fun _ _ => hdomain _, hdomainCreate⟩
  · exact ⟨fun _ _ => hdirectly _, fun _ _ _ => hglobally _, fun _ _ _ => hcreating _,
      fun _ _ => hdomains _, hdomainsCreate⟩

/-- What raised rows stand for under a key has in it something worth each permission there. -/
theorem GrantRows.Raised.within {κ ρ π : Type} [Permission π] [DecidableEq π]
    {rows rows' : GrantRows κ ρ} {raised : ρ → ρ → Prop} {decode : ρ → Except Error π}
    (h : rows.Raised raised rows')
    (hworth : ∀ {row row'}, raised row row' → Worth (decode row) (decode row')) {key : κ}
    {permissions permissions' : List π}
    (hmem : ∀ permission, permission ∈ permissions ↔
      ∃ row, (key, row) ∈ rows ∧ decode row = .ok permission)
    (hmem' : ∀ permission, permission ∈ permissions' ↔
      ∃ row, (key, row) ∈ rows' ∧ decode row = .ok permission) :
    Permission.Within permissions permissions' := by
  intro permission hpermission
  obtain ⟨row, hrow, hdecode⟩ := (hmem permission).mp hpermission
  obtain ⟨row', hrow', hraised⟩ := h key row hrow
  obtain ⟨better, hbetter, hsatisfied⟩ := hworth hraised hdecode
  exact ⟨better, (hmem' better).mpr ⟨row', hrow', hbetter⟩, hsatisfied⟩

namespace Tables.Raised

variable {tables raised : Tables} (h : tables.Raised raised)

include h

theorem within {holdings holdings' : Holdings} (hstand : tables.StandFor holdings)
    (hstand' : raised.StandFor holdings') : holdings.Within holdings' where
  direct accessor accessed :=
    h.direct.within ResourcePermissionRow.Raised.worth (hstand.direct accessor accessed)
      (hstand'.direct accessor accessed)
  global accessor classId domain :=
    h.global.within ResourcePermissionRow.Raised.worth (hstand.global accessor classId domain)
      (hstand'.global accessor classId domain)
  create accessor classId domain :=
    h.create.within ResourceCreateRow.Raised.worth (hstand.create accessor classId domain)
      (hstand'.create accessor classId domain)
  domain accessor domain :=
    h.domain.within DomainPermissionRow.Raised.worth (hstand.domain accessor domain)
      (hstand'.domain accessor domain)
  domainCreate accessor :=
    h.domainCreate.within DomainCreateRow.Raised.worth (hstand.domainCreate accessor)
      (hstand'.domainCreate accessor)

/-- Whoever was inherited from still is. -/
theorem inherits {accessor donor : ResourceId} (hdonor : tables.Inherits accessor donor) :
    raised.Inherits accessor donor := by
  obtain ⟨row, hrow, hinherit⟩ := hdonor
  obtain ⟨row', hrow', hraised⟩ := h.direct _ row hrow
  exact ⟨row', hrow', hraised.systemId.trans hinherit⟩

theorem parallel (strategy : ClosureStrategy) {id : ResourceId}
    {accessors accessors' : List (Ranked ResourceId)}
    (hleft : (tables.service strategy).closure.accessors id = .ok accessors)
    (hright : (raised.service strategy).closure.accessors id = .ok accessors') :
    (tables.service strategy).Parallel (raised.service strategy) id id accessors accessors' := by
  obtain ⟨domains, classes, resources, grants⟩ := tables
  obtain ⟨domains', classes', resources', grants'⟩ := raised
  obtain ⟨hdomains, hclasses, hresources, _⟩ := h
  cases hdomains
  cases hclasses
  cases hresources
  refine ⟨rfl, ?_, ?_, Agree.refl (fun _ => trivial) _, hleft, hright⟩
  · cases strategy with
    | iterative => rfl
    | recursive => rfl
  · cases strategy with
    | iterative => rfl
    | recursive => rfl

/-- More authority turns no yes into a no. Over raised tables every question gets the answer that it
got before, or a yes in place of a no; errors stay the same, and lists of resources only grow. -/
theorem says_no_less (hdecodes : tables.Decodes) (hdecodes' : raised.Decodes)
    (strategy : ClosureStrategy) (accessor : ResourceId) :
    (tables.service strategy).NoLess (raised.service strategy) accessor accessor
      fun _ => True := by
  obtain ⟨holdings, hlists, hstand⟩ := hdecodes.exists_lists
  obtain ⟨holdings', hlists', hstand'⟩ := hdecodes'.exists_lists
  obtain ⟨accessors, haccessors, hA⟩ := tables.walkable.exists_accessors strategy accessor
  obtain ⟨accessors', haccessors', hA'⟩ := raised.walkable.exists_accessors strategy accessor
  have hparallel := h.parallel strategy haccessors haccessors'
  have hcomeUp : Service.ComeUp accessors accessors' := by
    intro entry hentry
    have hreach := hA.exists_mem_iff.mp ⟨entry, hentry, rfl⟩
    exact hA'.exists_mem_iff.mpr (Relation.ReflTransGen.mono (fun _ _ => h.inherits) _ _ hreach)
  have houtdone : (tables.service strategy).Outdone (raised.service strategy) accessor accessor
      accessors accessors' holdings holdings' :=
    { hparallel with
      lists := hlists
      lists' := hlists'
      within := h.within hstand hstand'
      comeUp := hcomeUp }
  exact houtdone.noLess.of_names fun _ => hparallel.sameDomain_refl _

end Tables.Raised

theorem GrantRows.decodes_stored {κ π ρ : Type} {row : π → ρ} {decode : ρ → Except Error π}
    (hdecode : ∀ permission, decode (row permission) = .ok permission) (grants : GrantRows κ π) :
    (grants.stored row).Decodes decode := by
  intro key stored hstored
  obtain ⟨⟨_, permission⟩, _, hrow⟩ := List.mem_map.mp hstored
  cases hrow
  exact ⟨permission, hdecode permission⟩

/-- The rows that stand for the contents of a memory store decode. -/
theorem Records.decodes_tables (records : Records) : records.tables.Decodes where
  direct := GrantRows.decodes_stored ResourcePermission.decode_row _
  global := GrantRows.decodes_stored ResourcePermission.decode_row _
  create := GrantRows.decodes_stored ResourceCreatePermission.decode_row _
  domain := GrantRows.decodes_stored DomainPermission.decode_row _
  domainCreate := GrantRows.decodes_stored DomainCreatePermission.decode_row _

namespace Office

theorem raised_promoted : store.records.tables.Raised promoted.records.tables where
  domains := rfl
  classes := rfl
  resources := rfl
  direct := fun key row h => ⟨row, h, rfl, rfl, Bool.le_refl _⟩
  global := fun key row h => ⟨row, h, rfl, rfl, Bool.le_refl _⟩
  create := fun key row h => ⟨row, h, rfl, rfl, rfl, Bool.le_refl _, Bool.le_refl _⟩
  domain := fun key row h => by
    have hsubset : store.records.tables.grants.domain ⊆ promoted.records.tables.grants.domain := by
      decide
    exact ⟨row, hsubset h, rfl, Bool.le_refl _⟩
  domainCreate := fun key row h => ⟨row, h, rfl, rfl, Bool.le_refl _, Bool.le_refl _⟩

/-- The clerk may view the file by a grant to the team, and still may when the team becomes
super-user and that grant does not count any more. -/
theorem clerk_views_file_when_raised :
    (store.records.tables.service .iterative).hasResourcePermissions clerk.id file.id [view] =
        .ok true ∧
      (promoted.records.tables.service .iterative).hasResourcePermissions clerk.id file.id [view] =
        .ok true := by
  have hmirrors : store.records.tables.database.Mirrors store :=
    ⟨rfl, store.records.mirrors_tables⟩
  have hview : store.HoldsOn clerk.id file view := Or.inl ⟨team.id, clerk_actsAs_team, by decide⟩
  have hasks : store.Asks clerk file document [view] :=
    ⟨by decide, by decide, by decide, rfl, List.cons_ne_nil _ _, by decide⟩
  have hmemory := (Memory.has_check_decides store_reachable.sound.registered .iterative
    hasks).eq_true_iff.mpr (Or.inr (.singleton hview (by decide)))
  have hyes : (store.records.tables.service .iterative).hasResourcePermissions clerk.id file.id
      [view] = .ok true :=
    ((hmirrors.sameAnswers store_reachable .iterative .iterative).hasResourcePermissions clerk.id
      file.id [view]).symm.trans hmemory
  have hnoLess := raised_promoted.says_no_less store.records.decodes_tables
    promoted.records.decodes_tables .iterative clerk.id
  exact ⟨hyes, Service.yes_of_le (hnoLess.hasResourcePermissions file.id [view]) hyes⟩

end Office

end Authorization
