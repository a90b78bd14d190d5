import Authorization.Proofs.Store.Decode
import Authorization.Proofs.Store.Interchange
import Authorization.Proofs.Store.RowWalk

/-! Inherit rows. The hierarchy tells an inherit permission by the number of its row, whatever its
name; a listing decodes the row and wants the number to fit the name. -/
namespace Authorization

/-- A permission that was decoded has the number of its row. -/
theorem ResourcePermissionRow.systemId_of_decode {row : ResourcePermissionRow}
    {permission : ResourcePermission} (h : row.decode = .ok permission) :
    permission.row.systemId = row.systemId := by
  rw [decode, ResourcePermission.ofStored] at h
  obtain ⟨named, _, hstored⟩ := bind_eq_ok_iff.mp h
  split at hstored
  · next hid =>
    cases hstored
    exact hid
  · cases hstored

/-- Of a row that decodes the number says whether it is an inherit permission. -/
theorem ResourcePermissionRow.isInherit_iff {row : ResourcePermissionRow}
    {permission : ResourcePermission} (h : row.decode = .ok permission) :
    permission.isInherit = true ↔ row.systemId = some SystemPermission.inherit.id := by
  rw [← permission.systemId_row_eq_iff, systemId_of_decode h]

namespace Tables

variable {tables : Tables} {accessor donor : ResourceId}

/-- Some row from a resource to another is accepted as an inherit permission. -/
def AcceptsInherit (tables : Tables) (accessor donor : ResourceId) : Prop :=
  ∃ row permission, (⟨accessor, donor⟩, row) ∈ tables.grants.direct ∧
    row.decode = .ok permission ∧ permission.isInherit = true

/-- Some row from a resource to another has the number of an inherit permission and is rejected. -/
def RejectsInherit (tables : Tables) (accessor donor : ResourceId) : Prop :=
  ∃ row error, (⟨accessor, donor⟩, row) ∈ tables.grants.direct ∧
    row.systemId = some SystemPermission.inherit.id ∧ row.decode = .error error

theorem inherits_iff_accepts_or_rejects : tables.Inherits accessor donor ↔
    tables.AcceptsInherit accessor donor ∨ tables.RejectsInherit accessor donor := by
  constructor
  · rintro ⟨row, hrow, hid⟩
    cases hdecode : row.decode with
    | ok permission =>
      have hinherit := (ResourcePermissionRow.isInherit_iff hdecode).mpr hid
      exact Or.inl ⟨row, permission, hrow, hdecode, hinherit⟩
    | error error => exact Or.inr ⟨row, error, hrow, hid, hdecode⟩
  · rintro (⟨row, permission, hrow, hdecode, hinherit⟩ | ⟨row, error, hrow, hid, hdecode⟩)
    · exact ⟨row, hrow, (ResourcePermissionRow.isInherit_iff hdecode).mp hinherit⟩
    · exact ⟨row, hrow, hid⟩

theorem accepts_iff_inherits (h : ¬tables.RejectsInherit accessor donor) :
    tables.AcceptsInherit accessor donor ↔ tables.Inherits accessor donor := by
  rw [inherits_iff_accepts_or_rejects, or_iff_left h]

end Tables

namespace Database

/-- What is listed under a key is decoded from the rows under that key. -/
theorem listDirect_eq {database : Database} (hlist : database.gate .listDirect = .ok ())
    (accessor accessed : ResourceId) :
    ∃ rows, database.grantSource.listDirect accessor accessed =
        decodeRows ResourcePermissionRow.decode rows ∧
      ∀ row, row ∈ rows ↔ (⟨accessor, accessed⟩, row) ∈ database.tables.grants.direct := by
  refine ⟨_, bind_of_eq_ok hlist, fun row => ?_⟩
  rw [GrantRows.mem_held_iff, Tables.byName, List.mem_mergeSort]

theorem exists_row_of_listDirect_error {database : Database}
    (hlist : database.gate .listDirect = .ok ()) {accessor accessed : ResourceId} {error : Error}
    (hfails : database.grantSource.listDirect accessor accessed = .error error) :
    ∃ row, (⟨accessor, accessed⟩, row) ∈ database.tables.grants.direct ∧
      row.decode = .error error := by
  obtain ⟨rows, hrows, hmem⟩ := listDirect_eq hlist accessor accessed
  obtain ⟨row, hrow, hdecode⟩ := exists_of_decodeRows_error (hrows.symm.trans hfails)
  exact ⟨row, (hmem row).mp hrow, hdecode⟩

/-- One row that is rejected fails the listing of all rows under its key, and nothing else does. -/
theorem listDirect_fails_iff {database : Database} (hlist : database.gate .listDirect = .ok ())
    (accessor accessed : ResourceId) :
    (∃ error, database.grantSource.listDirect accessor accessed = .error error) ↔
      ∃ row error, (⟨accessor, accessed⟩, row) ∈ database.tables.grants.direct ∧
        row.decode = .error error := by
  constructor
  · rintro ⟨error, hfails⟩
    obtain ⟨row, hrow, hdecode⟩ := exists_row_of_listDirect_error hlist hfails
    exact ⟨row, error, hrow, hdecode⟩
  · rintro ⟨row, error, hrow, hdecode⟩
    obtain ⟨rows, hrows, hmem⟩ := listDirect_eq hlist accessor accessed
    rw [hrows]
    cases hanswer : decodeRows ResourcePermissionRow.decode rows with
    | error error => exact ⟨error, rfl⟩
    | ok permissions =>
      obtain ⟨permission, hok⟩ := decodes_of_decodeRows hanswer row ((hmem row).mpr hrow)
      cases hok.symm.trans hdecode

/-- Where rows are listed, none of them was rejected. -/
theorem not_rejectsInherit_of_listed {database : Database}
    (hlist : database.gate .listDirect = .ok ()) {accessor donor : ResourceId}
    {permissions : List ResourcePermission}
    (hlisted : database.grantSource.listDirect accessor donor = .ok permissions) :
    ¬database.tables.RejectsInherit accessor donor := by
  rintro ⟨row, error, hrow, _, hdecode⟩
  obtain ⟨_, hfails⟩ :=
    (listDirect_fails_iff hlist accessor donor).mpr ⟨row, error, hrow, hdecode⟩
  cases hfails.symm.trans hlisted

/-- An inherit permission is listed if and only if a row is accepted as one. -/
theorem exists_isInherit_iff {database : Database} (hlist : database.gate .listDirect = .ok ())
    {accessor donor : ResourceId} {permissions : List ResourcePermission}
    (hlisted : database.grantSource.listDirect accessor donor = .ok permissions) :
    (∃ permission ∈ permissions, permission.isInherit = true) ↔
      database.tables.AcceptsInherit accessor donor := by
  obtain ⟨rows, hrows, hmem⟩ := listDirect_eq hlist accessor donor
  rw [hrows] at hlisted
  constructor
  · rintro ⟨permission, hpermission, hinherit⟩
    obtain ⟨row, hrow, hdecode⟩ := (mem_iff_of_decodeRows hlisted permission).mp hpermission
    exact ⟨row, permission, (hmem row).mp hrow, hdecode, hinherit⟩
  · rintro ⟨row, permission, hrow, hdecode, hinherit⟩
    have hpermission := (mem_iff_of_decodeRows hlisted permission).mpr
      ⟨row, (hmem row).mpr hrow, hdecode⟩
    exact ⟨permission, hpermission, hinherit⟩

namespace Walkable

variable {database : Database} (h : database.Walkable)

include h

theorem exists_donors (accessor : ResourceId) :
    ∃ donors, database.hops.donors.next [accessor] = .ok donors ∧
      ∀ donor, donor ∈ donors ↔ database.tables.Inherits accessor donor := by
  obtain ⟨donors, hdonors, hmem⟩ := h.follows_donors [accessor]
  refine ⟨donors, hdonors, fun donor => ?_⟩
  simp only [hmem, List.mem_singleton, exists_eq_left, Tables.mem_donors_iff]

/-- The native query has at its first level the donors of the accessor but for the accessor itself.
-/
theorem exists_firstHop (accessor : ResourceId) :
    ∃ entries, database.native.accessors accessor = .ok entries ∧
      ∀ donor, ⟨1, donor⟩ ∈ entries ↔
        database.tables.Inherits accessor donor ∧ donor ≠ accessor := by
  refine ⟨_, h.native_accessors accessor, fun donor => ?_⟩
  rw [(Paths.isClosure_closure _ accessor).mem_iff, Distance.one_iff, Tables.mem_donors_iff]

end Walkable

/-- What the hierarchy and the listing of the rows between them say of one resource as a donor of
another. -/
structure DonorAgrees (database : Database) (accessor donor : ResourceId)
    (donors : List ResourceId) (entries : List (Ranked ResourceId)) : Prop where
  isDonor_iff : donor ∈ donors ↔ database.tables.Inherits accessor donor
  /-- A row that is rejected makes no donor unless it has the number of an inherit permission. -/
  isDonor_iff_or : donor ∈ donors ↔
    database.tables.AcceptsInherit accessor donor ∨ database.tables.RejectsInherit accessor donor
  /-- The first hop of the native query leads to the donors other than the accessor itself. -/
  firstHop_iff : ⟨1, donor⟩ ∈ entries ↔ donor ∈ donors ∧ donor ≠ accessor
  listed_iff : ∀ {permissions}, database.grantSource.listDirect accessor donor = .ok permissions →
    (donor ∈ donors ↔ ∃ permission ∈ permissions, permission.isInherit = true)
  listing_fails_iff : (∃ error, database.grantSource.listDirect accessor donor = .error error) ↔
    ∃ row error, (⟨accessor, donor⟩, row) ∈ database.tables.grants.direct ∧
      row.decode = .error error
  /-- It is the error of one of the rows that a listing fails with. -/
  of_listing_error : ∀ {error}, database.grantSource.listDirect accessor donor = .error error →
    ∃ row, (⟨accessor, donor⟩, row) ∈ database.tables.grants.direct ∧ row.decode = .error error

theorem donorAgrees {database : Database} (hlist : database.gate .listDirect = .ok ())
    {accessor : ResourceId} {donors : List ResourceId} {entries : List (Ranked ResourceId)}
    (hdonor : ∀ donor, donor ∈ donors ↔ database.tables.Inherits accessor donor)
    (hfirst : ∀ donor, ⟨1, donor⟩ ∈ entries ↔
      database.tables.Inherits accessor donor ∧ donor ≠ accessor) (donor : ResourceId) :
    database.DonorAgrees accessor donor donors entries where
  isDonor_iff := hdonor donor
  isDonor_iff_or := (hdonor donor).trans Tables.inherits_iff_accepts_or_rejects
  firstHop_iff := by rw [hfirst, hdonor]
  listed_iff := by
    intro permissions hlisted
    have haccepts := Tables.accepts_iff_inherits (not_rejectsInherit_of_listed hlist hlisted)
    rw [hdonor, ← haccepts, exists_isInherit_iff hlist hlisted]
  listing_fails_iff := listDirect_fails_iff hlist accessor donor
  of_listing_error := exists_row_of_listDirect_error hlist

/-- Edges of the hierarchy and decoded grants. An inherit row that decodes makes a donor even where
rows beside it fail the listing, and so does no other row but one that has the number and does not
decode. Closures of accessors follow the rows that decode if none of the resources in them has a row
of that other sort. -/
theorem inherit_rows_agree {database : Database} (hwalkable : database.Walkable)
    (hlist : database.gate .listDirect = .ok ()) (accessor : ResourceId) :
    ∃ donors entries, database.hops.donors.next [accessor] = .ok donors ∧
      database.native.accessors accessor = .ok entries ∧
      (∀ donor, database.DonorAgrees accessor donor donors entries) ∧
      ∀ strategy, ∃ found,
        ((Store.backend database).closure strategy).accessors accessor = .ok found ∧
        IsClosure database.tables.Inherits accessor found ∧
        ((∀ entry ∈ found, ∀ donor, ¬database.tables.RejectsInherit entry.node donor) →
          IsClosure database.tables.AcceptsInherit accessor found) := by
  obtain ⟨donors, hdonors, hdonor⟩ := hwalkable.exists_donors accessor
  obtain ⟨entries, hentries, hfirst⟩ := hwalkable.exists_firstHop accessor
  refine ⟨donors, entries, hdonors, hentries, donorAgrees hlist hdonor hfirst, fun strategy => ?_⟩
  obtain ⟨found, hfound, hclosure⟩ := hwalkable.exists_accessors strategy accessor
  refine ⟨found, hfound, hclosure, fun hnone => hclosure.congr ?_⟩
  intro resource hreach donor
  obtain ⟨entry, hentry, rfl⟩ := hclosure.exists_mem_iff.mpr hreach
  exact Tables.accepts_iff_inherits (hnone entry hentry donor)

end Database

namespace Office

/-- The ledger with other rows of grants on resources. -/
def rewritten (direct : GrantRows DirectKey ResourcePermissionRow) : Database :=
  ⟨{ ledger.tables with grants := { ledger.tables.grants with direct } }, []⟩

/-- Beside the row by which the clerk inherits from the team there is one whose number is that of
another permission. -/
def crowded : Database :=
  rewritten [(⟨clerk.id, team.id⟩, ⟨some (-101), "*INHERIT", false⟩),
    (⟨clerk.id, team.id⟩, ⟨some (-104), "edit", false⟩)]

/-- The only row from the clerk to the team has the number of an inherit permission and a custom
name. -/
def forged : Database :=
  rewritten [(⟨clerk.id, team.id⟩, ⟨some (-101), "view", false⟩)]

/-- The team is a donor of the clerk where nothing can be listed from the one to the other. -/
theorem donors_without_listing :
    crowded.hops.donors.next [clerk.id] = .ok [team.id] ∧
      (∃ error, crowded.grantSource.listDirect clerk.id team.id = .error error) ∧
      forged.hops.donors.next [clerk.id] = .ok [team.id] ∧
      ∃ error, forged.grantSource.listDirect clerk.id team.id = .error error := by
  have hedit : ((⟨clerk.id, team.id⟩, ⟨some (-104), "edit", false⟩) :
      DirectKey × ResourcePermissionRow) ∈ crowded.tables.grants.direct := by decide
  have hview : ((⟨clerk.id, team.id⟩, ⟨some (-101), "view", false⟩) :
      DirectKey × ResourcePermissionRow) ∈ forged.tables.grants.direct := by decide
  refine ⟨by decide, ?_, by decide, ?_⟩
  · exact (Database.listDirect_fails_iff rfl _ _).mpr ⟨_, _, hedit, rfl⟩
  · exact (Database.listDirect_fails_iff rfl _ _).mpr ⟨_, _, hview, rfl⟩

theorem walkable_rewritten (direct : GrantRows DirectKey ResourcePermissionRow) :
    (rewritten direct).Walkable :=
  Database.walkable_of_refusals_eq rfl

/-- The row of the crowded tables that is rejected has another number. -/
theorem not_rejectsInherit_crowded (accessor donor : ResourceId) :
    ¬crowded.tables.RejectsInherit accessor donor := by
  rintro ⟨row, error, hrow, hid, hdecode⟩
  rcases List.mem_cons.mp hrow with hfirst | hrest
  · cases hfirst
    cases hdecode
  · cases List.mem_singleton.mp hrest
    cases hid

/-- In the ledger the inherit permission of the clerk on the team is listed, since the team is a
donor and no row fails. In the crowded tables the team is a donor by the row that decodes, and all
that the clerk inherits from comes from such rows. -/
theorem clerk_inherits_by_rows :
    (∃ permissions, ledger.grantSource.listDirect clerk.id team.id = .ok permissions ∧
      ∃ permission ∈ permissions, permission.isInherit = true) ∧
    ∃ donors found, crowded.hops.donors.next [clerk.id] = .ok donors ∧ team.id ∈ donors ∧
      ((Store.backend crowded).closure .recursive).accessors clerk.id = .ok found ∧
      IsClosure crowded.tables.AcceptsInherit clerk.id found := by
  constructor
  · have hwalkable : ledger.Walkable := Database.walkable_of_refusals_eq rfl
    obtain ⟨donors, _, hdonors, _, hagrees, _⟩ :=
      Database.inherit_rows_agree hwalkable rfl clerk.id
    have hteam : donors = [team.id] := Except.ok.inj (hdonors.symm.trans (by decide))
    cases hlisting : ledger.grantSource.listDirect clerk.id team.id with
    | error error =>
      obtain ⟨row, hrow, herror⟩ := (hagrees team.id).of_listing_error hlisting
      have honly : row = ⟨some (-101), "*INHERIT", false⟩ := by
        simpa [ledger, clerk, team, file] using hrow
      rw [honly] at herror
      cases herror
    | ok permissions =>
      refine ⟨permissions, rfl, ((hagrees team.id).listed_iff hlisting).mp ?_⟩
      rw [hteam]
      exact List.mem_singleton_self _
  · obtain ⟨donors, _, hdonors, _, hagrees, hclosures⟩ :=
      Database.inherit_rows_agree (walkable_rewritten _) rfl clerk.id
    obtain ⟨found, hfound, _, haccepted⟩ := hclosures .recursive
    have hrow : ((⟨clerk.id, team.id⟩, ⟨some (-101), "*INHERIT", false⟩) :
        DirectKey × ResourcePermissionRow) ∈ crowded.tables.grants.direct := by decide
    have haccepts : crowded.tables.AcceptsInherit clerk.id team.id :=
      ⟨_, inherit, hrow, rfl, rfl⟩
    have hclosure : IsClosure crowded.tables.AcceptsInherit clerk.id found :=
      haccepted fun entry _ => not_rejectsInherit_crowded entry.node
    exact ⟨donors, found, hdonors, (hagrees team.id).isDonor_iff_or.mpr (Or.inl haccepts),
      hfound, hclosure⟩

end Office

end Authorization
