import Authorization.Proofs.Permission.Spelling
import Authorization.Proofs.Store.Refusal

/-! The rows that stand for a permission: the one by which it is written, but for what decoding
overlooks. -/
namespace Authorization

/-- How the permissions of a family are written as rows. `row` is the row of a permission, `normal`
is what decoding makes of a row before it looks at it, and `Refused` tells with which error a row is
refused. -/
structure RowForm {ρ π : Type} (decode : ρ → Except Error π) (row : π → ρ) (normal : ρ → ρ)
    (Refused : ρ → Error → Prop) : Prop where
  decode_row : ∀ permission, decode (row permission) = .ok permission
  decode_eq_ok_iff : ∀ stored permission,
    decode stored = .ok permission ↔ normal stored = row permission
  decode_error_iff : ∀ stored error, decode stored = .error error ↔ Refused stored error
  /-- The rows that are refused are those that are not written for any permission. -/
  refused_iff : ∀ stored, (∃ error, Refused stored error) ↔
    ∀ permission, normal stored ≠ row permission
  decodeRows_eq_ok_iff : ∀ rows permissions,
    decodeRows decode rows = .ok permissions ↔ rows.map normal = permissions.map row
  decodeRows_error_iff : ∀ rows error, decodeRows decode rows = .error error ↔
    ∃ before bad after, rows = before ++ bad :: after ∧
      (∀ stored ∈ before, ∃ permission, normal stored = row permission) ∧ Refused bad error

/-- It is enough to know what single rows stand for and how they are refused. -/
theorem rowForm_of_iff {ρ π : Type} {decode : ρ → Except Error π} {row : π → ρ} {normal : ρ → ρ}
    {Refused : ρ → Error → Prop} (hrow : ∀ permission, decode (row permission) = .ok permission)
    (hok : ∀ stored permission, decode stored = .ok permission ↔ normal stored = row permission)
    (herror : ∀ stored error, decode stored = .error error ↔ Refused stored error) :
    RowForm decode row normal Refused where
  decode_row := hrow
  decode_eq_ok_iff := hok
  decode_error_iff := herror
  refused_iff stored := by
    simp only [← herror, Ne, ← hok]
    cases decode stored with
    | error error => simp
    | ok permission => simp
  decodeRows_eq_ok_iff rows permissions := by
    have hmap : rows.map normal = permissions.map row ↔
        List.Forall₂ (fun stored permission => normal stored = row permission) rows
          permissions := by
      rw [← List.forall₂_eq_eq_eq, List.forall₂_map_left_iff, List.forall₂_map_right_iff]
    rw [Authorization.decodeRows_eq_ok_iff, hmap]
    simp only [hok]
  decodeRows_error_iff rows error := by
    simp only [Authorization.decodeRows_error_iff, hok, herror]

namespace SystemPermission

variable {family : Family} {number : Int}

theorem byId?_eq_some_iff {system : SystemPermission family} :
    byId? family number = some system ↔ system.id = number := by
  constructor
  · intro h
    have hfound := List.find?_some h
    exact of_decide_eq_true hfound
  · rintro rfl
    exact byId?_id system

theorem ofId_eq_ok_iff {system : SystemPermission family} :
    ofId family number = .ok system ↔ system.id = number := by
  rw [← byId?_eq_some_iff, ofId]
  cases byId? family number with
  | none => simp
  | some found => simp

theorem ofId_error_iff {error : Error} : ofId family number = .error error ↔
    (∀ system : SystemPermission family, system.id ≠ number) ∧
      error = .unknownSystemId family number := by
  simp only [Ne, ← byId?_eq_some_iff]
  rw [ofId]
  cases byId? family number with
  | none => simp [eq_comm]
  | some found => simp

end SystemPermission

namespace ResourcePermission

variable {id : Option Int} {text : String} {grant : Bool} {error : Error}

theorem ofName_error_iff : ofName text grant = .error error ↔ RefusesName text error :=
  ⟨ofName_fails error, fun h => h.ofName grant⟩

theorem ofStored_eq_ok_iff {permission : ResourcePermission} :
    ofStored id text grant = .ok permission ↔ Text.trim text = permission.name.text ∧
      permission.withGrantOption = grant ∧ permission.name.systemId? = id := by
  rw [← and_assoc, ← ofName_eq_ok_iff]
  constructor
  · intro h
    obtain ⟨named, hname, h⟩ := bind_eq_ok_iff.mp h
    split at h
    · next hid =>
      cases h
      exact ⟨hname, hid⟩
    · cases h
  · rintro ⟨hname, hid⟩
    rw [ofStored, bind_of_eq_ok hname]
    exact if_pos hid

/-- A stored permission is refused for its name, or else for a number that is not that of the name.
-/
theorem ofStored_error_iff : ofStored id text grant = .error error ↔
    RefusesName text error ∨ ∃ name : PermissionName, Text.trim text = name.text ∧
      name.systemId? ≠ id ∧ error = .mismatchedResourceId id name.text := by
  have hname_iff : ofName text grant = .error error ↔ RefusesName text error := ofName_error_iff
  rw [← hname_iff]
  cases hname : ofName text grant with
  | error refused =>
    have hfails : ofStored id text grant = .error refused := by
      rw [ofStored, hname]
      rfl
    have hunnamed : ¬∃ name : PermissionName, Text.trim text = name.text ∧
        name.systemId? ≠ id ∧ error = .mismatchedResourceId id name.text := by
      rintro ⟨name, htrim, -, -⟩
      have hnamed : ofName text grant = .ok ⟨name, grant⟩ := ofName_eq_ok_iff.mpr ⟨htrim, rfl⟩
      cases hname.symm.trans hnamed
    -- Where the name is refused nothing is asked about the number.
    rw [hfails, or_iff_left hunnamed]
  | ok permission =>
    obtain ⟨htrim, _⟩ := ofName_eq_ok_iff.mp hname
    -- The text names one permission only, so there is one number that it may have.
    have hsame : ∀ name : PermissionName, Text.trim text = name.text → name = permission.name :=
      fun name hname' => PermissionName.text_injective (hname'.symm.trans htrim)
    have hnamed : ¬(Except.ok permission : Except Error ResourcePermission) = .error error := by
      intro h
      cases h
    rw [ofStored, bind_of_eq_ok hname, or_iff_right hnamed]
    split
    · next hid =>
      apply iff_of_false hnamed
      rintro ⟨name, hname', hmismatch, -⟩
      rw [hsame name hname'] at hmismatch
      exact hmismatch hid
    · next hmismatch =>
      constructor
      · rintro ⟨⟩
        exact ⟨permission.name, htrim, hmismatch, rfl⟩
      · rintro ⟨name, hname', -, rfl⟩
        rw [hsame name hname']
        rfl

end ResourcePermission

namespace ResourcePermissionRow

/-- Blanks around the name are overlooked. -/
def normal (row : ResourcePermissionRow) : ResourcePermissionRow :=
  { row with name := Text.trim row.name }

/-- How a row of a resource permission is refused: for its name, or for a number that is not that of
the name, be it one of another permission, one beside a custom name or none beside a reserved one.
-/
inductive Refused (row : ResourcePermissionRow) : Error → Prop where
  | name {error : Error} (hname : RefusesName row.name error) : Refused row error
  | number {name : PermissionName} (hname : Text.trim row.name = name.text)
      (hnumber : name.systemId? ≠ row.systemId) :
      Refused row (.mismatchedResourceId row.systemId name.text)

theorem decode_eq_ok_iff (row : ResourcePermissionRow) (permission : ResourcePermission) :
    row.decode = .ok permission ↔ row.normal = permission.row := by
  rw [decode, ResourcePermission.ofStored_eq_ok_iff, normal, ResourcePermission.row, mk.injEq]
  constructor
  · rintro ⟨hname, hgrant, hid⟩
    exact ⟨hid.symm, hname, hgrant.symm⟩
  · rintro ⟨hid, hname, hgrant⟩
    exact ⟨hname, hgrant.symm, hid.symm⟩

theorem decode_error_iff (row : ResourcePermissionRow) (error : Error) :
    row.decode = .error error ↔ row.Refused error := by
  rw [decode, ResourcePermission.ofStored_error_iff]
  constructor
  · rintro (hname | ⟨name, hname, hnumber, rfl⟩)
    · exact .name hname
    · exact .number hname hnumber
  · rintro (hname | ⟨hname, hnumber⟩)
    · exact Or.inl hname
    · exact Or.inr ⟨_, hname, hnumber, rfl⟩

end ResourcePermissionRow

namespace DomainPermissionRow

/-- How a row of a domain permission is refused: for a number that no permission has. -/
inductive Refused (row : DomainPermissionRow) : Error → Prop where
  | number (hnumber : ∀ system : SystemPermission .domain, system.id ≠ row.systemId) :
      Refused row (.unknownSystemId .domain row.systemId)

/-- Nothing about these rows is overlooked. -/
theorem decode_eq_ok_iff (row : DomainPermissionRow) (permission : DomainPermission) :
    row.decode = .ok permission ↔ id row = permission.row := by
  obtain ⟨system, grant⟩ := permission
  rw [decode, DomainPermission.ofStored, bind_eq_ok_iff]
  simp only [SystemPermission.ofId_eq_ok_iff]
  constructor
  · rintro ⟨found, hid, heq⟩
    cases heq
    rw [id_eq, DomainPermission.row, hid]
  · intro hrow
    cases hrow
    exact ⟨system, rfl, rfl⟩

theorem decode_error_iff (row : DomainPermissionRow) (error : Error) :
    row.decode = .error error ↔ row.Refused error := by
  have hnumber : row.Refused error ↔
      SystemPermission.ofId .domain row.systemId = .error error := by
    rw [SystemPermission.ofId_error_iff]
    constructor
    · rintro ⟨hnumber⟩
      exact ⟨hnumber, rfl⟩
    · rintro ⟨hnumber, rfl⟩
      exact .number hnumber
  rw [hnumber, decode, DomainPermission.ofStored, bind_eq_error_iff]
  apply or_iff_left
  rintro ⟨system, _, hreturn⟩
  cases hreturn

end DomainPermissionRow

/-- What counts in a row of a create permission: the number of the marker and the row of what is
wrapped. -/
structure CreateRow (ρ : Type) where
  systemId : Option Int
  wrapped? : Option ρ
  withGrantOption : Bool

namespace CreateRow

def map {ρ σ : Type} (f : ρ → σ) (row : CreateRow ρ) : CreateRow σ :=
  ⟨row.systemId, row.wrapped?.map f, row.withGrantOption⟩

variable {ρ π : Type} [Creatable π]

/-- What a create permission is stored as: the number of the marker, or what it wraps. -/
def ofPermission (permission : CreatePermission π) : CreateRow π :=
  match permission.grant with
  | .create => ⟨some (@Creatable.marker π _).id, none, permission.withGrantOption⟩
  | .postCreate wrapped => ⟨none, some wrapped, permission.withGrantOption⟩

def decode (decodeWrapped : ρ → Except Error π) (malformed : Option Int → Option π → Error)
    (row : CreateRow ρ) : Except Error (CreatePermission π) := do
  let wrapped ← row.wrapped?.mapM decodeWrapped
  CreatePermission.ofStored malformed row.systemId wrapped row.withGrantOption

/-- How a row of a create permission is refused: for what it wraps, for wrapping something beside a
number, for having neither, or for a number that is not that of the marker. -/
inductive Refused (decodeWrapped : ρ → Except Error π) (RefusedWrapped : ρ → Error → Prop)
    (malformed : Option Int → Option π → Error) (row : CreateRow ρ) : Error → Prop where
  | wrapped {wrapped : ρ} {error : Error} (hwrapped : row.wrapped? = some wrapped)
      (hrefused : RefusedWrapped wrapped error) :
      Refused decodeWrapped RefusedWrapped malformed row error
  | both {number : Int} {wrapped : ρ} {permission : π} (hnumber : row.systemId = some number)
      (hwrapped : row.wrapped? = some wrapped) (hdecode : decodeWrapped wrapped = .ok permission) :
      Refused decodeWrapped RefusedWrapped malformed row (malformed (some number) (some permission))
  | neither (hnumber : row.systemId = none) (hwrapped : row.wrapped? = none) :
      Refused decodeWrapped RefusedWrapped malformed row (malformed none none)
  | number {number : Int} (hnumber : row.systemId = some number) (hwrapped : row.wrapped? = none)
      (hunknown : number ≠ (@Creatable.marker π _).id) :
      Refused decodeWrapped RefusedWrapped malformed row
        (.unknownSystemId (Creatable.createFamily π) number)

/-- A family of create permissions has no system permission but its marker. -/
class OnlyMarker (π : Type) [Creatable π] : Prop where
  eq_marker : ∀ system : SystemPermission (Creatable.createFamily π), system = Creatable.marker

instance : OnlyMarker ResourcePermission := ⟨fun system => by cases system; rfl⟩

instance : OnlyMarker DomainPermission := ⟨fun system => by cases system; rfl⟩

variable {decodeWrapped : ρ → Except Error π} {rowWrapped : π → ρ} {normalWrapped : ρ → ρ}
  {RefusedWrapped : ρ → Error → Prop} {malformed : Option Int → Option π → Error}

theorem ofStored_eq_ok_iff [OnlyMarker π] {number? : Option Int} {wrapped? : Option π}
    {grant : Bool} {permission : CreatePermission π} :
    CreatePermission.ofStored malformed number? wrapped? grant = .ok permission ↔
      ⟨number?, wrapped?, grant⟩ = ofPermission permission := by
  obtain ⟨created, own⟩ := permission
  -- The row has a number or wraps something, and each goes with one kind of permission.
  cases number? with
  | none =>
    cases wrapped? with
    | none => cases created <;> simp [CreatePermission.ofStored, ofPermission, throw, throwThe,
        MonadExceptOf.throw]
    | some wrapped =>
      cases created with
      | create => simp [CreatePermission.ofStored, ofPermission, pure, Except.pure]
      | postCreate other => simp [CreatePermission.ofStored, ofPermission, pure, Except.pure]
  | some number =>
    cases wrapped? with
    | none =>
      simp only [CreatePermission.ofStored, bind_eq_ok_iff, SystemPermission.ofId_eq_ok_iff]
      constructor
      · rintro ⟨system, rfl, hreturn⟩
        cases hreturn
        rw [OnlyMarker.eq_marker system]
        rfl
      · intro heq
        cases created with
        | create =>
          cases heq
          exact ⟨Creatable.marker, rfl, rfl⟩
        | postCreate other => cases heq
    | some wrapped => cases created <;> simp [CreatePermission.ofStored, ofPermission, throw,
        throwThe, MonadExceptOf.throw]

omit [Creatable π] in
/-- The wrapped permission is decoded if there is one. -/
theorem mapM_eq_ok_iff (hok : ∀ stored permission, decodeWrapped stored = .ok permission ↔
      normalWrapped stored = rowWrapped permission) {stored? : Option ρ} {wrapped? : Option π} :
    stored?.mapM decodeWrapped = .ok wrapped? ↔
      stored?.map normalWrapped = wrapped?.map rowWrapped := by
  cases stored? with
  | none => cases wrapped? <;> simp [pure, Except.pure]
  | some stored =>
    rw [Option.mapM_some, map_eq_pure_bind, bind_eq_ok_iff]
    cases wrapped? with
    | none => simp [pure, Except.pure]
    | some wrapped => simp [pure, Except.pure, hok]

theorem decode_eq_ok_iff [OnlyMarker π]
    (hok : ∀ stored permission, decodeWrapped stored = .ok permission ↔
      normalWrapped stored = rowWrapped permission) {row : CreateRow ρ}
    {permission : CreatePermission π} :
    row.decode decodeWrapped malformed = .ok permission ↔
      row.map normalWrapped = (ofPermission permission).map rowWrapped := by
  rw [decode, bind_eq_ok_iff]
  simp only [mapM_eq_ok_iff hok, ofStored_eq_ok_iff]
  constructor
  · rintro ⟨wrapped?, hwrapped, heq⟩
    rw [← heq, map, map, hwrapped]
  · intro heq
    -- What is wrapped has to be what the permission wraps.
    rw [map, map, mk.injEq] at heq
    obtain ⟨hnumber, hwrapped, hgrant⟩ := heq
    refine ⟨(ofPermission permission).wrapped?, hwrapped, ?_⟩
    rw [hnumber, hgrant]

theorem decode_none {number? : Option Int} {grant : Bool} :
    (⟨number?, none, grant⟩ : CreateRow ρ).decode decodeWrapped malformed =
      CreatePermission.ofStored malformed number? none grant :=
  rfl

theorem decode_some {number? : Option Int} {stored : ρ} {grant : Bool} :
    (⟨number?, some stored, grant⟩ : CreateRow ρ).decode decodeWrapped malformed = (do
      let wrapped ← decodeWrapped stored
      CreatePermission.ofStored malformed number? (some wrapped) grant) := by
  rw [decode, Option.mapM_some]
  cases decodeWrapped stored with
  | error error => rfl
  | ok wrapped => rfl

theorem decode_error_iff [OnlyMarker π]
    (herror : ∀ stored error, decodeWrapped stored = .error error ↔ RefusedWrapped stored error)
    {row : CreateRow ρ} {error : Error} :
    row.decode decodeWrapped malformed = .error error ↔
      row.Refused decodeWrapped RefusedWrapped malformed error := by
  obtain ⟨number?, stored?, grant⟩ := row
  constructor
  · intro h
    cases stored? with
    | none =>
      rw [decode_none] at h
      cases number? with
      | none =>
        cases h
        exact .neither rfl rfl
      | some number =>
        rcases bind_eq_error_iff.mp h with hnumber | ⟨system, _, hreturn⟩
        · obtain ⟨hunknown, rfl⟩ := SystemPermission.ofId_error_iff.mp hnumber
          exact .number rfl rfl (hunknown Creatable.marker).symm
        · cases hreturn
    | some stored =>
      rw [decode_some] at h
      rcases bind_eq_error_iff.mp h with hstored | ⟨permission, hdecode, hrest⟩
      · exact .wrapped rfl ((herror stored error).mp hstored)
      · -- What is wrapped is good, so nothing but a number beside it can be wrong.
        cases number? with
        | none => cases hrest
        | some number =>
          cases hrest
          exact .both rfl rfl hdecode
  · intro h
    cases h with
    | wrapped hwrapped hrefused =>
      cases hwrapped
      rw [decode_some]
      exact bind_eq_error_iff.mpr (Or.inl ((herror _ error).mpr hrefused))
    | both hnumber hwrapped hdecode =>
      cases hnumber
      cases hwrapped
      rw [decode_some, bind_of_eq_ok hdecode]
      rfl
    | neither hnumber hwrapped =>
      cases hnumber
      cases hwrapped
      rfl
    | number hnumber hwrapped hunknown =>
      cases hnumber
      cases hwrapped
      rw [decode_none]
      refine bind_eq_error_iff.mpr (Or.inl (SystemPermission.ofId_error_iff.mpr ⟨?_, rfl⟩))
      intro system
      rw [OnlyMarker.eq_marker system]
      exact hunknown.symm

end CreateRow

namespace ResourceCreateRow

/-- What counts in a row of a resource create permission. It wraps a permission if it has the name
of one, and a missing grant option of that one counts as none. -/
def columns (row : ResourceCreateRow) : CreateRow ResourcePermissionRow :=
  ⟨row.systemId,
    row.postName.map fun name => ⟨row.postSystemId, name, row.postGrantOption.getD false⟩,
    row.withGrantOption⟩

/-- The row as it would be written: without blanks around the name of what is wrapped and with its
grant option, or with no column of what is wrapped where there is no name. -/
def normal (row : ResourceCreateRow) : ResourceCreateRow :=
  match row.postName with
  | none => { row with postSystemId := none, postGrantOption := none }
  | some name => { row with
      postName := some (Text.trim name), postGrantOption := some (row.postGrantOption.getD false) }

def Refused (row : ResourceCreateRow) : Error → Prop :=
  row.columns.Refused ResourcePermissionRow.decode ResourcePermissionRow.Refused
    .malformedResourceCreate

theorem decode_columns (row : ResourceCreateRow) :
    row.decode = row.columns.decode ResourcePermissionRow.decode .malformedResourceCreate := by
  obtain ⟨number?, wrappedNumber?, name?, wrappedGrant?, grant⟩ := row
  cases name? <;> rfl

theorem normal_eq_row_iff {row : ResourceCreateRow} {permission : ResourceCreatePermission} :
    row.normal = ResourceCreatePermission.row permission ↔
      row.columns.map ResourcePermissionRow.normal =
        (CreateRow.ofPermission permission).map ResourcePermission.row := by
  obtain ⟨number?, wrappedNumber?, name?, wrappedGrant?, grant⟩ := row
  obtain ⟨created, own⟩ := permission
  -- The columns of what is wrapped count on neither side where there is no name.
  cases name? <;> cases created <;>
    simp [normal, columns, ResourceCreatePermission.row, CreateRow.ofPermission, CreateRow.map,
      ResourcePermissionRow.normal, ResourcePermission.row, Creatable.marker, and_assoc]

theorem decode_eq_ok_iff (row : ResourceCreateRow) (permission : ResourceCreatePermission) :
    row.decode = .ok permission ↔ row.normal = ResourceCreatePermission.row permission := by
  rw [decode_columns, normal_eq_row_iff]
  exact CreateRow.decode_eq_ok_iff ResourcePermissionRow.decode_eq_ok_iff

theorem decode_error_iff (row : ResourceCreateRow) (error : Error) :
    row.decode = .error error ↔ row.Refused error := by
  rw [decode_columns]
  exact CreateRow.decode_error_iff ResourcePermissionRow.decode_error_iff

end ResourceCreateRow

namespace DomainCreateRow

/-- What counts in a row of a domain create permission. It wraps a permission if it has the number
of one, and a missing grant option of that one counts as none. -/
def columns (row : DomainCreateRow) : CreateRow DomainPermissionRow :=
  ⟨row.systemId, row.postSystemId.map fun number => ⟨number, row.postGrantOption.getD false⟩,
    row.withGrantOption⟩

/-- The row as it would be written: with the grant option of what is wrapped if and only if
something is. -/
def normal (row : DomainCreateRow) : DomainCreateRow :=
  match row.postSystemId with
  | none => { row with postGrantOption := none }
  | some _ => { row with postGrantOption := some (row.postGrantOption.getD false) }

def Refused (row : DomainCreateRow) : Error → Prop :=
  row.columns.Refused DomainPermissionRow.decode DomainPermissionRow.Refused .malformedDomainCreate

theorem decode_columns (row : DomainCreateRow) :
    row.decode = row.columns.decode DomainPermissionRow.decode .malformedDomainCreate := by
  obtain ⟨number?, wrappedNumber?, wrappedGrant?, grant⟩ := row
  cases wrappedNumber? <;> rfl

theorem normal_eq_row_iff {row : DomainCreateRow} {permission : DomainCreatePermission} :
    row.normal = DomainCreatePermission.row permission ↔
      row.columns.map id = (CreateRow.ofPermission permission).map DomainPermission.row := by
  obtain ⟨number?, wrappedNumber?, wrappedGrant?, grant⟩ := row
  obtain ⟨created, own⟩ := permission
  -- The grant option of what is wrapped counts on neither side where there is no number of it.
  cases wrappedNumber? <;> cases created <;>
    simp [normal, columns, DomainCreatePermission.row, CreateRow.ofPermission, CreateRow.map,
      DomainPermission.row, Creatable.marker, and_assoc]

theorem decode_eq_ok_iff (row : DomainCreateRow) (permission : DomainCreatePermission) :
    row.decode = .ok permission ↔ row.normal = DomainCreatePermission.row permission := by
  rw [decode_columns, normal_eq_row_iff]
  exact CreateRow.decode_eq_ok_iff DomainPermissionRow.decode_eq_ok_iff

theorem decode_error_iff (row : DomainCreateRow) (error : Error) :
    row.decode = .error error ↔ row.Refused error := by
  rw [decode_columns]
  exact CreateRow.decode_error_iff DomainPermissionRow.decode_error_iff

end DomainCreateRow

/-- In all families decoding is the inverse of writing the row of a permission, up to what decoding
overlooks: it refuses every row that is not written for any permission, and of a list of rows it
tells the first that it refuses. -/
theorem rows_decode_to_what_they_are_written_for :
    RowForm ResourcePermissionRow.decode ResourcePermission.row ResourcePermissionRow.normal
        ResourcePermissionRow.Refused ∧
      RowForm ResourceCreateRow.decode ResourceCreatePermission.row ResourceCreateRow.normal
        ResourceCreateRow.Refused ∧
      RowForm DomainPermissionRow.decode DomainPermission.row id DomainPermissionRow.Refused ∧
      RowForm DomainCreateRow.decode DomainCreatePermission.row DomainCreateRow.normal
        DomainCreateRow.Refused := by
  refine ⟨?_, ?_, ?_, ?_⟩
  · exact rowForm_of_iff ResourcePermission.decode_row ResourcePermissionRow.decode_eq_ok_iff
      ResourcePermissionRow.decode_error_iff
  · exact rowForm_of_iff ResourceCreatePermission.decode_row ResourceCreateRow.decode_eq_ok_iff
      ResourceCreateRow.decode_error_iff
  · exact rowForm_of_iff DomainPermission.decode_row DomainPermissionRow.decode_eq_ok_iff
      DomainPermissionRow.decode_error_iff
  · exact rowForm_of_iff DomainCreatePermission.decode_row DomainCreateRow.decode_eq_ok_iff
      DomainCreateRow.decode_error_iff

/-- A number beside a good wrapped permission is one thing too much, whatever the number is. -/
example : (⟨some 7, some (-105), some " *QUERY", none, true⟩ : ResourceCreateRow).decode =
    .error (.malformedResourceCreate (some 7) (some ⟨.system .query, false⟩)) := by
  decide

end Authorization
