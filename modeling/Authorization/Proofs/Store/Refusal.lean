import Authorization.Proofs.Store.Decode

namespace Authorization

theorem Label.ofText?_eq_none_iff {text : String} : ofText? text = none ↔ Text.trim text = "" := by
  unfold ofText?
  split
  · next hblank => simp [hblank]
  · next hfull => simp [hfull]

theorem Label.require_error_iff {what text : String} {error : Error} :
    require what text = .error error ↔ Text.trim text = "" ∧ error = .required what := by
  unfold require
  cases hlabel : ofText? text with
  | none =>
    have hblank := ofText?_eq_none_iff.mp hlabel
    simp [hblank, eq_comm]
  | some label =>
    have hfull : Text.trim text ≠ "" := by
      intro hblank
      rw [ofText?_eq_none_iff.mpr hblank] at hlabel
      cases hlabel
    simp [hfull]

/-- How a name is refused that no resource permission can have: it is blank, or it is reserved and
not that of a system permission. -/
inductive RefusesName (text : String) : Error → Prop where
  | blank (hblank : Text.trim text = "") : RefusesName text (.required "permission name")
  | unknown (hreserved : isReservedName (Text.trim text) = true)
      (hunknown : SystemPermission.byName? .resource (Text.trim text) = none) :
      RefusesName text (.unknownSystemName .resource (Text.trim text))

/-- An error for bad data, or one that stored texts share with requests. -/
def InvalidOr (shared : Error → Prop) (error : Error) : Prop :=
  error.kind = .invalidState ∨ shared error

namespace RefusesName

variable {text : String} {error : Error}

theorem kind (h : RefusesName text error) : error.kind ∈ [.required, .validation] := by
  cases h with
  | blank _ => simp [Error.kind]
  | unknown _ _ => simp [Error.kind]

theorem ne_invalidState (h : RefusesName text error) : error.kind ≠ .invalidState := by
  intro hinvalid
  have hkind := h.kind
  simp [hinvalid] at hkind

end RefusesName

section Permissions

variable {text : String} {grant : Bool} {error : Error}

theorem ResourcePermission.ofName_fails : FailsOnly (RefusesName text) (ofName text grant) := by
  have hrequire : FailsOnly (RefusesName text) (requirePermissionName text) := by
    intro error herror
    obtain ⟨hblank, rfl⟩ := Label.require_error_iff.mp herror
    exact RefusesName.blank hblank
  apply hrequire.bind
  intro label hlabel
  have htext : label.text = Text.trim text := (Label.require_eq_ok_iff.mp hlabel).symm
  split
  · exact FailsOnly.of_ok rfl
  · next hreserved =>
    rw [htext] at hreserved ⊢
    have hsystem : FailsOnly (RefusesName text)
        (SystemPermission.ofName .resource (Text.trim text)) := by
      unfold SystemPermission.ofName
      split
      · exact FailsOnly.of_ok rfl
      · next hunknown =>
        exact FailsOnly.of_error (RefusesName.unknown (by simpa using hreserved) hunknown)
    apply hsystem.bind
    intro _ _
    exact FailsOnly.of_ok rfl

theorem RefusesName.ofName (h : RefusesName text error) (grant : Bool) :
    ResourcePermission.ofName text grant = .error error := by
  cases h with
  | blank hblank =>
    have hrequire : requirePermissionName text = .error (.required "permission name") :=
      Label.require_error_iff.mpr ⟨hblank, rfl⟩
    rw [ResourcePermission.ofName, hrequire]
    rfl
  | unknown hreserved hunknown =>
    -- a reserved name starts with an asterisk, so there is a label to look up
    have hfull : Text.trim text ≠ "" := by
      intro hblank
      rw [hblank] at hreserved
      cases hreserved
    cases hlabel : requirePermissionName text with
    | error refused => exact absurd (Label.require_error_iff.mp hlabel).1 hfull
    | ok label =>
      have htext : label.text = Text.trim text := (Label.require_eq_ok_iff.mp hlabel).symm
      have hnot : ¬isReservedName label.text = false := by
        rw [htext, hreserved]
        exact Bool.noConfusion
      have hsystem : SystemPermission.ofName .resource label.text =
          .error (.unknownSystemName .resource (Text.trim text)) := by
        rw [htext, SystemPermission.ofName, hunknown]
      rw [ResourcePermission.ofName, bind_of_eq_ok hlabel, dif_neg hnot, hsystem]
      rfl

/-- A stored name is refused as a requested one is, before its number is looked at. -/
theorem ResourcePermission.ofStored_fails (id : Option Int) :
    FailsOnly (InvalidOr (RefusesName text)) (ofStored id text grant) := by
  apply (ofName_fails.mono fun _ hrefuses => Or.inr hrefuses).bind
  intro permission _
  split
  · exact FailsOnly.of_ok rfl
  · exact FailsOnly.of_error (Or.inl rfl)

theorem RefusesName.ofStored (h : RefusesName text error) (id : Option Int) (grant : Bool) :
    ResourcePermission.ofStored id text grant = .error error := by
  rw [ResourcePermission.ofStored, h.ofName grant]
  rfl

theorem DomainPermission.ofStored_fails (id : Int) :
    FailsOnly (·.kind = .invalidState) (ofStored id grant) := by
  have hsystem : FailsOnly (·.kind = .invalidState) (SystemPermission.ofId .domain id) := by
    unfold SystemPermission.ofId
    split
    · exact FailsOnly.of_ok rfl
    · exact FailsOnly.of_error rfl
  apply hsystem.bind
  intro _ _
  exact FailsOnly.of_ok rfl

theorem CreatePermission.ofStored_fails {π : Type} [Creatable π]
    {malformed : Option Int → Option π → Error}
    (hmalformed : ∀ id wrapped, (malformed id wrapped).kind = .invalidState) (id : Option Int)
    (wrapped : Option π) :
    FailsOnly (·.kind = .invalidState) (ofStored malformed id wrapped grant) := by
  unfold ofStored
  split
  · next id =>
    have hmarker : FailsOnly (·.kind = .invalidState)
        (SystemPermission.ofId (@Creatable.createFamily π _) id) := by
      unfold SystemPermission.ofId
      split
      · exact FailsOnly.of_ok rfl
      · exact FailsOnly.of_error rfl
    apply hmarker.bind
    intro _ _
    exact FailsOnly.of_ok rfl
  · exact FailsOnly.of_ok rfl
  · exact FailsOnly.of_error (hmalformed _ _)

end Permissions

theorem ResourcePermissionRow.decode_fails (row : ResourcePermissionRow) :
    FailsOnly (InvalidOr (RefusesName row.name)) row.decode :=
  ResourcePermission.ofStored_fails row.systemId

/-- A row is refused as a request would be if and only if its name is. -/
theorem ResourcePermissionRow.decode_shared_iff {row : ResourcePermissionRow} {error : Error} :
    row.decode = .error error ∧ error.kind ≠ .invalidState ↔ RefusesName row.name error := by
  constructor
  · rintro ⟨hdecode, hkind⟩
    exact (row.decode_fails error hdecode).resolve_left hkind
  · intro hrefuses
    exact ⟨hrefuses.ofStored _ _, hrefuses.ne_invalidState⟩

theorem DomainPermissionRow.decode_fails (row : DomainPermissionRow) :
    FailsOnly (·.kind = .invalidState) row.decode :=
  DomainPermission.ofStored_fails row.systemId

/-- How the name of a wrapped permission is refused. -/
def ResourceCreateRow.RefusesWrapped (row : ResourceCreateRow) (error : Error) : Prop :=
  ∃ name, row.postName = some name ∧ RefusesName name error

theorem ResourceCreateRow.decode_fails (row : ResourceCreateRow) :
    FailsOnly (InvalidOr row.RefusesWrapped) row.decode := by
  have hwrapped : FailsOnly (InvalidOr row.RefusesWrapped) (row.postName.mapM fun name =>
      ResourcePermission.ofStored row.postSystemId name (row.postGrantOption.getD false)) := by
    apply FailsOnly.optionMapM
    intro name hname
    have hstored : FailsOnly (InvalidOr (RefusesName name)) (ResourcePermission.ofStored
        row.postSystemId name (row.postGrantOption.getD false)) :=
      ResourcePermission.ofStored_fails row.postSystemId
    exact hstored.mono fun _ hrefuses => hrefuses.imp_right fun h => ⟨name, hname, h⟩
  apply hwrapped.bind
  intro wrapped _
  have hstored : FailsOnly (·.kind = .invalidState)
      (ResourceCreatePermission.ofStored row.systemId wrapped row.withGrantOption) :=
    CreatePermission.ofStored_fails (fun _ _ => rfl) row.systemId wrapped
  exact hstored.mono fun _ hkind => Or.inl hkind

theorem ResourceCreateRow.decode_shared_iff {row : ResourceCreateRow} {error : Error} :
    row.decode = .error error ∧ error.kind ≠ .invalidState ↔ row.RefusesWrapped error := by
  constructor
  · rintro ⟨hdecode, hkind⟩
    exact (row.decode_fails error hdecode).resolve_left hkind
  · rintro ⟨name, hname, hrefuses⟩
    refine ⟨?_, hrefuses.ne_invalidState⟩
    rw [decode, hname, Option.mapM_some, hrefuses.ofStored]
    rfl

theorem DomainCreateRow.decode_fails (row : DomainCreateRow) :
    FailsOnly (·.kind = .invalidState) row.decode := by
  have hwrapped : FailsOnly (·.kind = .invalidState) (row.postSystemId.mapM fun id =>
      DomainPermission.ofStored id (row.postGrantOption.getD false)) :=
    FailsOnly.optionMapM fun id _ => DomainPermission.ofStored_fails id
  apply hwrapped.bind
  intro wrapped _
  exact CreatePermission.ofStored_fails (fun _ _ => rfl) row.systemId wrapped

/-- Whatever is wrong with a class row is told of the row. -/
theorem ClassRow.decode_fails (row : ClassRow) :
    FailsOnly (·.kind = .invalidState) row.decode := by
  unfold decode
  cases ResourceClass.make row.id row.name row.isAuthenticatable row.permissionNames with
  | ok resourceClass => exact FailsOnly.of_ok rfl
  | error cause => exact FailsOnly.of_error rfl

/-- How a domain row without a name is refused. -/
def DomainRow.RefusesBlank (row : DomainRow) (error : Error) : Prop :=
  Text.trim row.name = "" ∧ error = .required "domain name"

theorem DomainRow.decode_error_iff {row : DomainRow} {error : Error} :
    row.decode = .error error ↔ row.RefusesBlank error := by
  unfold RefusesBlank
  rw [← Label.require_error_iff, decode, Domain.make]
  cases Label.require "domain name" row.name with
  | error refused =>
    constructor
    · rintro ⟨⟩
      rfl
    · rintro ⟨⟩
      rfl
  | ok name => exact iff_of_false nofun nofun

end Authorization
