import Authorization.Proofs.Permission.Defined
import Authorization.Proofs.Store.Decode

namespace Authorization

namespace ResourceClass

variable {resourceClass : ResourceClass}

/-- The names of a class are those that it was made with, trimmed. -/
theorem mem_permissionNames_iff {id : ResourceClassId} {name : String} {isAuthenticatable : Bool}
    {texts : List String} (hmake : make id name isAuthenticatable texts = .ok resourceClass)
    {custom : CustomName} :
    custom ∈ resourceClass.permissionNames ↔ ∃ text ∈ texts, Text.trim text = custom.text := by
  obtain ⟨label, _, hmake⟩ := bind_eq_ok_iff.mp hmake
  obtain ⟨names, hnames, hmake⟩ := bind_eq_ok_iff.mp hmake
  rw [mapM_eq_decodeRows] at hnames
  cases hmake
  rw [mem_sortDistinct, mem_iff_of_decodeRows hnames]
  simp only [CustomName.require_eq_ok_iff]

/-- No class is made with a text that names nothing. -/
theorem exists_name_of_make {id : ResourceClassId} {name : String} {isAuthenticatable : Bool}
    {texts : List String} (hmake : make id name isAuthenticatable texts = .ok resourceClass)
    {text : String} (htext : text ∈ texts) :
    ∃ custom ∈ resourceClass.permissionNames, Text.trim text = custom.text := by
  obtain ⟨label, _, hrest⟩ := bind_eq_ok_iff.mp hmake
  obtain ⟨names, hnames, _⟩ := bind_eq_ok_iff.mp hrest
  rw [mapM_eq_decodeRows] at hnames
  obtain ⟨custom, hcustom⟩ := decodes_of_decodeRows hnames text htext
  have htrim : Text.trim text = custom.text := CustomName.require_eq_ok_iff.mp hcustom
  exact ⟨custom, (mem_permissionNames_iff hmake).mpr ⟨text, htext, htrim⟩, htrim⟩

/-- The permissions of a class as its names spell them; a name that spells none is dropped. -/
def spelledPermissions (resourceClass : ResourceClass) : List ResourcePermission :=
  (((SystemPermission.all .resource).filter resourceClass.admits).map fun system =>
      ⟨.system system, true⟩) ++
    resourceClass.permissionNames.filterMap fun name =>
      (ResourcePermission.ofName name.text true).toOption

/-- The create permissions of a class as the name of the marker and its own names spell them. -/
def spelledCreatePermissions (resourceClass : ResourceClass) : List ResourceCreatePermission :=
  (CreatePermission.ofName SystemPermission.createResource.name true).toOption.toList ++
    resourceClass.spelledPermissions.map .regrantablePostCreate

theorem filterMap_ofName (names : List CustomName) :
    (names.filterMap fun name => (ResourcePermission.ofName name.text true).toOption) =
      names.map fun name => ⟨.custom name, true⟩ := by
  rw [← List.filterMap_eq_map]
  apply List.filterMap_congr
  intro name _
  have hname : ResourcePermission.ofName name.text true = .ok ⟨.custom name, true⟩ :=
    ResourcePermission.ofName_eq_ok_iff.mpr ⟨name.trimmed, rfl⟩
  rw [hname]
  rfl

/-- Every name of a class spells the permission that it stands for. -/
theorem spelledPermissions_eq (resourceClass : ResourceClass) :
    resourceClass.spelledPermissions = resourceClass.definedPermissions := by
  rw [spelledPermissions, definedPermissions, filterMap_ofName]

theorem spelledCreatePermissions_eq (resourceClass : ResourceClass) :
    resourceClass.spelledCreatePermissions = resourceClass.definedCreatePermissions := by
  have hmarker : (CreatePermission.ofName SystemPermission.createResource.name true :
      Except Error ResourceCreatePermission) = .ok .regrantableMarker := by
    have hlabel : requirePermissionName SystemPermission.createResource.name =
        .ok SystemPermission.createResource.label :=
      Label.require_text _ SystemPermission.createResource.label
    rw [CreatePermission.ofName, bind_of_eq_ok hlabel]
    rfl
  rw [spelledCreatePermissions, hmarker, spelledPermissions_eq]
  rfl

/-- What a class lists that was made with some texts, and what it accepts. -/
structure ListsAccepted (resourceClass : ResourceClass) (texts : List String) : Prop where
  valid_iff : ∀ permission, resourceClass.validate permission = .ok () ↔
    Permission.regrantable permission ∈ resourceClass.definedPermissions
  validCreate_iff : ∀ permission, resourceClass.validateCreate permission = .ok () ↔
    Permission.regrantable permission ∈ resourceClass.definedCreatePermissions
  nodup : resourceClass.definedPermissions.Nodup
  nodupCreate : resourceClass.definedCreatePermissions.Nodup
  /-- Where names are read again to list what they spell, none of them is dropped. -/
  spelled : resourceClass.spelledPermissions = resourceClass.definedPermissions
  spelledCreate : resourceClass.spelledCreatePermissions = resourceClass.definedCreatePermissions
  /-- Each text that the class was made with names a permission that is listed. -/
  listed : ∀ text ∈ texts, ∃ permission ∈ resourceClass.definedPermissions,
    ResourcePermission.ofName text true = .ok permission
  system_iff : ∀ system grant, resourceClass.validate ⟨.system system, grant⟩ = .ok () ↔
    (system.needsAuthenticatable = true → resourceClass.isAuthenticatable = true)
  custom_iff : ∀ name grant, resourceClass.validate ⟨.custom name, grant⟩ = .ok () ↔
    ∃ text ∈ texts, Text.trim text = name.text

theorem validate_system_iff {system : SystemPermission .resource} {grant : Bool} :
    resourceClass.validate ⟨.system system, grant⟩ = .ok () ↔
      (system.needsAuthenticatable = true → resourceClass.isAuthenticatable = true) := by
  have hadmits : resourceClass.admits system = true ↔
      (system.needsAuthenticatable = true → resourceClass.isAuthenticatable = true) := by
    unfold admits
    cases resourceClass.isAuthenticatable <;> simp
  rw [← hadmits, validate]
  split <;> simp_all

theorem validate_custom_iff {name : CustomName} {grant : Bool} :
    resourceClass.validate ⟨.custom name, grant⟩ = .ok () ↔
      name ∈ resourceClass.permissionNames := by
  rw [validate]
  split <;> simp_all

theorem listsAccepted_of_make {id : ResourceClassId} {name : String} {isAuthenticatable : Bool}
    {texts : List String} (hmake : make id name isAuthenticatable texts = .ok resourceClass) :
    resourceClass.ListsAccepted texts where
  valid_iff _ := mem_definedPermissions_iff.symm
  validCreate_iff _ := mem_definedCreatePermissions_iff.symm
  nodup := List.Nodup.of_map _ (regrantables_definedPermissions resourceClass).once
  nodupCreate := List.Nodup.of_map _ (regrantables_definedCreatePermissions resourceClass).once
  spelled := spelledPermissions_eq resourceClass
  spelledCreate := spelledCreatePermissions_eq resourceClass
  listed text htext := by
    obtain ⟨custom, hcustom, htrim⟩ := exists_name_of_make hmake htext
    have hvalid : resourceClass.validate ⟨.custom custom, true⟩ = .ok () :=
      validate_custom_iff.mpr hcustom
    exact ⟨⟨.custom custom, true⟩, mem_definedPermissions_iff.mpr hvalid,
      ResourcePermission.ofName_eq_ok_iff.mpr ⟨htrim, rfl⟩⟩
  system_iff _ _ := validate_system_iff
  custom_iff _ _ := validate_custom_iff.trans (mem_permissionNames_iff hmake)

end ResourceClass

end Authorization
