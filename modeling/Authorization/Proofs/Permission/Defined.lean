import Authorization.Proofs.Permission.Order
import Authorization.Resource
import Mathlib.Data.List.Nodup

namespace Authorization

/-- A listing of permissions with every grant option, in which none stands twice. -/
structure Regrantables {π : Type} [Permission π] (defined : List π) : Prop where
  once : (defined.map Permission.plain).Nodup
  regrantable : ∀ {permission}, permission ∈ defined →
    Permission.regrantable permission = permission

theorem SystemPermission.nodup_all (family : Family) : (all family).Nodup := by
  cases family <;> decide

namespace ResourceClass

variable {resourceClass : ResourceClass}

theorem mem_definedPermissions_iff {permission : ResourcePermission} :
    Permission.regrantable permission ∈ resourceClass.definedPermissions ↔
      resourceClass.validate permission = .ok () := by
  obtain ⟨name, grant⟩ := permission
  simp only [definedPermissions, Permission.regrantable, List.mem_append, List.mem_map,
    List.mem_filter, ResourcePermission.mk.injEq, and_true, validate]
  cases name with
  | system system => simp [SystemPermission.mem_all]
  | custom name => simp

theorem mem_definedCreatePermissions_iff {permission : ResourceCreatePermission} :
    Permission.regrantable permission ∈ resourceClass.definedCreatePermissions ↔
      resourceClass.validateCreate permission = .ok () := by
  obtain ⟨grant, own⟩ := permission
  simp only [definedCreatePermissions, List.mem_cons, List.mem_map, validateCreate]
  cases grant with
  | create => exact iff_of_true (Or.inl rfl) rfl
  | postCreate wrapped =>
    rw [← mem_definedPermissions_iff]
    constructor
    · rintro (heq | ⟨permission, hmem, heq⟩)
      · cases heq
      · cases heq
        exact hmem
    · exact fun hmem => Or.inr ⟨_, hmem, rfl⟩

/-- Inheriting makes sense on every resource, so no class is without permissions. -/
theorem definedPermissions_ne_nil (resourceClass : ResourceClass) :
    resourceClass.definedPermissions ≠ [] := by
  have hadmits : resourceClass.admits .inherit = true := Bool.or_true _
  have hvalid : resourceClass.validate ⟨.system .inherit, true⟩ = .ok () := if_pos hadmits
  exact List.ne_nil_of_mem (mem_definedPermissions_iff.mpr hvalid)

theorem regrantables_definedPermissions (resourceClass : ResourceClass) :
    Regrantables resourceClass.definedPermissions := by
  have hnames := resourceClass.ascending.nodup
  constructor
  · rw [definedPermissions, List.map_append, List.map_map, List.map_map]
    apply List.Nodup.append
    · have hsystems := (SystemPermission.nodup_all .resource).filter resourceClass.admits
      exact hsystems.map fun a b hab => by cases hab; rfl
    · exact hnames.map fun a b hab => by cases hab; rfl
    · -- A system permission is not a custom one.
      intro permission hsystem hcustom
      obtain ⟨system, _, rfl⟩ := List.mem_map.mp hsystem
      obtain ⟨name, _, heq⟩ := List.mem_map.mp hcustom
      cases heq
  · intro permission hmem
    rcases List.mem_append.mp hmem with hsystem | hcustom
    · obtain ⟨system, _, rfl⟩ := List.mem_map.mp hsystem
      rfl
    · obtain ⟨name, _, rfl⟩ := List.mem_map.mp hcustom
      rfl

theorem definedCreatePermissions_ne_nil (resourceClass : ResourceClass) :
    resourceClass.definedCreatePermissions ≠ [] :=
  List.cons_ne_nil _ _

theorem regrantables_definedCreatePermissions (resourceClass : ResourceClass) :
    Regrantables resourceClass.definedCreatePermissions := by
  have hdefined := regrantables_definedPermissions resourceClass
  constructor
  · rw [definedCreatePermissions, List.map_cons, List.map_map, List.nodup_cons]
    constructor
    · intro hmarker
      obtain ⟨permission, _, heq⟩ := List.mem_map.mp hmarker
      cases heq
    · exact (List.Nodup.of_map _ hdefined.once).map fun a b hab => by cases hab; rfl
  · intro permission hmem
    rcases List.mem_cons.mp hmem with rfl | hwrapped
    · rfl
    · obtain ⟨wrapped, hmem', rfl⟩ := List.mem_map.mp hwrapped
      exact congrArg CreatePermission.regrantablePostCreate (hdefined.regrantable hmem')

end ResourceClass

theorem DomainPermission.regrantables_allRegrantable : Regrantables allRegrantable := by
  constructor
  · rw [allRegrantable, List.map_map]
    exact (SystemPermission.nodup_all .domain).map fun a b hab => by cases hab; rfl
  · intro permission hmem
    obtain ⟨system, _, rfl⟩ := List.mem_map.mp hmem
    rfl

theorem DomainPermission.regrantable_mem_allRegrantable (permission : DomainPermission) :
    Permission.regrantable permission ∈ allRegrantable :=
  List.mem_map.mpr ⟨permission.system, SystemPermission.mem_all _, rfl⟩

end Authorization
