import Authorization.Proofs.Failure
import Mathlib.Data.List.Forall2
import Mathlib.Data.List.Perm.Basic

namespace Authorization

/-- A label is spelled by its own text, so whatever needs a label accepts it. -/
theorem Label.require_text (what : String) (label : Label) :
    Label.require what label.text = .ok label := by
  rw [Label.require, ofText?_text]

/-- A text spells the label that is left when it is trimmed. -/
theorem Label.ofText?_eq_some_iff {text : String} {label : Label} :
    ofText? text = some label ↔ Text.trim text = label.text := by
  constructor
  · intro h
    exact (text_of_ofText? h).symm
  · intro htrim
    have hsame : ofText? text = ofText? label.text := by
      simp only [ofText?, htrim, label.trimmed]
    rw [hsame, ofText?_text]

theorem Label.require_eq_ok_iff {what text : String} {label : Label} :
    require what text = .ok label ↔ Text.trim text = label.text := by
  rw [← ofText?_eq_some_iff, require]
  cases ofText? text with
  | none => exact iff_of_false nofun nofun
  | some found => rw [Except.ok.injEq, Option.some_inj]

namespace SystemPermission

variable {family : Family}

/-- The name of a system permission as a label. -/
def label (system : SystemPermission family) : Label :=
  ⟨system.name, by cases system <;> decide, by cases system <;> decide⟩

theorem text_label (system : SystemPermission family) : system.label.text = system.name :=
  rfl

theorem name_of_ofName {name : String} {system : SystemPermission family}
    (h : ofName family name = .ok system) : system.name = name := by
  unfold ofName at h
  split at h
  · next hfound =>
    cases h
    unfold byName? at hfound
    simpa using List.find?_some hfound
  · cases h

theorem isReservedName_name (system : SystemPermission family) :
    isReservedName system.name = true := by
  cases system <;> decide

end SystemPermission

theorem PermissionName.trim_text (name : PermissionName) : Text.trim name.text = name.text := by
  cases name with
  | system system => exact system.label.trimmed
  | custom custom => exact custom.trimmed

namespace ResourcePermission

/-- The row of a resource permission. -/
def row (permission : ResourcePermission) : ResourcePermissionRow :=
  ⟨permission.name.systemId?, permission.name.text, permission.withGrantOption⟩

theorem ofName_text (permission : ResourcePermission) :
    ofName permission.name.text permission.withGrantOption = .ok permission := by
  obtain ⟨name, withGrantOption⟩ := permission
  cases name with
  | system system =>
    have hlabel : requirePermissionName system.name = .ok system.label :=
      Label.require_text _ system.label
    have hreserved : ¬isReservedName system.label.text = false := by
      rw [system.text_label, system.isReservedName_name]
      exact Bool.noConfusion
    have hname : SystemPermission.ofName .resource system.label.text = .ok system := by
      rw [system.text_label, SystemPermission.ofName, SystemPermission.byName?_name]
    rw [ofName, PermissionName.text, bind_of_eq_ok hlabel, dif_neg hreserved, bind_of_eq_ok hname]
    rfl
  | custom name =>
    have hlabel : requirePermissionName name.text = .ok name.toLabel := Label.require_text _ _
    have hunreserved : isReservedName name.toLabel.text = false := name.unreserved
    rw [ofName, PermissionName.text, bind_of_eq_ok hlabel, dif_pos hunreserved]
    rfl

/-- A text with a grant option spells the permission that has its name, once it is trimmed, and its
grant option. -/
theorem ofName_eq_ok_iff {text : String} {grant : Bool} {permission : ResourcePermission} :
    ofName text grant = .ok permission ↔
      Text.trim text = permission.name.text ∧ permission.withGrantOption = grant := by
  constructor
  · intro h
    obtain ⟨label, hlabel, h⟩ := bind_eq_ok_iff.mp h
    have htrim : Text.trim text = label.text := Label.require_eq_ok_iff.mp hlabel
    split at h
    · cases h
      exact ⟨htrim, rfl⟩
    · obtain ⟨system, hsystem, h⟩ := bind_eq_ok_iff.mp h
      cases h
      exact ⟨htrim.trans (SystemPermission.name_of_ofName hsystem).symm, rfl⟩
  · rintro ⟨htrim, rfl⟩
    -- Only the label counts that a text spells, and that is the one of the permission.
    obtain ⟨label, hlabel, -⟩ := bind_eq_ok_iff.mp (ofName_text permission)
    have hname : permission.name.text = label.text :=
      permission.name.trim_text.symm.trans (Label.require_eq_ok_iff.mp hlabel)
    have hlabel' : requirePermissionName text = .ok label :=
      Label.require_eq_ok_iff.mpr (htrim.trans hname)
    rw [← ofName_text permission, ofName, ofName, bind_of_eq_ok hlabel, bind_of_eq_ok hlabel']

theorem decode_row (permission : ResourcePermission) : permission.row.decode = .ok permission := by
  rw [ResourcePermissionRow.decode, ofStored, row, bind_of_eq_ok (ofName_text permission)]
  exact if_pos rfl

/-- The number of a row tells whether it is an inherit permission. -/
theorem systemId_row_eq_iff (permission : ResourcePermission) :
    permission.row.systemId = some SystemPermission.inherit.id ↔ permission.isInherit = true := by
  obtain ⟨name, withGrantOption⟩ := permission
  cases name with
  | system system =>
    cases system <;> simp [row, isInherit, PermissionName.systemId?, SystemPermission.id]
  | custom name => simp [row, isInherit, PermissionName.systemId?]

end ResourcePermission

namespace DomainPermission

/-- The row of a domain permission. -/
def row (permission : DomainPermission) : DomainPermissionRow :=
  ⟨permission.system.id, permission.withGrantOption⟩

theorem ofStored_id (permission : DomainPermission) :
    ofStored permission.system.id permission.withGrantOption = .ok permission := by
  rw [ofStored, SystemPermission.ofId, SystemPermission.byId?_id]
  rfl

theorem decode_row (permission : DomainPermission) : permission.row.decode = .ok permission :=
  ofStored_id permission

end DomainPermission

namespace ResourceCreatePermission

/-- The row of a resource create permission. -/
def row (permission : ResourceCreatePermission) : ResourceCreateRow :=
  match permission.grant with
  | .create => ⟨some SystemPermission.createResource.id, none, none, none,
      permission.withGrantOption⟩
  | .postCreate wrapped => ⟨none, wrapped.name.systemId?, some wrapped.name.text,
      some wrapped.withGrantOption, permission.withGrantOption⟩

theorem decode_row (permission : ResourceCreatePermission) :
    (row permission).decode = .ok permission := by
  obtain ⟨grant, withGrantOption⟩ := permission
  cases grant with
  | create => rfl
  | postCreate wrapped =>
    have hwrapped : ResourcePermission.ofStored wrapped.name.systemId? wrapped.name.text
        wrapped.withGrantOption = .ok wrapped := wrapped.decode_row
    rw [ResourceCreateRow.decode, row, Option.mapM_some, Option.getD_some, hwrapped]
    rfl

end ResourceCreatePermission

namespace DomainCreatePermission

/-- The row of a domain create permission. -/
def row (permission : DomainCreatePermission) : DomainCreateRow :=
  match permission.grant with
  | .create => ⟨some SystemPermission.createDomain.id, none, none, permission.withGrantOption⟩
  | .postCreate wrapped => ⟨none, some wrapped.system.id, some wrapped.withGrantOption,
      permission.withGrantOption⟩

theorem decode_row (permission : DomainCreatePermission) :
    (row permission).decode = .ok permission := by
  obtain ⟨grant, withGrantOption⟩ := permission
  cases grant with
  | create => rfl
  | postCreate wrapped =>
    rw [DomainCreateRow.decode, row, Option.mapM_some, Option.getD_some, wrapped.ofStored_id]
    rfl

end DomainCreatePermission

section Rows

variable {ρ π : Type} {decode : ρ → Except Error π} {rows : List ρ}

/-- Where every row stands for something, the answer is what the rows stand for. -/
theorem exists_decodeRows (h : ∀ row ∈ rows, ∃ permission, decode row = .ok permission) :
    ∃ permissions, decodeRows decode rows = .ok permissions ∧
      ∀ permission, permission ∈ permissions ↔ ∃ row ∈ rows, decode row = .ok permission := by
  induction rows with
  | nil => exact ⟨[], rfl, fun permission => by simp⟩
  | cons row rows ih =>
    obtain ⟨⟨first, hfirst⟩, hrest⟩ := List.forall_mem_cons.mp h
    obtain ⟨permissions, hdecode, hmem⟩ := ih hrest
    refine ⟨first :: permissions, bind_eq_ok hfirst (bind_eq_ok hdecode rfl), fun permission => ?_⟩
    rw [List.mem_cons, List.exists_mem_cons_iff, hmem, hfirst, Except.ok.injEq, eq_comm]

/-- A list of rows has an answer only if every row stands for something. -/
theorem decodes_of_decodeRows {permissions : List π}
    (h : decodeRows decode rows = .ok permissions) :
    ∀ row ∈ rows, ∃ permission, decode row = .ok permission := by
  induction rows generalizing permissions with
  | nil => exact List.forall_mem_nil _
  | cons row rows ih =>
    obtain ⟨permission, hrow, hrest⟩ := bind_eq_ok_iff.mp h
    obtain ⟨others, hothers, _⟩ := bind_eq_ok_iff.mp hrest
    exact List.forall_mem_cons.mpr ⟨⟨permission, hrow⟩, ih hothers⟩

theorem mem_iff_of_decodeRows {permissions : List π}
    (h : decodeRows decode rows = .ok permissions) (permission : π) :
    permission ∈ permissions ↔ ∃ row ∈ rows, decode row = .ok permission := by
  obtain ⟨others, hothers, hmem⟩ := exists_decodeRows (decodes_of_decodeRows h)
  rw [Except.ok.inj (h.symm.trans hothers), hmem]

/-- A list of rows stands for the values that its rows stand for, one by one. -/
theorem decodeRows_eq_ok_iff {permissions : List π} :
    decodeRows decode rows = .ok permissions ↔
      List.Forall₂ (fun row permission => decode row = .ok permission) rows permissions := by
  induction rows generalizing permissions with
  | nil =>
    cases permissions with
    | nil => exact iff_of_true rfl .nil
    | cons permission permissions => exact iff_of_false nofun nofun
  | cons row rows ih =>
    constructor
    · intro h
      obtain ⟨permission, hrow, hrest⟩ := bind_eq_ok_iff.mp h
      obtain ⟨others, hothers, hcons⟩ := bind_eq_ok_iff.mp hrest
      cases hcons
      exact .cons hrow (ih.mp hothers)
    · intro h
      cases h with
      | cons hrow hothers => exact bind_eq_ok hrow (bind_eq_ok (ih.mpr hothers) rfl)

/-- A list of rows is refused as the first of them is that stands for nothing. -/
theorem decodeRows_error_iff {error : Error} :
    decodeRows decode rows = .error error ↔ ∃ before bad after, rows = before ++ bad :: after ∧
      (∀ row ∈ before, ∃ permission, decode row = .ok permission) ∧
      decode bad = .error error := by
  constructor
  · intro h
    induction rows with
    | nil => cases h
    | cons row rows ih =>
      rcases bind_eq_error_iff.mp h with hrow | ⟨permission, hrow, hrest⟩
      · exact ⟨[], row, rows, rfl, List.forall_mem_nil _, hrow⟩
      · rcases bind_eq_error_iff.mp hrest with hrows | ⟨others, _, hreturn⟩
        · obtain ⟨before, bad, after, rfl, hbefore, hbad⟩ := ih hrows
          have hread := List.forall_mem_cons.mpr ⟨⟨permission, hrow⟩, hbefore⟩
          exact ⟨row :: before, bad, after, rfl, hread, hbad⟩
        · cases hreturn
  · rintro ⟨before, bad, after, rfl, hbefore, hbad⟩
    induction before with
    | nil =>
      rw [List.nil_append, decodeRows, hbad]
      rfl
    | cons row before ih =>
      obtain ⟨⟨permission, hrow⟩, hothers⟩ := List.forall_mem_cons.mp hbefore
      rw [List.cons_append, decodeRows, bind_of_eq_ok hrow, ih hothers]
      rfl

/-- The error of a list of rows is that of one of them. -/
theorem exists_of_decodeRows_error {error : Error} (h : decodeRows decode rows = .error error) :
    ∃ row ∈ rows, decode row = .error error := by
  obtain ⟨before, bad, after, rfl, _, hbad⟩ := decodeRows_error_iff.mp h
  have hmem : bad ∈ before ++ bad :: after :=
    List.mem_append.mpr (Or.inr List.mem_cons_self)
  exact ⟨bad, hmem, hbad⟩

/-- Rows that are written for values stand for these values. -/
theorem decodeRows_map {α : Type} {row : α → ρ} {value : α → π}
    (hdecode : ∀ a, decode (row a) = .ok (value a)) (as : List α) :
    decodeRows decode (as.map row) = .ok (as.map value) := by
  rw [decodeRows_eq_ok_iff, List.forall₂_map_left_iff, List.forall₂_map_right_iff]
  exact List.forall₂_same.mpr fun a _ => hdecode a

/-- Reading a list stops at the first text that cannot be read, as decoding rows does. -/
theorem mapM_eq_decodeRows (decode : ρ → Except Error π) (rows : List ρ) :
    rows.mapM decode = decodeRows decode rows := by
  induction rows with
  | nil => rfl
  | cons row rows ih => rw [List.mapM_cons, ih, decodeRows]

end Rows

namespace Domain

/-- The row of a domain. -/
def row (domain : Domain) : DomainRow :=
  ⟨domain.id, domain.name.text, domain.parent?⟩

theorem decode_row (domain : Domain) : domain.row.decode = .ok domain :=
  bind_of_eq_ok (Label.require_text _ domain.name)

end Domain

theorem CustomName.require_eq_ok_iff {text : String} {name : CustomName} :
    require text = .ok name ↔ Text.trim text = name.text := by
  constructor
  · intro h
    obtain ⟨label, hlabel, h⟩ := bind_eq_ok_iff.mp h
    have htrim : Text.trim text = label.text := Label.require_eq_ok_iff.mp hlabel
    split at h
    · cases h
      exact htrim
    · cases h
  · intro htrim
    have hlabel : requirePermissionName text = .ok name.toLabel := Label.require_eq_ok_iff.mpr htrim
    have hunreserved : isReservedName name.toLabel.text = false := name.unreserved
    rw [require, bind_of_eq_ok hlabel, dif_pos hunreserved]
    rfl

theorem CustomName.require_text (name : CustomName) : require name.text = .ok name :=
  require_eq_ok_iff.mpr name.trimmed

/-- An ascending list is the sorted one of its members. -/
theorem sortDistinct_eq_self {α : Type} [LT α] [DecidableLT α] [DecidableEq α] [LE α]
    [Std.IsLinearOrder α] [Std.LawfulOrderLT α] {as : List α} (h : Ascending as) :
    sortDistinct as = as := by
  have hsorted := ascending_sortDistinct as
  have hperm : (sortDistinct as).Perm as :=
    (List.perm_ext_iff_of_nodup hsorted.nodup h.nodup).mpr fun _ => mem_sortDistinct
  apply hperm.eq_of_pairwise _ hsorted h
  intro a b _ _ hab hba
  exact absurd (Std.lt_trans hab hba) Std.lt_irrefl

namespace ResourceClass

/-- The row of a class, with its permission names in ascending order. -/
def row (resourceClass : ResourceClass) : ClassRow :=
  ⟨resourceClass.id, resourceClass.name.text, resourceClass.isAuthenticatable,
    resourceClass.permissionNames.map (·.text)⟩

theorem mapM_require_text (names : List CustomName) :
    (names.map (·.text)).mapM CustomName.require = .ok names := by
  rw [mapM_eq_decodeRows, decodeRows_map CustomName.require_text, List.map_id']

theorem decode_row (resourceClass : ResourceClass) :
    resourceClass.row.decode = .ok resourceClass := by
  obtain ⟨id, name, isAuthenticatable, names, ascending⟩ := resourceClass
  have hmake : make id name.text isAuthenticatable (names.map (·.text)) =
      .ok ⟨id, name, isAuthenticatable, names, ascending⟩ := by
    rw [make, bind_of_eq_ok (Label.require_text _ name), bind_of_eq_ok (mapM_require_text names)]
    congr 2
    exact sortDistinct_eq_self ascending
  rw [ClassRow.decode, row, hmake]
  rfl

end ResourceClass

end Authorization
