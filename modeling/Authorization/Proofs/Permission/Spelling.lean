import Authorization.Proofs.Permission.Normal
import Authorization.Resource

namespace Authorization

section GrantSuffix

variable {s t : String} {grant grant' : Bool}

/-- Two texts with their grant options are the same if their parts are, or if the one that is plain
ends like the grant option of the other. -/
theorem append_grantSuffix_eq_iff : s ++ grantSuffix grant = t ++ grantSuffix grant' ↔
    s = t ∧ grant = grant' ∨ grant = false ∧ grant' = true ∧ s = t ++ " /G" ∨
      grant = true ∧ grant' = false ∧ t = s ++ " /G" := by
  cases grant with
  | false =>
    cases grant' with
    | false => simp [grantSuffix]
    | true => simp [grantSuffix]
  | true =>
    cases grant' with
    | false => simp [grantSuffix, eq_comm]
    | true => simp [grantSuffix]

/-- The grant option is a marker with a space in front of it. -/
theorem append_space_marker (s : String) : s ++ " /G" = s ++ " " ++ "/G" := by
  rw [String.append_assoc]
  rfl

/-- Where neither text ends like a grant option, nothing is confused. -/
theorem append_grantSuffix_inj (hs : ∀ front, s ≠ front ++ "/G") (ht : ∀ front, t ≠ front ++ "/G") :
    s ++ grantSuffix grant = t ++ grantSuffix grant' ↔ s = t ∧ grant = grant' := by
  have hs' : s ≠ t ++ " /G" := append_space_marker t ▸ hs (t ++ " ")
  have ht' : t ≠ s ++ " /G" := append_space_marker s ▸ ht (s ++ " ")
  rw [append_grantSuffix_eq_iff]
  simp [hs', ht']

theorem getLast?_append_marker (front : String) : (front ++ "/G").toList.getLast? = some 'G' := by
  simp [String.toList_append]

end GrantSuffix

namespace SystemPermission

variable {family : Family}

theorem name_ne_append (system : SystemPermission family) (front : String) :
    system.name ≠ front ++ "/G" := by
  intro h
  have hlast := getLast?_append_marker front
  rw [← h] at hlast
  cases system <;> simp [name] at hlast

theorem isReservedName_name_append (system : SystemPermission family) (rest : String) :
    isReservedName (system.name ++ rest) = true := by
  cases system <;> simp [name, isReservedName, String.toList_append]

theorem name_injective {system system' : SystemPermission family}
    (h : system.name = system'.name) : system = system' := by
  have hfound := byName?_name system
  rw [h, byName?_name system'] at hfound
  exact (Option.some.inj hfound).symm

end SystemPermission

/-- No custom name starts like a system permission. -/
theorem CustomName.text_ne_append (custom : CustomName) (system : SystemPermission .resource)
    (rest : String) : custom.text ≠ system.name ++ rest := by
  intro h
  have hunreserved := custom.unreserved
  rw [h, system.isReservedName_name_append] at hunreserved
  cases hunreserved

theorem PermissionName.text_injective {name name' : PermissionName} (h : name.text = name'.text) :
    name = name' := by
  have happend (system : SystemPermission .resource) : system.name = system.name ++ "" := by simp
  cases name with
  | system system =>
    cases name' with
    | system system' => exact congrArg PermissionName.system (SystemPermission.name_injective h)
    | custom custom => exact absurd (h.symm.trans (happend system)) (custom.text_ne_append _ _)
  | custom custom =>
    cases name' with
    | system system => exact absurd (h.trans (happend system)) (custom.text_ne_append _ _)
    | custom custom' => exact congrArg PermissionName.custom (CustomName.eq_of_text_eq h)

/-- A plain custom permission mimics another one with the grant option if its name is written like
that one. -/
def ResourcePermission.Mimics (permission other : ResourcePermission) : Prop :=
  ∃ mimic name : CustomName, mimic.text = name.text ++ " /G" ∧
    permission = ⟨.custom mimic, false⟩ ∧ other = ⟨.custom name, true⟩

/-- One create permission mimics another with the same grant option of its own if what it wraps
mimics what that one wraps. -/
def ResourceCreatePermission.Mimics (permission other : ResourceCreatePermission) : Prop :=
  match permission.grant, other.grant with
  | .postCreate wrapped, .postCreate wrapped' =>
    permission.withGrantOption = other.withGrantOption ∧ wrapped.Mimics wrapped'
  | _, _ => False

namespace ResourcePermission

variable {a b : ResourcePermission}

/-- A name that ends like the grant option of another is a custom one, and so is the other. -/
theorem exists_mimic {name name' : PermissionName} (h : name.text = name'.text ++ " /G") :
    ResourcePermission.Mimics ⟨name, false⟩ ⟨name', true⟩ := by
  cases name with
  | system system => exact absurd (h.trans (append_space_marker _)) (system.name_ne_append _)
  | custom mimic =>
    cases name' with
    | system system => exact absurd h (mimic.text_ne_append system " /G")
    | custom custom => exact ⟨mimic, custom, h, rfl, rfl⟩

theorem Mimics.toString_eq (h : a.Mimics b) : toString a = toString b := by
  obtain ⟨mimic, name, htext, rfl, rfl⟩ := h
  exact append_grantSuffix_eq_iff.mpr (Or.inr (Or.inl ⟨rfl, rfl, htext⟩))

theorem toString_eq_iff : toString a = toString b ↔ a = b ∨ a.Mimics b ∨ b.Mimics a := by
  constructor
  · intro h
    obtain ⟨name, grant⟩ := a
    obtain ⟨name', grant'⟩ := b
    have hsplit : name.text ++ grantSuffix grant = name'.text ++ grantSuffix grant' := h
    rcases append_grantSuffix_eq_iff.mp hsplit with
      ⟨htext, rfl⟩ | ⟨rfl, rfl, htext⟩ | ⟨rfl, rfl, htext⟩
    · obtain rfl : name = name' := PermissionName.text_injective htext
      exact Or.inl rfl
    · exact Or.inr (Or.inl (exists_mimic htext))
    · exact Or.inr (Or.inr (exists_mimic htext))
  · rintro (rfl | h | h)
    · rfl
    · exact h.toString_eq
    · exact h.toString_eq.symm

theorem not_mimics_self (a : ResourcePermission) : ¬a.Mimics a := by
  rintro ⟨mimic, name, _, hplain, hgrant⟩
  rw [hplain] at hgrant
  cases hgrant

end ResourcePermission

theorem DomainPermission.toString_injective {a b : DomainPermission}
    (h : toString a = toString b) : a = b := by
  obtain ⟨system, grant⟩ := a
  obtain ⟨system', grant'⟩ := b
  obtain ⟨hname, rfl⟩ :=
    (append_grantSuffix_inj system.name_ne_append system'.name_ne_append).mp h
  rw [SystemPermission.name_injective hname]

namespace CreatePermission

variable {π : Type} [Creatable π]

/-- A marker ends like a name and a wrapped permission with a bracket. -/
theorem text_ne_append (permission : CreatePermission π) (front : String) :
    permission.text ≠ front ++ "/G" := by
  obtain ⟨grant, own⟩ := permission
  cases grant with
  | create => exact SystemPermission.name_ne_append _ front
  | postCreate wrapped =>
    intro h
    have hlast := getLast?_append_marker front
    rw [← h] at hlast
    have hbracket : (text ⟨.postCreate wrapped, own⟩).toList.getLast? = some ']' := by
      simp [text, String.toList_append, List.getLast?_append, List.getLast?_cons]
    rw [hbracket] at hlast
    cases hlast

/-- A marker starts with an asterisk and a wrapped permission with a bracket. -/
theorem marker_ne_brackets (wrapped : π) :
    (@Creatable.marker π _).name ≠ "[" ++ toString wrapped ++ "]" := by
  intro h
  have hreserved := (@Creatable.marker π _).isReservedName_name_append ""
  rw [String.append_empty, h] at hreserved
  simp [isReservedName, String.toList_append] at hreserved

theorem text_eq_iff {a b : CreatePermission π} :
    a.text = b.text ↔ a.grant.map toString = b.grant.map toString := by
  obtain ⟨grant, own⟩ := a
  obtain ⟨grant', own'⟩ := b
  cases grant with
  | create =>
    cases grant' with
    | create => simp [text]
    | postCreate wrapped => simpa [text, CreateGrant.map] using marker_ne_brackets wrapped
  | postCreate wrapped =>
    cases grant' with
    | create => simpa [text, CreateGrant.map] using (marker_ne_brackets wrapped).symm
    | postCreate wrapped' => simp [text, CreateGrant.map]

/-- Create permissions are written alike if they are both for the creation, or wrap what is written
alike, and have the same grant option of their own. -/
theorem toString_eq_iff {a b : CreatePermission π} : toString a = toString b ↔
    a.grant.map toString = b.grant.map toString ∧ a.withGrantOption = b.withGrantOption := by
  rw [← text_eq_iff]
  exact append_grantSuffix_inj a.text_ne_append b.text_ne_append

end CreatePermission

theorem ResourceCreatePermission.toString_eq_iff {a b : ResourceCreatePermission} :
    toString a = toString b ↔ a = b ∨ Mimics a b ∨ Mimics b a := by
  rw [CreatePermission.toString_eq_iff]
  obtain ⟨grant, own⟩ := a
  obtain ⟨grant', own'⟩ := b
  cases grant with
  | create => cases grant' <;> simp [CreateGrant.map, Mimics]
  | postCreate wrapped =>
    cases grant' with
    | create => simp [CreateGrant.map, Mimics]
    | postCreate wrapped' =>
      simp only [CreateGrant.map, Mimics, CreateGrant.postCreate.injEq, CreatePermission.mk.injEq,
        ResourcePermission.toString_eq_iff, eq_comm (a := own') (b := own)]
      tauto

theorem ResourceCreatePermission.not_mimics_self (a : ResourceCreatePermission) :
    ¬Mimics a a := by
  obtain ⟨grant, own⟩ := a
  cases grant with
  | create => exact id
  | postCreate wrapped => exact fun h => wrapped.not_mimics_self h.2

theorem DomainCreatePermission.toString_injective {a b : DomainCreatePermission}
    (h : toString a = toString b) : a = b := by
  obtain ⟨hgrant, hown⟩ := CreatePermission.toString_eq_iff.mp h
  obtain ⟨grant, own⟩ := a
  obtain ⟨grant', own'⟩ := b
  cases hown
  cases grant with
  | create => cases grant' with
    | create => rfl
    | postCreate wrapped => cases hgrant
  | postCreate wrapped => cases grant' with
    | create => cases hgrant
    | postCreate wrapped' =>
      rw [DomainPermission.toString_injective (CreateGrant.postCreate.inj hgrant)]

end Authorization
