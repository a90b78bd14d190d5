import Authorization.Proofs.Lookup
import Authorization.Proofs.Store.LastWins
import Authorization.Store.Memory

namespace Authorization

theorem Label.text_injective : Function.Injective Label.text := by
  rintro ⟨text, _, _⟩ ⟨_, _, _⟩ rfl
  rfl

/-- Domains as they can be added one after the other: each has a new handle and a new name, and its
parent is there before it. So parents lead up to a root without repeating a domain. -/
inductive Grown : List Domain → Prop
  | empty : Grown []
  | add {domains : List Domain} {domain : Domain} (grown : Grown domains)
      (new : ∀ other ∈ domains, other.id ≠ domain.id ∧ other.name ≠ domain.name)
      (parent : ∀ {parent}, domain.parent? = some parent → ∃ other ∈ domains, other.id = parent) :
      Grown (domains ++ [domain])

namespace Grown

variable {domains : List Domain}

theorem nodup_ids (h : Grown domains) : (domains.map (·.id)).Nodup := by
  induction h with
  | empty => exact List.nodup_nil
  | add _ new _ ih => exact nodup_map_append ih fun other hother => (new other hother).1

theorem nodup_names (h : Grown domains) : (domains.map (·.name)).Nodup := by
  induction h with
  | empty => exact List.nodup_nil
  | add _ new _ ih => exact nodup_map_append ih fun other hother => (new other hother).2

theorem nodup_texts (h : Grown domains) : (domains.map (·.name.text)).Nodup := by
  have hmap := h.nodup_names.map Label.text_injective
  rwa [List.map_map] at hmap

theorem exists_parent (h : Grown domains) {domain : Domain} (hdomain : domain ∈ domains)
    {parent : DomainId} (hparent : domain.parent? = some parent) :
    ∃ other ∈ domains, other.id = parent := by
  induction h with
  | empty => cases hdomain
  | add _ _ hadded ih =>
    rcases List.mem_append.mp hdomain with hold | hnew
    · obtain ⟨other, hother, hid⟩ := ih hold
      exact ⟨other, List.mem_append_left _ hother, hid⟩
    · rw [List.mem_singleton.mp hnew] at hparent
      obtain ⟨other, hother, hid⟩ := hadded hparent
      exact ⟨other, List.mem_append_left _ hother, hid⟩

end Grown

namespace GrantRows

section Lawful

variable {κ ρ : Type} [Permission ρ] [DecidableEq ρ]

/-- Rows that may stand: each is admitted, and no two under one key differ at most in their grant
option. -/
structure Lawful (rows : GrantRows κ ρ) (admits : κ → ρ → Prop) : Prop where
  admitted : ∀ {key permission}, (key, permission) ∈ rows → admits key permission
  distinct : rows.Pairwise fun a b =>
    a.1 = b.1 → Permission.equalIgnoringGrantOption a.2 b.2 = false

variable {rows : GrantRows κ ρ} {admits admits' : κ → ρ → Prop}

theorem Lawful.nil : Lawful ([] : GrantRows κ ρ) admits :=
  ⟨nofun, List.Pairwise.nil⟩

theorem Lawful.mono (h : rows.Lawful admits) (hmono : ∀ {key permission}, admits key permission →
    admits' key permission) : rows.Lawful admits' :=
  ⟨fun hmem => hmono (h.admitted hmem), h.distinct⟩

theorem Lawful.outside (h : rows.Lawful admits) (scope : κ → Bool) :
    (rows.outside scope).Lawful admits :=
  ⟨fun hmem => h.admitted (List.mem_of_mem_filter hmem), h.distinct.filter _⟩

end Lawful

variable {κ ρ : Type} [DecidableEq κ] {rows : GrantRows κ ρ} {key : κ} {permission : ρ}

theorem mem_held_iff : permission ∈ rows.held key ↔ (key, permission) ∈ rows := by
  simp only [held, List.mem_map, List.mem_filter, decide_eq_true_eq]
  constructor
  · rintro ⟨⟨_, _⟩, ⟨hmem, rfl⟩, rfl⟩
    exact hmem
  · exact fun hmem => ⟨_, ⟨hmem, rfl⟩, rfl⟩

variable [Permission ρ] [DecidableEq ρ] {permissions : List ρ} {admits : κ → ρ → Prop}

/-- What is under a key after a grant was there before it or is among what was granted. -/
theorem mem_putAll {row : κ × ρ} (h : row ∈ rows.putAll key permissions) :
    row ∈ rows ∨ row.1 = key ∧ row.2 ∈ permissions := by
  rw [putAll_eq] at h
  rcases List.mem_append.mp h with hold | hnew
  · exact Or.inl (List.mem_of_mem_filter hold)
  · obtain ⟨permission, hmem, rfl⟩ := List.mem_map.mp hnew
    exact Or.inr ⟨rfl, mem_of_mem_lastOfEach hmem⟩

theorem Lawful.put (h : rows.Lawful admits) (hadmits : admits key permission) :
    (put key rows permission).Lawful admits := by
  constructor
  · intro other held hmem
    rcases List.mem_append.mp hmem with hold | hnew
    · exact h.admitted (List.mem_of_mem_filter hold)
    · cases List.mem_singleton.mp hnew
      exact hadmits
  · refine List.pairwise_append.mpr ⟨h.distinct.filter _, List.pairwise_singleton _ _, ?_⟩
    intro row hrow new hnew hkey
    -- A row that the new one would have to replace has been filtered out.
    rw [List.mem_singleton.mp hnew] at hkey ⊢
    have hkept := (List.mem_filter.mp hrow).2
    simpa [hkey] using hkept

/-- A grant of what is admitted leaves only what may stand. -/
theorem Lawful.putAll (h : rows.Lawful admits) (hadmits : ∀ permission ∈ permissions,
    admits key permission) : (rows.putAll key permissions).Lawful admits := by
  unfold GrantRows.putAll
  induction permissions generalizing rows with
  | nil => exact h
  | cons permission permissions ih =>
    obtain ⟨hfirst, hrest⟩ := List.forall_mem_cons.mp hadmits
    exact ih (h.put hfirst) hrest

end GrantRows

namespace Records

variable (records : Records)

def HasResource (id : ResourceId) : Prop :=
  ∃ resource ∈ records.resources, resource.id = id

def HasDomain (id : DomainId) : Prop :=
  ∃ domain ∈ records.domains, domain.id = id

/-- Whether a grant on a resource refers to what exists and is defined for its class. -/
def AdmitsDirect (key : DirectKey) (permission : ResourcePermission) : Prop :=
  records.HasResource key.accessor ∧ ∃ accessed ∈ records.resources, accessed.id = key.accessed ∧
    ∃ resourceClass ∈ records.classes, resourceClass.id = accessed.classId ∧
      resourceClass.validate permission = .ok ()

/-- Whether a grant for a class within a domain refers to what exists and is valid for the class. -/
def AdmitsScoped {π : Type} (validate : ResourceClass → π → Except Error Unit) (key : ClassKey)
    (permission : π) : Prop :=
  records.HasResource key.accessor ∧ records.HasDomain key.domainId ∧
    ∃ resourceClass ∈ records.classes, resourceClass.id = key.classId ∧
      validate resourceClass permission = .ok ()

def AdmitsDomain (key : DomainKey) : Prop :=
  records.HasResource key.accessor ∧ records.HasDomain key.domainId

/-- Domains, classes and resources that hang together. -/
structure Registered : Prop where
  domains : Grown records.domains
  classIds : (records.classes.map (·.id)).Nodup
  classNames : (records.classes.map (·.name)).Nodup
  resourceIds : (records.resources.map (·.id)).Nodup
  resourceClass : ∀ resource ∈ records.resources,
    ∃ resourceClass ∈ records.classes, resourceClass.id = resource.classId
  resourceDomain : ∀ resource ∈ records.resources, records.HasDomain resource.domainId

/-- Grants that hang together with what is registered. -/
structure Granted : Prop where
  direct : records.grants.direct.Lawful records.AdmitsDirect
  global : records.grants.global.Lawful (records.AdmitsScoped ResourceClass.validate)
  create : records.grants.create.Lawful (records.AdmitsScoped ResourceClass.validateCreate)
  domain : records.grants.domain.Lawful fun key _ => records.AdmitsDomain key
  domainCreate : records.grants.domainCreate.Lawful fun key _ => records.HasResource key

/-- Records that hang together. -/
structure Sound : Prop where
  registered : records.Registered
  granted : records.Granted

namespace Registered

variable {records : Records} (h : records.Registered)

include h

theorem findResource?_eq_some_iff {id : ResourceId} {resource : Resource} :
    records.findResource? id = some resource ↔ resource ∈ records.resources ∧ resource.id = id :=
  find?_eq_some_iff_of_nodup h.resourceIds

theorem findClass?_eq_some_iff {id : ResourceClassId} {resourceClass : ResourceClass} :
    records.findClass? id = some resourceClass ↔
      resourceClass ∈ records.classes ∧ resourceClass.id = id :=
  find?_eq_some_iff_of_nodup h.classIds

theorem findDomain?_eq_some_iff {id : DomainId} {domain : Domain} :
    records.findDomain? id = some domain ↔ domain ∈ records.domains ∧ domain.id = id :=
  find?_eq_some_iff_of_nodup h.domains.nodup_ids

theorem nodup_classTexts : (records.classes.map (·.name.text)).Nodup := by
  have hmap := h.classNames.map Label.text_injective
  rwa [List.map_map] at hmap

theorem findClassByName?_eq_some_iff {name : Label} {resourceClass : ResourceClass} :
    records.findClassByName? name.text = some resourceClass ↔
      resourceClass ∈ records.classes ∧ resourceClass.name = name := by
  rw [← Label.text_injective.eq_iff]
  exact find?_eq_some_iff_of_nodup h.nodup_classTexts

theorem findDomainByName?_eq_some_iff {name : Label} {domain : Domain} :
    records.findDomainByName? name.text = some domain ↔
      domain ∈ records.domains ∧ domain.name = name := by
  rw [← Label.text_injective.eq_iff]
  exact find?_eq_some_iff_of_nodup h.domains.nodup_texts

end Registered

end Records

end Authorization
