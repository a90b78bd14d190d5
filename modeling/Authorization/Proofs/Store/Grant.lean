import Authorization.Proofs.Store.Walk

namespace Authorization

namespace GrantRows

variable {κ ρ : Type} [DecidableEq κ] [Permission ρ] [DecidableEq ρ] {key other : κ}

theorem held_putAll_of_ne (h : other ≠ key) (rows : GrantRows κ ρ) (permissions : List ρ) :
    (rows.putAll key permissions).held other = rows.held other := by
  unfold putAll
  induction permissions generalizing rows with
  | nil => rfl
  | cons permission permissions ih => exact (ih _).trans (held_put_of_ne h rows permission)

/-- Permissions of some kind are replaced only by permissions of the same kind, so where none is
granted they stay. -/
theorem filter_held_putAll {kind : ρ → Bool}
    (hkind : ∀ {a b}, Permission.equalIgnoringGrantOption a b = true → kind a = kind b)
    (rows : GrantRows κ ρ) {permissions : List ρ}
    (hnone : ∀ permission ∈ permissions, kind permission = false) (other : κ) :
    ((rows.putAll key permissions).held other).filter kind = (rows.held other).filter kind := by
  by_cases hother : other = key
  · subst hother
    have hnew : (lastOfEach permissions).filter kind = [] := by
      rw [List.filter_eq_nil_iff]
      intro permission hmem
      rw [hnone permission (mem_of_mem_lastOfEach hmem)]
      exact Bool.false_ne_true
    have hkept : ∀ old ∈ rows.held other,
        (kind old && !replacedBy permissions old) = kind old := by
      intro old _
      cases hreplaced : replacedBy permissions old with
      | false => simp
      | true =>
        obtain ⟨permission, hmem, hequal⟩ := replacedBy_iff.mp hreplaced
        simp [hkind hequal, hnone permission hmem]
    rw [held_putAll, List.filter_append, hnew, List.append_nil, List.filter_filter]
    exact List.filter_congr hkept
  · rw [held_putAll_of_ne hother]

theorem exists_held_putAll_iff {kind : ρ → Bool}
    (hkind : ∀ {a b}, Permission.equalIgnoringGrantOption a b = true → kind a = kind b)
    (rows : GrantRows κ ρ) {permissions : List ρ}
    (hnone : ¬∃ permission ∈ permissions, kind permission = true) (other : κ) :
    (∃ permission ∈ (rows.putAll key permissions).held other, kind permission = true) ↔
      ∃ permission ∈ rows.held other, kind permission = true := by
  have hfalse : ∀ permission ∈ permissions, kind permission = false := by
    intro permission hmem
    exact Bool.eq_false_iff.mpr fun htrue => hnone ⟨permission, hmem, htrue⟩
  simp only [← List.mem_filter, filter_held_putAll hkind rows hfalse]

end GrantRows

/-- Permissions for a resource, of one of the five families. -/
inductive Grant where
  | direct (key : DirectKey) (permissions : List ResourcePermission)
  | global (key : ClassKey) (permissions : List ResourcePermission)
  | create (key : ClassKey) (permissions : List ResourceCreatePermission)
  | domain (key : DomainKey) (permissions : List DomainPermission)
  | domainCreate (accessor : ResourceId) (permissions : List DomainCreatePermission)

namespace Grant

/-- The resource that is granted something. -/
def receiver : Grant → ResourceId
  | direct key _ => key.accessor
  | global key _ => key.accessor
  | create key _ => key.accessor
  | domain key _ => key.accessor
  | domainCreate accessor _ => accessor

/-- The domain within which something is granted, if it is not granted on a single resource or
apart from all domains. -/
def scope? : Grant → Option DomainId
  | direct _ _ => none
  | global key _ => some key.domainId
  | create key _ => some key.domainId
  | domain key _ => some key.domainId
  | domainCreate _ _ => none

def mutation : Grant → Mutation
  | direct key permissions => .grantDirect key permissions
  | global key permissions => .grantGlobal key permissions
  | create key permissions => .grantCreate key permissions
  | domain key permissions => .grantDomain key permissions
  | domainCreate accessor permissions => .grantDomainCreate accessor permissions

/-- Whether the receiver comes to inherit from another resource. -/
def LetsInherit : Grant → Prop
  | direct _ permissions => ∃ permission ∈ permissions, permission.isInherit = true
  | _ => False

/-- What is granted within a domain lets nobody inherit. -/
theorem not_letsInherit_of_scope? {grant : Grant} {scope : DomainId}
    (h : grant.scope? = some scope) : ¬grant.LetsInherit := by
  cases grant with
  | direct key permissions => cases h
  | _ => exact not_false

/-- Whether the receiver becomes super-user in a domain. -/
def MakesSuperUser : Grant → Prop
  | domain _ permissions => ∃ permission ∈ permissions, permission.isSuperUser = true
  | _ => False

/-- Two stores that differ at most by what stands under the key of a grant. -/
structure LeavesOthers (grant : Grant) (memory next : Memory) : Prop where
  domains : next.records.domains = memory.records.domains
  classes : next.records.classes = memory.records.classes
  resources : next.records.resources = memory.records.resources
  direct : ∀ {key}, (∀ permissions, grant ≠ .direct key permissions) →
    next.records.grants.direct.held key = memory.records.grants.direct.held key
  global : ∀ {key}, (∀ permissions, grant ≠ .global key permissions) →
    next.records.grants.global.held key = memory.records.grants.global.held key
  create : ∀ {key}, (∀ permissions, grant ≠ .create key permissions) →
    next.records.grants.create.held key = memory.records.grants.create.held key
  domain : ∀ {key}, (∀ permissions, grant ≠ .domain key permissions) →
    next.records.grants.domain.held key = memory.records.grants.domain.held key
  domainCreate : ∀ {accessor}, (∀ permissions, grant ≠ .domainCreate accessor permissions) →
    next.records.grants.domainCreate.held accessor =
      memory.records.grants.domainCreate.held accessor

section Performed

variable {grant : Grant} {memory next : Memory}
  (hperform : memory.perform grant.mutation = .ok next)

include hperform

theorem leavesOthers : grant.LeavesOthers memory next := by
  cases grant with
  | direct key permissions =>
    obtain ⟨_, rfl⟩ := Memory.of_grantDirect hperform
    refine ⟨rfl, rfl, rfl, fun h => ?_, fun _ => rfl, fun _ => rfl, fun _ => rfl, fun _ => rfl⟩
    exact GrantRows.held_putAll_of_ne (fun heq => h permissions (by rw [heq])) _ _
  | global key permissions =>
    obtain ⟨_, rfl⟩ := Memory.of_grantGlobal hperform
    refine ⟨rfl, rfl, rfl, fun _ => rfl, fun h => ?_, fun _ => rfl, fun _ => rfl, fun _ => rfl⟩
    exact GrantRows.held_putAll_of_ne (fun heq => h permissions (by rw [heq])) _ _
  | create key permissions =>
    obtain ⟨_, rfl⟩ := Memory.of_grantCreate hperform
    refine ⟨rfl, rfl, rfl, fun _ => rfl, fun _ => rfl, fun h => ?_, fun _ => rfl, fun _ => rfl⟩
    exact GrantRows.held_putAll_of_ne (fun heq => h permissions (by rw [heq])) _ _
  | domain key permissions =>
    obtain ⟨_, rfl⟩ := Memory.of_grantDomain hperform
    refine ⟨rfl, rfl, rfl, fun _ => rfl, fun _ => rfl, fun _ => rfl, fun h => ?_, fun _ => rfl⟩
    exact GrantRows.held_putAll_of_ne (fun heq => h permissions (by rw [heq])) _ _
  | domainCreate accessor permissions =>
    obtain ⟨_, rfl⟩ := Memory.of_grantDomainCreate hperform
    refine ⟨rfl, rfl, rfl, fun _ => rfl, fun _ => rfl, fun _ => rfl, fun _ => rfl, fun h => ?_⟩
    exact GrantRows.held_putAll_of_ne (fun heq => h permissions (by rw [heq])) _ _

/-- Nobody but the receiver inherits from others than before. -/
theorem inherits_iff_of_ne {accessor : ResourceId} (h : accessor ≠ grant.receiver)
    (donor : ResourceId) : next.Inherits accessor donor ↔ memory.Inherits accessor donor := by
  have hother : ∀ permissions, grant ≠ .direct ⟨accessor, donor⟩ permissions := by
    rintro permissions rfl
    exact h rfl
  unfold Memory.Inherits
  rw [(leavesOthers hperform).direct hother]

/-- Nobody inherits from others than before unless that is granted. -/
theorem inherits_iff (h : ¬grant.LetsInherit) (accessor donor : ResourceId) :
    next.Inherits accessor donor ↔ memory.Inherits accessor donor := by
  by_cases hkey : ∃ permissions, grant = .direct ⟨accessor, donor⟩ permissions
  · obtain ⟨permissions, rfl⟩ := hkey
    obtain ⟨_, rfl⟩ := Memory.of_grantDirect hperform
    refine GrantRows.exists_held_putAll_iff (fun {a b} hequal => ?_) _ h _
    have hname := congrArg ResourcePermission.name (of_decide_eq_true hequal)
    exact congrArg (fun name => decide (name = .system .inherit)) hname
  · unfold Memory.Inherits
    rw [(leavesOthers hperform).direct (not_exists.mp hkey)]

/-- Nobody is super-user in others domains than before unless that is granted. -/
theorem exists_superUser_iff {key : DomainKey}
    (h : ∀ permissions, grant = .domain key permissions → ¬grant.MakesSuperUser) :
    (∃ permission ∈ next.records.grants.domain.held key, permission.isSuperUser = true) ↔
      ∃ permission ∈ memory.records.grants.domain.held key, permission.isSuperUser = true := by
  by_cases hkey : ∃ permissions, grant = .domain key permissions
  · obtain ⟨permissions, rfl⟩ := hkey
    have hnone := h permissions rfl
    obtain ⟨_, rfl⟩ := Memory.of_grantDomain hperform
    refine GrantRows.exists_held_putAll_iff (fun {a b} hequal => ?_) _ hnone _
    have hsystem := congrArg DomainPermission.system (of_decide_eq_true hequal)
    exact congrArg (fun system => decide (system = .superUser)) hsystem
  · rw [(leavesOthers hperform).domain (not_exists.mp hkey)]

end Performed

end Grant

end Authorization
