import Authorization.Proofs.Cascade
import Authorization.Proofs.Permission.Order
import Authorization.Proofs.Store.Grant
import Authorization.Proofs.Store.LastWins

/-! Mutations of a memory store step by step. Everything is looked up and checked before anything is
written. -/
namespace Authorization

namespace Memory

variable {α : Type}

/-- Asks the store for something and leaves it as it is. -/
def look (check : Memory → Except Error α) : Removal Memory α :=
  fun memory => (check memory, memory)

/-- Changes the store. A failure that comes later does not take this back. -/
def write (change : Memory → Memory) : Removal Memory Unit :=
  fun memory => (.ok (), change memory)

/-- What a mutation should end in: its outcome, with the store as it was if it is refused. -/
def ending (memory : Memory) : Except Error Memory → Except Error Unit × Memory
  | .ok next => (.ok (), next)
  | .error error => (.error error, memory)

variable {β : Type} {memory : Memory}

theorem outcome_look (check : Memory → Except Error α) :
    (look check).outcome memory = (check memory, memory) :=
  rfl

theorem outcome_look_bind {check : Memory → Except Error α} {next : α → Removal Memory β} :
    (look check >>= next).outcome memory =
      match check memory with
      | .ok a => (next a).outcome memory
      | .error error => (.error error, memory) := by
  rw [Removal.outcome_bind, outcome_look]
  cases check memory with
  | ok a => rfl
  | error error => rfl

theorem outcome_write (change : Memory → Memory) :
    (write change).outcome memory = (.ok (), change memory) :=
  rfl

/-- Checks of a whole batch fail as the first that does, and leave the store as it is. -/
theorem outcome_checks (check : α → Except Error Unit) (batch : List α) :
    (forM batch fun a => look fun _ => check a).outcome memory =
      (checkAll check batch, memory) := by
  induction batch with
  | nil => rfl
  | cons a batch ih =>
    rw [List.forM_cons, outcome_look_bind, checkAll]
    cases check a with
    | ok _ => exact ih
    | error error => rfl

/-- What follows the checks of a batch finds the store as they found it. -/
theorem outcome_checks_bind (check : α → Except Error Unit) (batch : List α)
    (next : Removal Memory β) :
    ((forM batch fun a => look fun _ => check a) >>= fun _ => next).outcome memory =
      match checkAll check batch with
      | .ok _ => next.outcome memory
      | .error error => (.error error, memory) := by
  rw [Removal.outcome_bind, outcome_checks]
  cases checkAll check batch with
  | ok _ => rfl
  | error error => rfl

/-- Writes are made in the order of the batch. -/
theorem outcome_writes (change : Memory → α → Memory) (batch : List α) :
    (forM batch fun a => write fun memory => change memory a).outcome memory =
      (.ok (), batch.foldl change memory) := by
  induction batch generalizing memory with
  | nil => rfl
  | cons a batch ih =>
    rw [List.forM_cons, Removal.outcome_bind, outcome_write]
    exact ih

end Memory

/-- A family of grants: what a key of it refers to, what permissions are checked against, and the
table that they are written to. -/
structure GrantFamily (κ π χ : Type) [DecidableEq κ] [Permission π] [DecidableEq π] where
  grant : κ → List π → Grant
  reference : κ → Memory → Except Error χ
  validate : χ → π → Except Error Unit
  rows : PermissionTables → GrantRows κ π
  withRows : GrantRows κ π → PermissionTables → PermissionTables
  rows_withRows : ∀ {written tables}, rows (withRows written tables) = written
  withRows_rows : ∀ {tables}, withRows (rows tables) tables = tables
  withRows_withRows : ∀ {written other tables},
    withRows written (withRows other tables) = withRows written tables
  /-- What is granted is never referred to. -/
  reference_withGrants : ∀ {key memory update},
    reference key (Memory.withGrants memory update) = reference key memory
  perform_eq : ∀ {key batch memory}, Memory.perform memory (grant key batch).mutation = (do
    let found ← reference key memory
    checkAll (validate found) batch
    return memory.withGrants fun tables => withRows ((rows tables).putAll key batch) tables)

namespace GrantFamily

def direct : GrantFamily DirectKey ResourcePermission ResourceClass where
  grant := .direct
  reference key memory := do
    let _ ← memory.requireResource key.accessor
    let accessed ← memory.requireResource key.accessed
    memory.requireClass accessed.classId
  validate := ResourceClass.validate
  rows tables := tables.direct
  withRows rows tables := { tables with direct := rows }
  rows_withRows := rfl
  withRows_rows := rfl
  withRows_withRows := rfl
  reference_withGrants := rfl
  perform_eq := by
    intro key batch memory
    simp only [Memory.perform, Grant.mutation, Memory.grantDirect, bind_assoc]

def global : GrantFamily ClassKey ResourcePermission ResourceClass where
  grant := .global
  reference key memory := memory.requireClassKey key
  validate := ResourceClass.validate
  rows tables := tables.global
  withRows rows tables := { tables with global := rows }
  rows_withRows := rfl
  withRows_rows := rfl
  withRows_withRows := rfl
  reference_withGrants := rfl
  perform_eq := rfl

def create : GrantFamily ClassKey ResourceCreatePermission ResourceClass where
  grant := .create
  reference key memory := memory.requireClassKey key
  validate := ResourceClass.validateCreate
  rows tables := tables.create
  withRows rows tables := { tables with create := rows }
  rows_withRows := rfl
  withRows_rows := rfl
  withRows_withRows := rfl
  reference_withGrants := rfl
  perform_eq := rfl

def domain : GrantFamily DomainKey DomainPermission Domain where
  grant := .domain
  reference key memory := do
    let _ ← memory.requireResource key.accessor
    memory.requireDomain key.domainId
  validate _ _ := .ok ()
  rows tables := tables.domain
  withRows rows tables := { tables with domain := rows }
  rows_withRows := rfl
  withRows_rows := rfl
  withRows_withRows := rfl
  reference_withGrants := rfl
  perform_eq := by
    intro key batch memory
    simp only [Memory.perform, Grant.mutation, Memory.grantDomain, bind_assoc, checkAll_eq_ok]
    rfl

def domainCreate : GrantFamily ResourceId DomainCreatePermission Resource where
  grant := .domainCreate
  reference accessor memory := memory.requireResource accessor
  validate _ _ := .ok ()
  rows tables := tables.domainCreate
  withRows rows tables := { tables with domainCreate := rows }
  rows_withRows := rfl
  withRows_rows := rfl
  withRows_withRows := rfl
  reference_withGrants := rfl
  perform_eq := by
    intro key batch memory
    simp only [Memory.perform, Grant.mutation, Memory.grantDomainCreate, checkAll_eq_ok]
    rfl

section Steps

variable {κ π χ : Type} [DecidableEq κ] [Permission π] [DecidableEq π]
  (family : GrantFamily κ π χ) {memory next : Memory} {key : κ} {batch : List π}

/-- Grants permissions one by one, once all of them have been checked. -/
def stepwise (key : κ) (batch : List π) : Removal Memory Unit := do
  let found ← Memory.look (family.reference key)
  forM batch fun permission => Memory.look fun _ => family.validate found permission
  forM batch fun permission => Memory.write fun memory => memory.withGrants fun tables =>
    family.withRows (GrantRows.put key (family.rows tables) permission) tables

/-- Writing the permissions of a batch one by one puts all of them into the table. -/
theorem foldl_put_eq (key : κ) (batch : List π) (memory : Memory) :
    batch.foldl (fun memory permission => memory.withGrants fun tables =>
      family.withRows (GrantRows.put key (family.rows tables) permission) tables) memory =
    memory.withGrants fun tables =>
      family.withRows ((family.rows tables).putAll key batch) tables := by
  induction batch generalizing memory with
  | nil =>
    have hnone : ∀ tables, family.withRows ((family.rows tables).putAll key []) tables = tables :=
      fun _ => family.withRows_rows
    simp only [hnone]
    rfl
  | cons permission batch ih =>
    rw [List.foldl_cons, ih]
    simp only [Memory.withGrants, family.rows_withRows, family.withRows_withRows]
    rfl

theorem outcome_stepwise (key : κ) (batch : List π) (memory : Memory) :
    (family.stepwise key batch).outcome memory =
      memory.ending (memory.perform (family.grant key batch).mutation) := by
  rw [stepwise, Memory.outcome_look_bind, family.perform_eq]
  cases family.reference key memory with
  | error error => rfl
  | ok found =>
    dsimp only
    rw [Memory.outcome_checks_bind (family.validate found), bind_of_eq_ok rfl]
    cases checkAll (family.validate found) batch with
    | error error => rfl
    | ok _ =>
      -- All has been checked, so the writes go through, and they make up the whole grant.
      dsimp only
      rw [Memory.outcome_writes, family.foldl_put_eq, bind_of_eq_ok rfl]
      rfl

/-- What a grant that succeeded has written. -/
theorem of_perform (h : memory.perform (family.grant key batch).mutation = .ok next) :
    (∃ found, family.reference key memory = .ok found ∧
      checkAll (family.validate found) batch = .ok ()) ∧
    next = memory.withGrants fun tables =>
      family.withRows ((family.rows tables).putAll key batch) tables := by
  rw [family.perform_eq] at h
  obtain ⟨found, hfound, h⟩ := bind_eq_ok_iff.mp h
  obtain ⟨_, hvalid, h⟩ := bind_eq_ok_iff.mp h
  cases h
  exact ⟨⟨found, hfound, hvalid⟩, rfl⟩

theorem rows_of_perform (h : memory.perform (family.grant key batch).mutation = .ok next) :
    family.rows next.records.grants = (family.rows memory.records.grants).putAll key batch := by
  obtain ⟨_, rfl⟩ := family.of_perform h
  exact family.rows_withRows

end Steps

end GrantFamily

namespace Memory

/-- A mutation step by step. -/
def stepwise : Mutation → Removal Memory Unit
  | .addDomain domain => do
    let records ← look fun memory => .ok memory.records
    if records.domains.any fun other => other.id = domain.id || other.name = domain.name then
      throw (.domainExists domain.name domain.id)
    match domain.parent? with
    | some parent =>
      if (records.findDomain? parent).isNone then throw (.parentMissing parent domain.name)
    | none => pure ()
    write fun memory =>
      ⟨{ memory.records with domains := memory.records.domains ++ [domain] }⟩
  | .addClass resourceClass => do
    let records ← look fun memory => .ok memory.records
    if records.classes.any fun other =>
        other.id = resourceClass.id || other.name = resourceClass.name then
      throw (.classExists resourceClass.name)
    write fun memory =>
      ⟨{ memory.records with classes := memory.records.classes ++ [resourceClass] }⟩
  | .addResource resource => do
    let _ ← look fun memory => memory.requireClass resource.classId
    let _ ← look fun memory => memory.requireDomain resource.domainId
    let records ← look fun memory => .ok memory.records
    if records.resources.any (·.id = resource.id) then throw (.resourceExists resource.id)
    write fun memory =>
      ⟨{ memory.records with resources := memory.records.resources ++ [resource] }⟩
  | .grantDirect key batch => GrantFamily.direct.stepwise key batch
  | .grantGlobal key batch => GrantFamily.global.stepwise key batch
  | .grantCreate key batch => GrantFamily.create.stepwise key batch
  | .grantDomain key batch => GrantFamily.domain.stepwise key batch
  | .grantDomainCreate accessor batch => GrantFamily.domainCreate.stepwise accessor batch
  | .clear domain => write fun memory => memory.clear domain

theorem outcome_stepwise (memory : Memory) (mutation : Mutation) :
    (stepwise mutation).outcome memory = memory.ending (memory.perform mutation) := by
  cases mutation with
  | addDomain domain =>
    rw [stepwise, outcome_look_bind, perform, addDomain]
    dsimp only
    -- Each way to be refused comes before the only write.
    split
    · rfl
    · cases domain.parent? with
      | none => rfl
      | some parent =>
        dsimp only
        split
        · rfl
        · rfl
  | addClass resourceClass =>
    rw [stepwise, outcome_look_bind, perform, addClass]
    dsimp only
    split
    · rfl
    · rfl
  | addResource resource =>
    rw [stepwise, outcome_look_bind, perform, addResource]
    cases memory.requireClass resource.classId with
    | error error => rfl
    | ok resourceClass =>
      dsimp only
      rw [outcome_look_bind]
      cases memory.requireDomain resource.domainId with
      | error error => rfl
      | ok domain =>
        dsimp only
        rw [outcome_look_bind]
        dsimp only
        split
        · rfl
        · rfl
  | grantDirect key batch => exact GrantFamily.direct.outcome_stepwise key batch memory
  | grantGlobal key batch => exact GrantFamily.global.outcome_stepwise key batch memory
  | grantCreate key batch => exact GrantFamily.create.outcome_stepwise key batch memory
  | grantDomain key batch => exact GrantFamily.domain.outcome_stepwise key batch memory
  | grantDomainCreate accessor batch =>
    exact GrantFamily.domainCreate.outcome_stepwise accessor batch memory
  | clear domain => rfl

/-- A mutation that is carried out step by step does all that it does, or nothing. -/
structure AllOrNothing (memory : Memory) (mutation : Mutation) : Prop where
  done : ∀ {next}, memory.perform mutation = .ok next →
    (stepwise mutation).outcome memory = (.ok (), next)
  refused : ∀ {error}, memory.perform mutation = .error error →
    (stepwise mutation).outcome memory = (.error error, memory)
  unchanged : ∀ {error later}, (stepwise mutation).outcome memory = (.error error, later) →
    later = memory

theorem allOrNothing (memory : Memory) (mutation : Mutation) : memory.AllOrNothing mutation := by
  have houtcome := outcome_stepwise memory mutation
  cases hperform : memory.perform mutation with
  | ok next =>
    rw [hperform] at houtcome
    refine ⟨?_, ?_, ?_⟩
    · intro other hother
      cases hperform.symm.trans hother
      exact houtcome
    · intro error hrefused
      cases hperform.symm.trans hrefused
    · intro error later hrefused
      cases houtcome.symm.trans hrefused
  | error error =>
    rw [hperform] at houtcome
    refine ⟨?_, ?_, ?_⟩
    · intro next hnext
      cases hperform.symm.trans hnext
    · intro other hother
      cases hperform.symm.trans hother
      exact houtcome
    · intro error later hrefused
      cases houtcome.symm.trans hrefused
      rfl

open Permission (equalIgnoringGrantOption sameIdentity postCreateGrantOption)

/-- What comes of granting a batch under a key. `grant` is the grant of a batch, and `held` tells
what stands under the key of it. -/
structure Replaces {π : Type} [Permission π] [DecidableEq π] (memory : Memory)
    (grant : List π → Grant) (held : Memory → List π) : Prop where
  /-- A batch is refused for the first of its permissions that would be refused alone. -/
  refuses : ∀ {before bad after next error},
    memory.perform (grant before).mutation = .ok next →
    memory.perform (grant [bad]).mutation = .error error →
    memory.perform (grant (before ++ bad :: after)).mutation = .error error
  others : ∀ {batch next}, memory.perform (grant batch).mutation = .ok next →
    (grant batch).LeavesOthers memory next
  held_eq : ∀ {batch next}, memory.perform (grant batch).mutation = .ok next →
    held next = (held memory).filter (fun old => !replacedBy batch old) ++ lastOfEach batch
  /-- What was granted last stands alone, with the grant option that it was granted with. -/
  withdraws : ∀ {before permission after next},
    memory.perform (grant (before ++ permission :: after)).mutation = .ok next →
    replacedBy after permission = false →
    ∀ other, other ∈ held next ∧ equalIgnoringGrantOption other permission = true ↔
      other = permission
  /-- Nothing is replaced but by what grants the same with the same wrapped grant option. -/
  kept : ∀ {batch next old}, memory.perform (grant batch).mutation = .ok next →
    old ∈ held memory →
    (∀ permission ∈ batch, sameIdentity old permission = true →
      postCreateGrantOption old ≠ postCreateGrantOption permission) →
    old ∈ held next
  twice : ∀ {batch next}, memory.perform (grant batch).mutation = .ok next →
    next.perform (grant batch).mutation = .ok next

end Memory

namespace GrantFamily

variable {κ π χ : Type} [DecidableEq κ] [Permission π] [DecidableEq π]
  (family : GrantFamily κ π χ) {memory next : Memory} {key : κ} {batch : List π}

open Permission (equalIgnoringGrantOption sameIdentity postCreateGrantOption)

/-- What stands under a key. -/
def held (key : κ) (memory : Memory) : List π :=
  (family.rows memory.records.grants).held key

theorem refuses {before after : List π} {bad : π} {error : Error}
    (hbefore : memory.perform (family.grant key before).mutation = .ok next)
    (hbad : memory.perform (family.grant key [bad]).mutation = .error error) :
    memory.perform (family.grant key (before ++ bad :: after)).mutation = .error error := by
  obtain ⟨⟨found, hfound, hvalid⟩, -⟩ := family.of_perform hbefore
  have hfirst : checkAll (family.validate found) [bad] = .error error := by
    rw [family.perform_eq, bind_of_eq_ok hfound] at hbad
    rcases bind_eq_error_iff.mp hbad with hrefused | ⟨_, _, hreturn⟩
    · exact hrefused
    · cases hreturn
  have hbatch : checkAll (family.validate found) (before ++ bad :: after) = .error error := by
    rw [checkAll_append, bind_of_eq_ok hvalid, ← List.singleton_append, checkAll_append, hfirst]
    rfl
  rw [family.perform_eq, bind_of_eq_ok hfound, hbatch]
  rfl

theorem held_of_perform (h : memory.perform (family.grant key batch).mutation = .ok next) :
    family.held key next =
      (family.held key memory).filter (fun old => !replacedBy batch old) ++ lastOfEach batch := by
  rw [held, family.rows_of_perform h, GrantRows.held_putAll, held]

theorem withdraws {before after : List π} {permission : π}
    (h : memory.perform (family.grant key (before ++ permission :: after)).mutation = .ok next)
    (hlast : replacedBy after permission = false) (other : π) :
    other ∈ family.held key next ∧ equalIgnoringGrantOption other permission = true ↔
      other = permission := by
  have hpermission : permission ∈ lastOfEach (before ++ permission :: after) :=
    mem_lastOfEach_iff.mpr ⟨before, after, rfl, hlast⟩
  have hbatch : permission ∈ before ++ permission :: after := mem_of_mem_lastOfEach hpermission
  rw [family.held_of_perform h, List.mem_append, List.mem_filter]
  constructor
  · rintro ⟨⟨-, hkept⟩ | hlasting, hequal⟩
    · -- Old entries that are equal to it have been replaced.
      have hreplaced : replacedBy (before ++ permission :: after) other = true :=
        replacedBy_iff.mpr ⟨permission, hbatch, hequal⟩
      rw [hreplaced] at hkept
      cases hkept
    · exact eq_of_mem_lastOfEach hlasting hpermission hequal
  · rintro rfl
    exact ⟨Or.inr hpermission, Permission.equalIgnoringGrantOption_iff.mpr rfl⟩

theorem kept [LawfulPermission π] {old : π}
    (h : memory.perform (family.grant key batch).mutation = .ok next)
    (hold : old ∈ family.held key memory)
    (hdiffers : ∀ permission ∈ batch, sameIdentity old permission = true →
      postCreateGrantOption old ≠ postCreateGrantOption permission) :
    old ∈ family.held key next := by
  have hkept : replacedBy batch old = false := by
    rw [replacedBy_eq_false_iff]
    intro permission hpermission
    apply Bool.eq_false_iff.mpr
    intro hequal
    obtain ⟨hbare, hwrapped⟩ := LawfulPermission.plain_eq_iff.mp
      (Permission.equalIgnoringGrantOption_iff.mp hequal)
    exact hdiffers permission hpermission (Permission.sameIdentity_iff.mpr hbare) hwrapped
  have hfiltered : old ∈ (family.held key memory).filter fun old => !replacedBy batch old :=
    List.mem_filter.mpr ⟨hold, by rw [hkept]; rfl⟩
  rw [family.held_of_perform h]
  exact List.mem_append.mpr (Or.inl hfiltered)

/-- A grant that succeeded succeeds again, and changes nothing then. -/
theorem twice (h : memory.perform (family.grant key batch).mutation = .ok next) :
    next.perform (family.grant key batch).mutation = .ok next := by
  obtain ⟨⟨found, hfound, hvalid⟩, rfl⟩ := family.of_perform h
  -- A grant refers to nothing that a grant changes, so the same checks pass again.
  rw [family.perform_eq, family.reference_withGrants, bind_of_eq_ok hfound, bind_of_eq_ok hvalid]
  simp only [Memory.withGrants, family.rows_withRows, family.withRows_withRows,
    GrantRows.putAll_putAll]
  rfl

theorem replaces [LawfulPermission π] (memory : Memory) (key : κ) :
    memory.Replaces (family.grant key) (family.held key) where
  refuses := family.refuses
  others := Grant.leavesOthers
  held_eq := family.held_of_perform
  withdraws h hlast other := family.withdraws h hlast other
  kept := family.kept
  twice := family.twice

end GrantFamily

/-- The mutations of a memory store are all or nothing: one that is refused leaves the store as it
was, even if it is only a later permission of a batch that is refused. Of a batch that is granted
the last of each permission wins, whatever its grant option is. -/
theorem Memory.mutations_replace_or_refuse (memory : Memory) :
    (∀ mutation, memory.AllOrNothing mutation) ∧
      (∀ key, memory.Replaces (.direct key) (·.records.grants.direct.held key)) ∧
      (∀ key, memory.Replaces (.global key) (·.records.grants.global.held key)) ∧
      (∀ key, memory.Replaces (.create key) (·.records.grants.create.held key)) ∧
      (∀ key, memory.Replaces (.domain key) (·.records.grants.domain.held key)) ∧
      ∀ accessor, memory.Replaces (.domainCreate accessor)
        (·.records.grants.domainCreate.held accessor) := by
  refine ⟨memory.allOrNothing, ?_, ?_, ?_, ?_, ?_⟩
  · exact GrantFamily.direct.replaces memory
  · exact GrantFamily.global.replaces memory
  · exact GrantFamily.create.replaces memory
  · exact GrantFamily.domain.replaces memory
  · exact GrantFamily.domainCreate.replaces memory

namespace Office

def plainView : ResourcePermission := ⟨.custom viewName, false⟩

def impersonate : ResourcePermission := ⟨.system .impersonate, false⟩

/-- The team may pass on the permission to view the file until it is granted without that option,
after which nothing else of it is left. A batch in which only the last permission makes no sense on
documents grants nothing. -/
theorem team_may_no_longer_pass_on :
    (∃ next, store.perform (.grantDirect ⟨team.id, file.id⟩ [view, query, plainView]) = .ok next ∧
      next.records.grants.direct.held ⟨team.id, file.id⟩ = [query, plainView] ∧
      next.perform (.grantDirect ⟨team.id, file.id⟩ [view, query, plainView]) = .ok next) ∧
    ∃ error, (Memory.stepwise (.grantDirect ⟨team.id, file.id⟩ [query, impersonate])).outcome
      store = (.error error, store) := by
  obtain ⟨hallOrNothing, hdirect, -⟩ := Memory.mutations_replace_or_refuse store
  constructor
  · obtain ⟨next, hnext⟩ : ∃ next, store.perform
        (Grant.direct ⟨team.id, file.id⟩ [view, query, plainView]).mutation = .ok next := ⟨_, rfl⟩
    have hreplaces := hdirect ⟨team.id, file.id⟩
    refine ⟨next, hnext, ?_, hreplaces.twice hnext⟩
    rw [hreplaces.held_eq hnext]
    decide
  · have hrefused : store.perform (.grantDirect ⟨team.id, file.id⟩ [query, impersonate]) =
        .error (.needsAuthenticatable "*IMPERSONATE" document.name) := rfl
    exact ⟨_, (hallOrNothing _).refused hrefused⟩

end Office

end Authorization
