import Authorization.Proofs.Permission.Defined
import Authorization.Proofs.Service.Holding
import Authorization.Proofs.Service.SuperUser

namespace Authorization

/-- What a super-user has is all that is defined, in some order, at the distance of the grant. No
two of the defined permissions are merged, so all that merging does is to sort them. -/
theorem Proximity.expand_perm {π : Type} [Permission π] [DecidableEq π] [LawfulPermission π]
    {defined : List π} (hdefined : Regrantables defined) (proximity : Proximity) :
    (proximity.expand defined).Perm
      (defined.map (⟨·, proximity.inheritLevel, proximity.domainLevel⟩)) := by
  have honce : ((defined.map fun permission => (⟨permission, proximity.inheritLevel,
      proximity.domainLevel⟩ : EffectivePermission π)).map
        fun entry => Permission.plain entry.permission).Nodup := by
    rw [List.map_map]
    exact hdefined.once
  exact (EffectivePermission.summarizes_merge _).perm (EffectivePermission.summarizes_self honce)

/-- What a super-user has is not changed by merging it once more. -/
theorem Proximity.merge_expand_perm {π : Type} [Permission π] [DecidableEq π] [LawfulPermission π]
    (defined : List π) (proximity : Proximity) :
    (EffectivePermission.merge (proximity.expand defined)).Perm (proximity.expand defined) := by
  have honce := (EffectivePermission.summarizes_merge
    (defined.map (⟨·, proximity.inheritLevel, proximity.domainLevel⟩))).once
  exact (EffectivePermission.summarizes_merge _).perm (EffectivePermission.summarizes_self honce)

namespace Memory

open EffectivePermission (Summarizes)

section Copies

variable (memory : Memory) {π : Type}

/-- Copies of what holders have by themselves: each is at the distance of its holder. -/
def Copy (accessor : ResourceId) (held : ResourceId → List π) (entry : EffectivePermission π) :
    Prop :=
  ∃ holder, Distance memory.Inherits accessor entry.inheritLevel holder ∧
    entry.permission ∈ held holder ∧ entry.domainLevel = 0

/-- Copies of what holders have on domains: each is at the distances of its holder and its domain.
-/
def CopyIn (accessor : ResourceId) (domain : DomainId) (held : ResourceId → DomainId → List π)
    (entry : EffectivePermission π) : Prop :=
  ∃ holder, Distance memory.Inherits accessor entry.inheritLevel holder ∧
    ∃ above, Distance memory.HasParent domain entry.domainLevel above ∧
      entry.permission ∈ held holder above

/-- Copies of what is granted for a resource: on it, or on its class in a domain that it lies in. -/
def CopyOn (accessor : ResourceId) (accessed : Resource)
    (entry : EffectivePermission ResourcePermission) : Prop :=
  memory.Copy accessor (fun holder => memory.records.grants.direct.held ⟨holder, accessed.id⟩)
      entry ∨
    memory.CopyIn accessor accessed.domainId
      (fun holder above => memory.records.grants.global.held ⟨holder, accessed.classId, above⟩)
      entry

/-- A super-user grant at a distance. -/
def SuperUserAt (accessor : ResourceId) (domain : DomainId) (proximity : Proximity) : Prop :=
  ∃ holder, Distance memory.Inherits accessor proximity.inheritLevel holder ∧
    ∃ above, Distance memory.HasParent domain proximity.domainLevel above ∧
      ∃ permission ∈ memory.records.grants.domain.held ⟨holder, above⟩,
        permission.isSuperUser = true

/-- What was found of super-user grants: one if there is any, and then one with the fewest
inheritance hops. -/
structure FindsSuperUser (accessor : ResourceId) (domain : DomainId) (found : Option Proximity) :
    Prop where
  isSome_iff : found.isSome = true ↔ memory.IsSuperUser accessor domain
  at_of_some : ∀ {proximity}, found = some proximity → memory.SuperUserAt accessor domain proximity
  least : ∀ {proximity other}, found = some proximity → memory.SuperUserAt accessor domain other →
    proximity.inheritLevel ≤ other.inheritLevel

variable [Permission π]

/-- What a super-user has: exactly what is defined, each permission once and with every grant
option, all of them at the distance of one super-user grant with the fewest inheritance hops. -/
structure Expands (accessor : ResourceId) (domain : DomainId) (defined : List π)
    (effective : List (EffectivePermission π)) : Prop where
  once : (effective.map (·.permission)).Nodup
  permission_iff : ∀ {permission},
    permission ∈ effective.map (·.permission) ↔ permission ∈ defined
  regrantable : ∀ {entry}, entry ∈ effective →
    Permission.regrantable entry.permission = entry.permission
  reported : ∃ proximity, memory.SuperUserAt accessor domain proximity ∧
    (∀ other, memory.SuperUserAt accessor domain other →
      proximity.inheritLevel ≤ other.inheritLevel) ∧
    ∀ entry ∈ effective, entry.proximity = proximity

/-- What an accessor has: as super-user all that is defined, and else what is left of copies. -/
structure Resolves (accessor : ResourceId) (domain : DomainId) (defined : List π)
    (copy : EffectivePermission π → Prop) (effective : List (EffectivePermission π)) : Prop where
  summary : ¬memory.IsSuperUser accessor domain → Summarizes effective copy
  expansion : memory.IsSuperUser accessor domain →
    memory.Expands accessor domain defined effective

end Copies

variable {memory : Memory} {π : Type} {accessors : List (Ranked ResourceId)}
  {ancestors : List (Ranked DomainId)} {strategy : ClosureStrategy}

theorem isSuperUser_iff_exists_at {accessor : ResourceId} {domain : DomainId} :
    memory.IsSuperUser accessor domain ↔
      ∃ proximity, memory.SuperUserAt accessor domain proximity := by
  rw [isSuperUser_iff]
  constructor
  · rintro ⟨holder, hholder, above, habove, hsuper⟩
    obtain ⟨n, hn⟩ := Distance.of_reachable hholder
    obtain ⟨m, hm⟩ := Distance.of_reachable habove
    exact ⟨⟨n, m⟩, holder, hn, above, hm, hsuper⟩
  · rintro ⟨proximity, holder, hholder, above, habove, hsuper⟩
    exact ⟨holder, hholder.walk.reachable, above, habove.walk.reachable, hsuper⟩

section Held

variable {accessor : ResourceId} {domain : DomainId} {permission : π}

theorem exists_copy_iff {held : ResourceId → List π} :
    (∃ entry, memory.Copy accessor held entry ∧ entry.permission = permission) ↔
      memory.ThroughSome accessor fun holder => permission ∈ held holder := by
  constructor
  · rintro ⟨entry, ⟨holder, hdistance, hheld, _⟩, rfl⟩
    exact ⟨holder, hdistance.walk.reachable, hheld⟩
  · rintro ⟨holder, hholder, hheld⟩
    obtain ⟨n, hn⟩ := Distance.of_reachable hholder
    exact ⟨⟨permission, n, 0⟩, ⟨holder, hn, hheld, rfl⟩, rfl⟩

theorem exists_copyIn_iff {held : ResourceId → DomainId → List π} :
    (∃ entry, memory.CopyIn accessor domain held entry ∧ entry.permission = permission) ↔
      memory.ThroughSomeIn accessor domain fun holder above => permission ∈ held holder above := by
  constructor
  · rintro ⟨entry, ⟨holder, hdistance, above, hdistance', hheld⟩, rfl⟩
    exact ⟨holder, hdistance.walk.reachable, above, hdistance'.walk.reachable, hheld⟩
  · rintro ⟨holder, hholder, above, habove, hheld⟩
    obtain ⟨n, hn⟩ := Distance.of_reachable hholder
    obtain ⟨m, hm⟩ := Distance.of_reachable habove
    exact ⟨⟨permission, n, m⟩, ⟨holder, hn, above, hm, hheld⟩, rfl⟩

theorem exists_copyOn_iff {accessed : Resource} {permission : ResourcePermission} :
    (∃ entry, memory.CopyOn accessor accessed entry ∧ entry.permission = permission) ↔
      memory.HoldsOn accessor accessed permission := by
  simp only [CopyOn, or_and_right, exists_or]
  rw [exists_copy_iff, exists_copyIn_iff]
  exact Iff.rfl

end Held

section Collected

variable {accessor : ResourceId} {domain : DomainId}

theorem collectHeld_copies (hA : IsClosure memory.Inherits accessor accessors)
    (ask : ResourceId → Except Error (List π)) {held : ResourceId → List π}
    (hask : ∀ holder, ask holder = .ok (held holder)) :
    ∃ collected, Service.collectHeld accessors ask = .ok collected ∧
      ∀ entry, entry ∈ collected ↔ memory.Copy accessor held entry := by
  obtain ⟨collected, heq, hmem⟩ := Service.collectHeld_spec hask accessors
  refine ⟨collected, heq, fun entry => ?_⟩
  rw [hmem]
  constructor
  · rintro ⟨holder, hholder, hheld, hinherit, hdomain⟩
    have hdistance := hA.mem_iff.mp hholder
    rw [← hinherit] at hdistance
    exact ⟨holder.node, hdistance, hheld, hdomain⟩
  · rintro ⟨holder, hdistance, hheld, hdomain⟩
    exact ⟨⟨entry.inheritLevel, holder⟩, hA.mem_iff.mpr hdistance, hheld, rfl, hdomain⟩

theorem collectScoped_copies (hA : IsClosure memory.Inherits accessor accessors)
    (hD : IsClosure memory.HasParent domain ancestors)
    (ask : ResourceId → DomainId → Except Error (List π)) {held : ResourceId → DomainId → List π}
    (hask : ∀ holder above, ask holder above = .ok (held holder above)) :
    ∃ collected, Service.collectScoped accessors ancestors ask = .ok collected ∧
      ∀ entry, entry ∈ collected ↔ memory.CopyIn accessor domain held entry := by
  obtain ⟨collected, heq, hmem⟩ := Service.collectScoped_spec hask accessors ancestors
  refine ⟨collected, heq, fun entry => ?_⟩
  rw [hmem]
  constructor
  · rintro ⟨holder, hholder, above, habove, hheld, hinherit, hdomain⟩
    have hdistance := hA.mem_iff.mp hholder
    have hdistance' := hD.mem_iff.mp habove
    rw [← hinherit] at hdistance
    rw [← hdomain] at hdistance'
    exact ⟨holder.node, hdistance, above.node, hdistance', hheld⟩
  · rintro ⟨holder, hdistance, above, hdistance', hheld⟩
    exact ⟨⟨entry.inheritLevel, holder⟩, hA.mem_iff.mpr hdistance, ⟨entry.domainLevel, above⟩,
      hD.mem_iff.mpr hdistance', hheld, rfl, rfl⟩

theorem superUserAmong_iff (hA : IsClosure memory.Inherits accessor accessors)
    (hD : IsClosure memory.HasParent domain ancestors) {proximity : Proximity} :
    Service.SuperUserAmong (fun holder above => memory.records.grants.domain.held ⟨holder, above⟩)
      accessors ancestors proximity ↔ memory.SuperUserAt accessor domain proximity := by
  constructor
  · rintro ⟨holder, hholder, above, habove, hsuper, rfl⟩
    exact ⟨holder.node, hA.mem_iff.mp hholder, above.node, hD.mem_iff.mp habove, hsuper⟩
  · rintro ⟨holder, hholder, above, habove, hsuper⟩
    exact ⟨⟨proximity.inheritLevel, holder⟩, hA.mem_iff.mpr hholder,
      ⟨proximity.domainLevel, above⟩, hD.mem_iff.mpr habove, hsuper, rfl⟩

theorem findSuperUser_finds (hA : IsClosure memory.Inherits accessor accessors)
    (hD : IsClosure memory.HasParent domain ancestors) (strategy : ClosureStrategy) :
    ∃ found, (memory.service strategy).findSuperUser accessors ancestors = .ok found ∧
      memory.FindsSuperUser accessor domain found := by
  have hask : ∀ holder above, (memory.service strategy).grants.listDomain holder above =
      .ok (memory.records.grants.domain.held ⟨holder, above⟩) := fun _ _ => rfl
  obtain ⟨found, heq, hnone, hsome⟩ := Service.findSuperUser_reports hask hA.ordered hD.ordered
  simp only [superUserAmong_iff hA hD] at hnone hsome
  refine ⟨found, heq, ?_, fun h => (hsome h).1, fun h => (hsome h).2 _⟩
  rw [isSuperUser_iff_exists_at]
  cases found with
  | none =>
    constructor
    · intro h
      cases h
    · rintro ⟨proximity, hat⟩
      exact absurd hat (hnone rfl proximity)
  | some proximity => exact ⟨fun _ => ⟨proximity, (hsome rfl).1⟩, fun _ => rfl⟩

/-- Super-user grants are found by comparing them all, too. -/
theorem foldl_closest_finds {candidates : List Proximity}
    (hcandidates : ∀ proximity,
      proximity ∈ candidates ↔ memory.SuperUserAt accessor domain proximity) :
    memory.FindsSuperUser accessor domain
      (candidates.foldl (fun found candidate => some (Proximity.closest found candidate)) none) := by
  constructor
  · rw [Proximity.foldl_closest_isSome, isSuperUser_iff_exists_at]
    simp only [← hcandidates, Option.isSome_none, Bool.false_eq_true, false_or]
    exact ⟨List.exists_mem_of_ne_nil _, fun ⟨_, hmem⟩ => List.ne_nil_of_mem hmem⟩
  · intro proximity hfound
    have hfrom := (Proximity.foldl_closest hfound).1
    exact (hcandidates proximity).mp (hfrom.resolve_left nofun)
  · intro proximity other hfound hother
    have hcandidate := (hcandidates other).mpr hother
    have hclosest := (Proximity.foldl_closest hfound).2 other (Or.inr hcandidate)
    unfold Proximity.AtMost at hclosest
    omega

/-- Among all that is collected on a domain, the super-user grants are those that there are. -/
theorem mem_collectedSuperUsers_iff {collected : List (EffectivePermission DomainPermission)}
    (hcollected : ∀ entry, entry ∈ collected ↔ memory.CopyIn accessor domain
      (fun holder above => memory.records.grants.domain.held ⟨holder, above⟩) entry)
    (proximity : Proximity) :
    proximity ∈ (collected.filter (·.permission.isSuperUser)).map (·.proximity) ↔
      memory.SuperUserAt accessor domain proximity := by
  simp only [List.mem_map, List.mem_filter, hcollected]
  constructor
  · rintro ⟨entry, ⟨⟨holder, hholder, above, habove, hheld⟩, hsuper⟩, rfl⟩
    exact ⟨holder, hholder, above, habove, entry.permission, hheld, hsuper⟩
  · rintro ⟨holder, hholder, above, habove, permission, hheld, hsuper⟩
    exact ⟨⟨permission, proximity.inheritLevel, proximity.domainLevel⟩,
      ⟨⟨holder, hholder, above, habove, hheld⟩, hsuper⟩, rfl⟩

theorem closestSuperUser_finds {collected : List (EffectivePermission DomainPermission)}
    (hcollected : ∀ entry, entry ∈ collected ↔ memory.CopyIn accessor domain
      (fun holder above => memory.records.grants.domain.held ⟨holder, above⟩) entry) :
    memory.FindsSuperUser accessor domain (Service.closestSuperUser collected) :=
  foldl_closest_finds (mem_collectedSuperUsers_iff hcollected)

end Collected

section Resolved

variable [Permission π] [DecidableEq π] [LawfulPermission π]

theorem expands_expand {accessor : ResourceId} {domain : DomainId} {defined : List π}
    {proximity : Proximity} (hdefined : Regrantables defined)
    (hfound : memory.FindsSuperUser accessor domain (some proximity)) :
    memory.Expands accessor domain defined (proximity.expand defined) := by
  have hperm := Proximity.expand_perm hdefined proximity
  have hpermissions : ((proximity.expand defined).map (·.permission)).Perm defined := by
    have hmap := hperm.map (·.permission)
    rwa [List.map_map, show ((·.permission) ∘ fun permission => (⟨permission,
      proximity.inheritLevel, proximity.domainLevel⟩ : EffectivePermission π)) = id from rfl,
      List.map_id] at hmap
  constructor
  · exact hpermissions.nodup_iff.mpr (List.Nodup.of_map _ hdefined.once)
  · exact hpermissions.mem_iff
  · intro entry hentry
    exact hdefined.regrantable (hpermissions.mem_iff.mp (List.mem_map_of_mem hentry))
  · refine ⟨proximity, hfound.at_of_some rfl, fun other => hfound.least rfl, ?_⟩
    intro entry hentry
    obtain ⟨permission, _, rfl⟩ := List.mem_map.mp (hperm.mem_iff.mp hentry)
    rfl

theorem resolve_resolves {accessor : ResourceId} {domain : DomainId} {found : Option Proximity}
    (hfound : memory.FindsSuperUser accessor domain found) {defined : List π}
    (hdefined : Regrantables defined) {collected : List (EffectivePermission π)}
    {copy : EffectivePermission π → Prop} (hcollected : ∀ entry, entry ∈ collected ↔ copy entry) :
    ∃ effective, Service.resolve found defined (.ok collected) = .ok effective ∧
      memory.Resolves accessor domain defined copy effective := by
  cases found with
  | none =>
    refine ⟨_, rfl, fun _ => ?_, fun hsuper => ?_⟩
    · exact (EffectivePermission.summarizes_merge collected).congr hcollected
    · exact absurd (hfound.isSome_iff.mpr hsuper) Bool.false_ne_true
  | some proximity =>
    refine ⟨_, rfl, fun hsuper => ?_, fun _ => expands_expand hdefined hfound⟩
    exact absurd (hfound.isSome_iff.mp rfl) hsuper

/-- What a request asks for is reported if the accessor is super-user or holds it. `enough` says
when a held permission is enough for a wanted one, be it to use it or to pass it on. -/
theorem Resolves.enough_iff {accessor : ResourceId} {domain : DomainId} {defined : List π}
    {copy : EffectivePermission π → Prop} {effective : List (EffectivePermission π)}
    (h : memory.Resolves accessor domain defined copy effective) {holds : π → Prop}
    (hholds : ∀ {permission},
      (∃ entry, copy entry ∧ entry.permission = permission) ↔ holds permission)
    (enough : π → π → Prop)
    (henough : ∀ {wanted a b}, Permission.isSatisfiedBy a b = true → enough wanted a →
      enough wanted b) {requested : List π}
    (hdefined : ∀ wanted ∈ requested, ∃ permission ∈ defined, enough wanted permission) :
    (∀ wanted ∈ requested, ∃ entry ∈ effective, enough wanted entry.permission) ↔
      memory.IsSuperUser accessor domain ∨
        ∀ wanted ∈ requested, ∃ permission, holds permission ∧ enough wanted permission := by
  by_cases hsuper : memory.IsSuperUser accessor domain
  -- A super-user has whatever is defined, so both sides hold.
  · have hexpands := h.expansion hsuper
    apply iff_of_true _ (Or.inl hsuper)
    intro wanted hwanted
    obtain ⟨permission, hmem, hpermission⟩ := hdefined wanted hwanted
    obtain ⟨entry, hentry, rfl⟩ := List.mem_map.mp (hexpands.permission_iff.mpr hmem)
    exact ⟨entry, hentry, hpermission⟩
  -- Anyone else has the best copies, and what a copy is enough for the better one is enough for.
  · have hsummary := h.summary hsuper
    rw [or_iff_right hsuper]
    apply forall₂_congr
    intro wanted _
    rw [hsummary.exists_iff (q := enough wanted) henough]
    constructor
    · rintro ⟨entry, hcopy, hentry⟩
      exact ⟨entry.permission, hholds.mp ⟨entry, hcopy, rfl⟩, hentry⟩
    · rintro ⟨permission, hheld, hpermission⟩
      obtain ⟨entry, hcopy, rfl⟩ := hholds.mpr hheld
      exact ⟨entry, hcopy, hpermission⟩

/-- A check for what is valid is passed by super-users and by those that hold enough. -/
theorem Resolves.allSatisfied_iff {accessor : ResourceId} {domain : DomainId} {defined : List π}
    {copy : EffectivePermission π → Prop} {effective : List (EffectivePermission π)}
    (h : memory.Resolves accessor domain defined copy effective) {holds : π → Prop}
    (hholds : ∀ {permission},
      (∃ entry, copy entry ∧ entry.permission = permission) ↔ holds permission)
    {requested : List π} (hdefined : ∀ wanted ∈ requested, Permission.regrantable wanted ∈ defined) :
    Service.allSatisfied requested effective = true ↔
      memory.IsSuperUser accessor domain ∨ Service.Satisfied requested holds := by
  have henough : ∀ wanted ∈ requested, ∃ permission ∈ defined,
      Permission.isSatisfiedBy wanted permission = true := by
    intro wanted hwanted
    exact ⟨_, hdefined wanted hwanted, Permission.isSatisfiedBy_regrantable rfl⟩
  rw [Service.allSatisfied_iff]
  exact h.enough_iff hholds
    (fun wanted permission => Permission.isSatisfiedBy wanted permission = true)
    (fun hab hwanted => Permission.isSatisfiedBy_trans hwanted hab) henough

/-- Grants for a class within a domain are collected and resolved in the same way in all families.
-/
theorem resolveScoped_resolves {accessor : ResourceId} {domain : DomainId}
    (hA : IsClosure memory.Inherits accessor accessors)
    (hD : IsClosure memory.HasParent domain ancestors) (strategy : ClosureStrategy)
    (ask : ResourceId → DomainId → Except Error (List π)) {held : ResourceId → DomainId → List π}
    (hask : ∀ holder above, ask holder above = .ok (held holder above)) {defined : List π}
    (hdefined : Regrantables defined) :
    ∃ found effective, (memory.service strategy).findSuperUser accessors ancestors = .ok found ∧
      Service.resolve found defined (Service.collectScoped accessors ancestors ask) =
        .ok effective ∧
      memory.Resolves accessor domain defined (memory.CopyIn accessor domain held) effective := by
  obtain ⟨found, hfind, hfound⟩ := findSuperUser_finds hA hD strategy
  obtain ⟨collected, hcollect, hcollected⟩ := collectScoped_copies hA hD ask hask
  obtain ⟨effective, hresolve, heffective⟩ := resolve_resolves hfound hdefined hcollected
  refine ⟨found, effective, hfind, ?_, heffective⟩
  rw [hcollect]
  exact hresolve

theorem resolveOnResource_resolves {accessor : ResourceId} {accessed : Resource}
    {resourceClass : ResourceClass} (h : memory.records.Registered) (strategy : ClosureStrategy)
    (hA : IsClosure memory.Inherits accessor accessors)
    (hid : resourceClass.id = accessed.classId) :
    ∃ effective,
      (memory.service strategy).resolveOnResource accessors accessed resourceClass =
        .ok effective ∧
      memory.Resolves accessor accessed.domainId resourceClass.definedPermissions
        (memory.CopyOn accessor accessed) effective := by
  obtain ⟨ancestors, hancestors, hD⟩ := (service_computes h strategy).ancestors accessed.domainId
  obtain ⟨found, hfind, hfound⟩ := findSuperUser_finds hA hD strategy
  obtain ⟨direct, hdirect, hdirectly⟩ := collectHeld_copies hA
    (fun holder => (memory.service strategy).grants.listDirect holder accessed.id) fun _ => rfl
  obtain ⟨global, hglobal, hglobally⟩ := collectScoped_copies hA hD
    (fun holder above => (memory.service strategy).grants.listGlobal holder resourceClass.id above)
    fun _ _ => rfl
  -- What is granted on the resource itself and what is granted for its class are one collection.
  have hcollected : ∀ entry, entry ∈ direct ++ global ↔ memory.CopyOn accessor accessed entry := by
    intro entry
    rw [List.mem_append, hdirectly, hglobally, hid]
    exact Iff.rfl
  obtain ⟨effective, hresolve, heffective⟩ := resolve_resolves hfound
    (ResourceClass.regrantables_definedPermissions resourceClass) hcollected
  refine ⟨effective, ?_, heffective⟩
  apply bind_eq_ok hancestors
  apply bind_eq_ok hfind
  rw [← hresolve]
  exact congrArg _ (bind_eq_ok hdirect (bind_eq_ok hglobal rfl))

end Resolved

section Reported

variable {accessor accessed : Resource} {resourceClass : ResourceClass} {domain : Domain}
  {className text : String} {name : Option String}

/-- Once its arguments have passed, a question on a resource is resolved along the closure. -/
theorem checkedOnResource_eq (h : memory.records.Registered)
    (haccessor : accessor ∈ memory.records.resources)
    (haccessed : accessed ∈ memory.records.resources)
    (hclass : resourceClass ∈ memory.records.classes) (hid : resourceClass.id = accessed.classId)
    {requested : List ResourcePermission}
    (hvalid : ∀ wanted ∈ requested, resourceClass.validate wanted = .ok ())
    (haccessors : (memory.service strategy).closure.accessors accessor.id = .ok accessors) :
    (memory.service strategy).checkedOnResource accessor.id accessed.id requested =
      (memory.service strategy).resolveOnResource accessors accessed resourceClass := by
  calc (memory.service strategy).checkedOnResource accessor.id accessed.id requested
    _ = _ := bind_of_eq_ok ((requireParticipant_eq_ok_iff h).mpr ⟨haccessor, rfl⟩)
    _ = _ := bind_of_eq_ok ((requireParticipant_eq_ok_iff h).mpr ⟨haccessed, rfl⟩)
    _ = _ := bind_of_eq_ok ((requireClassOf_eq_ok_iff h).mpr ⟨hclass, hid⟩)
    _ = _ := bind_of_eq_ok (checkAll_eq_ok_iff.mpr hvalid)
    _ = (memory.service strategy).resolveOnResource accessors accessed resourceClass :=
      bind_of_eq_ok haccessors

theorem checkedOnResource_resolves (h : memory.records.Registered) (strategy : ClosureStrategy)
    (haccessor : accessor ∈ memory.records.resources)
    (haccessed : accessed ∈ memory.records.resources)
    (hclass : resourceClass ∈ memory.records.classes) (hid : resourceClass.id = accessed.classId)
    {requested : List ResourcePermission}
    (hvalid : ∀ wanted ∈ requested, resourceClass.validate wanted = .ok ()) :
    ∃ effective,
      (memory.service strategy).checkedOnResource accessor.id accessed.id requested =
        .ok effective ∧
      memory.Resolves accessor.id accessed.domainId resourceClass.definedPermissions
        (memory.CopyOn accessor.id accessed) effective := by
  obtain ⟨accessors, haccessors, hA⟩ := (service_computes h strategy).accessors accessor.id
  rw [checkedOnResource_eq h haccessor haccessed hclass hid hvalid haccessors]
  exact resolveOnResource_resolves h strategy hA hid

/-- A question on a class within a domain is resolved along both closures. -/
theorem checkedGlobal_eq (h : memory.records.Registered)
    (haccessor : accessor ∈ memory.records.resources)
    (hclass : resourceClass ∈ memory.records.classes)
    (hclassName : Label.ofText? className = some resourceClass.name)
    (hdomain : domain ∈ memory.records.domains) (hname : AskedAbout accessor domain name)
    {requested : List ResourcePermission}
    (hvalid : ∀ wanted ∈ requested, resourceClass.validate wanted = .ok ())
    (haccessors : (memory.service strategy).closure.accessors accessor.id = .ok accessors)
    (hancestors : (memory.service strategy).closure.ancestors domain.id = .ok ancestors) :
    (memory.service strategy).checkedGlobal accessor.id className name requested = (do
      let superUser ← (memory.service strategy).findSuperUser accessors ancestors
      Service.resolve superUser resourceClass.definedPermissions
        ((memory.service strategy).collectGlobal accessors ancestors resourceClass.id)) := by
  calc (memory.service strategy).checkedGlobal accessor.id className name requested
    _ = _ := bind_of_eq_ok ((requireParticipant_eq_ok_iff h).mpr ⟨haccessor, rfl⟩)
    _ = _ := bind_of_eq_ok (requireClass_eq h hclass hclassName)
    _ = _ := bind_of_eq_ok (resolveDomain_eq h hdomain hname)
    _ = _ := bind_of_eq_ok (checkAll_eq_ok_iff.mpr hvalid)
    _ = _ := bind_of_eq_ok haccessors
    _ = _ := bind_of_eq_ok hancestors

theorem checkedGlobal_resolves (h : memory.records.Registered) (strategy : ClosureStrategy)
    (haccessor : accessor ∈ memory.records.resources)
    (hclass : resourceClass ∈ memory.records.classes)
    (hclassName : Label.ofText? className = some resourceClass.name)
    (hdomain : domain ∈ memory.records.domains) (hname : AskedAbout accessor domain name)
    {requested : List ResourcePermission}
    (hvalid : ∀ wanted ∈ requested, resourceClass.validate wanted = .ok ()) :
    ∃ effective,
      (memory.service strategy).checkedGlobal accessor.id className name requested =
        .ok effective ∧
      memory.Resolves accessor.id domain.id resourceClass.definedPermissions
        (memory.CopyIn accessor.id domain.id fun holder above =>
          memory.records.grants.global.held ⟨holder, resourceClass.id, above⟩) effective := by
  obtain ⟨accessors, haccessors, hA⟩ := (service_computes h strategy).accessors accessor.id
  obtain ⟨ancestors, hancestors, hD⟩ := (service_computes h strategy).ancestors domain.id
  obtain ⟨found, effective, hfind, hresolve, heffective⟩ := resolveScoped_resolves hA hD strategy
    (fun holder above => (memory.service strategy).grants.listGlobal holder resourceClass.id above)
    (fun _ _ => rfl) (ResourceClass.regrantables_definedPermissions resourceClass)
  refine ⟨effective, ?_, heffective⟩
  rw [checkedGlobal_eq h haccessor hclass hclassName hdomain hname hvalid haccessors hancestors]
  exact bind_eq_ok hfind hresolve

theorem checkedCreate_eq (h : memory.records.Registered)
    (haccessor : accessor ∈ memory.records.resources)
    (hclass : resourceClass ∈ memory.records.classes)
    (hclassName : Label.ofText? className = some resourceClass.name)
    (hdomain : domain ∈ memory.records.domains) (hname : AskedAbout accessor domain name)
    {requested : List ResourceCreatePermission}
    (hvalid : ∀ wanted ∈ requested, resourceClass.validateCreate wanted = .ok ())
    (haccessors : (memory.service strategy).closure.accessors accessor.id = .ok accessors)
    (hancestors : (memory.service strategy).closure.ancestors domain.id = .ok ancestors) :
    (memory.service strategy).checkedCreate accessor.id className name requested = (do
      let superUser ← (memory.service strategy).findSuperUser accessors ancestors
      let effective ← Service.resolve superUser resourceClass.definedCreatePermissions
        (Service.collectScoped accessors ancestors fun holder above =>
          (memory.service strategy).grants.listCreate holder resourceClass.id above)
      return (domain, effective)) := by
  calc (memory.service strategy).checkedCreate accessor.id className name requested
    _ = _ := bind_of_eq_ok ((requireParticipant_eq_ok_iff h).mpr ⟨haccessor, rfl⟩)
    _ = _ := bind_of_eq_ok (requireClass_eq h hclass hclassName)
    _ = _ := bind_of_eq_ok (resolveDomain_eq h hdomain hname)
    _ = _ := bind_of_eq_ok (checkAll_eq_ok_iff.mpr hvalid)
    _ = _ := bind_of_eq_ok haccessors
    _ = _ := bind_of_eq_ok hancestors

theorem checkedCreate_resolves (h : memory.records.Registered) (strategy : ClosureStrategy)
    (haccessor : accessor ∈ memory.records.resources)
    (hclass : resourceClass ∈ memory.records.classes)
    (hclassName : Label.ofText? className = some resourceClass.name)
    (hdomain : domain ∈ memory.records.domains) (hname : AskedAbout accessor domain name)
    {requested : List ResourceCreatePermission}
    (hvalid : ∀ wanted ∈ requested, resourceClass.validateCreate wanted = .ok ()) :
    ∃ effective,
      (memory.service strategy).checkedCreate accessor.id className name requested =
        .ok (domain, effective) ∧
      memory.Resolves accessor.id domain.id resourceClass.definedCreatePermissions
        (memory.CopyIn accessor.id domain.id fun holder above =>
          memory.records.grants.create.held ⟨holder, resourceClass.id, above⟩) effective := by
  obtain ⟨accessors, haccessors, hA⟩ := (service_computes h strategy).accessors accessor.id
  obtain ⟨ancestors, hancestors, hD⟩ := (service_computes h strategy).ancestors domain.id
  obtain ⟨found, effective, hfind, hresolve, heffective⟩ := resolveScoped_resolves hA hD strategy
    (fun holder above => (memory.service strategy).grants.listCreate holder resourceClass.id above)
    (fun _ _ => rfl) (ResourceClass.regrantables_definedCreatePermissions resourceClass)
  refine ⟨effective, ?_, heffective⟩
  rw [checkedCreate_eq h haccessor hclass hclassName hdomain hname hvalid haccessors hancestors]
  exact bind_eq_ok hfind (bind_eq_ok hresolve rfl)

theorem effectiveDomainPermissions_eq (h : memory.records.Registered)
    (haccessor : accessor ∈ memory.records.resources) (hdomain : domain ∈ memory.records.domains)
    (htext : Label.ofText? text = some domain.name)
    (haccessors : (memory.service strategy).closure.accessors accessor.id = .ok accessors)
    (hancestors : (memory.service strategy).closure.ancestors domain.id = .ok ancestors) :
    (memory.service strategy).effectiveDomainPermissions accessor.id text = (do
      let collected ← Service.collectScoped accessors ancestors
        (memory.service strategy).grants.listDomain
      Service.resolve (Service.closestSuperUser collected) DomainPermission.allRegrantable
        (.ok collected)) := by
  calc (memory.service strategy).effectiveDomainPermissions accessor.id text
    _ = _ := bind_of_eq_ok ((requireParticipant_eq_ok_iff h).mpr ⟨haccessor, rfl⟩)
    _ = _ := bind_of_eq_ok (requireDomain_eq h hdomain htext)
    _ = _ := bind_of_eq_ok haccessors
    _ = _ := bind_of_eq_ok hancestors

theorem effectiveDomainPermissions_resolves (h : memory.records.Registered)
    (strategy : ClosureStrategy) (haccessor : accessor ∈ memory.records.resources)
    (hdomain : domain ∈ memory.records.domains) (htext : Label.ofText? text = some domain.name) :
    ∃ effective,
      (memory.service strategy).effectiveDomainPermissions accessor.id text = .ok effective ∧
      memory.Resolves accessor.id domain.id DomainPermission.allRegrantable
        (memory.CopyIn accessor.id domain.id fun holder above =>
          memory.records.grants.domain.held ⟨holder, above⟩) effective := by
  obtain ⟨accessors, haccessors, hA⟩ := (service_computes h strategy).accessors accessor.id
  obtain ⟨ancestors, hancestors, hD⟩ := (service_computes h strategy).ancestors domain.id
  obtain ⟨collected, hcollect, hcollected⟩ := collectScoped_copies hA hD
    (memory.service strategy).grants.listDomain (fun _ _ => rfl)
  -- Here the super-user grants are found among what has been collected anyway.
  obtain ⟨effective, hresolve, heffective⟩ := resolve_resolves (closestSuperUser_finds hcollected)
    DomainPermission.regrantables_allRegrantable hcollected
  refine ⟨effective, ?_, heffective⟩
  rw [effectiveDomainPermissions_eq h haccessor hdomain htext haccessors hancestors]
  exact bind_eq_ok hcollect hresolve

theorem effectiveDomainCreatePermissions_summarizes (h : memory.records.Registered)
    (strategy : ClosureStrategy) (haccessor : accessor ∈ memory.records.resources) :
    ∃ effective,
      (memory.service strategy).effectiveDomainCreatePermissions accessor.id = .ok effective ∧
      Summarizes effective (memory.Copy accessor.id memory.records.grants.domainCreate.held) := by
  obtain ⟨accessors, haccessors, hA⟩ := (service_computes h strategy).accessors accessor.id
  obtain ⟨collected, hcollect, hcollected⟩ := collectHeld_copies hA
    (memory.service strategy).grants.listDomainCreate (fun _ => rfl)
  refine ⟨EffectivePermission.merge collected, ?_, ?_⟩
  · apply bind_eq_ok ((requireParticipant_eq_ok_iff h).mpr ⟨haccessor, rfl⟩)
    apply bind_eq_ok haccessors
    exact bind_eq_ok hcollect rfl
  · exact (EffectivePermission.summarizes_merge collected).congr hcollected

end Reported

end Memory

namespace Office

theorem clerk_not_superUser (domain : DomainId) : ¬store.IsSuperUser clerk.id domain := by
  rintro ⟨permission, ⟨holder, _, above, _, hheld⟩, hsuper⟩
  have hdomain : ∀ row ∈ store.records.grants.domain, row.2.isSuperUser = false := by decide
  have hfalse := hdomain _ (GrantRows.mem_held_iff.mp hheld)
  rw [hsuper] at hfalse
  cases hfalse

theorem clerk_superUser_promoted : promoted.IsSuperUser clerk.id branch.id := by
  have hteam : promoted.ActsAs clerk.id team.id := .single ⟨inherit, by decide, rfl⟩
  have hcompany : promoted.LiesIn branch.id company.id := .single ⟨branch, by decide, rfl, rfl⟩
  exact ⟨⟨.superUser, false⟩, ⟨team.id, hteam, company.id, hcompany, by decide⟩, rfl⟩

end Office

end Authorization
