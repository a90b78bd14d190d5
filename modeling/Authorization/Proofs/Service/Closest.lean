import Authorization.Proofs.Service.Overview

/-! The super-user grant that is met first and the one that is closest. They agree on the
inheritance hops, and on the domain hops unless a holder with a greater handle has a grant closer
by. -/
namespace Authorization

/-- What a super-user grant at a distance gives: all that is defined, in some order, at that
distance. -/
def Proximity.Gives {π : Type} (proximity : Proximity) (defined : List π)
    (effective : List (EffectivePermission π)) : Prop :=
  effective.Perm (defined.map (⟨·, proximity.inheritLevel, proximity.domainLevel⟩))

namespace Memory

/-- A super-user grant to one holder, at a distance. -/
def SuperUserThrough (memory : Memory) (accessor : ResourceId) (domain : DomainId)
    (holder : ResourceId) (proximity : Proximity) : Prop :=
  Distance memory.Inherits accessor proximity.inheritLevel holder ∧
    ∃ above, Distance memory.HasParent domain proximity.domainLevel above ∧
      ∃ permission ∈ memory.records.grants.domain.held ⟨holder, above⟩,
        permission.isSuperUser = true

/-- The distance of a super-user grant that no other comes before: by inheritance hops, then by the
handle of the holder and only then by domain hops. -/
def MetFirst (memory : Memory) (accessor : ResourceId) (domain : DomainId) (proximity : Proximity) :
    Prop :=
  ∃ holder, memory.SuperUserThrough accessor domain holder proximity ∧
    ∀ {other : ResourceId} {proximity' : Proximity},
      memory.SuperUserThrough accessor domain other proximity' →
        Ranked.Before ⟨proximity.inheritLevel, holder⟩ ⟨proximity'.inheritLevel, other⟩ ∨
          (⟨proximity.inheritLevel, holder⟩ : Ranked ResourceId) =
              ⟨proximity'.inheritLevel, other⟩ ∧
            proximity.domainLevel ≤ proximity'.domainLevel

/-- The distance of a super-user grant that is the least: by inheritance hops, then by domain hops.
-/
def Closest (memory : Memory) (accessor : ResourceId) (domain : DomainId) (proximity : Proximity) :
    Prop :=
  memory.SuperUserAt accessor domain proximity ∧
    ∀ {other}, memory.SuperUserAt accessor domain other → proximity.AtMost other

section Distances

variable {memory : Memory} {accessor : ResourceId} {domain : DomainId}
  {first closest proximity : Proximity} {found : Option Proximity}

theorem Closest.unique (h : memory.Closest accessor domain closest)
    (h' : memory.Closest accessor domain proximity) : closest = proximity :=
  (h.2 h'.1).antisymm (h'.2 h.1)

theorem MetFirst.unique (h : memory.MetFirst accessor domain first)
    (h' : memory.MetFirst accessor domain proximity) : first = proximity := by
  obtain ⟨holder, hholder, hfirst⟩ := h
  obtain ⟨holder', hholder', hfirst'⟩ := h'
  rcases hfirst hholder' with hbefore | ⟨hsame, hdomain⟩
  · rcases hfirst' hholder with hafter | ⟨hsame, _⟩
    · exact (hbefore.asymm hafter).elim
    · exact absurd hsame.symm hbefore.ne
  · rcases hfirst' hholder with hafter | ⟨_, hdomain'⟩
    · exact absurd hsame.symm hafter.ne
    · have hinherit : first.inheritLevel = proximity.inheritLevel := congrArg Ranked.level hsame
      cases first
      cases proximity
      rw [Proximity.mk.injEq]
      exact ⟨hinherit, Nat.le_antisymm hdomain hdomain'⟩

/-- What is met first has as few inheritance hops as what is closest, and no fewer domain hops. -/
theorem MetFirst.compare (h : memory.MetFirst accessor domain first)
    (h' : memory.Closest accessor domain closest) :
    first.inheritLevel = closest.inheritLevel ∧ closest.domainLevel ≤ first.domainLevel := by
  obtain ⟨holder, hholder, hfirst⟩ := h
  obtain ⟨⟨other, hother⟩, hleast⟩ := h'
  have hle : first.inheritLevel ≤ closest.inheritLevel := by
    rcases hfirst hother with hbefore | ⟨hsame, _⟩
    · exact hbefore.level_le
    · exact Nat.le_of_eq (congrArg Ranked.level hsame)
  have hatMost : closest.AtMost first := hleast ⟨holder, hholder⟩
  unfold Proximity.AtMost at hatMost
  omega

theorem FindsClosest.closest_of_some (h : memory.FindsClosest accessor domain (some proximity)) :
    memory.Closest accessor domain proximity := by
  obtain ⟨candidates, hfound, hcandidates⟩ := h
  obtain ⟨hfrom, hleast⟩ := Proximity.foldl_closest hfound.symm
  constructor
  · exact (hcandidates proximity).mp (hfrom.resolve_left nofun)
  · intro other hother
    exact hleast other (Or.inr ((hcandidates other).mpr hother))

theorem FindsClosest.eq_some (h : memory.FindsClosest accessor domain found)
    (hclosest : memory.Closest accessor domain closest) : found = some closest := by
  have hsuper : memory.IsSuperUser accessor domain :=
    isSuperUser_iff_exists_at.mpr ⟨closest, hclosest.1⟩
  obtain ⟨proximity, rfl⟩ := Option.isSome_iff_exists.mp (h.finds.isSome_iff.mpr hsuper)
  rw [h.closest_of_some.unique hclosest]

end Distances

section Walks

variable {memory : Memory} {accessor : ResourceId} {domain : DomainId}
  {first closest : Proximity} {accessors : List (Ranked ResourceId)}
  {ancestors : List (Ranked DomainId)}

/-- A walk along the accessors meets a super-user grant if there is one, and then the first. -/
theorem findSuperUser_meets (hA : IsClosure memory.Inherits accessor accessors)
    (hD : IsClosure memory.HasParent domain ancestors) (strategy : ClosureStrategy) :
    ∃ found, (memory.service strategy).findSuperUser accessors ancestors = .ok found ∧
      (found.isSome = true ↔ memory.IsSuperUser accessor domain) ∧
      ∀ {proximity}, found = some proximity → memory.MetFirst accessor domain proximity := by
  obtain ⟨found, hfind, hfound⟩ := findSuperUser_finds hA hD strategy
  refine ⟨found, hfind, hfound.isSome_iff, ?_⟩
  intro proximity hsome
  have hwalk : Service.firstSuperUser
      (fun holder above => memory.records.grants.domain.held ⟨holder, above⟩) accessors ancestors =
        some proximity := by
    have hask : ∀ holder above, (memory.service strategy).grants.listDomain holder above =
        .ok (memory.records.grants.domain.held ⟨holder, above⟩) := fun _ _ => rfl
    rw [Service.findSuperUser_eq_ok hask] at hfind
    exact (Except.ok.inj hfind).trans hsome
  obtain ⟨⟨n, holder⟩, hholder, ⟨m, above⟩, habove, hsuper, rfl, hfirst⟩ :=
    Service.firstSuperUser_eq_some hA.ordered hD.ordered hwalk
  refine ⟨holder, ⟨hA.mem_iff.mp hholder, above, hD.mem_iff.mp habove, hsuper⟩, ?_⟩
  rintro other proximity' ⟨hother, upper, hupper, hsuper'⟩
  exact hfirst ⟨proximity'.inheritLevel, other⟩ (hA.mem_iff.mpr hother)
    ⟨proximity'.domainLevel, upper⟩ (hD.mem_iff.mpr hupper) hsuper'

theorem findSuperUser_eq_some (hA : IsClosure memory.Inherits accessor accessors)
    (hD : IsClosure memory.HasParent domain ancestors) (strategy : ClosureStrategy)
    (hfirst : memory.MetFirst accessor domain first) :
    (memory.service strategy).findSuperUser accessors ancestors = .ok (some first) := by
  obtain ⟨found, hfind, hsome, hmet⟩ := findSuperUser_meets hA hD strategy
  have hsuper : memory.IsSuperUser accessor domain := by
    obtain ⟨holder, hholder, _⟩ := hfirst
    exact isSuperUser_iff_exists_at.mpr ⟨first, holder, hholder⟩
  obtain ⟨proximity, rfl⟩ := Option.isSome_iff_exists.mp (hsome.mpr hsuper)
  rw [hfind, (hmet rfl).unique hfirst]

/-- A super-user has a grant that is met first and one that is closest. -/
theorem exists_first_closest (h : memory.records.Registered)
    (hsuper : memory.IsSuperUser accessor domain) :
    ∃ first closest, memory.MetFirst accessor domain first ∧
      memory.Closest accessor domain closest := by
  obtain ⟨accessors, _, hA⟩ := (service_computes h .recursive).accessors accessor
  obtain ⟨ancestors, _, hD⟩ := (service_computes h .recursive).ancestors domain
  obtain ⟨found, _, hsome, hmet⟩ := findSuperUser_meets hA hD .recursive
  obtain ⟨first, hfirst⟩ := Option.isSome_iff_exists.mp (hsome.mpr hsuper)
  obtain ⟨covered, _, _, hcovered⟩ := superUserDomains_finds h .recursive hA
  have hfinds := hcovered domain
  obtain ⟨closest, hclosest⟩ := Option.isSome_iff_exists.mp (hfinds.finds.isSome_iff.mpr hsuper)
  rw [hclosest] at hfinds
  exact ⟨first, closest, hmet hfirst, hfinds.closest_of_some⟩

end Walks

section Answers

variable {memory : Memory} {strategy : ClosureStrategy} {accessor accessed : Resource}
  {resourceClass : ResourceClass} {domain : Domain} {className text : String}
  {name : Option String} {first closest : Proximity}

/-- On a resource, everything at the distance of the grant that is met first. -/
theorem resource_gives (h : memory.records.Registered) (strategy : ClosureStrategy)
    (haccessor : accessor ∈ memory.records.resources)
    (haccessed : accessed ∈ memory.records.resources)
    (hclass : resourceClass ∈ memory.records.classes) (hid : resourceClass.id = accessed.classId)
    (hfirst : memory.MetFirst accessor.id accessed.domainId first) :
    ∃ effective,
      (memory.service strategy).effectiveResourcePermissions accessor.id accessed.id =
        .ok effective ∧
      first.Gives resourceClass.definedPermissions effective := by
  obtain ⟨accessors, haccessors, hA⟩ := (service_computes h strategy).accessors accessor.id
  obtain ⟨ancestors, hancestors, hD⟩ := (service_computes h strategy).ancestors accessed.domainId
  have hfind := findSuperUser_eq_some hA hD strategy hfirst
  refine ⟨_, ?_, Proximity.expand_perm resourceClass.regrantables_definedPermissions first⟩
  rw [Service.effectiveResourcePermissions, checkedOnResource_eq h haccessor haccessed hclass hid
    (List.forall_mem_nil _) haccessors]
  exact bind_eq_ok hancestors (bind_eq_ok hfind rfl)

theorem global_gives (h : memory.records.Registered) (strategy : ClosureStrategy)
    (haccessor : accessor ∈ memory.records.resources)
    (hclass : resourceClass ∈ memory.records.classes)
    (hclassName : Label.ofText? className = some resourceClass.name)
    (hdomain : domain ∈ memory.records.domains) (hname : AskedAbout accessor domain name)
    (hfirst : memory.MetFirst accessor.id domain.id first) :
    ∃ effective,
      (memory.service strategy).effectiveGlobalResourcePermissions accessor.id className name =
        .ok effective ∧
      first.Gives resourceClass.definedPermissions effective := by
  obtain ⟨accessors, haccessors, hA⟩ := (service_computes h strategy).accessors accessor.id
  obtain ⟨ancestors, hancestors, hD⟩ := (service_computes h strategy).ancestors domain.id
  have hfind := findSuperUser_eq_some hA hD strategy hfirst
  refine ⟨_, ?_, Proximity.expand_perm resourceClass.regrantables_definedPermissions first⟩
  rw [Service.effectiveGlobalResourcePermissions, checkedGlobal_eq h haccessor hclass hclassName
    hdomain hname (List.forall_mem_nil _) haccessors hancestors]
  exact bind_eq_ok hfind rfl

theorem create_gives (h : memory.records.Registered) (strategy : ClosureStrategy)
    (haccessor : accessor ∈ memory.records.resources)
    (hclass : resourceClass ∈ memory.records.classes)
    (hclassName : Label.ofText? className = some resourceClass.name)
    (hdomain : domain ∈ memory.records.domains) (hname : AskedAbout accessor domain name)
    (hfirst : memory.MetFirst accessor.id domain.id first) :
    ∃ effective,
      (memory.service strategy).effectiveResourceCreatePermissions accessor.id className name =
        .ok effective ∧
      first.Gives resourceClass.definedCreatePermissions effective := by
  obtain ⟨accessors, haccessors, hA⟩ := (service_computes h strategy).accessors accessor.id
  obtain ⟨ancestors, hancestors, hD⟩ := (service_computes h strategy).ancestors domain.id
  have hfind := findSuperUser_eq_some hA hD strategy hfirst
  have hchecked := checkedCreate_eq h haccessor hclass hclassName hdomain hname
    (List.forall_mem_nil _) haccessors hancestors
  refine ⟨_, ?_, Proximity.expand_perm resourceClass.regrantables_definedCreatePermissions first⟩
  exact bind_eq_ok (hchecked.trans (bind_eq_ok hfind rfl)) rfl

/-- On a domain, everything at the distance of the closest grant. -/
theorem domain_gives (h : memory.records.Registered) (strategy : ClosureStrategy)
    (haccessor : accessor ∈ memory.records.resources) (hdomain : domain ∈ memory.records.domains)
    (htext : Label.ofText? text = some domain.name)
    (hclosest : memory.Closest accessor.id domain.id closest) :
    ∃ effective,
      (memory.service strategy).effectiveDomainPermissions accessor.id text = .ok effective ∧
      closest.Gives DomainPermission.allRegrantable effective := by
  obtain ⟨accessors, haccessors, hA⟩ := (service_computes h strategy).accessors accessor.id
  obtain ⟨ancestors, hancestors, hD⟩ := (service_computes h strategy).ancestors domain.id
  obtain ⟨collected, hcollect, hcollected⟩ := collectScoped_copies hA hD
    (memory.service strategy).grants.listDomain (fun _ _ => rfl)
  have hfinds : memory.FindsClosest accessor.id domain.id (Service.closestSuperUser collected) :=
    ⟨_, rfl, mem_collectedSuperUsers_iff hcollected⟩
  refine ⟨_, ?_, Proximity.expand_perm DomainPermission.regrantables_allRegrantable closest⟩
  rw [effectiveDomainPermissions_eq h haccessor hdomain htext haccessors hancestors]
  apply bind_eq_ok hcollect
  rw [hfinds.eq_some hclosest]
  rfl

variable {π : Type} [Permission π] [DecidableEq π] [LawfulPermission π]

/-- In an overview, everything at the distance of the closest grant. -/
theorem overview_gives (h : memory.records.Sound) (strategy : ClosureStrategy)
    (haccessor : accessor ∈ memory.records.resources) {rows : GrantRows ClassKey π}
    {validate : ResourceClass → π → Except Error Unit}
    (hrows : rows.Lawful (memory.records.AdmitsScoped validate))
    {listAll : ResourceId → Except Error (List (ClassGrant π))}
    (hlist : ∀ holder, listAll holder = .ok (sortClassGrants (Records.classGrants rows holder)))
    {defined : ResourceClass → List π} (hdefined : Regrantables (defined resourceClass))
    (hclass : resourceClass ∈ memory.records.classes) (hdomain : domain ∈ memory.records.domains)
    (hclosest : memory.Closest accessor.id domain.id closest) :
    ∃ overview cell, (memory.service strategy).overview accessor.id listAll defined = .ok overview ∧
      Table.cell? overview domain.name.text resourceClass.name.text = some cell ∧
      closest.Gives (defined resourceClass) cell := by
  obtain ⟨accessors, haccessors, hA⟩ :=
    (service_computes h.registered strategy).accessors accessor.id
  obtain ⟨below, hbelow⟩ := exists_descendants h.registered strategy
  obtain ⟨cells, covered, entries, hoverview, hnames, hfinds, hcells⟩ :=
    overview_eq_ok h haccessor haccessors hbelow hlist (refersTo_of_lawful hrows)
  refine ⟨_, EffectivePermission.merge (closest.expand (defined resourceClass)), hoverview, ?_, ?_⟩
  · rw [cell?_overviewOf h.registered hnames hdomain hclass, hcells resourceClass hclass,
      Service.cellOf, (hfinds domain.id).eq_some hclosest]
    rfl
  · exact (closest.merge_expand_perm _).trans (Proximity.expand_perm hdefined closest)

end Answers

variable {memory : Memory} {accessor accessed : Resource} {accessedClass resourceClass : ResourceClass}
  {domain : Domain} {className text : String} {name : Option String}

/-- Which super-user grant is reported. A walk along any closures finds one if there is any, and the
one that it meets first. On resources, on classes and for creating, a super-user has everything at
the distance of that one; on a domain and in both overviews it has everything at the distance of the
closest. The two distances have the same inheritance hops. -/
theorem super_user_is_reported (h : memory.Reachable) (strategy : ClosureStrategy)
    (haccessor : accessor ∈ memory.records.resources)
    (haccessed : accessed ∈ memory.records.resources)
    (haccessedClass : accessedClass ∈ memory.records.classes)
    (hid : accessedClass.id = accessed.classId) (hclass : resourceClass ∈ memory.records.classes)
    (hclassName : Label.ofText? className = some resourceClass.name)
    (hdomain : domain ∈ memory.records.domains) (hlies : accessed.domainId = domain.id)
    (hname : AskedAbout accessor domain name) (htext : Label.ofText? text = some domain.name) :
    (∀ {seed : ResourceId} {below : DomainId} {accessors : List (Ranked ResourceId)}
      {ancestors : List (Ranked DomainId)}, IsClosure memory.Inherits seed accessors →
      IsClosure memory.HasParent below ancestors →
      ∃ found, (memory.service strategy).findSuperUser accessors ancestors = .ok found ∧
        (found.isSome = true ↔ memory.IsSuperUser seed below) ∧
        ∀ {proximity}, found = some proximity → memory.MetFirst seed below proximity) ∧
    (memory.IsSuperUser accessor.id domain.id → ∃ first closest,
      memory.MetFirst accessor.id domain.id first ∧
      memory.Closest accessor.id domain.id closest ∧
      first.inheritLevel = closest.inheritLevel ∧ closest.domainLevel ≤ first.domainLevel ∧
      (∃ effective,
        (memory.service strategy).effectiveResourcePermissions accessor.id accessed.id =
          .ok effective ∧ first.Gives accessedClass.definedPermissions effective) ∧
      (∃ effective,
        (memory.service strategy).effectiveGlobalResourcePermissions accessor.id className name =
          .ok effective ∧ first.Gives resourceClass.definedPermissions effective) ∧
      (∃ effective,
        (memory.service strategy).effectiveResourceCreatePermissions accessor.id className name =
          .ok effective ∧ first.Gives resourceClass.definedCreatePermissions effective) ∧
      (∃ effective,
        (memory.service strategy).effectiveDomainPermissions accessor.id text = .ok effective ∧
          closest.Gives DomainPermission.allRegrantable effective) ∧
      (∃ overview cell, (memory.service strategy).createOverview accessor.id = .ok overview ∧
        Table.cell? overview domain.name.text resourceClass.name.text = some cell ∧
        closest.Gives resourceClass.definedCreatePermissions cell) ∧
      ∃ overview cell, (memory.service strategy).globalOverview accessor.id = .ok overview ∧
        Table.cell? overview domain.name.text resourceClass.name.text = some cell ∧
        closest.Gives resourceClass.definedPermissions cell) := by
  have hsound := h.sound
  have hregistered := hsound.registered
  refine ⟨fun hA hD => findSuperUser_meets hA hD strategy, fun hsuper => ?_⟩
  obtain ⟨first, closest, hfirst, hclosest⟩ := exists_first_closest hregistered hsuper
  obtain ⟨hinherit, hle⟩ := hfirst.compare hclosest
  refine ⟨first, closest, hfirst, hclosest, hinherit, hle, ?_, ?_, ?_, ?_, ?_, ?_⟩
  · rw [← hlies] at hfirst
    exact resource_gives hregistered strategy haccessor haccessed haccessedClass hid hfirst
  · exact global_gives hregistered strategy haccessor hclass hclassName hdomain hname hfirst
  · exact create_gives hregistered strategy haccessor hclass hclassName hdomain hname hfirst
  · exact domain_gives hregistered strategy haccessor hdomain htext hclosest
  · exact overview_gives hsound strategy haccessor hsound.granted.create (fun _ => rfl)
      resourceClass.regrantables_definedCreatePermissions hclass hdomain hclosest
  · exact overview_gives hsound strategy haccessor hsound.granted.global (fun _ => rfl)
      resourceClass.regrantables_definedPermissions hclass hdomain hclosest

end Memory

namespace Office

def auditor : Resource := ⟨⟨4⟩, document.id, branch.id⟩

/-- The clerk acts as the team, which is super-user of the company, and as the auditor, who is
super-user of the branch. -/
def audited : Memory :=
  Memory.run store
    [.addResource auditor, .grantDirect ⟨clerk.id, auditor.id⟩ [inherit],
      .grantDomain ⟨team.id, company.id⟩ [⟨.superUser, false⟩],
      .grantDomain ⟨auditor.id, branch.id⟩ [⟨.superUser, false⟩]]

theorem audited_reachable : audited.Reachable :=
  store_reachable.run _

theorem isClosure_clerk :
    IsClosure audited.Inherits clerk.id [⟨0, clerk.id⟩, ⟨1, team.id⟩, ⟨1, auditor.id⟩] := by
  have haccessors : (audited.service .iterative).closure.accessors clerk.id =
      .ok [⟨0, clerk.id⟩, ⟨1, team.id⟩, ⟨1, auditor.id⟩] := by decide +kernel
  exact Memory.isClosure_accessors audited_reachable.sound.registered haccessors

theorem isClosure_branch :
    IsClosure audited.HasParent branch.id [⟨0, branch.id⟩, ⟨1, company.id⟩] := by
  have hancestors : (audited.service .iterative).closure.ancestors branch.id =
      .ok [⟨0, branch.id⟩, ⟨1, company.id⟩] := by decide +kernel
  exact Memory.isClosure_ancestors audited_reachable.sound.registered hancestors

theorem clerk_superUserAt : audited.SuperUserAt clerk.id branch.id ⟨1, 0⟩ := by
  have hauditor : Distance audited.Inherits clerk.id 1 auditor.id :=
    isClosure_clerk.mem_iff.mp (show ⟨1, auditor.id⟩ ∈ _ by decide)
  have hbranch : Distance audited.HasParent branch.id 0 branch.id := Distance.zero_iff.mpr rfl
  exact ⟨auditor.id, hauditor, branch.id, hbranch, ⟨.superUser, false⟩, by decide, rfl⟩

theorem clerk_walk : (audited.service .iterative).findSuperUser
    [⟨0, clerk.id⟩, ⟨1, team.id⟩, ⟨1, auditor.id⟩] [⟨0, branch.id⟩, ⟨1, company.id⟩] =
      .ok (some ⟨1, 1⟩) := by
  decide +kernel

theorem clerk_metFirst : audited.MetFirst clerk.id branch.id ⟨1, 1⟩ := by
  obtain ⟨found, hfind, _, hmet⟩ :=
    Memory.findSuperUser_meets isClosure_clerk isClosure_branch .iterative
  exact hmet (Except.ok.inj (hfind.symm.trans clerk_walk))

theorem clerk_closest : audited.Closest clerk.id branch.id ⟨1, 0⟩ := by
  refine ⟨clerk_superUserAt, fun {other} hother => ?_⟩
  -- Nothing has fewer inheritance hops than what is met first, and none has fewer domain hops.
  obtain ⟨_, _, hfirst⟩ := clerk_metFirst
  obtain ⟨holder, hholder⟩ := hother
  have hle : 1 ≤ other.inheritLevel := by
    rcases hfirst hholder with hbefore | ⟨hsame, _⟩
    · exact hbefore.level_le
    · exact Nat.le_of_eq (congrArg Ranked.level hsame)
  show 1 < other.inheritLevel ∨ 1 = other.inheritLevel ∧ 0 ≤ other.domainLevel
  omega

/-- The walk stops at the team, one hop up the domains, though the auditor is super-user of the
branch itself. So it is not so that whatever a walk finds is the closest. -/
theorem audited_walk_stops_early :
    (audited.service .iterative).findSuperUser [⟨0, clerk.id⟩, ⟨1, team.id⟩, ⟨1, auditor.id⟩]
        [⟨0, branch.id⟩, ⟨1, company.id⟩] = .ok (some ⟨1, 1⟩) ∧
      audited.SuperUserAt clerk.id branch.id ⟨1, 0⟩ ∧
      ¬∀ {memory : Memory} {accessor : ResourceId} {domain : DomainId}
        {accessors : List (Ranked ResourceId)} {ancestors : List (Ranked DomainId)}
        {proximity : Proximity}, memory.Reachable → IsClosure memory.Inherits accessor accessors →
        IsClosure memory.HasParent domain ancestors →
        (memory.service .iterative).findSuperUser accessors ancestors = .ok (some proximity) →
        memory.Closest accessor domain proximity := by
  refine ⟨clerk_walk, clerk_superUserAt, fun hclosest => ?_⟩
  obtain ⟨_, hleast⟩ := hclosest audited_reachable isClosure_clerk isClosure_branch clerk_walk
  have hfarther : ¬Proximity.AtMost ⟨1, 1⟩ ⟨1, 0⟩ := by
    unfold Proximity.AtMost
    decide
  exact hfarther (hleast clerk_superUserAt)

/-- Of the same super-user grants the clerk is told two distances: on documents in the branch that
of the team, on the branch itself and in the overview that of the auditor. -/
theorem clerk_told_two_distances :
    (∃ effective,
      (audited.service .recursive).effectiveGlobalResourcePermissions clerk.id "document" none =
        .ok effective ∧ Proximity.Gives ⟨1, 1⟩ document.definedPermissions effective) ∧
    (∃ effective,
      (audited.service .recursive).effectiveDomainPermissions clerk.id "branch" = .ok effective ∧
        Proximity.Gives ⟨1, 0⟩ DomainPermission.allRegrantable effective) ∧
    ∃ overview cell, (audited.service .recursive).globalOverview clerk.id = .ok overview ∧
      Table.cell? overview "branch" "document" = some cell ∧
      Proximity.Gives ⟨1, 0⟩ document.definedPermissions cell := by
  have hreported := Memory.super_user_is_reported audited_reachable .recursive
    (show clerk ∈ audited.records.resources by decide)
    (show file ∈ audited.records.resources by decide)
    (show document ∈ audited.records.classes by decide) rfl
    (show document ∈ audited.records.classes by decide)
    (show Label.ofText? "document" = some document.name by decide)
    (show branch ∈ audited.records.domains by decide) rfl
    (show Memory.AskedAbout clerk branch none from rfl)
    (show Label.ofText? "branch" = some branch.name by decide)
  have hsuper : audited.IsSuperUser clerk.id branch.id :=
    Memory.isSuperUser_iff_exists_at.mpr ⟨_, clerk_superUserAt⟩
  obtain ⟨first, closest, hfirst, hclosest, _, _, _, hglobal, _, hdomain, _, hoverview⟩ :=
    hreported.2 hsuper
  rw [hfirst.unique clerk_metFirst] at hglobal
  rw [hclosest.unique clerk_closest] at hdomain hoverview
  exact ⟨hglobal, hdomain, hoverview⟩

end Office

end Authorization
