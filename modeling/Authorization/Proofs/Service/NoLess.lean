import Authorization.Proofs.Permission.Defined
import Authorization.Proofs.Service.Parallel
import Authorization.Proofs.Service.SuperUser
import Mathlib.Data.Bool.Basic

/-! More authority. If whatever one accessor comes by is satisfied by something that another comes
by, the other is told yes wherever the first is. -/
namespace Authorization

section Within

variable {π : Type} [Permission π] [DecidableEq π]

/-- Permissions lie within others if each is satisfied by one of the others. -/
def Permission.Within (permissions others : List π) : Prop :=
  ∀ permission ∈ permissions, ∃ better ∈ others, Permission.isSatisfiedBy permission better = true

theorem Permission.Within.refl (permissions : List π) : Within permissions permissions :=
  fun permission hmem => ⟨permission, hmem, isSatisfiedBy_refl permission⟩

/-- Entries lie within others if their permissions do, at whatever distance. -/
def EffectivePermission.Within (entries others : List (EffectivePermission π)) : Prop :=
  ∀ entry ∈ entries, ∃ better ∈ others,
    Permission.isSatisfiedBy entry.permission better.permission = true

namespace EffectivePermission.Within

variable {entries entries' others others' : List (EffectivePermission π)}

theorem append (h : Within entries others) (h' : Within entries' others') :
    Within (entries ++ entries') (others ++ others') := by
  intro entry hentry
  rcases List.mem_append.mp hentry with hfirst | hsecond
  · obtain ⟨better, hmem, hbetter⟩ := h entry hfirst
    exact ⟨better, List.mem_append_left _ hmem, hbetter⟩
  · obtain ⟨better, hmem, hbetter⟩ := h' entry hsecond
    exact ⟨better, List.mem_append_right _ hmem, hbetter⟩

/-- Merging keeps something at least as good for each entry, so it does not lose the better ones. -/
theorem merge [LawfulPermission π] (h : Within entries others) :
    Within (EffectivePermission.merge entries) (EffectivePermission.merge others) := by
  intro entry hentry
  obtain ⟨better, hmem, hbetter⟩ := h entry (mem_of_mem_merge hentry)
  obtain ⟨best, hbest, hleast⟩ := exists_atLeast_merge hmem
  exact ⟨best, hbest, Permission.isSatisfiedBy_trans hbetter hleast.isSatisfiedBy⟩

end EffectivePermission.Within

end Within

/-- Permissions by those who hold them and by what they are granted on. -/
structure Holdings where
  direct : ResourceId → ResourceId → List ResourcePermission
  global : ResourceId → ResourceClassId → DomainId → List ResourcePermission
  create : ResourceId → ResourceClassId → DomainId → List ResourceCreatePermission
  domain : ResourceId → DomainId → List DomainPermission
  domainCreate : ResourceId → List DomainCreatePermission

/-- A source of grants that has an answer to every question about one holder. -/
structure GrantSource.Lists (grants : GrantSource) (holdings : Holdings) : Prop where
  direct : ∀ accessor accessed,
    grants.listDirect accessor accessed = .ok (holdings.direct accessor accessed)
  global : ∀ accessor classId domain,
    grants.listGlobal accessor classId domain = .ok (holdings.global accessor classId domain)
  create : ∀ accessor classId domain,
    grants.listCreate accessor classId domain = .ok (holdings.create accessor classId domain)
  domain : ∀ accessor domain,
    grants.listDomain accessor domain = .ok (holdings.domain accessor domain)
  domainCreate : ∀ accessor,
    grants.listDomainCreate accessor = .ok (holdings.domainCreate accessor)

/-- Holdings under which everyone has at least as much. -/
structure Holdings.Within (holdings other : Holdings) : Prop where
  direct : ∀ accessor accessed,
    Permission.Within (holdings.direct accessor accessed) (other.direct accessor accessed)
  global : ∀ accessor classId domain,
    Permission.Within (holdings.global accessor classId domain)
      (other.global accessor classId domain)
  create : ∀ accessor classId domain,
    Permission.Within (holdings.create accessor classId domain)
      (other.create accessor classId domain)
  domain : ∀ accessor domain,
    Permission.Within (holdings.domain accessor domain) (other.domain accessor domain)
  domainCreate : ∀ accessor,
    Permission.Within (holdings.domainCreate accessor) (other.domainCreate accessor)

theorem Holdings.Within.refl (holdings : Holdings) : holdings.Within holdings :=
  ⟨fun _ _ => .refl _, fun _ _ _ => .refl _, fun _ _ _ => .refl _, fun _ _ => .refl _,
    fun _ => .refl _⟩

theorem DomainPermission.isSuperUser_of_isSatisfiedBy {permission better : DomainPermission}
    (h : Permission.isSatisfiedBy permission better = true) (hsuper : permission.isSuperUser = true) :
    better.isSuperUser = true := by
  have hsystem := congrArg DomainPermission.system (Permission.isSatisfiedBy_iff.mp h).1
  change permission.system = better.system at hsystem
  rwa [isSuperUser, ← hsystem]

namespace Service

section Steps

/-- Accessors that come up among others, perhaps at other levels. -/
def ComeUp (accessors accessors' : List (Ranked ResourceId)) : Prop :=
  ∀ accessor ∈ accessors, ∃ accessor' ∈ accessors', accessor'.node = accessor.node

variable {accessors accessors' : List (Ranked ResourceId)} {ancestors : List (Ranked DomainId)}

theorem firstSuperUser_isSome {held held' : ResourceId → DomainId → List DomainPermission}
    (hnodes : ComeUp accessors accessors')
    (hheld : ∀ holder domain, Permission.Within (held holder domain) (held' holder domain))
    (h : (firstSuperUser held accessors ancestors).isSome = true) :
    (firstSuperUser held' accessors' ancestors).isSome = true := by
  simp only [firstSuperUser, List.findSome?_isSome_iff] at h ⊢
  obtain ⟨accessor, haccessor, ancestor, hancestor, hsome⟩ := h
  obtain ⟨accessor', haccessor', hnode⟩ := hnodes accessor haccessor
  refine ⟨accessor', haccessor', ancestor, hancestor, ?_⟩
  have hany : (held accessor.node ancestor.node).any DomainPermission.isSuperUser = true := by
    by_contra hnone
    rw [if_neg hnone] at hsome
    cases hsome
  obtain ⟨permission, hmem, hsuper⟩ := List.any_eq_true.mp hany
  obtain ⟨better, hbetter, hsatisfied⟩ := hheld accessor.node ancestor.node permission hmem
  have hany' : (held' accessor'.node ancestor.node).any DomainPermission.isSuperUser = true := by
    rw [hnode]
    exact List.any_eq_true.mpr
      ⟨better, hbetter, DomainPermission.isSuperUser_of_isSatisfiedBy hsatisfied hsuper⟩
  rw [if_pos hany']
  rfl

theorem closestSuperUser_isSome {collected collected' : List (EffectivePermission DomainPermission)}
    (hcollected : EffectivePermission.Within collected collected')
    (h : (closestSuperUser collected).isSome = true) :
    (closestSuperUser collected').isSome = true := by
  have hiff : ∀ entries : List (EffectivePermission DomainPermission),
      (closestSuperUser entries).isSome = true ↔
        ∃ entry ∈ entries, entry.permission.isSuperUser = true := by
    intro entries
    rw [closestSuperUser, Proximity.foldl_closest_isSome, ne_eq, List.map_eq_nil_iff,
      List.filter_eq_nil_iff]
    simp
  obtain ⟨entry, hentry, hsuper⟩ := (hiff collected).mp h
  obtain ⟨better, hbetter, hsatisfied⟩ := hcollected entry hentry
  exact (hiff collected').mpr
    ⟨better, hbetter, DomainPermission.isSuperUser_of_isSatisfiedBy hsatisfied hsuper⟩

variable {π : Type} [Permission π] [DecidableEq π]

theorem gathered_within {held held' : ResourceId → DomainId → List π}
    (ancestors : List (Ranked DomainId)) (hnodes : ComeUp accessors accessors')
    (hheld : ∀ holder domain, Permission.Within (held holder domain) (held' holder domain)) :
    EffectivePermission.Within (gathered held accessors ancestors)
      (gathered held' accessors' ancestors) := by
  intro entry hentry
  obtain ⟨accessor, haccessor, ancestor, hancestor, hmem, _⟩ := mem_gathered_iff.mp hentry
  obtain ⟨accessor', haccessor', hnode⟩ := hnodes accessor haccessor
  obtain ⟨better, hbetter, hsatisfied⟩ := hheld accessor.node ancestor.node _ hmem
  rw [← hnode] at hbetter
  refine ⟨⟨better, accessor'.level, ancestor.level⟩, ?_, hsatisfied⟩
  exact mem_gathered_iff.mpr ⟨accessor', haccessor', ancestor, hancestor, hbetter, rfl, rfl⟩

theorem collectHeld_within {ask ask' : ResourceId → Except Error (List π)}
    {held held' : ResourceId → List π} (hask : ∀ holder, ask holder = .ok (held holder))
    (hask' : ∀ holder, ask' holder = .ok (held' holder)) (hnodes : ComeUp accessors accessors')
    (hheld : ∀ holder, Permission.Within (held holder) (held' holder)) :
    ∃ collected collected', collectHeld accessors ask = .ok collected ∧
      collectHeld accessors' ask' = .ok collected' ∧
      EffectivePermission.Within collected collected' := by
  obtain ⟨collected, heq, hmem⟩ := collectHeld_spec hask accessors
  obtain ⟨collected', heq', hmem'⟩ := collectHeld_spec hask' accessors'
  refine ⟨collected, collected', heq, heq', fun entry hentry => ?_⟩
  obtain ⟨accessor, haccessor, hpermission, _⟩ := hmem.mp hentry
  obtain ⟨accessor', haccessor', hnode⟩ := hnodes accessor haccessor
  obtain ⟨better, hbetter, hsatisfied⟩ := hheld accessor.node _ hpermission
  rw [← hnode] at hbetter
  exact ⟨⟨better, accessor'.level, 0⟩, hmem'.mpr ⟨accessor', haccessor', hbetter, rfl, rfl⟩,
    hsatisfied⟩

/-- Whatever one list of entries has of what is requested the other has as well. -/
def AsGoodFor (requested : List π) (effective effective' : List (EffectivePermission π)) : Prop :=
  ∀ wanted ∈ requested, ∀ entry ∈ effective,
    Permission.isSatisfiedBy wanted entry.permission = true →
      ∃ better ∈ effective', Permission.isSatisfiedBy entry.permission better.permission = true

variable {requested : List π} {effective effective' : List (EffectivePermission π)}

theorem asGoodFor_of_within (h : EffectivePermission.Within effective effective') :
    AsGoodFor requested effective effective' :=
  fun _ _ entry hentry _ => h entry hentry

variable [LawfulPermission π]

theorem AsGoodFor.allSatisfied_le (h : AsGoodFor requested effective effective') :
    allSatisfied requested effective ≤ allSatisfied requested effective' := by
  rw [Bool.le_iff_imp, allSatisfied_iff, allSatisfied_iff]
  intro hall wanted hwanted
  obtain ⟨entry, hentry, hsatisfied⟩ := hall wanted hwanted
  obtain ⟨better, hmem, hbetter⟩ := h wanted hwanted entry hentry hsatisfied
  exact ⟨better, hmem, Permission.isSatisfiedBy_trans hsatisfied hbetter⟩

theorem AsGoodFor.grantable_le (h : AsGoodFor requested effective effective') :
    (requested.all fun wanted =>
        effective.any fun held => Permission.isGrantableFrom wanted held.permission) ≤
      requested.all fun wanted =>
        effective'.any fun held => Permission.isGrantableFrom wanted held.permission := by
  simp only [Bool.le_iff_imp, List.all_eq_true, List.any_eq_true]
  intro hall wanted hwanted
  obtain ⟨entry, hentry, hgrantable⟩ := hall wanted hwanted
  have hsatisfied := (Permission.isGrantableFrom_iff.mp hgrantable).2
  obtain ⟨better, hmem, hbetter⟩ := h wanted hwanted entry hentry hsatisfied
  exact ⟨better, hmem, Permission.isGrantableFrom_trans hgrantable hbetter⟩

theorem check_le {checked checked' : Except Error (List (EffectivePermission π))}
    (h : Agree (AsGoodFor requested) checked checked') :
    Agree (· ≤ ·)
      (do
        requireRequested requested
        let effective ← checked
        return allSatisfied requested effective)
      (do
        requireRequested requested
        let effective ← checked'
        return allSatisfied requested effective) := by
  apply Agree.bind_same
  intro _
  apply h.bind
  intro effective effective' heffective
  exact .ok heffective.allSatisfied_le

/-- What is defined is worth every request that may be made, so turning from what was collected to
what is defined loses nothing that counts. -/
theorem resolve_asGoodFor {superUser superUser' : Option Proximity} {defined : List π}
    (hsuper : superUser.isSome = true → superUser'.isSome = true)
    (hdefined : ∀ wanted ∈ requested, Permission.regrantable wanted ∈ defined)
    {collected collected' : List (EffectivePermission π)}
    (hcollected : EffectivePermission.Within collected collected') :
    Agree (AsGoodFor requested) (resolve superUser defined (.ok collected))
      (resolve superUser' defined (.ok collected')) := by
  obtain ⟨effective, heffective⟩ : ∃ effective,
      resolve superUser defined (.ok collected) = .ok effective := by
    cases superUser with
    | none => exact ⟨_, rfl⟩
    | some proximity => exact ⟨_, rfl⟩
  cases superUser' with
  | some proximity =>
    rw [heffective]
    refine .ok fun wanted hwanted entry _ hsatisfied => ?_
    have hbare := (Permission.isSatisfiedBy_iff.mp hsatisfied).1
    have hmem : (⟨Permission.regrantable wanted, proximity.inheritLevel, proximity.domainLevel⟩ :
        EffectivePermission π) ∈
          defined.map (⟨·, proximity.inheritLevel, proximity.domainLevel⟩) :=
      List.mem_map.mpr ⟨_, hdefined wanted hwanted, rfl⟩
    obtain ⟨best, hbest, hleast⟩ := EffectivePermission.exists_atLeast_merge hmem
    have hregrantable : Permission.isSatisfiedBy entry.permission
        (Permission.regrantable wanted) = true :=
      Permission.isSatisfiedBy_regrantable hbare.symm
    exact ⟨best, hbest, Permission.isSatisfiedBy_trans hregrantable hleast.isSatisfiedBy⟩
  | none =>
    -- No super-user on the right means none on the left, so both sides merge.
    cases superUser with
    | some proximity => cases hsuper rfl
    | none => exact .ok (asGoodFor_of_within hcollected.merge)

end Steps

/-- Yes-or-no answers, and lists of resources, that one accessor is given by one service and another
by another. `names` tells by which names domains are meant; without a name it is the accessor's own.
-/
structure Compares (decision : Bool → Bool → Prop) (listing : List Resource → List Resource → Prop)
    (service other : Service) (id id' : ResourceId) (names : Option String → Prop) : Prop where
  hasResourcePermissions : ∀ accessed requested, Agree decision
    (service.hasResourcePermissions id accessed requested)
    (other.hasResourcePermissions id' accessed requested)
  canGrantResourcePermissions : ∀ accessed requested, Agree decision
    (service.canGrantResourcePermissions id accessed requested)
    (other.canGrantResourcePermissions id' accessed requested)
  hasGlobalResourcePermissions : ∀ className name requested, names name → Agree decision
    (service.hasGlobalResourcePermissions id className name requested)
    (other.hasGlobalResourcePermissions id' className name requested)
  hasResourceCreatePermissions : ∀ className name requested, names name → Agree decision
    (service.hasResourceCreatePermissions id className name requested)
    (other.hasResourceCreatePermissions id' className name requested)
  hasDomainPermissions : ∀ text requested, Agree decision
    (service.hasDomainPermissions id text requested)
    (other.hasDomainPermissions id' text requested)
  hasDomainCreatePermissions : ∀ requested, Agree decision
    (service.hasDomainCreatePermissions id requested)
    (other.hasDomainCreatePermissions id' requested)
  resourcesByPermissions : ∀ className name requested, Agree listing
    (service.resourcesByPermissions id className name requested)
    (other.resourcesByPermissions id' className name requested)

/-- Every yes on the left is a yes on the right, every resource that is listed on the left is listed
on the right in the same order, and errors are the same. -/
abbrev NoLess : Service → Service → ResourceId → ResourceId → (Option String → Prop) → Prop :=
  Compares (· ≤ ·) List.Sublist

/-- All decisions, lists and errors are the same. -/
abbrev SameDecisions : Service → Service → ResourceId → ResourceId → (Option String → Prop) → Prop :=
  Compares (· = ·) (· = ·)

theorem yes_of_le {answer answer' : Except Error Bool} (h : Agree (· ≤ ·) answer answer')
    (hyes : answer = .ok true) : answer' = .ok true := by
  rw [hyes] at h
  obtain ⟨decision, rfl, hle⟩ := h.exists_of_ok
  rw [Bool.le_iff_imp.mp hle rfl]

section Comparison

variable {service other : Service} {id id' : ResourceId} {names names' : Option String → Prop}

theorem Compares.of_names {decision : Bool → Bool → Prop}
    {listing : List Resource → List Resource → Prop}
    (h : Compares decision listing service other id id' names)
    (hnames : ∀ {name}, names' name → names name) :
    Compares decision listing service other id id' names' :=
  { h with
    hasGlobalResourcePermissions := fun className name requested hname =>
      h.hasGlobalResourcePermissions className name requested (hnames hname)
    hasResourceCreatePermissions := fun className name requested hname =>
      h.hasResourceCreatePermissions className name requested (hnames hname) }

/-- Two accessors of which each is told no less than the other are told the same. -/
theorem NoLess.antisymm (h : NoLess service other id id' names)
    (h' : NoLess other service id' id names) : SameDecisions service other id id' names := by
  have hdecision {answer answer' : Except Error Bool} (hle : Agree (· ≤ ·) answer answer')
      (hge : Agree (· ≤ ·) answer' answer) : Agree (· = ·) answer answer' := by
    rw [hle.antisymm hge fun hab hba => Bool.le_antisymm hab hba]
    exact Agree.refl (fun _ => rfl) _
  have hlisting {answer answer' : Except Error (List Resource)}
      (hsub : Agree List.Sublist answer answer') (hsup : Agree List.Sublist answer' answer) :
      Agree (· = ·) answer answer' := by
    rw [hsub.antisymm hsup fun hab hba => hab.antisymm hba]
    exact Agree.refl (fun _ => rfl) _
  exact
    { hasResourcePermissions := fun accessed requested =>
        hdecision (h.hasResourcePermissions accessed requested)
          (h'.hasResourcePermissions accessed requested)
      canGrantResourcePermissions := fun accessed requested =>
        hdecision (h.canGrantResourcePermissions accessed requested)
          (h'.canGrantResourcePermissions accessed requested)
      hasGlobalResourcePermissions := fun className name requested hname =>
        hdecision (h.hasGlobalResourcePermissions className name requested hname)
          (h'.hasGlobalResourcePermissions className name requested hname)
      hasResourceCreatePermissions := fun className name requested hname =>
        hdecision (h.hasResourceCreatePermissions className name requested hname)
          (h'.hasResourceCreatePermissions className name requested hname)
      hasDomainPermissions := fun text requested =>
        hdecision (h.hasDomainPermissions text requested) (h'.hasDomainPermissions text requested)
      hasDomainCreatePermissions := fun requested =>
        hdecision (h.hasDomainCreatePermissions requested) (h'.hasDomainCreatePermissions requested)
      resourcesByPermissions := fun className name requested =>
        hlisting (h.resourcesByPermissions className name requested)
          (h'.resourcesByPermissions className name requested) }

end Comparison

/-- Two services asked side by side, where all that the first accessor comes by lies within what the
second comes by. -/
structure Outdone (service other : Service) (id id' : ResourceId)
    (accessors accessors' : List (Ranked ResourceId)) (holdings holdings' : Holdings) : Prop
    extends service.Parallel other id id' accessors accessors' where
  lists : service.grants.Lists holdings
  lists' : other.grants.Lists holdings'
  within : holdings.Within holdings'
  comeUp : ComeUp accessors accessors'

namespace Outdone

variable {service other : Service} {id id' : ResourceId}
  {accessors accessors' : List (Ranked ResourceId)} {holdings holdings' : Holdings}
  (h : service.Outdone other id id' accessors accessors' holdings holdings')

include h

theorem resolveScoped_asGoodFor {π : Type} [Permission π] [DecidableEq π] [LawfulPermission π]
    {held held' : ResourceId → DomainId → List π}
    {ask ask' : ResourceId → DomainId → Except Error (List π)}
    (hask : ∀ holder domain, ask holder domain = .ok (held holder domain))
    (hask' : ∀ holder domain, ask' holder domain = .ok (held' holder domain))
    (hheld : ∀ holder domain, Permission.Within (held holder domain) (held' holder domain))
    {requested defined : List π}
    (hdefined : ∀ wanted ∈ requested, Permission.regrantable wanted ∈ defined)
    (ancestors : List (Ranked DomainId)) :
    Agree (AsGoodFor requested) (service.resolveScoped accessors ancestors defined ask)
      (other.resolveScoped accessors' ancestors defined ask') := by
  rw [resolveScoped, resolveScoped, bind_of_eq_ok (findSuperUser_eq_ok h.lists.domain _ _),
    bind_of_eq_ok (findSuperUser_eq_ok h.lists'.domain _ _), collectScoped_eq_ok hask,
    collectScoped_eq_ok hask']
  exact resolve_asGoodFor (firstSuperUser_isSome h.comeUp h.within.domain) hdefined
    (gathered_within ancestors h.comeUp hheld)

theorem resolveOnResource_asGoodFor (accessed : Resource) {resourceClass : ResourceClass}
    {requested : List ResourcePermission}
    (hvalid : ∀ wanted ∈ requested, resourceClass.validate wanted = .ok ()) :
    Agree (AsGoodFor requested) (service.resolveOnResource accessors accessed resourceClass)
      (other.resolveOnResource accessors' accessed resourceClass) := by
  rw [resolveOnResource, resolveOnResource, h.ancestors]
  apply Agree.bind_same
  intro ancestors
  rw [bind_of_eq_ok (findSuperUser_eq_ok h.lists.domain _ _),
    bind_of_eq_ok (findSuperUser_eq_ok h.lists'.domain _ _)]
  obtain ⟨direct, direct', hdirect, hdirect', hdirectly⟩ := collectHeld_within
    (fun holder => h.lists.direct holder accessed.id)
    (fun holder => h.lists'.direct holder accessed.id) h.comeUp
    fun holder => h.within.direct holder accessed.id
  have hglobal := collectScoped_eq_ok
    (fun holder above => h.lists.global holder resourceClass.id above) accessors ancestors
  have hglobal' := collectScoped_eq_ok
    (fun holder above => h.lists'.global holder resourceClass.id above) accessors' ancestors
  have hglobally := gathered_within ancestors h.comeUp
    fun holder above => h.within.global holder resourceClass.id above
  rw [bind_of_eq_ok hdirect, bind_of_eq_ok hdirect', collectGlobal, collectGlobal,
    bind_of_eq_ok hglobal, bind_of_eq_ok hglobal']
  apply resolve_asGoodFor (firstSuperUser_isSome h.comeUp h.within.domain) _
    (hdirectly.append hglobally)
  intro wanted hwanted
  exact ResourceClass.mem_definedPermissions_iff.mpr (hvalid wanted hwanted)

theorem permitted_sublist {resourceClass : ResourceClass} {requested : List ResourcePermission}
    (hvalid : ∀ wanted ∈ requested, resourceClass.validate wanted = .ok ())
    (candidates : List Resource) :
    Agree List.Sublist (service.permitted accessors resourceClass requested candidates)
      (other.permitted accessors' resourceClass requested candidates) := by
  apply Agree.gather_append (List.Sublist.refl _) List.Sublist.append
  intro resource _
  apply (h.resolveOnResource_asGoodFor resource hvalid).bind
  intro effective effective' heffective
  cases hyes : allSatisfied requested effective with
  | false => exact .ok (List.nil_sublist _)
  | true =>
    have hyes' := Bool.le_iff_imp.mp heffective.allSatisfied_le hyes
    rw [hyes']
    exact .ok (List.Sublist.refl _)

theorem checkedOnResource_asGoodFor (accessedId : ResourceId)
    (requested : List ResourcePermission) :
    Agree (AsGoodFor requested) (service.checkedOnResource id accessedId requested)
      (other.checkedOnResource id' accessedId requested) :=
  h.checkedOnResource fun _ _ hvalid => h.resolveOnResource_asGoodFor _ hvalid

theorem checkedGlobal_asGoodFor (className : String) {name : Option String}
    (hname : service.SameDomain other id id' name) (requested : List ResourcePermission) :
    Agree (AsGoodFor requested) (service.checkedGlobal id className name requested)
      (other.checkedGlobal id' className name requested) := by
  apply h.checkedGlobal hname
  intro _ resourceClass _ ancestors _ _ _ hvalid _
  apply h.resolveScoped_asGoodFor
    (fun holder above => h.lists.global holder resourceClass.id above)
    (fun holder above => h.lists'.global holder resourceClass.id above)
    fun holder above => h.within.global holder resourceClass.id above
  intro wanted hwanted
  exact ResourceClass.mem_definedPermissions_iff.mpr (hvalid wanted hwanted)

theorem checkedCreate_asGoodFor (className : String) {name : Option String}
    (hname : service.SameDomain other id id' name) (requested : List ResourceCreatePermission) :
    Agree (fun result result' => result.1 = result'.1 ∧ AsGoodFor requested result.2 result'.2)
      (service.checkedCreate id className name requested)
      (other.checkedCreate id' className name requested) := by
  apply h.checkedCreate hname
  intro _ resourceClass _ ancestors _ _ _ hvalid _
  apply h.resolveScoped_asGoodFor
    (fun holder above => h.lists.create holder resourceClass.id above)
    (fun holder above => h.lists'.create holder resourceClass.id above)
    fun holder above => h.within.create holder resourceClass.id above
  intro wanted hwanted
  exact ResourceClass.mem_definedCreatePermissions_iff.mpr (hvalid wanted hwanted)

theorem effectiveDomainPermissions_asGoodFor (text : String) (requested : List DomainPermission) :
    Agree (AsGoodFor requested) (service.effectiveDomainPermissions id text)
      (other.effectiveDomainPermissions id' text) := by
  apply h.effectiveDomainPermissions
  intro _ ancestors _ _
  have hcollected := gathered_within ancestors h.comeUp h.within.domain
  rw [resolveOnDomain, resolveOnDomain, bind_of_eq_ok (collectScoped_eq_ok h.lists.domain _ _),
    bind_of_eq_ok (collectScoped_eq_ok h.lists'.domain _ _)]
  apply resolve_asGoodFor (closestSuperUser_isSome hcollected) _ hcollected
  intro wanted _
  exact DomainPermission.regrantable_mem_allRegrantable wanted

theorem effectiveDomainCreatePermissions_asGoodFor (requested : List DomainCreatePermission) :
    Agree (AsGoodFor requested) (service.effectiveDomainCreatePermissions id)
      (other.effectiveDomainCreatePermissions id') := by
  obtain ⟨collected, collected', hcollect, hcollect', hcollected⟩ := collectHeld_within
    h.lists.domainCreate h.lists'.domainCreate h.comeUp h.within.domainCreate
  apply h.effectiveDomainCreatePermissions
  rw [hcollect, hcollect']
  exact .ok (asGoodFor_of_within hcollected.merge)

/-- An accessor is told yes wherever one is told yes that comes by no more. -/
theorem noLess : NoLess service other id id' (service.SameDomain other id id') := by
  constructor
  · intro accessed requested
    exact check_le (h.checkedOnResource_asGoodFor accessed requested)
  · intro accessed requested
    apply Agree.bind_same
    intro _
    apply (h.checkedOnResource_asGoodFor accessed requested).bind
    intro effective effective' heffective
    exact .ok heffective.grantable_le
  · intro className name requested hname
    exact check_le (h.checkedGlobal_asGoodFor className hname requested)
  · intro className name requested hname
    apply Agree.bind_same
    intro _
    apply (h.checkedCreate_asGoodFor className hname requested).bind
    rintro ⟨_, effective⟩ ⟨_, effective'⟩ ⟨_, heffective⟩
    exact .ok heffective.allSatisfied_le
  · intro text requested
    exact check_le (h.effectiveDomainPermissions_asGoodFor text requested)
  · intro requested
    exact check_le (h.effectiveDomainCreatePermissions_asGoodFor requested)
  · intro className name requested
    apply h.resourcesByPermissions
    intro resourceClass candidates _ hvalid _
    exact h.permitted_sublist hvalid candidates

end Outdone

end Service

end Authorization
