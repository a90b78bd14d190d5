import Authorization.Proofs.Service.Bearing
import Authorization.Proofs.Service.Carried
import Authorization.Proofs.Service.Parallel
import Authorization.Proofs.Store.Grant

namespace Authorization.Memory

open Service (SameBut)

variable {memory next : Memory} {strategy : ClosureStrategy} {accessor : ResourceId}
  {domain : DomainId} {accessors : List (Ranked ResourceId)} {ancestors : List (Ranked DomainId)}

/-- Two stores that register the same and in which an accessor inherits from the same resources in
the same way. -/
structure WalksAlike (memory next : Memory) (accessor : ResourceId) : Prop where
  domains : next.records.domains = memory.records.domains
  classes : next.records.classes = memory.records.classes
  resources : next.records.resources = memory.records.resources
  inherits : ∀ {holder}, memory.ActsAs accessor holder →
    ∀ donor, next.Inherits holder donor ↔ memory.Inherits holder donor

/-- Two stores that differ, for an accessor, only in what bears on some questions. For everything
that is spared the same is held, in the same order, wherever it counts. -/
structure DiffersWithin (memory next : Memory) (bearing : Bearing) (accessor : ResourceId) : Prop
    extends WalksAlike memory next accessor where
  resource : ∀ {resource}, ¬bearing.resource resource →
    memory.SameSuperUsers next accessor resource.domainId ∧
      (∀ holder, memory.ActsAs accessor holder →
        next.records.grants.direct.held ⟨holder, resource.id⟩ =
          memory.records.grants.direct.held ⟨holder, resource.id⟩) ∧
      memory.ThroughAllIn accessor resource.domainId fun holder above =>
        next.records.grants.global.held ⟨holder, resource.classId, above⟩ =
          memory.records.grants.global.held ⟨holder, resource.classId, above⟩
  global : ∀ {classId domain}, ¬bearing.global classId domain →
    memory.SameSuperUsers next accessor domain ∧
      memory.ThroughAllIn accessor domain fun holder above =>
        next.records.grants.global.held ⟨holder, classId, above⟩ =
          memory.records.grants.global.held ⟨holder, classId, above⟩
  create : ∀ {classId domain}, ¬bearing.create classId domain →
    memory.SameSuperUsers next accessor domain ∧
      memory.ThroughAllIn accessor domain fun holder above =>
        next.records.grants.create.held ⟨holder, classId, above⟩ =
          memory.records.grants.create.held ⟨holder, classId, above⟩
  domain : ∀ {domain}, ¬bearing.domain domain →
    memory.ThroughAllIn accessor domain fun holder above =>
      next.records.grants.domain.held ⟨holder, above⟩ =
        memory.records.grants.domain.held ⟨holder, above⟩
  domainCreate : ¬bearing.domainCreate → ∀ holder, memory.ActsAs accessor holder →
    next.records.grants.domainCreate.held holder = memory.records.grants.domainCreate.held holder

namespace WalksAlike

variable (hwalks : memory.WalksAlike next accessor)

include hwalks

theorem hasParent_eq : next.HasParent = memory.HasParent := by
  unfold HasParent
  rw [hwalks.domains]

theorem parallel (h : memory.records.Registered) (h' : next.records.Registered)
    (haccessors : (memory.service strategy).closure.accessors accessor = .ok accessors) :
    (memory.service strategy).Parallel (next.service strategy) accessor accessor accessors
      accessors := by
  have hcomputes := service_computes h strategy
  have hcomputes' := service_computes h' strategy
  rw [hwalks.hasParent_eq] at hcomputes'
  have hdirectory : next.directory = memory.directory := by
    unfold Memory.directory Records.directory Records.findResource? Records.findClass?
      Records.findClassByName? Records.findDomain? Records.findDomainByName? Records.resourcesOf
    rw [hwalks.domains, hwalks.classes, hwalks.resources]
  have hright : (next.service strategy).closure.accessors accessor = .ok accessors := by
    obtain ⟨entries, heq, hclosure⟩ := hcomputes'.accessors accessor
    have hA := (isClosure_accessors h haccessors).congr hwalks.inherits
    rw [heq, hclosure.unique hA]
  have hparticipants : (next.service strategy).requireParticipant .accessor accessor =
      (memory.service strategy).requireParticipant .accessor accessor :=
    congrArg (fun directory : Directory => do
      let resource ← directory.findResource accessor
      orFail (.participantNotFound .accessor accessor) resource) hdirectory
  refine ⟨hdirectory, ?_, ?_, ?_, haccessors, hright⟩
  · exact HierarchyClosure.answers_unique hcomputes'.ancestors hcomputes.ancestors
  · exact HierarchyClosure.answers_unique hcomputes'.descendants hcomputes.descendants
  · rw [hparticipants]
    exact Agree.refl (fun _ => trivial) _

theorem superUserAt_iff (hsupers : memory.SameSuperUsers next accessor domain)
    {proximity : Proximity} : next.SuperUserAt accessor domain proximity ↔
      memory.SuperUserAt accessor domain proximity := by
  unfold SuperUserAt
  rw [hwalks.hasParent_eq]
  constructor
  · rintro ⟨holder, hholder, above, habove, hsuper⟩
    rw [distance_congr hwalks.inherits] at hholder
    exact ⟨holder, hholder, above, habove,
      (hsupers holder above hholder.walk.reachable habove.walk.reachable).mpr hsuper⟩
  · rintro ⟨holder, hholder, above, habove, hsuper⟩
    exact ⟨holder, (distance_congr hwalks.inherits).mpr hholder, above, habove,
      (hsupers holder above hholder.walk.reachable habove.walk.reachable).mp hsuper⟩

end WalksAlike

section Resolved

variable (hA : IsClosure memory.Inherits accessor accessors)

include hA

theorem SameSuperUsers.findSuperUser_eq (h : memory.SameSuperUsers next accessor domain)
    (hD : IsClosure memory.HasParent domain ancestors) (strategy : ClosureStrategy) :
    (next.service strategy).findSuperUser accessors ancestors =
      (memory.service strategy).findSuperUser accessors ancestors := by
  have hask (memory : Memory) : ∀ holder above,
      (memory.service strategy).grants.listDomain holder above =
        .ok (memory.records.grants.domain.held ⟨holder, above⟩) := fun _ _ => rfl
  rw [Service.findSuperUser_eq_ok (hask next), Service.findSuperUser_eq_ok (hask memory)]
  apply congrArg
  apply Service.firstSuperUser_congr
  intro holder hholder above habove
  rw [Bool.eq_iff_iff, List.any_eq_true, List.any_eq_true]
  exact (h holder.node above.node (hA.exists_mem_iff.mp ⟨holder, hholder, rfl⟩)
    (hD.exists_mem_iff.mp ⟨above, habove, rfl⟩)).symm

/-- What is asked along a chain of domains has the same answers if the same is held there. -/
theorem collectScoped_eq {π : Type} {ask ask' : ResourceId → DomainId → Except Error (List π)}
    (hD : IsClosure memory.HasParent domain ancestors)
    (h : memory.ThroughAllIn accessor domain fun holder above => ask' holder above = ask holder above)
    : Service.collectScoped accessors ancestors ask' =
      Service.collectScoped accessors ancestors ask := by
  apply Service.collectScoped_congr
  intro holder hholder above habove
  exact h holder.node above.node (hA.exists_mem_iff.mp ⟨holder, hholder, rfl⟩)
    (hD.exists_mem_iff.mp ⟨above, habove, rfl⟩)

theorem resolveScoped_eq {π : Type} [Permission π] [DecidableEq π]
    {ask ask' : ResourceId → DomainId → Except Error (List π)}
    (hD : IsClosure memory.HasParent domain ancestors)
    (hsupers : memory.SameSuperUsers next accessor domain)
    (h : memory.ThroughAllIn accessor domain fun holder above => ask' holder above = ask holder above)
    (strategy : ClosureStrategy) (listed : List π) :
    (next.service strategy).resolveScoped accessors ancestors listed ask' =
      (memory.service strategy).resolveScoped accessors ancestors listed ask := by
  unfold Service.resolveScoped
  rw [hsupers.findSuperUser_eq hA hD strategy, collectScoped_eq hA hD h]

end Resolved

namespace DiffersWithin

variable {bearing : Bearing} (hdiffers : memory.DiffersWithin next bearing accessor)
  (h : memory.records.Registered) (h' : next.records.Registered)
  (haccessors : (memory.service strategy).closure.accessors accessor = .ok accessors)

include hdiffers h h' haccessors

theorem resolveOnResource_eq {resource : Resource} {resourceClass : ResourceClass}
    (hid : resourceClass.id = resource.classId) (hspared : ¬bearing.resource resource) :
    (next.service strategy).resolveOnResource accessors resource resourceClass =
      (memory.service strategy).resolveOnResource accessors resource resourceClass := by
  obtain ⟨hsupers, hdirect, hglobal⟩ := hdiffers.resource hspared
  have hA := isClosure_accessors h haccessors
  obtain ⟨ancestors, hancestors, hD⟩ := (service_computes h strategy).ancestors resource.domainId
  have hancestors' : (next.service strategy).closure.ancestors resource.domainId =
      .ok ancestors := by
    rw [(hdiffers.parallel h h' haccessors).ancestors, hancestors]
  have hheld : Service.collectHeld accessors
      (fun holder => (next.service strategy).grants.listDirect holder resource.id) =
        Service.collectHeld accessors
          fun holder => (memory.service strategy).grants.listDirect holder resource.id := by
    apply Service.collectHeld_congr
    intro holder hholder
    exact congrArg Except.ok (hdirect holder.node (hA.exists_mem_iff.mp ⟨holder, hholder, rfl⟩))
  have hscoped : (next.service strategy).collectGlobal accessors ancestors resourceClass.id =
      (memory.service strategy).collectGlobal accessors ancestors resourceClass.id := by
    apply collectScoped_eq hA hD
    intro holder above hholder habove
    rw [hid]
    exact congrArg Except.ok (hglobal holder above hholder habove)
  unfold Service.resolveOnResource
  rw [bind_of_eq_ok hancestors, bind_of_eq_ok hancestors', hsupers.findSuperUser_eq hA hD strategy,
    hheld, hscoped]

theorem checkedOnResource_eq {accessed : ResourceId}
    (hspared : (memory.service strategy).SparesResource bearing.resource accessed)
    (requested : List ResourcePermission) :
    (next.service strategy).checkedOnResource accessor accessed requested =
      (memory.service strategy).checkedOnResource accessor accessed requested := by
  apply Eq.symm
  apply Agree.eq
  apply (hdiffers.parallel h h' haccessors).checkedOnResource
  intro resource resourceClass hresource hclass _
  have hid := (requireClassOf_eq_ok_iff h).mp hclass
  exact .of_eq
    (hdiffers.resolveOnResource_eq h h' haccessors hid.2 (hspared resource hresource)).symm

theorem checkedGlobal_eq {className : String} {name : Option String}
    (hspared : (memory.service strategy).SparesClass bearing.global accessor className name)
    (requested : List ResourcePermission) :
    (next.service strategy).checkedGlobal accessor className name requested =
      (memory.service strategy).checkedGlobal accessor className name requested := by
  have hparallel := hdiffers.parallel h h' haccessors
  have hA := isClosure_accessors h haccessors
  apply Eq.symm
  apply Agree.eq
  apply hparallel.checkedGlobal (hparallel.sameDomain_refl name)
  intro asking resourceClass domain ancestors hasking hclass hdomain _ hancestors
  obtain ⟨hsupers, hglobal⟩ :=
    hdiffers.global (hspared asking resourceClass domain hasking hclass hdomain)
  have hD := isClosure_ancestors h hancestors
  have hresolved := resolveScoped_eq hA hD hsupers
    (fun holder above hholder habove => congrArg Except.ok (hglobal holder above hholder habove))
    strategy resourceClass.definedPermissions
  exact .of_eq hresolved.symm

theorem checkedCreate_eq {className : String} {name : Option String}
    (hspared : (memory.service strategy).SparesClass bearing.create accessor className name)
    (requested : List ResourceCreatePermission) :
    (next.service strategy).checkedCreate accessor className name requested =
      (memory.service strategy).checkedCreate accessor className name requested := by
  have hparallel := hdiffers.parallel h h' haccessors
  have hA := isClosure_accessors h haccessors
  suffices hagree : Agree (fun result result' => result.1 = result'.1 ∧ result.2 = result'.2)
      ((memory.service strategy).checkedCreate accessor className name requested)
      ((next.service strategy).checkedCreate accessor className name requested) from
    (hagree.mono fun hsame => Prod.ext hsame.1 hsame.2).eq.symm
  apply hparallel.checkedCreate (hparallel.sameDomain_refl name)
  intro asking resourceClass domain ancestors hasking hclass hdomain _ hancestors
  obtain ⟨hsupers, hcreate⟩ :=
    hdiffers.create (hspared asking resourceClass domain hasking hclass hdomain)
  have hD := isClosure_ancestors h hancestors
  have hresolved := resolveScoped_eq hA hD hsupers
    (fun holder above hholder habove => congrArg Except.ok (hcreate holder above hholder habove))
    strategy resourceClass.definedCreatePermissions
  exact .of_eq hresolved.symm

theorem effectiveDomainPermissions_eq {name : String}
    (hspared : (memory.service strategy).SparesDomain bearing.domain name) :
    (next.service strategy).effectiveDomainPermissions accessor name =
      (memory.service strategy).effectiveDomainPermissions accessor name := by
  have hA := isClosure_accessors h haccessors
  apply Eq.symm
  apply Agree.eq
  apply (hdiffers.parallel h h' haccessors).effectiveDomainPermissions
  intro domain ancestors hdomain hancestors
  have hheld := hdiffers.domain (hspared domain hdomain)
  have hcollected : Service.collectScoped accessors ancestors
      (next.service strategy).grants.listDomain =
        Service.collectScoped accessors ancestors (memory.service strategy).grants.listDomain := by
    apply collectScoped_eq hA (isClosure_ancestors h hancestors)
    intro holder above hholder habove
    exact congrArg Except.ok (hheld holder above hholder habove)
  unfold Service.resolveOnDomain
  exact .of_eq (by rw [hcollected])

theorem effectiveDomainCreatePermissions_eq (hspared : ¬bearing.domainCreate) :
    (next.service strategy).effectiveDomainCreatePermissions accessor =
      (memory.service strategy).effectiveDomainCreatePermissions accessor := by
  have hA := isClosure_accessors h haccessors
  apply Eq.symm
  apply Agree.eq
  apply (hdiffers.parallel h h' haccessors).effectiveDomainCreatePermissions
  have hcollected : Service.collectHeld accessors
      (next.service strategy).grants.listDomainCreate =
        Service.collectHeld accessors (memory.service strategy).grants.listDomainCreate := by
    apply Service.collectHeld_congr
    intro holder hholder
    exact congrArg Except.ok
      (hdiffers.domainCreate hspared holder.node (hA.exists_mem_iff.mp ⟨holder, hholder, rfl⟩))
  exact (Agree.of_eq hcollected.symm).mono (congrArg EffectivePermission.merge)

/-- Of the resources that are spared the same are listed. -/
theorem resourcesByPermissions_eq {kept : Resource → Bool}
    (hspared : ∀ resource, kept resource = true → ¬bearing.resource resource) (className : String)
    (name : Option String) (requested : List ResourcePermission) :
    ((next.service strategy).resourcesByPermissions accessor className name requested).map
        (·.filter kept) =
      ((memory.service strategy).resourcesByPermissions accessor className name requested).map
        (·.filter kept) := by
  have hA := isClosure_accessors h haccessors
  have hA' := isClosure_accessors h' (hdiffers.parallel h h' haccessors).right
  have hagree : Agree (fun listed listed' => listed'.filter kept = listed.filter kept)
      ((memory.service strategy).resourcesByPermissions accessor className name requested)
      ((next.service strategy).resourcesByPermissions accessor className name requested) := by
    apply (hdiffers.parallel h h' haccessors).resourcesByPermissions
    rintro resourceClass candidates hclass _ ⟨listed, hlisted, hsubset⟩
    refine Agree.gather_append rfl (fun has has' => ?_) fun resource hresource => ?_
    · rw [List.filter_append, List.filter_append, has, has']
    have hid : resourceClass.id = resource.classId := by
      obtain rfl := Except.ok.inj hlisted
      have hmem := List.mem_mergeSort.mp (hsubset hresource)
      exact (of_decide_eq_true (List.mem_filter.mp hmem).2).symm
    by_cases hkept : kept resource = true
    · rw [hdiffers.resolveOnResource_eq h h' haccessors hid (hspared resource hkept)]
      apply Agree.refl
      intro listed
      rfl
    · -- What is left out of both lists may be in one and not in the other.
      obtain ⟨effective, heffective, _⟩ := resolveOnResource_resolves h strategy hA hid
      obtain ⟨effective', heffective', _⟩ := resolveOnResource_resolves h' strategy hA' hid
      have hnone : ∀ told : Bool,
          (if told then [resource] else []).filter kept = ([] : List Resource) := by
        intro told
        cases told with
        | true => exact List.filter_cons_of_neg hkept
        | false => rfl
      rw [heffective, heffective']
      exact .ok ((hnone _).trans (hnone _).symm)
  exact (hagree.map_eq fun hsame => hsame.symm).symm

end DiffersWithin

/-- There is only one closest super-user grant. -/
theorem FindsClosest.eq_of_superUserAt_iff {found found' : Option Proximity}
    (h : memory.FindsClosest accessor domain found) (h' : next.FindsClosest accessor domain found')
    (hsame : ∀ proximity, next.SuperUserAt accessor domain proximity ↔
      memory.SuperUserAt accessor domain proximity) : found' = found := by
  obtain ⟨candidates, rfl, hcandidates⟩ := h
  obtain ⟨candidates', rfl, hcandidates'⟩ := h'
  apply Proximity.foldl_closest_congr
  intro proximity
  rw [hcandidates, hcandidates', hsame]

section Overview

variable {π : Type} [Permission π] [DecidableEq π] {rows rows' : GrantRows ClassKey π}
  {validate : ResourceClass → π → Except Error Unit}
  {listAll listAll' : ResourceId → Except Error (List (ClassGrant π))}
  {bears : ResourceClassId → DomainId → Prop}

theorem WalksAlike.cellOf_eq (hwalks : memory.WalksAlike next accessor)
    (hA : IsClosure memory.Inherits accessor accessors) {below : DomainId → List (Ranked DomainId)}
    (hbelow : ∀ above entry, entry ∈ below above ↔
      Distance memory.HasParent entry.node entry.level above)
    (hsupers : memory.SameSuperUsers next accessor domain) {classId : ResourceClassId}
    (hsame : memory.ThroughAllIn accessor domain fun holder above =>
      rows'.held ⟨holder, classId, above⟩ = rows.held ⟨holder, classId, above⟩)
    {covered covered' : KeyedList DomainId Proximity}
    (hclosest : memory.FindsClosest accessor domain (covered.lookup domain))
    (hclosest' : next.FindsClosest accessor domain (covered'.lookup domain)) (listed : List π) :
    Service.cellOf covered' (carried below accessors rows') listed domain classId =
      Service.cellOf covered (carried below accessors rows) listed domain classId := by
  have hlookup := hclosest.eq_of_superUserAt_iff hclosest' fun _ => hwalks.superUserAt_iff hsupers
  unfold Service.cellOf
  rw [hlookup, filter_carried_congr hA hbelow hsame]

/-- Overviews have the same in every cell whose class and domain are spared. -/
theorem WalksAlike.overview_sameIn (hwalks : memory.WalksAlike next accessor)
    (h : memory.records.Sound) (h' : next.records.Sound)
    (hrows : rows.Lawful (memory.records.AdmitsScoped validate))
    (hrows' : rows'.Lawful (next.records.AdmitsScoped validate))
    (hlist : ∀ holder, listAll holder = .ok (sortClassGrants (Records.classGrants rows holder)))
    (hlist' : ∀ holder, listAll' holder = .ok (sortClassGrants (Records.classGrants rows' holder)))
    (hspared : ∀ {classId domain}, ¬bears classId domain →
      memory.SameSuperUsers next accessor domain ∧
        memory.ThroughAllIn accessor domain fun holder above =>
          rows'.held ⟨holder, classId, above⟩ = rows.held ⟨holder, classId, above⟩)
    (strategy : ClosureStrategy) (defined : ResourceClass → List π) :
    Agree (Table.SameIn fun row column =>
        (memory.service strategy).SparesClass bears accessor column (some row))
      ((memory.service strategy).overview accessor listAll defined)
      ((next.service strategy).overview accessor listAll' defined) := by
  have hregistered := h.registered
  obtain ⟨accessors, haccessors, hA⟩ := (service_computes hregistered strategy).accessors accessor
  obtain ⟨below, hbelow⟩ := exists_descendants hregistered strategy
  have hparallel := hwalks.parallel hregistered h'.registered haccessors
  by_cases hknown : memory.records.HasResource accessor
  · obtain ⟨resource, hresource, rfl⟩ := hknown
    have hresource' : resource ∈ next.records.resources := hwalks.resources ▸ hresource
    have hbelow' : ∀ above, (next.service strategy).closure.descendants above =
        .ok (below above) := by
      rw [hparallel.descendants]
      exact hbelow
    obtain ⟨cells, covered, entries, hoverview, hnames, hclosest, hcells⟩ :=
      overview_eq_ok h hresource haccessors hbelow hlist (refersTo_of_lawful hrows)
    obtain ⟨cells', covered', entries', hoverview', hnames', hclosest', hcells'⟩ :=
      overview_eq_ok h' hresource' hparallel.right hbelow' hlist' (refersTo_of_lawful hrows')
    rw [hoverview, hoverview']
    refine .ok ⟨Service.ordered_overviewOf _, Service.ordered_overviewOf _, ?_⟩
    intro row column hcell
    by_cases hnamed : (∃ domain ∈ memory.records.domains, domain.name.text = row) ∧
        ∃ resourceClass ∈ memory.records.classes, resourceClass.name.text = column
    · obtain ⟨⟨domain, hdomain, rfl⟩, resourceClass, hclass, rfl⟩ := hnamed
      have hasking : (memory.service strategy).requireParticipant .accessor resource.id =
          .ok resource := (requireParticipant_eq_ok_iff hregistered).mpr ⟨hresource, rfl⟩
      have hmeant : AskedAbout resource domain (some domain.name.text) := Label.ofText?_text _
      obtain ⟨hsupers, hsame⟩ := hspared (hcell resource resourceClass domain hasking
        (requireClass_eq hregistered hclass (Label.ofText?_text _))
        (resolveDomain_eq hregistered hdomain hmeant))
      have hdomain' : domain ∈ next.records.domains := hwalks.domains ▸ hdomain
      have hclass' : resourceClass ∈ next.records.classes := hwalks.classes ▸ hclass
      rw [cell?_overviewOf hregistered hnames hdomain hclass,
        cell?_overviewOf h'.registered hnames' hdomain' hclass', hcells resourceClass hclass,
        hcells' resourceClass hclass', hwalks.cellOf_eq hA (mem_below_iff hregistered hbelow)
          hsupers hsame (hclosest _) (hclosest' _)]
    · -- Cells are there for domains and classes that exist only.
      have hnone : Table.cell? (Service.overviewOf entries) row column = none := by
        rw [Option.eq_none_iff_forall_ne_some]
        intro cell hfound
        exact hnamed (exists_of_overviewOf hnames hfound)
      have hnone' : Table.cell? (Service.overviewOf entries') row column = none := by
        rw [Option.eq_none_iff_forall_ne_some]
        intro cell hfound
        have hexists := exists_of_overviewOf hnames' hfound
        rw [hwalks.domains, hwalks.classes] at hexists
        exact hnamed hexists
      rw [hnone, hnone']
  · apply hparallel.participants.bind_of_eq_ok
    intro resource _ hresource
    exact absurd ⟨resource, (requireParticipant_eq_ok_iff hregistered).mp hresource⟩ hknown

end Overview

/-- Stores that differ in what bears on some questions have the same answers to all others. -/
theorem DiffersWithin.sameBut {bearing : Bearing}
    (hdiffers : memory.DiffersWithin next bearing accessor) (h : memory.records.Sound)
    (h' : next.records.Sound) (strategy : ClosureStrategy) :
    SameBut bearing (memory.service strategy) (next.service strategy) accessor := by
  have hregistered := h.registered
  have hregistered' := h'.registered
  obtain ⟨accessors, haccessors, _⟩ := (service_computes hregistered strategy).accessors accessor
  apply SameBut.of_checked
  · intro accessed hspared
    exact hdiffers.checkedOnResource_eq hregistered hregistered' haccessors hspared
  · intro className name hspared
    exact hdiffers.checkedGlobal_eq hregistered hregistered' haccessors hspared
  · intro className name hspared
    exact hdiffers.checkedCreate_eq hregistered hregistered' haccessors hspared
  · intro name hspared
    exact hdiffers.effectiveDomainPermissions_eq hregistered hregistered' haccessors hspared
  · exact hdiffers.effectiveDomainCreatePermissions_eq hregistered hregistered' haccessors
  · intro kept hspared
    exact hdiffers.resourcesByPermissions_eq hregistered hregistered' haccessors hspared
  · exact hdiffers.overview_sameIn h h' h.granted.global h'.granted.global (fun _ => rfl)
      (fun _ => rfl) hdiffers.global strategy _
  · exact hdiffers.overview_sameIn h h' h.granted.create h'.granted.create (fun _ => rfl)
      (fun _ => rfl) hdiffers.create strategy _

/-- What a grant bears on. On a resource it bears on that resource; for a class in a domain, on what
is of that class within the domain; on a domain, on the domains in it, and if it makes a super-user
also on everything that is located there. -/
def bearing (memory : Memory) : Grant → Bearing
  | .direct key _ => { Bearing.nothing with resource := fun resource => resource.id = key.accessed }
  | .global key _ =>
    { Bearing.nothing with
      resource := fun resource =>
        resource.classId = key.classId ∧ memory.LiesIn resource.domainId key.domainId
      global := fun classId domain =>
        classId = key.classId ∧ memory.LiesIn domain key.domainId }
  | .create key _ =>
    { Bearing.nothing with
      create := fun classId domain =>
        classId = key.classId ∧ memory.LiesIn domain key.domainId }
  | .domain key permissions =>
    let makesSuperUser := (Grant.domain key permissions).MakesSuperUser
    { resource := fun resource => makesSuperUser ∧ memory.LiesIn resource.domainId key.domainId
      global := fun _ domain => makesSuperUser ∧ memory.LiesIn domain key.domainId
      create := fun _ domain => makesSuperUser ∧ memory.LiesIn domain key.domainId
      domain := fun domain => memory.LiesIn domain key.domainId
      domainCreate := False }
  | .domainCreate _ _ => { Bearing.nothing with domainCreate := True }

section Granted

variable {grant : Grant} (hperform : memory.perform grant.mutation = .ok next)

include hperform

/-- A grant makes a difference only where it bears, and only for those who act as its receiver. -/
theorem differsWithin {bearing : Bearing}
    (hinherits : ∀ {holder}, memory.ActsAs accessor holder →
      ∀ donor, next.Inherits holder donor ↔ memory.Inherits holder donor)
    (hbears : memory.ActsAs accessor grant.receiver → memory.bearing grant = bearing) :
    memory.DiffersWithin next bearing accessor := by
  have hothers := grant.leavesOthers hperform
  have hsupers {domain : DomainId} (hspared : ∀ key permissions, grant = .domain key permissions →
      memory.ActsAs accessor key.accessor → memory.LiesIn domain key.domainId →
      ¬grant.MakesSuperUser) : memory.SameSuperUsers next accessor domain :=
    fun holder above hholder habove => (Grant.exists_superUser_iff hperform
      fun permissions heq => hspared _ permissions heq hholder habove).symm
  constructor
  · exact ⟨hothers.domains, hothers.classes, hothers.resources, hinherits⟩
  · intro resource hspared
    refine ⟨hsupers ?_, fun holder hholder => hothers.direct ?_, fun holder above hholder habove =>
      hothers.global ?_⟩
    · rintro key permissions rfl hholder habove hmakes
      exact hspared (hbears hholder ▸ ⟨hmakes, habove⟩)
    · rintro permissions rfl
      exact hspared (hbears hholder ▸ rfl)
    · rintro permissions rfl
      exact hspared (hbears hholder ▸ ⟨rfl, habove⟩)
  · intro classId domain hspared
    refine ⟨hsupers ?_, fun holder above hholder habove => hothers.global ?_⟩
    · rintro key permissions rfl hholder habove hmakes
      exact hspared (hbears hholder ▸ ⟨hmakes, habove⟩)
    · rintro permissions rfl
      exact hspared (hbears hholder ▸ ⟨rfl, habove⟩)
  · intro classId domain hspared
    refine ⟨hsupers ?_, fun holder above hholder habove => hothers.create ?_⟩
    · rintro key permissions rfl hholder habove hmakes
      exact hspared (hbears hholder ▸ ⟨hmakes, habove⟩)
    · rintro permissions rfl
      exact hspared (hbears hholder ▸ ⟨rfl, habove⟩)
  · intro domain hspared holder above hholder habove
    apply hothers.domain
    rintro permissions rfl
    exact hspared (hbears hholder ▸ habove)
  · intro hspared holder hholder
    apply hothers.domainCreate
    rintro permissions rfl
    exact hspared (hbears hholder ▸ trivial)

/-- A grant that does not let its receiver inherit changes nothing but what it bears on. -/
theorem sameBut_bearing (h : memory.records.Sound) (hnone : ¬grant.LetsInherit)
    (strategy : ClosureStrategy) (accessor : ResourceId) :
    SameBut (memory.bearing grant) (memory.service strategy) (next.service strategy) accessor := by
  have hdiffers : memory.DiffersWithin next (memory.bearing grant) accessor :=
    differsWithin hperform (fun {holder} _ => Grant.inherits_iff hperform hnone holder)
      fun _ => rfl
  exact hdiffers.sameBut h (sound_of_perform h hperform) strategy

end Granted

/-- Grants are local. A grant changes no answer about an accessor that does not act as its receiver.
About the others it changes, unless it lets them inherit from somebody else, no answer but on what it
bears. -/
theorem grants_are_local (h : memory.Reachable) {grant : Grant}
    (hperform : memory.perform grant.mutation = .ok next) (strategy : ClosureStrategy)
    (accessor : ResourceId) :
    (¬memory.ActsAs accessor grant.receiver →
      (next.service strategy).answers accessor = (memory.service strategy).answers accessor) ∧
    (¬grant.LetsInherit →
      SameBut (memory.bearing grant) (memory.service strategy) (next.service strategy)
        accessor) := by
  constructor
  · intro hstranger
    have hinherits : ∀ {holder}, memory.ActsAs accessor holder →
        ∀ donor, next.Inherits holder donor ↔ memory.Inherits holder donor := by
      intro holder hholder
      apply Grant.inherits_iff_of_ne hperform
      rintro rfl
      exact hstranger hholder
    have hdiffers : memory.DiffersWithin next .nothing accessor :=
      differsWithin hperform hinherits fun hacts => absurd hacts hstranger
    exact (hdiffers.sameBut h.sound (sound_of_perform h.sound hperform) strategy).answers_eq
  · intro hnone
    exact sameBut_bearing hperform h.sound hnone strategy accessor

/-- When the team becomes super-user of the company, nothing changes for the file, which inherits
from nobody. The clerk, who acts as the team, may create domains as before, since that is granted
apart. -/
theorem file_unmoved_by_promotion :
    (Office.promoted.service .iterative).answers Office.file.id =
        (Office.store.service .iterative).answers Office.file.id ∧
      ∀ requested, (Office.promoted.service .iterative).hasDomainCreatePermissions Office.clerk.id
          requested =
        (Office.store.service .iterative).hasDomainCreatePermissions Office.clerk.id requested := by
  let grant : Grant := .domain ⟨Office.team.id, Office.company.id⟩ [⟨.superUser, false⟩]
  have hperform : Office.store.perform grant.mutation = .ok Office.promoted := rfl
  have hstranger : ¬Office.store.ActsAs Office.file.id grant.receiver := by
    have hholders : ∀ row ∈ Office.store.records.grants.direct,
        row.1.accessor ≠ Office.file.id := by decide
    intro hacts
    rcases hacts.cases_head with heq | ⟨donor, ⟨permission, hheld, _⟩, _⟩
    · exact absurd heq (by decide)
    · exact hholders _ (GrantRows.mem_held_iff.mp hheld) rfl
  have hfile := grants_are_local Office.store_reachable hperform .iterative Office.file.id
  have hclerk := grants_are_local Office.store_reachable hperform .iterative Office.clerk.id
  exact ⟨hfile.1 hstranger, (hclerk.2 not_false).hasDomainCreatePermissions not_false⟩

end Authorization.Memory
