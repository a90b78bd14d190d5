import Authorization.Proofs.Service.Inheritance
import Authorization.Proofs.Service.Local
import Authorization.Proofs.Service.Scoped

namespace Authorization

/-- Whether a mutation does no more than add a domain or a resource. -/
def Mutation.Adds : Mutation → Prop
  | addDomain _ => True
  | addResource _ => True
  | _ => False

namespace Memory

open Service (Decides SameBut Satisfied)

variable {memory later next : Memory} {strategy : ClosureStrategy} {accessor : ResourceId}
  {domain below : Domain}

/-- A store with the same classes and grants as an earlier one, and with its domains and resources
and perhaps others. -/
structure Grows (memory later : Memory) : Prop where
  domains : memory.records.domains ⊆ later.records.domains
  classes : later.records.classes = memory.records.classes
  resources : memory.records.resources ⊆ later.records.resources
  grants : later.records.grants = memory.records.grants

namespace Grows

theorem refl (memory : Memory) : memory.Grows memory :=
  ⟨List.Subset.refl _, rfl, List.Subset.refl _, rfl⟩

theorem trans {last : Memory} (h : memory.Grows later) (h' : later.Grows last) :
    memory.Grows last :=
  ⟨List.Subset.trans h.domains h'.domains, h'.classes.trans h.classes,
    List.Subset.trans h.resources h'.resources, h'.grants.trans h.grants⟩

theorem after {mutation : Mutation} (hadds : mutation.Adds) :
    memory.Grows (memory.after mutation) := by
  unfold Memory.after
  split
  · next hperform =>
    cases mutation with
    | addDomain domain =>
      obtain ⟨_, _, rfl⟩ := of_addDomain hperform
      exact ⟨List.subset_append_left _ _, rfl, List.Subset.refl _, rfl⟩
    | addResource resource =>
      obtain ⟨_, _, _, rfl⟩ := of_addResource hperform
      exact ⟨List.Subset.refl _, rfl, List.subset_append_left _ _, rfl⟩
    | _ => exact False.elim hadds
  · exact refl memory

theorem run {mutations : List Mutation} (hadds : ∀ mutation ∈ mutations, mutation.Adds) :
    memory.Grows (memory.run mutations) := by
  induction mutations generalizing memory with
  | nil => exact refl memory
  | cons mutation mutations ih =>
    obtain ⟨hfirst, hrest⟩ := List.forall_mem_cons.mp hadds
    exact (after hfirst).trans (ih hrest)

variable (hgrows : memory.Grows later)

include hgrows

theorem actsAs_eq : later.ActsAs = memory.ActsAs := by
  unfold ActsAs Inherits
  rw [hgrows.grants]

theorem liesIn {id above : DomainId} (h : memory.LiesIn id above) : later.LiesIn id above := by
  have hparents : memory.HasParent ≤ later.HasParent :=
    fun _ _ ⟨domain, hdomain, hids⟩ => ⟨domain, hgrows.domains hdomain, hids⟩
  exact Relation.ReflTransGen.mono hparents _ _ h

/-- What is so on a domain or above it is so on or above every domain that comes to lie in it. -/
theorem throughSomeIn {id inner : DomainId} (hin : later.LiesIn inner id)
    {holds : ResourceId → DomainId → Prop} (h : memory.ThroughSomeIn accessor id holds) :
    later.ThroughSomeIn accessor inner holds := by
  obtain ⟨holder, hholder, above, habove, hholds⟩ := h
  exact ⟨holder, hgrows.actsAs_eq ▸ hholder, above, hin.trans (hgrows.liesIn habove), hholds⟩

theorem isSuperUser {id inner : DomainId} (hin : later.LiesIn inner id)
    (h : memory.IsSuperUser accessor id) : later.IsSuperUser accessor inner := by
  rw [isSuperUser_iff] at h ⊢
  rw [hgrows.grants]
  exact hgrows.throughSomeIn hin h

theorem holdsGlobally {id inner : DomainId} (hin : later.LiesIn inner id)
    {classId : ResourceClassId} {permission : ResourcePermission}
    (h : memory.HoldsGlobally accessor classId id permission) :
    later.HoldsGlobally accessor classId inner permission := by
  unfold HoldsGlobally
  rw [hgrows.grants]
  exact hgrows.throughSomeIn hin h

theorem holdsToCreate {id inner : DomainId} (hin : later.LiesIn inner id)
    {classId : ResourceClassId} {permission : ResourceCreatePermission}
    (h : memory.HoldsToCreate accessor classId id permission) :
    later.HoldsToCreate accessor classId inner permission := by
  unfold HoldsToCreate
  rw [hgrows.grants]
  exact hgrows.throughSomeIn hin h

theorem holdsOnDomain {id inner : DomainId} (hin : later.LiesIn inner id)
    {permission : DomainPermission} (h : memory.HoldsOnDomain accessor id permission) :
    later.HoldsOnDomain accessor inner permission := by
  unfold HoldsOnDomain
  rw [hgrows.grants]
  exact hgrows.throughSomeIn hin h

end Grows

/-- A resource means a domain by its name, or by none if it belongs to it. -/
def Means (memory : Memory) (id : ResourceId) (domain : Domain) : Option String → Prop
  | some text => Label.ofText? text = some domain.name
  | none => memory.ownDomain? id = some domain.id

theorem Means.askedAbout (h : memory.records.Registered) {accessor : Resource}
    (haccessor : accessor ∈ memory.records.resources) {name : Option String}
    (hmeans : memory.Means accessor.id domain name) : AskedAbout accessor domain name := by
  cases name with
  | some text => exact hmeans
  | none =>
    unfold Means ownDomain? at hmeans
    rw [h.findResource?_eq_some_iff.mpr ⟨haccessor, rfl⟩] at hmeans
    exact (Option.some.inj hmeans).symm

/-- A question about a class within a domain that makes sense: what it is about exists, and
something that is valid for the class is asked for. -/
structure AsksWithin {π : Type} (memory : Memory) (validate : ResourceClass → π → Except Error Unit)
    (asking : Resource) (resourceClass : ResourceClass) (domain : Domain) (className : String)
    (name : Option String) (requested : List π) : Prop where
  asking_mem : asking ∈ memory.records.resources
  class_mem : resourceClass ∈ memory.records.classes
  className_eq : Label.ofText? className = some resourceClass.name
  domain_mem : domain ∈ memory.records.domains
  name_eq : AskedAbout asking domain name
  nonempty : requested ≠ []
  valid : ∀ wanted ∈ requested, validate resourceClass wanted = .ok ()

/-- A question that is answered makes sense, whatever is resolved and answered after the checks. -/
theorem asksWithin_of_answer (h : memory.records.Registered) {π ρ : Type}
    {validate : ResourceClass → π → Except Error Unit} {className : String} {name : Option String}
    {requested : List π} (hdomain : domain ∈ memory.records.domains)
    (hmeans : memory.Means accessor domain name)
    {resolved : Resource → ResourceClass → Domain → Except Error ρ}
    {answer : ρ → Except Error Bool} {decision : Bool}
    (hanswer : (do
      Service.requireRequested requested
      let result ← (do
        let asking ← (memory.service strategy).requireParticipant .accessor accessor
        let resourceClass ← (memory.service strategy).requireClass className
        let domain ← (memory.service strategy).resolveDomain asking name
        checkAll (validate resourceClass) requested
        resolved asking resourceClass domain)
      answer result) = .ok decision) :
    ∃ asking resourceClass, asking.id = accessor ∧
      memory.AsksWithin validate asking resourceClass domain className name requested := by
  obtain ⟨_, hrequested, hanswer⟩ := bind_eq_ok_iff.mp hanswer
  obtain ⟨_, hchecked, _⟩ := bind_eq_ok_iff.mp hanswer
  obtain ⟨asking, hasking, hchecked⟩ := bind_eq_ok_iff.mp hchecked
  obtain ⟨resourceClass, hclass, hchecked⟩ := bind_eq_ok_iff.mp hchecked
  obtain ⟨_, _, hchecked⟩ := bind_eq_ok_iff.mp hchecked
  obtain ⟨_, hvalid, _⟩ := bind_eq_ok_iff.mp hchecked
  obtain ⟨hmem, rfl⟩ := (requireParticipant_eq_ok_iff h).mp hasking
  obtain ⟨hclassMem, hclassName⟩ := (requireClass_eq_ok_iff h).mp hclass
  exact ⟨asking, resourceClass, rfl, hmem, hclassMem, hclassName, hdomain,
    hmeans.askedAbout h hmem, Service.requireRequested_eq_ok_iff.mp hrequested,
    checkAll_eq_ok_iff.mp hvalid⟩

/-- A question still makes sense in a store that has grown, and about any domain there. -/
theorem AsksWithin.grown {π : Type} {validate : ResourceClass → π → Except Error Unit}
    {asking : Resource} {resourceClass : ResourceClass} {className : String}
    {name name' : Option String} {requested : List π}
    (hasks : memory.AsksWithin validate asking resourceClass domain className name requested)
    (hgrows : memory.Grows later) (h' : later.records.Registered)
    (hbelow : below ∈ later.records.domains) (hmeans' : later.Means asking.id below name') :
    later.AsksWithin validate asking resourceClass below className name' requested where
  asking_mem := hgrows.resources hasks.asking_mem
  class_mem := hgrows.classes ▸ hasks.class_mem
  className_eq := hasks.className_eq
  domain_mem := hbelow
  name_eq := hmeans'.askedAbout h' (hgrows.resources hasks.asking_mem)
  nonempty := hasks.nonempty
  valid := hasks.valid

section Decided

variable {asking : Resource} {resourceClass : ResourceClass} {className : String}
  {name : Option String} (h : memory.records.Registered) (strategy : ClosureStrategy)

include h

theorem AsksWithin.create_decides {requested : List ResourceCreatePermission}
    (hasks : memory.AsksWithin ResourceClass.validateCreate asking resourceClass domain className
      name requested) :
    Decides
      ((memory.service strategy).hasResourceCreatePermissions asking.id className name requested)
      (memory.IsSuperUser asking.id domain.id ∨
        Satisfied requested (memory.HoldsToCreate asking.id resourceClass.id domain.id)) :=
  create_check_decides h strategy hasks.asking_mem hasks.class_mem hasks.className_eq
    hasks.domain_mem hasks.name_eq hasks.nonempty hasks.valid

theorem AsksWithin.global_decides {requested : List ResourcePermission}
    (hasks : memory.AsksWithin ResourceClass.validate asking resourceClass domain className name
      requested) :
    Decides
      ((memory.service strategy).hasGlobalResourcePermissions asking.id className name requested)
      (memory.IsSuperUser asking.id domain.id ∨
        Satisfied requested (memory.HoldsGlobally asking.id resourceClass.id domain.id)) :=
  global_check_decides h strategy hasks.asking_mem hasks.class_mem hasks.className_eq
    hasks.domain_mem hasks.name_eq hasks.nonempty hasks.valid

end Decided

/-- What an accessor is told that it may do in a domain, it is later told that it may do in another
one and on the resources that are located there. -/
structure FlowsDown (strategy : ClosureStrategy) (memory later : Memory) (accessor : ResourceId)
    (domain below : Domain) : Prop where
  hasDomainPermissions : ∀ {text text'}, Label.ofText? text = some domain.name →
    Label.ofText? text' = some below.name → ∀ requested,
      (memory.service strategy).hasDomainPermissions accessor text requested = .ok true →
      (later.service strategy).hasDomainPermissions accessor text' requested = .ok true
  hasResourceCreatePermissions : ∀ {name name'}, memory.Means accessor domain name →
    later.Means accessor below name' → ∀ className requested,
      (memory.service strategy).hasResourceCreatePermissions accessor className name requested =
        .ok true →
      (later.service strategy).hasResourceCreatePermissions accessor className name' requested =
        .ok true
  hasGlobalResourcePermissions : ∀ {name name'}, memory.Means accessor domain name →
    later.Means accessor below name' → ∀ className requested,
      (memory.service strategy).hasGlobalResourcePermissions accessor className name requested =
        .ok true →
      (later.service strategy).hasGlobalResourcePermissions accessor className name' requested =
        .ok true
  hasResourcePermissions : ∀ {name}, memory.Means accessor domain name →
    ∀ resourceClass ∈ later.records.classes, ∀ className,
      Label.ofText? className = some resourceClass.name →
    ∀ resource ∈ later.records.resources, resource.classId = resourceClass.id →
      resource.domainId = below.id → ∀ requested,
      (memory.service strategy).hasGlobalResourcePermissions accessor className name requested =
        .ok true →
      (later.service strategy).hasResourcePermissions accessor resource.id requested = .ok true

namespace Grows

variable (hgrows : memory.Grows later) (h : memory.records.Registered)
  (h' : later.records.Registered) (hdomain : domain ∈ memory.records.domains)
  (hin : later.LiesIn below.id domain.id)

include hgrows h h' hdomain hin

theorem hasDomainPermissions_below (hbelow : below ∈ later.records.domains) {text text' : String}
    (htext : Label.ofText? text = some domain.name)
    (htext' : Label.ofText? text' = some below.name) {requested : List DomainPermission}
    (hyes : (memory.service strategy).hasDomainPermissions accessor text requested = .ok true) :
    (later.service strategy).hasDomainPermissions accessor text' requested = .ok true := by
  obtain ⟨_, hrequested, hanswer⟩ := bind_eq_ok_iff.mp hyes
  obtain ⟨_, hchecked, _⟩ := bind_eq_ok_iff.mp hanswer
  obtain ⟨asking, hasking, _⟩ := bind_eq_ok_iff.mp hchecked
  obtain ⟨hmem, rfl⟩ := (requireParticipant_eq_ok_iff h).mp hasking
  have hne := Service.requireRequested_eq_ok_iff.mp hrequested
  have hdecides := domain_check_decides h strategy hmem hdomain htext hne
  apply hdecides.yes_of_yes
    (domain_check_decides h' strategy (hgrows.resources hmem) hbelow htext' hne) _ hyes
  exact Or.imp (hgrows.isSuperUser hin) (Satisfied.mono fun _ => hgrows.holdsOnDomain hin)

theorem hasResourceCreatePermissions_below (hbelow : below ∈ later.records.domains)
    {name name' : Option String} (hmeans : memory.Means accessor domain name)
    (hmeans' : later.Means accessor below name') {className : String}
    {requested : List ResourceCreatePermission}
    (hyes : (memory.service strategy).hasResourceCreatePermissions accessor className name
      requested = .ok true) :
    (later.service strategy).hasResourceCreatePermissions accessor className name' requested =
      .ok true := by
  obtain ⟨asking, resourceClass, rfl, hasks⟩ :
      ∃ asking resourceClass, asking.id = accessor ∧
        memory.AsksWithin ResourceClass.validateCreate asking resourceClass domain className name
          requested := asksWithin_of_answer h hdomain hmeans hyes
  have hasks' := hasks.grown hgrows h' hbelow hmeans'
  apply (hasks.create_decides h strategy).yes_of_yes (hasks'.create_decides h' strategy) _ hyes
  exact Or.imp (hgrows.isSuperUser hin) (Satisfied.mono fun _ => hgrows.holdsToCreate hin)

theorem hasGlobalResourcePermissions_below (hbelow : below ∈ later.records.domains)
    {name name' : Option String} (hmeans : memory.Means accessor domain name)
    (hmeans' : later.Means accessor below name') {className : String}
    {requested : List ResourcePermission}
    (hyes : (memory.service strategy).hasGlobalResourcePermissions accessor className name
      requested = .ok true) :
    (later.service strategy).hasGlobalResourcePermissions accessor className name' requested =
      .ok true := by
  obtain ⟨asking, resourceClass, rfl, hasks⟩ :
      ∃ asking resourceClass, asking.id = accessor ∧
        memory.AsksWithin ResourceClass.validate asking resourceClass domain className name
          requested := asksWithin_of_answer h hdomain hmeans hyes
  have hasks' := hasks.grown hgrows h' hbelow hmeans'
  apply (hasks.global_decides h strategy).yes_of_yes (hasks'.global_decides h' strategy) _ hyes
  exact Or.imp (hgrows.isSuperUser hin) (Satisfied.mono fun _ => hgrows.holdsGlobally hin)

theorem hasResourcePermissions_below {name : Option String}
    (hmeans : memory.Means accessor domain name) {resourceClass : ResourceClass}
    (hclass : resourceClass ∈ later.records.classes) {className : String}
    (hclassName : Label.ofText? className = some resourceClass.name) {resource : Resource}
    (hresource : resource ∈ later.records.resources)
    (hclassId : resource.classId = resourceClass.id) (hlocated : resource.domainId = below.id)
    {requested : List ResourcePermission}
    (hyes : (memory.service strategy).hasGlobalResourcePermissions accessor className name
      requested = .ok true) :
    (later.service strategy).hasResourcePermissions accessor resource.id requested = .ok true := by
  obtain ⟨asking, named, rfl, hasks⟩ :
      ∃ asking named, asking.id = accessor ∧
        memory.AsksWithin ResourceClass.validate asking named domain className name requested :=
    asksWithin_of_answer h hdomain hmeans hyes
  -- The class of the resource is the one that was asked about.
  have hnamed : (memory.service strategy).requireClass className = .ok named :=
    requireClass_eq h hasks.class_mem hasks.className_eq
  rw [requireClass_eq h (hgrows.classes ▸ hclass) hclassName] at hnamed
  obtain rfl := Except.ok.inj hnamed
  have hasksOn : later.Asks asking resource resourceClass requested :=
    ⟨hgrows.resources hasks.asking_mem, hresource, hclass, hclassId.symm, hasks.nonempty,
      hasks.valid⟩
  apply (hasks.global_decides h strategy).yes_of_yes (has_check_decides h' strategy hasksOn) _ hyes
  unfold HoldsOn
  rw [hclassId, hlocated]
  exact Or.imp (hgrows.isSuperUser hin)
    (Satisfied.mono fun _ hholds => Or.inr (hgrows.holdsGlobally hin hholds))

theorem flowsDown (hbelow : below ∈ later.records.domains) :
    FlowsDown strategy memory later accessor domain below where
  hasDomainPermissions htext htext' _ :=
    hgrows.hasDomainPermissions_below h h' hdomain hin hbelow htext htext'
  hasResourceCreatePermissions hmeans hmeans' _ _ :=
    hgrows.hasResourceCreatePermissions_below h h' hdomain hin hbelow hmeans hmeans'
  hasGlobalResourcePermissions hmeans hmeans' _ _ :=
    hgrows.hasGlobalResourcePermissions_below h h' hdomain hin hbelow hmeans hmeans'
  hasResourcePermissions hmeans _ hclass _ hclassName _ hresource hclassId hlocated _ :=
    hgrows.hasResourcePermissions_below h h' hdomain hin hmeans hclass hclassName hresource hclassId
      hlocated

end Grows

/-- What an accessor is told that it may do in a domain, and on the resources that are located right
there, is the same in two stores. -/
structure SameAt (strategy : ClosureStrategy) (memory next : Memory) (accessor : ResourceId)
    (domain : Domain) : Prop where
  hasDomainPermissions : ∀ {text}, Label.ofText? text = some domain.name → ∀ requested,
    (next.service strategy).hasDomainPermissions accessor text requested =
      (memory.service strategy).hasDomainPermissions accessor text requested
  hasResourceCreatePermissions : ∀ {name}, memory.Means accessor domain name →
    ∀ className requested,
      (next.service strategy).hasResourceCreatePermissions accessor className name requested =
        (memory.service strategy).hasResourceCreatePermissions accessor className name requested
  hasGlobalResourcePermissions : ∀ {name}, memory.Means accessor domain name →
    ∀ className requested,
      (next.service strategy).hasGlobalResourcePermissions accessor className name requested =
        (memory.service strategy).hasGlobalResourcePermissions accessor className name requested
  hasResourcePermissions : ∀ resource ∈ memory.records.resources, resource.domainId = domain.id →
    ∀ requested, (next.service strategy).hasResourcePermissions accessor resource.id requested =
      (memory.service strategy).hasResourcePermissions accessor resource.id requested

/-- A bearing on nothing in a domain: neither on what is located right there nor on the domain. -/
structure LeavesAlone (bearing : Bearing) (id : DomainId) : Prop where
  resource : ∀ {resource : Resource}, resource.domainId = id → ¬bearing.resource resource
  global : ∀ {classId}, ¬bearing.global classId id
  create : ∀ {classId}, ¬bearing.create classId id
  domain : ¬bearing.domain id

/-- A grant within a domain bears on nothing in a domain that does not lie there. -/
theorem bearing_leavesAlone {grant : Grant} {scope id : DomainId}
    (hscope : grant.scope? = some scope) (hout : ¬memory.LiesIn id scope) :
    LeavesAlone (memory.bearing grant) id := by
  cases grant with
  | direct key permissions => cases hscope
  | domainCreate receiver permissions => cases hscope
  | global key permissions =>
    obtain rfl := Option.some.inj hscope
    exact ⟨fun {_} hid hbears => hout (hid ▸ hbears.2), fun {_} hbears => hout hbears.2, not_false,
      not_false⟩
  | create key permissions =>
    obtain rfl := Option.some.inj hscope
    exact ⟨fun {_} _ => not_false, not_false, fun {_} hbears => hout hbears.2, not_false⟩
  | domain key permissions =>
    obtain rfl := Option.some.inj hscope
    exact ⟨fun {_} hid hbears => hout (hid ▸ hbears.2), fun {_} hbears => hout hbears.2,
      fun {_} hbears => hout hbears.2, hout⟩

theorem LeavesAlone.sameAt {bearing : Bearing} (halone : LeavesAlone bearing domain.id)
    (h : memory.records.Registered) (hdomain : domain ∈ memory.records.domains)
    (hsame : SameBut bearing (memory.service strategy) (next.service strategy) accessor) :
    SameAt strategy memory next accessor domain := by
  -- The domain that a question finds is the one that is meant.
  have hspares {bears : ResourceClassId → DomainId → Prop}
      (hnot : ∀ {classId}, ¬bears classId domain.id) {name : Option String}
      (hmeans : memory.Means accessor domain name) (className : String) :
      (memory.service strategy).SparesClass bears accessor className name := by
    intro asking resourceClass found hasking _ hfound
    obtain ⟨hmem, rfl⟩ := (requireParticipant_eq_ok_iff h).mp hasking
    rw [resolveDomain_eq h hdomain (hmeans.askedAbout h hmem)] at hfound
    obtain rfl := Except.ok.inj hfound
    exact hnot
  constructor
  · intro text htext
    apply hsame.hasDomainPermissions
    intro found hfound
    rw [requireDomain_eq h hdomain htext] at hfound
    obtain rfl := Except.ok.inj hfound
    exact halone.domain
  · intro name hmeans className
    exact hsame.hasResourceCreatePermissions className name (hspares halone.create hmeans className)
  · intro name hmeans className
    exact hsame.hasGlobalResourcePermissions className name (hspares halone.global hmeans className)
  · intro resource hresource hlocated
    apply hsame.hasResourcePermissions
    intro accessed haccessed
    rw [(requireParticipant_eq_ok_iff h).mpr ⟨hresource, rfl⟩] at haccessed
    obtain rfl := Except.ok.inj haccessed
    exact halone.resource hlocated

end Memory

namespace Office

def desk : Domain := ⟨⟨3⟩, ⟨"desk", by decide, by decide⟩, some branch.id⟩

def memo : Resource := ⟨⟨4⟩, document.id, desk.id⟩

end Office

namespace Memory

variable {memory : Memory} {domain : Domain}

/-- Authority in a domain flows downward only. What an accessor is told that it may do in a domain it
is told that it may do in every domain that lies there and on the resources that are located there,
whatever domains and resources are added in between. A grant within a domain in which it does not lie
changes none of what the accessor is told about it. -/
theorem authority_flows_downward (h : memory.Reachable) (strategy : ClosureStrategy)
    (accessor : ResourceId) (hdomain : domain ∈ memory.records.domains) :
    (∀ mutations : List Mutation, (∀ mutation ∈ mutations, mutation.Adds) →
      ∀ below ∈ (memory.run mutations).records.domains,
        (memory.run mutations).LiesIn below.id domain.id →
        FlowsDown strategy memory (memory.run mutations) accessor domain below) ∧
    ∀ (grant : Grant) (scope : DomainId) (next : Memory), grant.scope? = some scope →
      ¬memory.LiesIn domain.id scope → memory.perform grant.mutation = .ok next →
      SameAt strategy memory next accessor domain := by
  have hregistered := h.sound.registered
  constructor
  · intro mutations hadds below hbelow hin
    exact (Grows.run hadds).flowsDown hregistered (h.run mutations).sound.registered hdomain hin
      hbelow
  · intro grant scope next hscope hout hperform
    have hsame := sameBut_bearing hperform h.sound (Grant.not_letsInherit_of_scope? hscope) strategy
      accessor
    exact (bearing_leavesAlone hscope hout).sameAt hregistered hdomain hsame

/-- The team may query documents in the whole company, and so the clerk that acts as it may query a
memo that is added to a desk that is added to the branch. To make the team super-user of the branch
gives it nothing in the company. -/
theorem clerk_queries_new_memo :
    ((Office.store.run [.addDomain Office.desk, .addResource Office.memo]).service
        .iterative).hasResourcePermissions Office.clerk.id Office.memo.id [Office.query] =
      .ok true ∧
    ∀ requested, ((Office.store.after (.grantDomain ⟨Office.team.id, Office.branch.id⟩
        [⟨.superUser, false⟩])).service .iterative).hasDomainPermissions Office.clerk.id "company"
          requested =
      (Office.store.service .iterative).hasDomainPermissions Office.clerk.id "company"
        requested := by
  have hcompany : Office.company ∈ Office.store.records.domains := by decide
  have hclerk : Office.clerk ∈ Office.store.records.resources := by decide
  have hdocument : Office.document ∈ Office.store.records.classes := by decide
  have hclass : Label.ofText? "document" = some Office.document.name := by decide
  have hname : Label.ofText? "company" = some Office.company.name := by decide
  obtain ⟨hdown, hout⟩ := authority_flows_downward Office.store_reachable .iterative
    Office.clerk.id hcompany
  constructor
  · have hholds : Office.store.HoldsGlobally Office.clerk.id Office.document.id Office.company.id
        Office.query := ⟨_, Office.clerk_actsAs_team, _, .refl, by decide⟩
    have hyes := (global_check_decides Office.store_reachable.sound.registered .iterative hclerk
      hdocument hclass hcompany (show AskedAbout Office.clerk Office.company (some "company") from
        hname) (List.cons_ne_nil Office.query []) (by decide)).eq_true_iff.mpr
      (Or.inr (.singleton hholds (by decide)))
    have hin : (Office.store.run [.addDomain Office.desk, .addResource Office.memo]).LiesIn
        Office.desk.id Office.company.id :=
      .head ⟨Office.desk, by decide, rfl, rfl⟩ (.single ⟨Office.branch, by decide, rfl, rfl⟩)
    have hflows := hdown [.addDomain Office.desk, .addResource Office.memo]
      (List.forall_mem_cons.mpr ⟨trivial, List.forall_mem_singleton.mpr trivial⟩) Office.desk
      (by decide) hin
    have hmeans : Office.store.Means Office.clerk.id Office.company (some "company") := hname
    exact hflows.hasResourcePermissions hmeans Office.document (by decide) "document" hclass
      Office.memo (by decide) rfl rfl [Office.query] hyes
  · have htop : ¬Office.store.LiesIn Office.company.id Office.branch.id := by
      intro hin
      rcases hin.cases_head with heq | ⟨parent, ⟨domain, hmem, hid, hparent⟩, _⟩
      · exact absurd heq (by decide)
      · have hroot : ∀ domain ∈ Office.store.records.domains, domain.id = Office.company.id →
            domain.parent? = none := by decide
        rw [hroot domain hmem hid] at hparent
        cases hparent
    let grant : Grant := .domain ⟨Office.team.id, Office.branch.id⟩ [⟨.superUser, false⟩]
    have hsame := hout grant _ (Office.store.after grant.mutation) rfl htop rfl
    exact hsame.hasDomainPermissions hname

end Memory

end Authorization
