import Authorization.Proofs.Service.Effective
import Authorization.Proofs.Service.Lowered
import Authorization.Proofs.Store.Cleared
import Authorization.Proofs.Store.Consistent

namespace Authorization

/-- What is effective for an accessor in a domain: on the resources of a class, for creating them,
and on the domain itself. -/
structure EffectiveIn where
  global : Except Error (List (EffectivePermission ResourcePermission))
  create : Except Error (List (EffectivePermission ResourceCreatePermission))
  domain : Except Error (List (EffectivePermission DomainPermission))

/-- The answers about a class and a domain. `name` is how questions about the class name the domain,
if they do, and `text` is how the question about the domain does. -/
def Service.effectiveIn (service : Service) (accessor : ResourceId) (className : String)
    (name : Option String) (text : String) : EffectiveIn :=
  ⟨service.effectiveGlobalResourcePermissions accessor className name,
    service.effectiveResourceCreatePermissions accessor className name,
    service.effectiveDomainPermissions accessor text⟩

namespace EffectiveIn

def nothing : EffectiveIn := ⟨.ok [], .ok [], .ok []⟩

/-- The same answers with every domain level raised. -/
def lowered (hops : Nat) (effective : EffectiveIn) : EffectiveIn :=
  ⟨effective.global.map (List.map (.lowered hops)),
    effective.create.map (List.map (.lowered hops)),
    effective.domain.map (List.map (.lowered hops))⟩

/-- What grants give to accessors along a chain of domains. -/
def along (grants : PermissionTables) (resourceClass : ResourceClass)
    (accessors : List (Ranked ResourceId)) (ancestors : List (Ranked DomainId)) : EffectiveIn :=
  let superUser := Service.firstSuperUser grants.domainIn accessors ancestors
  let global := Service.gathered (grants.globalIn resourceClass.id) accessors ancestors
  let create := Service.gathered (grants.createIn resourceClass.id) accessors ancestors
  let domain := Service.gathered grants.domainIn accessors ancestors
  ⟨Service.resolve superUser resourceClass.definedPermissions (.ok global),
    Service.resolve superUser resourceClass.definedCreatePermissions (.ok create),
    Service.resolve (Service.closestSuperUser domain) DomainPermission.allRegrantable (.ok domain)⟩

variable {grants grants' : PermissionTables} {lower upper ancestors : List (Ranked DomainId)}
  (resourceClass : ResourceClass) (accessors : List (Ranked ResourceId))

/-- Every question is answered. -/
theorem exists_along_eq_ok (grants : PermissionTables) (ancestors : List (Ranked DomainId)) :
    ∃ global create domain, along grants resourceClass accessors ancestors =
      ⟨.ok global, .ok create, .ok domain⟩ := by
  have hresolve {π : Type} [Permission π] [DecidableEq π] (superUser : Option Proximity)
      (defined : List π) (collected : List (EffectivePermission π)) :
      ∃ effective, Service.resolve superUser defined (.ok collected) = .ok effective := by
    cases superUser with
    | none => exact ⟨_, rfl⟩
    | some proximity => exact ⟨_, rfl⟩
  obtain ⟨global, hglobal⟩ := hresolve
    (Service.firstSuperUser grants.domainIn accessors ancestors) resourceClass.definedPermissions
    (Service.gathered (grants.globalIn resourceClass.id) accessors ancestors)
  obtain ⟨create, hcreate⟩ := hresolve
    (Service.firstSuperUser grants.domainIn accessors ancestors)
    resourceClass.definedCreatePermissions
    (Service.gathered (grants.createIn resourceClass.id) accessors ancestors)
  obtain ⟨domain, hdomain⟩ := hresolve
    (Service.closestSuperUser (Service.gathered grants.domainIn accessors ancestors))
    DomainPermission.allRegrantable (Service.gathered grants.domainIn accessors ancestors)
  refine ⟨global, create, domain, ?_⟩
  rw [← hglobal, ← hcreate, ← hdomain]
  rfl

theorem along_congr (h : ∀ ancestor ∈ ancestors, grants.AlikeIn grants' ancestor.node) :
    along grants resourceClass accessors ancestors =
      along grants' resourceClass accessors ancestors := by
  have hsuper : Service.firstSuperUser grants.domainIn accessors ancestors =
      Service.firstSuperUser grants'.domainIn accessors ancestors :=
    Service.firstSuperUser_congr fun holder _ ancestor hmem =>
      congrArg (·.any DomainPermission.isSuperUser) ((h ancestor hmem).domain holder.node)
  have hglobal : Service.gathered (grants.globalIn resourceClass.id) accessors ancestors =
      Service.gathered (grants'.globalIn resourceClass.id) accessors ancestors :=
    Service.gathered_congr fun holder _ ancestor hmem => (h ancestor hmem).global _ holder.node
  have hcreate : Service.gathered (grants.createIn resourceClass.id) accessors ancestors =
      Service.gathered (grants'.createIn resourceClass.id) accessors ancestors :=
    Service.gathered_congr fun holder _ ancestor hmem => (h ancestor hmem).create _ holder.node
  have hdomain : Service.gathered grants.domainIn accessors ancestors =
      Service.gathered grants'.domainIn accessors ancestors :=
    Service.gathered_congr fun holder _ ancestor hmem => (h ancestor hmem).domain holder.node
  rw [along, hsuper, hglobal, hcreate, hdomain]
  rfl

/-- Where nothing is granted on the lower domains of a chain, the answers are those for the upper
ones, from farther below. -/
theorem along_lowered (h : ∀ ancestor ∈ lower, grants.AlikeIn {} ancestor.node) (hops : Nat) :
    along grants resourceClass accessors (lower ++ upper.map (Ranked.farther hops)) =
      (along grants resourceClass accessors upper).lowered hops := by
  unfold along lowered
  rw [Service.firstSuperUser_lowered fun holder ancestor hmem => (h ancestor hmem).domain holder,
    Service.gathered_lowered fun holder ancestor hmem => (h ancestor hmem).global _ holder,
    Service.gathered_lowered fun holder ancestor hmem => (h ancestor hmem).create _ holder,
    Service.gathered_lowered fun holder ancestor hmem => (h ancestor hmem).domain holder]
  simp only [Service.resolve_lowered, Service.closestSuperUser_lowered]

theorem along_nil : along grants resourceClass accessors [] = nothing := by
  have hsuper : Service.firstSuperUser grants.domainIn accessors [] = none :=
    List.findSome?_eq_none_iff.mpr fun _ _ => rfl
  have hgathered {π : Type} (held : ResourceId → DomainId → List π) :
      Service.gathered held accessors [] = [] := List.flatMap_eq_nil_iff.mpr fun _ _ => rfl
  have hresolve {π : Type} [Permission π] [DecidableEq π] (defined : List π) :
      Service.resolve none defined (.ok []) = .ok [] := congrArg Except.ok List.mergeSort_nil
  have hclosest : Service.closestSuperUser [] = none := rfl
  simp only [along, hsuper, hgathered, hclosest, hresolve]
  rfl

/-- Where nothing is granted on a whole chain, nothing is effective. -/
theorem along_nothing (h : ∀ ancestor ∈ lower, grants.AlikeIn {} ancestor.node) :
    along grants resourceClass accessors lower = nothing := by
  calc along grants resourceClass accessors lower
    _ = along grants resourceClass accessors (lower ++ [].map (Ranked.farther 0)) := by
      rw [List.map_nil, List.append_nil]
    _ = (along grants resourceClass accessors []).lowered 0 :=
      along_lowered resourceClass accessors h 0
    _ = nothing := by
      rw [along_nil]
      rfl

end EffectiveIn

namespace Memory

variable {memory : Memory} {strategy : ClosureStrategy} {accessor : Resource}
  {resourceClass : ResourceClass} {domain top : Domain} {className text : String}
  {name : Option String} {accessors : List (Ranked ResourceId)}
  {ancestors : List (Ranked DomainId)}

/-- Questions about a class and a domain that make sense: the accessor, the class and the domain
exist, and the texts are their names. -/
structure AsksIn (memory : Memory) (accessor : Resource) (resourceClass : ResourceClass)
    (domain : Domain) (className : String) (name : Option String) (text : String) : Prop where
  accessor_mem : accessor ∈ memory.records.resources
  class_mem : resourceClass ∈ memory.records.classes
  className_eq : Label.ofText? className = some resourceClass.name
  domain_mem : domain ∈ memory.records.domains
  name_eq : AskedAbout accessor domain name
  text_eq : Label.ofText? text = some domain.name

section Along

variable (h : memory.records.Registered)
  (hasks : memory.AsksIn accessor resourceClass domain className name text)
  (haccessors : (memory.service strategy).closure.accessors accessor.id = .ok accessors)
  (hancestors : (memory.service strategy).closure.ancestors domain.id = .ok ancestors)

include h hasks haccessors hancestors

theorem effectiveGlobal_along :
    (memory.service strategy).effectiveGlobalResourcePermissions accessor.id className name =
      (EffectiveIn.along memory.records.grants resourceClass accessors ancestors).global := by
  have hsuper : (memory.service strategy).findSuperUser accessors ancestors =
      .ok (Service.firstSuperUser memory.records.grants.domainIn accessors ancestors) :=
    Service.findSuperUser_eq_ok (fun _ _ => rfl) accessors ancestors
  have hcollect : (memory.service strategy).collectGlobal accessors ancestors resourceClass.id =
      .ok (Service.gathered (memory.records.grants.globalIn resourceClass.id) accessors
        ancestors) :=
    Service.collectScoped_eq_ok (fun _ _ => rfl) accessors ancestors
  calc (memory.service strategy).checkedGlobal accessor.id className name []
    _ = _ := checkedGlobal_eq h hasks.accessor_mem hasks.class_mem hasks.className_eq
      hasks.domain_mem hasks.name_eq (List.forall_mem_nil _) haccessors hancestors
    _ = _ := bind_of_eq_ok hsuper
    _ = _ := congrArg _ hcollect

theorem effectiveCreate_along :
    (memory.service strategy).effectiveResourceCreatePermissions accessor.id className name =
      (EffectiveIn.along memory.records.grants resourceClass accessors ancestors).create := by
  have hsuper : (memory.service strategy).findSuperUser accessors ancestors =
      .ok (Service.firstSuperUser memory.records.grants.domainIn accessors ancestors) :=
    Service.findSuperUser_eq_ok (fun _ _ => rfl) accessors ancestors
  have hcollect : Service.collectScoped accessors ancestors (fun accessor domain =>
      (memory.service strategy).grants.listCreate accessor resourceClass.id domain) =
      .ok (Service.gathered (memory.records.grants.createIn resourceClass.id) accessors
        ancestors) :=
    Service.collectScoped_eq_ok (fun _ _ => rfl) accessors ancestors
  obtain ⟨_, effective, _, halong⟩ :=
    EffectiveIn.exists_along_eq_ok resourceClass accessors memory.records.grants ancestors
  have heffective : (EffectiveIn.along memory.records.grants resourceClass accessors
      ancestors).create = .ok effective := by rw [halong]
  have hchecked : (memory.service strategy).checkedCreate accessor.id className name [] =
      .ok (domain, effective) := by
    rw [checkedCreate_eq h hasks.accessor_mem hasks.class_mem hasks.className_eq
      hasks.domain_mem hasks.name_eq (List.forall_mem_nil _) haccessors hancestors]
    apply bind_eq_ok hsuper
    rw [hcollect]
    exact bind_eq_ok heffective rfl
  rw [heffective]
  exact bind_eq_ok hchecked rfl

theorem effectiveDomain_along :
    (memory.service strategy).effectiveDomainPermissions accessor.id text =
      (EffectiveIn.along memory.records.grants resourceClass accessors ancestors).domain := by
  have hcollect : Service.collectScoped accessors ancestors
      (memory.service strategy).grants.listDomain =
        .ok (Service.gathered memory.records.grants.domainIn accessors ancestors) :=
    Service.collectScoped_eq_ok (fun _ _ => rfl) accessors ancestors
  rw [effectiveDomainPermissions_eq h hasks.accessor_mem hasks.domain_mem hasks.text_eq haccessors
    hancestors]
  exact bind_of_eq_ok hcollect

/-- The answers are what the stored grants give along the closures. -/
theorem effectiveIn_eq :
    (memory.service strategy).effectiveIn accessor.id className name text =
      .along memory.records.grants resourceClass accessors ancestors := by
  unfold Service.effectiveIn
  rw [effectiveGlobal_along h hasks haccessors hancestors,
    effectiveCreate_along h hasks haccessors hancestors,
    effectiveDomain_along h hasks haccessors hancestors]

end Along

theorem registered_without (h : memory.records.Registered) (domains : List DomainId) :
    (memory.without domains).records.Registered :=
  { h with }

theorem AsksIn.without (h : memory.AsksIn accessor resourceClass domain className name text)
    (domains : List DomainId) :
    (memory.without domains).AsksIn accessor resourceClass domain className name text :=
  { h with }

/-- What the removal of the grants of a subtree makes of what is effective. -/
structure Removes (memory later : Memory) (strategy : ClosureStrategy) (top : Domain)
    (subtree : List DomainId) : Prop where
  answered : ∀ {accessor resourceClass domain className name text},
    memory.AsksIn accessor resourceClass domain className name text →
      ∃ global create onDomain, (later.service strategy).effectiveIn accessor.id className name
        text = ⟨.ok global, .ok create, .ok onDomain⟩
  /-- Outside the subtree nothing changes. -/
  outside : ∀ {accessor resourceClass domain className name text},
    memory.AsksIn accessor resourceClass domain className name text → domain.id ∉ subtree →
      (later.service strategy).effectiveIn accessor.id className name text =
        (memory.service strategy).effectiveIn accessor.id className name text
  /-- Below a root there is nothing any more. -/
  belowRoot : top.parent? = none → ∀ {accessor resourceClass domain className name text},
    memory.AsksIn accessor resourceClass domain className name text → domain.id ∈ subtree →
      (later.service strategy).effectiveIn accessor.id className name text = .nothing
  /-- Below any other domain there is what its parent has, from farther below. -/
  below : ∀ {parent : Domain}, parent ∈ memory.records.domains → top.parent? = some parent.id →
    ∀ {accessor resourceClass domain className name text levels parentText},
      memory.AsksIn accessor resourceClass domain className name text →
      Distance memory.HasParent domain.id levels top.id →
      Label.ofText? parentText = some parent.name →
        (later.service strategy).effectiveIn accessor.id className name text =
          ((later.service strategy).effectiveIn accessor.id className (some parentText)
            parentText).lowered (levels + 1)

theorem removes_without (h : memory.records.Registered) (strategy : ClosureStrategy)
    (htop : top ∈ memory.records.domains) {subtree : List DomainId}
    (hsubtree : ∀ id, id ∈ subtree ↔ memory.LiesIn id top.id) :
    memory.Removes (memory.without subtree) strategy top subtree := by
  have hforest := forest_hasParent h
  have hlater := registered_without h subtree
  have hcleared : ∀ {entries : List (Ranked DomainId)},
      (∀ entry ∈ entries, memory.LiesIn entry.node top.id) →
        ∀ entry ∈ entries, PermissionTables.AlikeIn (memory.without subtree).records.grants {}
          entry.node := by
    intro entries hbelow entry hentry
    have hmem := (hsubtree entry.node).mpr (hbelow entry hentry)
    exact PermissionTables.alikeIn_without_of_mem hmem
  constructor
  case answered =>
    intro accessor resourceClass domain className name text hasks
    obtain ⟨accessors, haccessors, _⟩ := (service_computes h strategy).accessors accessor.id
    obtain ⟨ancestors, hancestors, _⟩ := (service_computes h strategy).ancestors domain.id
    rw [effectiveIn_eq hlater (hasks.without subtree) haccessors hancestors]
    exact EffectiveIn.exists_along_eq_ok resourceClass accessors _ ancestors
  case outside =>
    intro accessor resourceClass domain className name text hasks houtside
    obtain ⟨accessors, haccessors, _⟩ := (service_computes h strategy).accessors accessor.id
    obtain ⟨ancestors, hancestors, hclosure⟩ := (service_computes h strategy).ancestors domain.id
    rw [effectiveIn_eq h hasks haccessors hancestors,
      effectiveIn_eq hlater (hasks.without subtree) haccessors hancestors]
    apply EffectiveIn.along_congr
    intro ancestor hancestor
    -- A domain that is looked up to from outside of the subtree is outside of it, too.
    have hreach : memory.LiesIn domain.id ancestor.node :=
      (hclosure.mem_iff.mp hancestor).walk.reachable
    have hkept : ancestor.node ∉ subtree := by
      intro hmem
      exact houtside ((hsubtree _).mpr (hreach.trans ((hsubtree _).mp hmem)))
    exact PermissionTables.alikeIn_without_of_notMem hkept
  case belowRoot =>
    intro hroot accessor resourceClass domain className name text hasks hinside
    obtain ⟨accessors, haccessors, _⟩ := (service_computes h strategy).accessors accessor.id
    obtain ⟨ancestors, hancestors, hclosure⟩ := (service_computes h strategy).ancestors domain.id
    have hnone : ∀ id, ¬memory.HasParent top.id id := by
      rintro id ⟨other, hother, hid, hparent⟩
      have hsame := List.inj_on_of_nodup_map h.domains.nodup_ids hother htop hid
      rw [hsame, hroot] at hparent
      cases hparent
    obtain ⟨levels, hwalk⟩ := exists_walk ((hsubtree domain.id).mp hinside)
    have hbelow := hforest.below_of_mem hnone hwalk hclosure
    rw [effectiveIn_eq hlater (hasks.without subtree) haccessors hancestors]
    exact EffectiveIn.along_nothing resourceClass accessors (hcleared hbelow)
  case below =>
    intro parent hparent hedge accessor resourceClass domain className name text levels parentText
      hasks hdistance hparentText
    obtain ⟨accessors, haccessors, _⟩ := (service_computes h strategy).accessors accessor.id
    obtain ⟨ancestors, hancestors, hclosure⟩ := (service_computes h strategy).ancestors domain.id
    obtain ⟨upper, hupper, hupperClosure⟩ := (service_computes h strategy).ancestors parent.id
    have hstep : memory.HasParent top.id parent.id := ⟨top, htop, rfl, hedge⟩
    obtain ⟨lower, rfl, hbelow⟩ :=
      hforest.exists_lower_append hstep hdistance.walk hclosure hupperClosure
    have hasksParent : memory.AsksIn accessor resourceClass parent className (some parentText)
        parentText :=
      { hasks with domain_mem := hparent, name_eq := hparentText, text_eq := hparentText }
    rw [effectiveIn_eq hlater (hasks.without subtree) haccessors hancestors,
      effectiveIn_eq hlater (hasksParent.without subtree) haccessors hupper]
    exact EffectiveIn.along_lowered resourceClass accessors (hcleared hbelow) (levels + 1)

/-- Removing the grants of a domain subtree clears exactly its domains and leaves everything else as
it was. What is effective for any accessor then changes in no domain outside the subtree, and in a
domain of it becomes what the parent of the top has, with domain levels raised by the way there;
where the top is a root, nothing is left. -/
theorem removal_clears_subtree (h : memory.Reachable) (strategy : ClosureStrategy)
    (htop : top ∈ memory.records.domains) (htext : Label.ofText? text = some top.name) :
    ∃ subtree : List DomainId, subtree.Nodup ∧ (∀ id, id ∈ subtree ↔ memory.LiesIn id top.id) ∧
      (((Store.backend memory).cascade strategy).removeScopedGrants Store.clearDomain text).outcome
        memory = (.ok subtree.length, memory.without subtree) ∧
      memory.Removes (memory.without subtree) strategy top subtree := by
  have hregistered := h.sound.registered
  have hdomain : (memory.service strategy).directory.requireDomain text = .ok top :=
    requireDomain_eq hregistered htop htext
  obtain ⟨descendants, hdescendants, hclosure⟩ : ∃ descendants,
      ((Store.backend memory).cascade strategy).descendantsByLevel text = .ok descendants ∧
        IsClosure (fun above below => memory.HasParent below above) top.id descendants :=
    Cascade.exists_descendantsByLevel (service_computes hregistered strategy) hdomain
  have hsubtree : ∀ id, id ∈ descendants.reverse.map (·.node) ↔ memory.LiesIn id top.id :=
    fun id => Cascade.mem_backwards_iff hclosure
  refine ⟨descendants.reverse.map (·.node), ?_, hsubtree, ?_, ?_⟩
  · exact Cascade.nodup_backwards hclosure
  · rw [List.length_map, List.length_reverse]
    exact outcome_removeScopedGrants memory hdescendants
  · exact removes_without hregistered strategy htop hsubtree

end Memory

namespace Office

theorem clerk_asksIn_branch : store.AsksIn clerk document branch "document" none "branch" where
  accessor_mem := by decide
  class_mem := by decide
  className_eq := by decide
  domain_mem := by decide
  name_eq := rfl
  text_eq := by decide

/-- When the branch is cleared, the clerk has there what it has in the company, one domain farther
away. When the company is cleared, the clerk has nothing left in the branch. -/
theorem clerk_after_removal :
    (∃ subtree : List DomainId,
      (((Store.backend store).cascade .recursive).removeScopedGrants Store.clearDomain
        "branch").outcome store = (.ok subtree.length, store.without subtree) ∧
      ((store.without subtree).service .recursive).effectiveIn clerk.id "document" none "branch" =
        (((store.without subtree).service .recursive).effectiveIn clerk.id "document"
          (some "company") "company").lowered 1) ∧
    ∃ subtree : List DomainId,
      (((Store.backend store).cascade .iterative).removeScopedGrants Store.clearDomain
        "company").outcome store = (.ok subtree.length, store.without subtree) ∧
      ((store.without subtree).service .iterative).effectiveIn clerk.id "document" none "branch" =
        .nothing := by
  have hbranch : branch ∈ store.records.domains := by decide
  have hcompany : company ∈ store.records.domains := by decide
  have hbranchText : Label.ofText? "branch" = some branch.name := by decide
  have hcompanyText : Label.ofText? "company" = some company.name := by decide
  constructor
  · obtain ⟨subtree, _, _, houtcome, hremoves⟩ :=
      Memory.removal_clears_subtree store_reachable .recursive hbranch hbranchText
    have hdistance : Distance store.HasParent branch.id 0 branch.id := Distance.zero_iff.mpr rfl
    exact ⟨subtree, houtcome,
      hremoves.below hcompany rfl clerk_asksIn_branch hdistance hcompanyText⟩
  · obtain ⟨subtree, _, hsubtree, houtcome, hremoves⟩ :=
      Memory.removal_clears_subtree store_reachable .iterative hcompany hcompanyText
    have hinside : branch.id ∈ subtree := (hsubtree branch.id).mpr branch_liesIn_company
    exact ⟨subtree, houtcome, hremoves.belowRoot rfl clerk_asksIn_branch hinside⟩

end Office

end Authorization
