import Authorization.Proofs.Hierarchy.Forest
import Authorization.Proofs.Store.Walk
import Mathlib.Data.List.Chain

/-! What every run of a memory store keeps. No operation checks that there are ways up to a root; it
follows from the order in which domains are added, each of them after its parent. -/
namespace Authorization

/-- A way up from a domain: every domain on it is followed by its parent, the last one has none, and
none is met twice. -/
structure WayUp (domains : List Domain) (domain : Domain) (line : List Domain) : Prop where
  registered : line ⊆ domains
  starts : line.head? = some domain
  climbs : line.IsChain fun below above => below.parent? = some above.id
  ends : ∀ root ∈ line.getLast?, root.parent? = none
  once : (line.map (·.id)).Nodup

namespace Grown

variable {domains : List Domain} {domain : Domain} {parent : DomainId}

/-- A domain was added after its parent. -/
theorem idxOf_parent_lt (h : Grown domains) (hdomain : domain ∈ domains)
    (hparent : domain.parent? = some parent) :
    (domains.map (·.id)).idxOf parent < (domains.map (·.id)).idxOf domain.id := by
  induction h with
  | empty => cases hdomain
  | @add domains added grown new hadded ih =>
    rw [List.map_append]
    have hknown : ∀ {id}, (∃ other ∈ domains, other.id = id) → id ∈ domains.map (·.id) :=
      fun ⟨other, hother, hid⟩ => List.mem_map.mpr ⟨other, hother, hid⟩
    rcases List.mem_append.mp hdomain with hold | hlast
    · rw [List.idxOf_append_of_mem (hknown (grown.exists_parent hold hparent)),
        List.idxOf_append_of_mem (hknown ⟨domain, hold, rfl⟩)]
      exact ih hold
    · rw [List.mem_singleton.mp hlast] at hparent ⊢
      have hfresh : added.id ∉ domains.map (·.id) := by
        intro hmem
        obtain ⟨other, hother, hid⟩ := List.mem_map.mp hmem
        exact (new other hother).1 hid
      have hbefore := List.idxOf_lt_length_of_mem (hknown (hadded hparent))
      rw [List.idxOf_append_of_mem (hknown (hadded hparent)), List.idxOf_append_of_notMem hfresh]
      omega

/-- What was added one after the other is a forest. -/
theorem forest (h : Grown domains) :
    Forest fun id parent => ∃ domain ∈ domains, domain.id = id ∧ domain.parent? = some parent := by
  constructor
  · rintro a b c ⟨domain, hdomain, rfl, hb⟩ ⟨other, hother, hid, hc⟩
    have hsame := List.inj_on_of_nodup_map h.nodup_ids hother hdomain hid
    rw [hsame, hb] at hc
    exact Option.some.inj hc
  · intro a hcycle
    -- Along parents the place in the list goes down, so no way leads back.
    have hdown : ∀ {b}, Relation.TransGen (fun id parent => ∃ domain ∈ domains,
        domain.id = id ∧ domain.parent? = some parent) a b →
        (domains.map (·.id)).idxOf b < (domains.map (·.id)).idxOf a := by
      intro b hreach
      induction hreach with
      | single hstep =>
        obtain ⟨domain, hdomain, rfl, hparent⟩ := hstep
        exact h.idxOf_parent_lt hdomain hparent
      | tail _ hstep ih =>
        obtain ⟨domain, hdomain, rfl, hparent⟩ := hstep
        exact (h.idxOf_parent_lt hdomain hparent).trans ih
    exact Nat.lt_irrefl _ (hdown hcycle)

/-- Every domain has a way up. -/
theorem exists_wayUp (h : Grown domains) (hdomain : domain ∈ domains) :
    ∃ line, WayUp domains domain line := by
  induction h generalizing domain with
  | empty => cases hdomain
  | @add domains added grown new hadded ih =>
    have hsubset := List.subset_append_left domains [added]
    rcases List.mem_append.mp hdomain with hold | hlast
    · obtain ⟨line, hline⟩ := ih hold
      exact ⟨line, { hline with registered := List.Subset.trans hline.registered hsubset }⟩
    · rw [List.mem_singleton.mp hlast]
      have hself : added ∈ domains ++ [added] := List.mem_append_right _ List.mem_cons_self
      cases hparent : added.parent? with
      | none =>
        refine ⟨[added], ?_, rfl, .singleton _, ?_, List.nodup_singleton _⟩
        · exact List.cons_subset.mpr ⟨hself, List.nil_subset _⟩
        · rintro root hroot
          cases hroot
          exact hparent
      | some parent =>
        -- The way goes on from the parent, through domains that were there before.
        obtain ⟨above, habove, rfl⟩ := hadded hparent
        obtain ⟨line, hline⟩ := ih habove
        refine ⟨added :: line, ?_, rfl, ?_, ?_, ?_⟩
        · exact List.cons_subset.mpr ⟨hself, List.Subset.trans hline.registered hsubset⟩
        · apply List.IsChain.cons hline.climbs
          intro next hnext
          rw [hline.starts] at hnext
          cases hnext
          exact hparent
        · have hne : line ≠ [] := by
            rintro rfl
            cases hline.starts
          rw [List.getLast?_cons_of_ne_nil hne]
          exact hline.ends
        · refine List.nodup_cons.mpr ⟨fun hmem => ?_, hline.once⟩
          obtain ⟨other, hother, hid⟩ := List.mem_map.mp hmem
          exact (new other (hline.registered hother)).1 hid

end Grown

theorem Memory.forest_hasParent {memory : Memory} (h : memory.records.Registered) :
    Forest memory.HasParent :=
  h.domains.forest

/-- No two of some permissions differ at most in their grant option. -/
def Distinct {π : Type} [Permission π] [DecidableEq π] (permissions : List π) : Prop :=
  permissions.Pairwise fun a b => Permission.equalIgnoringGrantOption a b = false

/-- Under each key of lawful rows every permission stands once. -/
theorem GrantRows.Lawful.distinct_held {κ π : Type} [DecidableEq κ] [Permission π] [DecidableEq π]
    {rows : GrantRows κ π} {admits : κ → π → Prop} (h : rows.Lawful admits) (key : κ) :
    Distinct (rows.held key) := by
  have hkept := h.distinct.filter fun row => row.1 = key
  apply List.pairwise_map.mpr
  apply hkept.imp_of_mem
  intro a b ha hb hab
  have ha' : a.1 = key := of_decide_eq_true (List.mem_filter.mp ha).2
  have hb' : b.1 = key := of_decide_eq_true (List.mem_filter.mp hb).2
  exact hab (ha'.trans hb'.symm)

namespace Records

variable (records : Records)

def HasClass (id : ResourceClassId) : Prop :=
  ∃ resourceClass ∈ records.classes, resourceClass.id = id

/-- A grant for a class within a domain refers to what exists. -/
structure RefersToClass (key : ClassKey) : Prop where
  accessor : records.HasResource key.accessor
  resourceClass : records.HasClass key.classId
  domain : records.HasDomain key.domainId

/-- Contents that are consistent: nothing has two entries, nothing refers to what does not exist,
and nothing is granted that is not valid where it is granted. -/
structure Consistent : Prop where
  domainIds : (records.domains.map (·.id)).Nodup
  domainNames : (records.domains.map (·.name)).Nodup
  classIds : (records.classes.map (·.id)).Nodup
  classNames : (records.classes.map (·.name)).Nodup
  resourceIds : (records.resources.map (·.id)).Nodup
  parents : ∀ domain ∈ records.domains, ∀ parent ∈ domain.parent?, records.HasDomain parent
  waysUp : ∀ domain ∈ records.domains, ∃ line, WayUp records.domains domain line
  resources : ∀ resource ∈ records.resources,
    records.HasClass resource.classId ∧ records.HasDomain resource.domainId
  directKeys : ∀ row ∈ records.grants.direct,
    records.HasResource row.1.accessor ∧ records.HasResource row.1.accessed
  globalKeys : ∀ row ∈ records.grants.global, records.RefersToClass row.1
  createKeys : ∀ row ∈ records.grants.create, records.RefersToClass row.1
  domainKeys : ∀ row ∈ records.grants.domain,
    records.HasResource row.1.accessor ∧ records.HasDomain row.1.domainId
  domainCreateKeys : ∀ row ∈ records.grants.domainCreate, records.HasResource row.1
  /-- What is granted on a resource is valid for the class of that resource. -/
  directValid : ∀ row ∈ records.grants.direct, ∀ accessed ∈ records.resources,
    accessed.id = row.1.accessed → ∀ resourceClass ∈ records.classes,
      resourceClass.id = accessed.classId → resourceClass.validate row.2 = .ok ()
  globalValid : ∀ row ∈ records.grants.global, ∀ resourceClass ∈ records.classes,
    resourceClass.id = row.1.classId → resourceClass.validate row.2 = .ok ()
  createValid : ∀ row ∈ records.grants.create, ∀ resourceClass ∈ records.classes,
    resourceClass.id = row.1.classId → resourceClass.validateCreate row.2 = .ok ()
  directDistinct : ∀ key, Distinct (records.grants.direct.held key)
  globalDistinct : ∀ key, Distinct (records.grants.global.held key)
  createDistinct : ∀ key, Distinct (records.grants.create.held key)
  domainDistinct : ∀ key, Distinct (records.grants.domain.held key)
  domainCreateDistinct : ∀ key, Distinct (records.grants.domainCreate.held key)

variable {records}

theorem AdmitsScoped.refersToClass {π : Type} {validate : ResourceClass → π → Except Error Unit}
    {key : ClassKey} {permission : π} (h : records.AdmitsScoped validate key permission) :
    records.RefersToClass key := by
  obtain ⟨haccessor, hdomain, resourceClass, hmem, hid, _⟩ := h
  exact ⟨haccessor, ⟨resourceClass, hmem, hid⟩, hdomain⟩

/-- The class that admitted a grant is the only one with its handle. -/
theorem AdmitsScoped.valid {π : Type} {validate : ResourceClass → π → Except Error Unit}
    {key : ClassKey} {permission : π} (h : records.AdmitsScoped validate key permission)
    (hunique : (records.classes.map (·.id)).Nodup) {resourceClass : ResourceClass}
    (hclass : resourceClass ∈ records.classes) (hid : resourceClass.id = key.classId) :
    validate resourceClass permission = .ok () := by
  obtain ⟨_, _, admitting, hadmitting, hsame, hvalid⟩ := h
  rwa [List.inj_on_of_nodup_map hunique hclass hadmitting (hid.trans hsame.symm)]

theorem Sound.consistent (h : records.Sound) : records.Consistent where
  domainIds := h.registered.domains.nodup_ids
  domainNames := h.registered.domains.nodup_names
  classIds := h.registered.classIds
  classNames := h.registered.classNames
  resourceIds := h.registered.resourceIds
  parents _ hdomain _ hparent := h.registered.domains.exists_parent hdomain hparent
  waysUp _ hdomain := h.registered.domains.exists_wayUp hdomain
  resources resource hresource :=
    ⟨h.registered.resourceClass resource hresource, h.registered.resourceDomain resource hresource⟩
  directKeys row hrow := by
    obtain ⟨haccessor, accessed, hmem, hid, _⟩ := h.granted.direct.admitted hrow
    exact ⟨haccessor, accessed, hmem, hid⟩
  globalKeys _ hrow := (h.granted.global.admitted hrow).refersToClass
  createKeys _ hrow := (h.granted.create.admitted hrow).refersToClass
  domainKeys _ hrow := h.granted.domain.admitted hrow
  domainCreateKeys _ hrow := h.granted.domainCreate.admitted hrow
  directValid row hrow accessed haccessed hid resourceClass hclass hclassId := by
    obtain ⟨_, other, hother, hother', admitting, hadmitting, hadmitting', hvalid⟩ :=
      h.granted.direct.admitted hrow
    have haccessed' : accessed = other :=
      List.inj_on_of_nodup_map h.registered.resourceIds haccessed hother (hid.trans hother'.symm)
    rw [haccessed', ← hadmitting'] at hclassId
    rwa [List.inj_on_of_nodup_map h.registered.classIds hclass hadmitting hclassId]
  globalValid _ hrow _ hclass hid :=
    (h.granted.global.admitted hrow).valid h.registered.classIds hclass hid
  createValid _ hrow _ hclass hid :=
    (h.granted.create.admitted hrow).valid h.registered.classIds hclass hid
  directDistinct := h.granted.direct.distinct_held
  globalDistinct := h.granted.global.distinct_held
  createDistinct := h.granted.create.distinct_held
  domainDistinct := h.granted.domain.distinct_held
  domainCreateDistinct := h.granted.domainCreate.distinct_held

end Records

/-- Whatever mutations are made to an empty store, one after the other and whether they succeed or
are refused, its contents are consistent. -/
theorem Memory.run_consistent (mutations : List Mutation) :
    (Memory.run {} mutations).records.Consistent :=
  (Reachable.empty.run mutations).sound.consistent

end Authorization
