import Authorization.Proofs.Service.Cells
import Authorization.Proofs.Service.Effective

namespace Authorization.Memory

open EffectivePermission (Summarizes)

variable {memory : Memory} {π : Type} {strategy : ClosureStrategy} {accessor : ResourceId}
  {domain : DomainId} {accessors : List (Ranked ResourceId)}

theorem mem_classGrants_iff {rows : GrantRows ClassKey π} {grant : ClassGrant π} :
    grant ∈ Records.classGrants rows accessor ↔
      grant.permission ∈ rows.held ⟨accessor, grant.classId, grant.domainId⟩ := by
  rw [GrantRows.mem_held_iff, Records.classGrants, List.mem_map]
  constructor
  · rintro ⟨⟨⟨holder, classId, above⟩, permission⟩, hrow, rfl⟩
    obtain ⟨hmem, hholder⟩ := List.mem_filter.mp hrow
    rwa [← show holder = accessor from of_decide_eq_true hholder]
  · intro hmem
    exact ⟨_, List.mem_filter.mpr ⟨hmem, decide_eq_true rfl⟩, rfl⟩

theorem mem_domainGrants_iff {rows : GrantRows DomainKey π} {grant : DomainGrant π} :
    grant ∈ Records.domainGrants rows accessor ↔
      grant.permission ∈ rows.held ⟨accessor, grant.domainId⟩ := by
  rw [GrantRows.mem_held_iff, Records.domainGrants, List.mem_map]
  constructor
  · rintro ⟨⟨⟨holder, above⟩, permission⟩, hrow, rfl⟩
    obtain ⟨hmem, hholder⟩ := List.mem_filter.mp hrow
    rwa [← show holder = accessor from of_decide_eq_true hholder]
  · intro hmem
    exact ⟨_, List.mem_filter.mpr ⟨hmem, decide_eq_true rfl⟩, rfl⟩

/-- Whatever lies in a domain that exists exists. -/
theorem hasDomain_of_liesIn {above : DomainId} (hlies : memory.LiesIn domain above)
    (habove : memory.records.HasDomain above) : memory.records.HasDomain domain := by
  rcases hlies.cases_head with rfl | ⟨_, ⟨child, hchild, hid, _⟩, _⟩
  · exact habove
  · exact ⟨child, hchild, hid⟩

/-- What is below a domain at some distance has the domain above it at that distance. -/
theorem mem_below_iff (h : memory.records.Registered)
    {below : DomainId → List (Ranked DomainId)}
    (hbelow : ∀ above, (memory.service strategy).closure.descendants above = .ok (below above))
    (above : DomainId) (entry : Ranked DomainId) :
    entry ∈ below above ↔ Distance memory.HasParent entry.node entry.level above := by
  obtain ⟨entries, heq, hclosure⟩ := (service_computes h strategy).descendants above
  obtain rfl := Except.ok.inj (heq.symm.trans (hbelow above))
  rw [hclosure.mem_iff]
  exact Distance.reverse_iff

theorem exists_descendants (h : memory.records.Registered) (strategy : ClosureStrategy) :
    ∃ below : DomainId → List (Ranked DomainId),
      ∀ above, (memory.service strategy).closure.descendants above = .ok (below above) := by
  choose below hbelow _ using (service_computes h strategy).descendants
  exact ⟨below, hbelow⟩

/-- What grants to some holders give in the domains below those that they were made on. -/
def carried (below : DomainId → List (Ranked DomainId)) (accessors : List (Ranked ResourceId))
    (rows : GrantRows ClassKey π) : List (ClassGrant (EffectivePermission π)) :=
  accessors.flatMap fun holder =>
    (sortClassGrants (Records.classGrants rows holder.node)).flatMap fun grant =>
      (below grant.domainId).map fun entry =>
        ⟨grant.classId, entry.node, ⟨grant.permission, holder.level, entry.level⟩⟩

theorem spread_eq_carried {below : DomainId → List (Ranked DomainId)}
    (hbelow : ∀ above, (memory.service strategy).closure.descendants above = .ok (below above))
    (accessors : List (Ranked ResourceId)) (rows : GrantRows ClassKey π)
    {listAll : ResourceId → Except Error (List (ClassGrant π))}
    (hlist : ∀ holder, listAll holder = .ok (sortClassGrants (Records.classGrants rows holder))) :
    ∃ grants,
      gather (fun accessor => do
        let held ← listAll accessor.node
        return held.map ((accessor.level, ·))) accessors = .ok grants ∧
      gather (fun grant => (memory.service strategy).spread grant.1 grant.2) grants =
        .ok (carried below accessors rows) := by
  have hspread : ∀ grant : Nat × ClassGrant π,
      (memory.service strategy).spread grant.1 grant.2 =
        .ok ((below grant.2.domainId).map fun entry =>
          ⟨grant.2.classId, entry.node, ⟨grant.2.permission, grant.1, entry.level⟩⟩) := by
    intro grant
    exact bind_of_eq_ok (hbelow grant.2.domainId)
  refine ⟨_, gather_eq_ok fun holder _ => by rw [hlist]; rfl, ?_⟩
  rw [gather_eq_ok fun grant _ => hspread grant, List.flatMap_assoc]
  simp only [List.flatMap_map]
  rfl

/-- Grants carried down reach the domains from which a question would look up to them. -/
theorem mem_carried_iff (hA : IsClosure memory.Inherits accessor accessors)
    {below : DomainId → List (Ranked DomainId)}
    (hbelow : ∀ above entry, entry ∈ below above ↔
      Distance memory.HasParent entry.node entry.level above) {rows : GrantRows ClassKey π}
    {classId : ResourceClassId} {entry : EffectivePermission π} :
    ⟨classId, domain, entry⟩ ∈ carried below accessors rows ↔
      memory.CopyIn accessor domain (fun holder above => rows.held ⟨holder, classId, above⟩)
        entry := by
  -- A grant reaches a domain below it in as many hops as a question takes up to it.
  simp only [carried, List.mem_flatMap, List.mem_map, sortClassGrants, List.mem_mergeSort]
  constructor
  · rintro ⟨holder, hholder, grant, hgrant, reached, hreached, heq⟩
    cases heq
    exact ⟨holder.node, hA.mem_iff.mp hholder, grant.domainId, (hbelow _ _).mp hreached,
      mem_classGrants_iff.mp hgrant⟩
  · rintro ⟨holder, hholder, above, habove, hheld⟩
    refine ⟨⟨entry.inheritLevel, holder⟩, hA.mem_iff.mpr hholder,
      ⟨classId, above, entry.permission⟩, mem_classGrants_iff.mpr hheld,
      ⟨entry.domainLevel, domain⟩, (hbelow above _).mpr habove, rfl⟩

/-- What super-user grants reach is carried down from each of them, with its distance. -/
theorem superUserDomains_eq_foldl (h : memory.records.Registered) (strategy : ClosureStrategy)
    (hA : IsClosure memory.Inherits accessor accessors) :
    ∃ reached : List (DomainId × Proximity),
      (memory.service strategy).superUserDomains accessors =
        .ok (reached.foldl (fun entries candidate =>
          KeyedList.alter candidate.1 (Proximity.closest · candidate.2) entries) []) ∧
      ∀ domain proximity,
        (domain, proximity) ∈ reached ↔ memory.SuperUserAt accessor domain proximity := by
  obtain ⟨below, hbelow⟩ := exists_descendants h strategy
  have hmem := mem_below_iff h hbelow
  let reached : List (DomainId × Proximity) := accessors.flatMap fun holder =>
    (((Records.domainGrants memory.records.grants.domain holder.node).mergeSort
      fun a b => a.domainId ≤ b.domainId).filter (·.permission.isSuperUser)).flatMap fun grant =>
        (below grant.domainId).map fun entry => (entry.node, ⟨holder.level, entry.level⟩)
  refine ⟨reached, ?_, fun domain proximity => ?_⟩
  · apply bind_of_eq_ok
    apply gather_eq_ok
    intro holder _
    apply gather_eq_ok
    intro grant _
    exact bind_of_eq_ok (hbelow grant.domainId)
  · simp only [reached, List.mem_flatMap, List.mem_filter, List.mem_mergeSort, List.mem_map]
    constructor
    · rintro ⟨holder, hholder, grant, ⟨hgrant, hsuper⟩, entry, hentry, heq⟩
      cases heq
      exact ⟨holder.node, hA.mem_iff.mp hholder, grant.domainId, (hmem _ _).mp hentry,
        grant.permission, mem_domainGrants_iff.mp hgrant, hsuper⟩
    · rintro ⟨holder, hholder, above, habove, permission, hheld, hsuper⟩
      exact ⟨⟨proximity.inheritLevel, holder⟩, hA.mem_iff.mpr hholder, ⟨above, permission⟩,
        ⟨mem_domainGrants_iff.mpr hheld, hsuper⟩, ⟨proximity.domainLevel, domain⟩,
        (hmem above _).mpr habove, rfl⟩

/-- What was found is the closest of all super-user grants of the accessor for a domain. -/
def FindsClosest (memory : Memory) (accessor : ResourceId) (domain : DomainId)
    (found : Option Proximity) : Prop :=
  ∃ candidates : List Proximity,
    found = candidates.foldl (fun found candidate => some (Proximity.closest found candidate))
      none ∧
    ∀ proximity, proximity ∈ candidates ↔ memory.SuperUserAt accessor domain proximity

theorem FindsClosest.finds {found : Option Proximity}
    (h : memory.FindsClosest accessor domain found) :
    memory.FindsSuperUser accessor domain found := by
  obtain ⟨candidates, rfl, hcandidates⟩ := h
  exact foldl_closest_finds hcandidates

/-- The domains that super-user grants cover are those in which the accessor is super-user. -/
theorem superUserDomains_finds (h : memory.records.Registered) (strategy : ClosureStrategy)
    (hA : IsClosure memory.Inherits accessor accessors) :
    ∃ covered, (memory.service strategy).superUserDomains accessors = .ok covered ∧
      Ascending (covered.map (·.1)) ∧
      ∀ domain, memory.FindsClosest accessor domain (covered.lookup domain) := by
  obtain ⟨reached, hreached, hiff⟩ := superUserDomains_eq_foldl h strategy hA
  have hnil : Ascending (([] : KeyedList DomainId Proximity).map (·.1)) := List.Pairwise.nil
  refine ⟨_, hreached, KeyedList.ascending_foldl hnil reached, fun domain =>
    ⟨(reached.filter fun candidate => candidate.1 = domain).map Prod.snd, ?_, ?_⟩⟩
  · rw [KeyedList.lookup_foldl hnil, List.foldl_map]
    rfl
  · intro proximity
    rw [← hiff, List.mem_map]
    constructor
    · rintro ⟨⟨other, _⟩, hother, rfl⟩
      obtain ⟨hmem, hdomain⟩ := List.mem_filter.mp hother
      rwa [← show other = domain from of_decide_eq_true hdomain]
    · intro hmem
      exact ⟨_, List.mem_filter.mpr ⟨hmem, decide_eq_true rfl⟩, rfl⟩

section Cells

variable [Permission π] {collected : List (ClassGrant (EffectivePermission π))}
  {covered : KeyedList DomainId Proximity} {defined : ResourceClass → List π}
  {classes : List ResourceClass} {resourceClass : ResourceClass}

theorem Expands.of_perm {entries effective : List (EffectivePermission π)} {listed : List π}
    (h : memory.Expands accessor domain listed entries) (hperm : effective.Perm entries) :
    memory.Expands accessor domain listed effective := by
  have hpermissions := hperm.map (·.permission)
  obtain ⟨proximity, hat, hleast, hall⟩ := h.reported
  constructor
  · exact hpermissions.nodup_iff.mpr h.once
  · exact hpermissions.mem_iff.trans h.permission_iff
  · intro entry hentry
    exact h.regrantable (hperm.mem_iff.mp hentry)
  · exact ⟨proximity, hat, hleast, fun entry hentry => hall entry (hperm.mem_iff.mp hentry)⟩

variable [DecidableEq π]

/-- Cells stand for domains and classes that exist. -/
theorem exists_of_cell? (h : memory.records.Sound) {rows : GrantRows ClassKey π}
    (hrows : ∀ {key permission}, (key, permission) ∈ rows → memory.records.HasDomain key.domainId ∧
      ∃ resourceClass ∈ memory.records.classes, resourceClass.id = key.classId)
    (hcollected : ∀ classId domain entry, ⟨classId, domain, entry⟩ ∈ collected ↔
      memory.CopyIn accessor domain (fun holder above => rows.held ⟨holder, classId, above⟩) entry)
    (hcovered : Ascending (covered.map (·.1)))
    (hfinds : ∀ domain, memory.FindsSuperUser accessor domain (covered.lookup domain))
    (hclasses : ∀ resourceClass ∈ classes, resourceClass ∈ memory.records.classes)
    {classId : ResourceClassId} {cell : List (EffectivePermission π)}
    (hcell : Table.cell? (Service.cover defined classes covered (Service.collectCells collected))
      domain classId = some cell) :
    memory.records.HasDomain domain ∧
      ∃ resourceClass ∈ memory.records.classes, resourceClass.id = classId := by
  have hcells := Service.ordered_collectCells collected
  have hwasCollected : Table.cell? (Service.collectCells collected) domain classId = some cell →
      memory.records.HasDomain domain ∧
        ∃ resourceClass ∈ memory.records.classes, resourceClass.id = classId := by
    intro hcell
    rw [Service.cell?_collectCells, Service.asCell_eq_some_iff] at hcell
    obtain ⟨entry, hentry⟩ := List.exists_mem_of_ne_nil _ hcell.2
    obtain ⟨holder, _, above, habove, hheld⟩ :=
      (hcollected _ _ _).mp (Service.mem_collected_iff.mp hentry)
    obtain ⟨hdomain, hclass⟩ := hrows (GrantRows.mem_held_iff.mp hheld)
    exact ⟨hasDomain_of_liesIn habove.walk.reachable hdomain, hclass⟩
  constructor
  -- A covered domain exists because the super-user grant that covers it was admitted.
  · cases hlookup : covered.lookup domain with
    | none =>
      rw [Service.cell?_cover_of_not_covered hcells hcovered defined hlookup] at hcell
      exact (hwasCollected hcell).1
    | some proximity =>
      obtain ⟨holder, _, above, habove, permission, hheld, _⟩ :=
        (hfinds domain).at_of_some hlookup
      have hadmits := h.granted.domain.admitted (GrantRows.mem_held_iff.mp hheld)
      exact hasDomain_of_liesIn habove.walk.reachable hadmits.2
  -- Covering goes through the classes that are listed, so it adds cells for no others.
  · rcases Service.exists_class_of_cell?_cover hcells hcell with ⟨found, hfound, hid⟩ | hold
    · exact ⟨found, hclasses found hfound, hid⟩
    · exact (hwasCollected hold).2

variable [LawfulPermission π]

theorem expands_merge_expand {proximity : Proximity} {listed : List π}
    (hdefined : Regrantables listed)
    (hfound : memory.FindsSuperUser accessor domain (some proximity)) :
    memory.Expands accessor domain listed
      (EffectivePermission.merge (proximity.expand listed)) :=
  (expands_expand hdefined hfound).of_perm (proximity.merge_expand_perm listed)

/-- After merging, every cell is what a question resolves for its domain and class. -/
theorem cellOf_resolves {rows : GrantRows ClassKey π} {classId : ResourceClassId} {listed : List π}
    (hcollected : ∀ entry, ⟨classId, domain, entry⟩ ∈ collected ↔
      memory.CopyIn accessor domain (fun holder above => rows.held ⟨holder, classId, above⟩) entry)
    (hfound : memory.FindsSuperUser accessor domain (covered.lookup domain))
    (hdefined : Regrantables listed) (hne : listed ≠ []) :
    ∃ effective, memory.Resolves accessor domain listed
        (memory.CopyIn accessor domain fun holder above => rows.held ⟨holder, classId, above⟩)
        effective ∧
      (Service.cellOf covered collected listed domain classId).map EffectivePermission.merge =
        Service.asCell effective := by
  unfold Service.cellOf
  cases hlookup : covered.lookup domain with
  | none =>
    -- Without super-user the cell is what was collected for it, merged.
    rw [hlookup] at hfound
    have hnot : ¬memory.IsSuperUser accessor domain := fun hsuper =>
      Bool.false_ne_true (hfound.isSome_iff.mpr hsuper)
    dsimp only
    rw [Service.map_merge_asCell]
    refine ⟨_, ⟨fun _ => ?_, fun hsuper => absurd hsuper hnot⟩, rfl⟩
    apply (EffectivePermission.summarizes_merge _).congr
    intro entry
    exact Service.mem_collected_iff.trans (hcollected entry)
  | some proximity =>
    -- With one it is all that the class defines, which is something.
    rw [hlookup] at hfound
    have hsuper := hfound.isSome_iff.mp rfl
    have hexpands := expands_merge_expand hdefined hfound
    have hnonempty : EffectivePermission.merge (proximity.expand listed) ≠ [] := by
      obtain ⟨permission, hpermission⟩ := List.exists_mem_of_ne_nil _ hne
      obtain ⟨entry, hentry, _⟩ := List.mem_map.mp (hexpands.permission_iff.mpr hpermission)
      exact List.ne_nil_of_mem hentry
    refine ⟨_, ⟨fun hnot => absurd hsuper hnot, fun _ => hexpands⟩, ?_⟩
    rw [Service.asCell_of_ne_nil hnonempty]
    rfl

end Cells

section Names

variable {cells : PermissionCells π} {classes : List ResourceClass}

theorem nameDomains_eq (h : memory.records.Registered) (strategy : ClosureStrategy)
    (hdomains : ∀ row ∈ cells, memory.records.HasDomain row.1) :
    ∃ rows, (memory.service strategy).nameDomains cells = .ok rows ∧
      ∀ row, row ∈ rows ↔ ∃ domain ∈ memory.records.domains,
        domain.name = row.1 ∧ (domain.id, row.2) ∈ cells := by
  have hask : ∀ row ∈ cells, (do
      let domain ← (memory.service strategy).directory.findDomain row.1
      let domain ← orFail (.grantedDomainMissing row.1) domain
      return [(domain.name, row.2)]) =
        .ok ((memory.records.findDomain? row.1).toList.map fun domain => (domain.name, row.2)) := by
    intro row hrow
    obtain ⟨domain, hdomain, hid⟩ := hdomains row hrow
    have hfind := h.findDomain?_eq_some_iff.mpr ⟨hdomain, hid⟩
    rw [hfind]
    exact bind_of_eq_ok (congrArg Except.ok hfind)
  refine ⟨_, gather_eq_ok hask, fun row => ?_⟩
  simp only [List.mem_flatMap, List.mem_map, Option.mem_toList, h.findDomain?_eq_some_iff]
  constructor
  · rintro ⟨⟨_, _⟩, hrow, domain, ⟨hdomain, rfl⟩, rfl⟩
    exact ⟨domain, hdomain, rfl, hrow⟩
  · rintro ⟨domain, hdomain, hname, hrow⟩
    exact ⟨_, hrow, domain, ⟨hdomain, rfl⟩, Prod.ext hname rfl⟩

theorem nameClasses_eq (hunique : (classes.map (·.id)).Nodup)
    {rows : List (Label × KeyedList ResourceClassId (List (EffectivePermission π)))}
    (hclasses : ∀ row ∈ rows, ∀ cell ∈ row.2,
      ∃ resourceClass ∈ classes, resourceClass.id = cell.1) :
    ∃ named, Service.nameClasses classes rows = .ok named ∧
      ∀ entry, entry ∈ named ↔ ∃ row ∈ rows, row.1 = entry.1 ∧ ∃ resourceClass ∈ classes,
        resourceClass.name = entry.2.1 ∧ (resourceClass.id, entry.2.2) ∈ row.2 := by
  -- The last class with a handle counts, but each has only one.
  have hunique' : (classes.reverse.map (·.id)).Nodup := by
    rwa [List.map_reverse, List.nodup_reverse]
  have hfind : ∀ {id resourceClass},
      (classes.reverse.find? fun other => other.id = id) = some resourceClass ↔
        resourceClass ∈ classes ∧ resourceClass.id = id := by
    intro id resourceClass
    rw [find?_eq_some_iff_of_nodup hunique', List.mem_reverse]
  have hask : ∀ row ∈ rows, gather (fun cell => do
      let name ← Service.requireClassName classes cell.1
      return [(row.1, name, cell.2)]) row.2 =
        .ok (row.2.flatMap fun cell =>
          (classes.reverse.find? fun other => other.id = cell.1).toList.map fun resourceClass =>
            (row.1, resourceClass.name, cell.2)) := by
    intro row hrow
    apply gather_eq_ok
    intro cell hcell
    obtain ⟨resourceClass, hclass, hid⟩ := hclasses row hrow cell hcell
    have hfound := hfind.mpr ⟨hclass, hid⟩
    have hname : Service.requireClassName classes cell.1 = .ok resourceClass.name := by
      rw [Service.requireClassName, hfound]
      rfl
    rw [hfound]
    exact bind_of_eq_ok hname
  refine ⟨_, gather_eq_ok hask, fun entry => ?_⟩
  simp only [List.mem_flatMap, List.mem_map, Option.mem_toList, hfind]
  constructor
  · rintro ⟨row, hrow, ⟨_, _⟩, hcell, resourceClass, ⟨hclass, rfl⟩, rfl⟩
    exact ⟨row, hrow, rfl, resourceClass, hclass, rfl, hcell⟩
  · rintro ⟨row, hrow, hname, resourceClass, hclass, hclassName, hcell⟩
    exact ⟨row, hrow, _, hcell, resourceClass, ⟨hclass, rfl⟩,
      Prod.ext hname (Prod.ext hclassName rfl)⟩

/-- Entries that give cells with the names of their domains and classes. -/
def NamesCells (memory : Memory) (cells : PermissionCells π)
    (entries : List (Label × Label × List (EffectivePermission π))) : Prop :=
  ∀ entry, entry ∈ entries ↔
    ∃ domain ∈ memory.records.domains, domain.name = entry.1 ∧
      ∃ resourceClass ∈ memory.records.classes, resourceClass.name = entry.2.1 ∧
        Table.cell? cells domain.id resourceClass.id = some entry.2.2

/-- All cells of domains and classes that exist are named. -/
theorem exists_named (h : memory.records.Registered) (strategy : ClosureStrategy)
    (hlisted : classes.Perm memory.records.classes) (hcells : Table.Ordered cells)
    (hexists : ∀ {domain classId cell}, Table.cell? cells domain classId = some cell →
      memory.records.HasDomain domain ∧
        ∃ resourceClass ∈ memory.records.classes, resourceClass.id = classId) :
    ∃ rows entries, (memory.service strategy).nameDomains cells = .ok rows ∧
      Service.nameClasses classes rows = .ok entries ∧ memory.NamesCells cells entries := by
  have hunique : (classes.map (·.id)).Nodup := (hlisted.map _).nodup_iff.mpr h.classIds
  have hdomains : ∀ row ∈ cells, memory.records.HasDomain row.1 := by
    intro row hrow
    obtain ⟨classId, cell, hcell⟩ := hcells.exists_cell hrow
    exact (hexists hcell).1
  obtain ⟨rows, hrows, hmem⟩ := nameDomains_eq h strategy hdomains
  have hclasses : ∀ row ∈ rows, ∀ cell ∈ row.2,
      ∃ resourceClass ∈ classes, resourceClass.id = cell.1 := by
    intro row hrow cell hcell
    -- A named row has the cells of the row that it names.
    obtain ⟨domain, _, _, hdomain⟩ := (hmem row).mp hrow
    have hfound := hcells.mem_cell_iff.mp ⟨row.2, hdomain, hcell⟩
    obtain ⟨resourceClass, hclass, hid⟩ := (hexists hfound).2
    exact ⟨resourceClass, hlisted.mem_iff.mpr hclass, hid⟩
  obtain ⟨entries, hentries, hmem'⟩ := nameClasses_eq hunique hclasses
  refine ⟨rows, entries, hrows, hentries, fun entry => ?_⟩
  rw [hmem']
  simp only [hmem, hlisted.mem_iff, ← hcells.mem_cell_iff]
  constructor
  · rintro ⟨row, ⟨domain, hdomain, hname, hrow⟩, hsame, resourceClass, hclass, hclassName, hcell⟩
    exact ⟨domain, hdomain, hname.trans hsame, resourceClass, hclass, hclassName, row.2, hrow,
      hcell⟩
  · rintro ⟨domain, hdomain, hname, resourceClass, hclass, hclassName, row, hrow, hcell⟩
    exact ⟨(entry.1, row), ⟨domain, hdomain, hname, hrow⟩, rfl, resourceClass, hclass, hclassName,
      hcell⟩

variable [Permission π] [DecidableEq π]
  {entries : List (Label × Label × List (EffectivePermission π))}

/-- A cell of the overview merges the cell whose domain and class have its names. -/
theorem cell?_overviewOf (h : memory.records.Registered) (hnames : memory.NamesCells cells entries)
    {domain : Domain} (hdomain : domain ∈ memory.records.domains) {resourceClass : ResourceClass}
    (hclass : resourceClass ∈ memory.records.classes) :
    Table.cell? (Service.overviewOf entries) domain.name.text resourceClass.name.text =
      (Table.cell? cells domain.id resourceClass.id).map EffectivePermission.merge := by
  -- Names are unique as handles are, so no other cell goes by these names.
  have hiff : ∀ cell, (domain.name, resourceClass.name, cell) ∈ entries ↔
      Table.cell? cells domain.id resourceClass.id = some cell := by
    intro cell
    rw [hnames]
    constructor
    · rintro ⟨other, hother, hname, other', hother', hname', hcell⟩
      have hsame := List.inj_on_of_nodup_map h.domains.nodup_names hother hdomain hname
      have hsame' := List.inj_on_of_nodup_map h.classNames hother' hclass hname'
      rwa [← hsame, ← hsame']
    · intro hcell
      exact ⟨domain, hdomain, rfl, resourceClass, hclass, rfl, hcell⟩
  cases hcell : Table.cell? cells domain.id resourceClass.id with
  | none =>
    rw [Option.map_none, Option.eq_none_iff_forall_ne_some]
    intro merged hmerged
    obtain ⟨⟨row, column, cell⟩, hentry, hrow, hcolumn⟩ := Service.exists_named_of_cell? hmerged
    obtain rfl : row = domain.name := Label.text_injective hrow
    obtain rfl : column = resourceClass.name := Label.text_injective hcolumn
    cases hcell.symm.trans ((hiff cell).mp hentry)
  | some cell =>
    apply Service.cell?_overviewOf_eq_some ((hiff cell).mpr hcell)
    intro other hother
    exact Option.some.inj (((hiff other).mp hother).symm.trans hcell)

theorem exists_of_overviewOf (hnames : memory.NamesCells cells entries) {row column : String}
    {cell : List (EffectivePermission π)}
    (hcell : Table.cell? (Service.overviewOf entries) row column = some cell) :
    (∃ domain ∈ memory.records.domains, domain.name.text = row) ∧
      ∃ resourceClass ∈ memory.records.classes, resourceClass.name.text = column := by
  obtain ⟨entry, hentry, hrow, hcolumn⟩ := Service.exists_named_of_cell? hcell
  obtain ⟨domain, hdomain, hname, resourceClass, hclass, hclassName, _⟩ := (hnames entry).mp hentry
  constructor
  · exact ⟨domain, hdomain, (congrArg Label.text hname).trans hrow⟩
  · exact ⟨resourceClass, hclass, (congrArg Label.text hclassName).trans hcolumn⟩

end Names

/-- Grants that may stand are for domains and classes that exist. -/
theorem refersTo_of_lawful {rows : GrantRows ClassKey π}
    {validate : ResourceClass → π → Except Error Unit} [Permission π] [DecidableEq π]
    (hrows : rows.Lawful (memory.records.AdmitsScoped validate)) {key : ClassKey} {permission : π}
    (hrow : (key, permission) ∈ rows) : memory.records.HasDomain key.domainId ∧
      ∃ resourceClass ∈ memory.records.classes, resourceClass.id = key.classId := by
  obtain ⟨_, hdomain, resourceClass, hclass, hid, _⟩ := hrows.admitted hrow
  exact ⟨hdomain, resourceClass, hclass, hid⟩

section Whole

variable [Permission π]

/-- An overview that agrees with questions: for every domain and class it has a cell if and only if
the question reports something, with the same permissions, and at the same distances unless the
accessor is super-user in the domain. There are no rows and cells but for domains and classes. -/
structure Agrees (memory : Memory) (accessor : ResourceId) (overview : PermissionOverview π)
    (ask : String → Option String → Except Error (List (EffectivePermission π))) : Prop where
  ordered : Table.Ordered overview
  domain_of_row : ∀ row ∈ overview, ∃ domain ∈ memory.records.domains, domain.name.text = row.1
  class_of_cell : ∀ row ∈ overview, ∀ cell ∈ row.2,
    ∃ resourceClass ∈ memory.records.classes, resourceClass.name.text = cell.1
  cell : ∀ domain ∈ memory.records.domains, ∀ resourceClass ∈ memory.records.classes,
    ∃ effective, ask resourceClass.name.text (some domain.name.text) = .ok effective ∧
      ((Table.cell? overview domain.name.text resourceClass.name.text).isSome = true ↔
        effective ≠ []) ∧
      ∀ cell, Table.cell? overview domain.name.text resourceClass.name.text = some cell →
        (cell.map (·.permission)).Perm (effective.map (·.permission)) ∧
          (¬memory.IsSuperUser accessor domain.id → cell.Perm effective)

variable [LawfulPermission π]

/-- What is resolved from the same copies is the same: all of it up to order, or the permissions
only where the accessor is super-user. -/
theorem Resolves.agrees {listed : List π} {copy : EffectivePermission π → Prop}
    {effective other : List (EffectivePermission π)}
    (h : memory.Resolves accessor domain listed copy effective)
    (h' : memory.Resolves accessor domain listed copy other) :
    (effective.map (·.permission)).Perm (other.map (·.permission)) ∧
      (¬memory.IsSuperUser accessor domain → effective.Perm other) := by
  have hsame : ¬memory.IsSuperUser accessor domain → effective.Perm other :=
    fun hnot => (h.summary hnot).perm (h'.summary hnot)
  refine ⟨?_, hsame⟩
  by_cases hsuper : memory.IsSuperUser accessor domain
  · have hexpands := h.expansion hsuper
    have hexpands' := h'.expansion hsuper
    apply (List.perm_ext_iff_of_nodup hexpands.once hexpands'.once).mpr
    intro permission
    exact hexpands.permission_iff.trans hexpands'.permission_iff.symm
  · exact (hsame hsuper).map _

variable [DecidableEq π] {rows : GrantRows ClassKey π} {defined : ResourceClass → List π}
  {ask : String → Option String → Except Error (List (EffectivePermission π))}

theorem agrees_overviewOf (h : memory.records.Registered) {cells : PermissionCells π}
    {entries : List (Label × Label × List (EffectivePermission π))}
    (hnames : memory.NamesCells cells entries)
    (hcells : ∀ resourceClass ∈ memory.records.classes, ∀ domain, ∃ effective,
      memory.Resolves accessor domain (defined resourceClass)
        (memory.CopyIn accessor domain fun holder above =>
          rows.held ⟨holder, resourceClass.id, above⟩) effective ∧
      (Table.cell? cells domain resourceClass.id).map EffectivePermission.merge =
        Service.asCell effective)
    (hask : ∀ domain ∈ memory.records.domains, ∀ resourceClass ∈ memory.records.classes,
      ∃ effective, ask resourceClass.name.text (some domain.name.text) = .ok effective ∧
        memory.Resolves accessor domain.id (defined resourceClass)
          (memory.CopyIn accessor domain.id fun holder above =>
            rows.held ⟨holder, resourceClass.id, above⟩) effective) :
    memory.Agrees accessor (Service.overviewOf entries) ask := by
  have hordered := Service.ordered_overviewOf entries
  constructor
  · exact hordered
  · intro row hrow
    obtain ⟨column, cell, hcell⟩ := hordered.exists_cell hrow
    exact (exists_of_overviewOf hnames hcell).1
  · intro row hrow cell hcell
    exact (exists_of_overviewOf hnames (hordered.mem_cell_iff.mp ⟨row.2, hrow, hcell⟩)).2
  · intro domain hdomain resourceClass hclass
    obtain ⟨effective, heffective, hresolves⟩ := hask domain hdomain resourceClass hclass
    obtain ⟨shown, hresolves', hcell⟩ := hcells resourceClass hclass domain.id
    have hsame := hresolves'.agrees hresolves
    -- What is shown and what is reported resolve the same, so neither is empty without the other.
    have hlength : shown.length = effective.length := by simpa using hsame.1.length_eq
    rw [← cell?_overviewOf h hnames hdomain hclass] at hcell
    refine ⟨effective, heffective, ?_, fun cell hfound => ?_⟩
    · rw [hcell, Service.asCell_isSome_iff, ← List.length_pos_iff, hlength, List.length_pos_iff]
    · rw [hcell, Service.asCell_eq_some_iff] at hfound
      rwa [← hfound.1]

omit [LawfulPermission π] in
/-- The overview of what grants for classes within domains give is made without an error, of cells
that hold what was carried down or what a super-user gets. -/
theorem overview_eq_ok (h : memory.records.Sound) {accessor : Resource}
    (haccessor : accessor ∈ memory.records.resources)
    (haccessors : (memory.service strategy).closure.accessors accessor.id = .ok accessors)
    {below : DomainId → List (Ranked DomainId)}
    (hbelow : ∀ above, (memory.service strategy).closure.descendants above = .ok (below above))
    {listAll : ResourceId → Except Error (List (ClassGrant π))}
    (hlist : ∀ holder, listAll holder = .ok (sortClassGrants (Records.classGrants rows holder)))
    (hrows : ∀ {key permission}, (key, permission) ∈ rows → memory.records.HasDomain key.domainId ∧
      ∃ resourceClass ∈ memory.records.classes, resourceClass.id = key.classId) :
    ∃ cells covered entries,
      (memory.service strategy).overview accessor.id listAll defined =
        .ok (Service.overviewOf entries) ∧
      memory.NamesCells cells entries ∧
      (∀ domain, memory.FindsClosest accessor.id domain (covered.lookup domain)) ∧
      ∀ resourceClass ∈ memory.records.classes, ∀ domain,
        Table.cell? cells domain resourceClass.id =
          Service.cellOf covered (carried below accessors rows) (defined resourceClass) domain
            resourceClass.id := by
  have hregistered := h.registered
  have hA := isClosure_accessors hregistered haccessors
  obtain ⟨grants, hgrants, hspread⟩ := spread_eq_carried hbelow accessors rows hlist
  obtain ⟨covered, hsuper, hcovered, hclosest⟩ := superUserDomains_finds hregistered strategy hA
  let classes := memory.records.classes.mergeSort fun a b => a.id ≤ b.id
  have hlisted : classes.Perm memory.records.classes := List.mergeSort_perm _ _
  have hunique : (classes.map (·.id)).Nodup := (hlisted.map _).nodup_iff.mpr hregistered.classIds
  -- All cells are made before any is named.
  let collected := carried below accessors rows
  let cells := Service.cover defined classes covered (Service.collectCells collected)
  have hordered : Table.Ordered cells :=
    Service.ordered_cover (Service.ordered_collectCells collected) defined
  have hcollected : ∀ classId domain entry, ⟨classId, domain, entry⟩ ∈ collected ↔
      memory.CopyIn accessor.id domain (fun holder above => rows.held ⟨holder, classId, above⟩)
        entry :=
    fun _ _ _ => mem_carried_iff hA (mem_below_iff hregistered hbelow)
  obtain ⟨named, entries, hnamed, hentries, hnames⟩ :=
    exists_named hregistered strategy hlisted hordered fun hcell =>
      exists_of_cell? h hrows hcollected hcovered (fun domain => (hclosest domain).finds)
        (fun _ => hlisted.mem_iff.mp) hcell
  refine ⟨cells, covered, entries, ?_, hnames, hclosest, fun resourceClass hclass domain => ?_⟩
  · calc (memory.service strategy).overview accessor.id listAll defined
      _ = _ := bind_of_eq_ok ((requireParticipant_eq_ok_iff hregistered).mpr ⟨haccessor, rfl⟩)
      _ = _ := bind_of_eq_ok haccessors
      _ = _ := bind_of_eq_ok hgrants
      _ = _ := bind_of_eq_ok hspread
      _ = _ := bind_of_eq_ok (a := classes) rfl
      _ = _ := bind_of_eq_ok hsuper
      _ = _ := bind_of_eq_ok hnamed
      _ = .ok (Service.overviewOf entries) := bind_of_eq_ok hentries
  · exact Service.cell?_cover_collectCells collected hcovered hunique defined
      (hlisted.mem_iff.mpr hclass) domain

/-- The cells of the overview resolve what the grants give. -/
theorem exists_overview (h : memory.records.Sound) (strategy : ClosureStrategy)
    {accessor : Resource} (haccessor : accessor ∈ memory.records.resources)
    {listAll : ResourceId → Except Error (List (ClassGrant π))}
    (hlist : ∀ holder, listAll holder = .ok (sortClassGrants (Records.classGrants rows holder)))
    (hrows : ∀ {key permission}, (key, permission) ∈ rows → memory.records.HasDomain key.domainId ∧
      ∃ resourceClass ∈ memory.records.classes, resourceClass.id = key.classId)
    (hdefined : ∀ resourceClass,
      Regrantables (defined resourceClass) ∧ defined resourceClass ≠ []) :
    ∃ cells entries,
      (memory.service strategy).overview accessor.id listAll defined =
        .ok (Service.overviewOf entries) ∧
      memory.NamesCells cells entries ∧
      ∀ resourceClass ∈ memory.records.classes, ∀ domain, ∃ effective,
        memory.Resolves accessor.id domain (defined resourceClass)
          (memory.CopyIn accessor.id domain fun holder above =>
            rows.held ⟨holder, resourceClass.id, above⟩) effective ∧
        (Table.cell? cells domain resourceClass.id).map EffectivePermission.merge =
          Service.asCell effective := by
  have hregistered := h.registered
  obtain ⟨accessors, haccessors, hA⟩ :=
    (service_computes hregistered strategy).accessors accessor.id
  obtain ⟨below, hbelow⟩ := exists_descendants hregistered strategy
  obtain ⟨cells, covered, entries, hoverview, hnames, hclosest, hcells⟩ :=
    overview_eq_ok h haccessor haccessors hbelow hlist hrows
  refine ⟨cells, entries, hoverview, hnames, fun resourceClass hclass domain => ?_⟩
  rw [hcells resourceClass hclass domain]
  exact cellOf_resolves (fun entry => mem_carried_iff hA (mem_below_iff hregistered hbelow))
    (hclosest domain).finds (hdefined resourceClass).1 (hdefined resourceClass).2

/-- The overview agrees with whatever question resolves the same. -/
theorem overview_agrees (h : memory.records.Sound) (strategy : ClosureStrategy)
    {accessor : Resource} (haccessor : accessor ∈ memory.records.resources)
    {listAll : ResourceId → Except Error (List (ClassGrant π))}
    (hlist : ∀ holder, listAll holder = .ok (sortClassGrants (Records.classGrants rows holder)))
    (hrows : ∀ {key permission}, (key, permission) ∈ rows → memory.records.HasDomain key.domainId ∧
      ∃ resourceClass ∈ memory.records.classes, resourceClass.id = key.classId)
    (hdefined : ∀ resourceClass,
      Regrantables (defined resourceClass) ∧ defined resourceClass ≠ [])
    (hask : ∀ domain ∈ memory.records.domains, ∀ resourceClass ∈ memory.records.classes,
      ∃ effective, ask resourceClass.name.text (some domain.name.text) = .ok effective ∧
        memory.Resolves accessor.id domain.id (defined resourceClass)
          (memory.CopyIn accessor.id domain.id fun holder above =>
            rows.held ⟨holder, resourceClass.id, above⟩) effective) :
    ∃ overview, (memory.service strategy).overview accessor.id listAll defined = .ok overview ∧
      memory.Agrees accessor.id overview ask := by
  obtain ⟨cells, entries, hoverview, hnames, hcells⟩ :=
    exists_overview h strategy haccessor hlist hrows hdefined
  exact ⟨_, hoverview, agrees_overviewOf h.registered hnames hcells hask⟩

end Whole

/-- The overviews of what an accessor may create and of what it holds on all resources agree with
the questions about single domains and classes: a cell is there if and only if the question reports
something, it holds the same permissions, and it holds them at the same distances unless the
accessor is super-user in the domain. -/
theorem overviews_agree_with_questions (h : memory.Reachable) (strategy : ClosureStrategy)
    {accessor : Resource} (haccessor : accessor ∈ memory.records.resources) :
    (∃ overview, (memory.service strategy).createOverview accessor.id = .ok overview ∧
      memory.Agrees accessor.id overview
        ((memory.service strategy).effectiveResourceCreatePermissions accessor.id)) ∧
    ∃ overview, (memory.service strategy).globalOverview accessor.id = .ok overview ∧
      memory.Agrees accessor.id overview
        ((memory.service strategy).effectiveGlobalResourcePermissions accessor.id) := by
  have hsound := h.sound
  constructor
  · apply overview_agrees hsound strategy haccessor (fun holder => rfl)
    · intro key permission hrow
      obtain ⟨_, hdomain, resourceClass, hclass, hid, _⟩ := hsound.granted.create.admitted hrow
      exact ⟨hdomain, resourceClass, hclass, hid⟩
    · intro resourceClass
      exact ⟨resourceClass.regrantables_definedCreatePermissions,
        resourceClass.definedCreatePermissions_ne_nil⟩
    · intro domain hdomain resourceClass hclass
      obtain ⟨effective, hchecked, hresolves⟩ := checkedCreate_resolves hsound.registered strategy
        haccessor hclass (Label.ofText?_text _) hdomain
        (show AskedAbout accessor domain (some domain.name.text) from Label.ofText?_text _)
        (List.forall_mem_nil _)
      exact ⟨effective, bind_eq_ok hchecked rfl, hresolves⟩
  · apply overview_agrees hsound strategy haccessor (fun holder => rfl)
    · intro key permission hrow
      obtain ⟨_, hdomain, resourceClass, hclass, hid, _⟩ := hsound.granted.global.admitted hrow
      exact ⟨hdomain, resourceClass, hclass, hid⟩
    · intro resourceClass
      exact ⟨resourceClass.regrantables_definedPermissions,
        resourceClass.definedPermissions_ne_nil⟩
    · intro domain hdomain resourceClass hclass
      exact checkedGlobal_resolves hsound.registered strategy haccessor hclass
        (Label.ofText?_text _) hdomain
        (show AskedAbout accessor domain (some domain.name.text) from Label.ofText?_text _)
        (List.forall_mem_nil _)

/-- The overview shows that the clerk may create documents in the branch, which the team may do in
the company. -/
theorem clerk_overview_agrees :
    ∃ overview, (Office.store.service .recursive).createOverview Office.clerk.id = .ok overview ∧
      (Table.cell? overview "branch" "document").isSome = true := by
  have hclerk : Office.clerk ∈ Office.store.records.resources := by decide
  have hbranch : Office.branch ∈ Office.store.records.domains := by decide
  have hdocument : Office.document ∈ Office.store.records.classes := by decide
  obtain ⟨⟨overview, hoverview, hagrees⟩, _⟩ :=
    overviews_agree_with_questions Office.store_reachable .recursive hclerk
  obtain ⟨effective, heffective, hcell, _⟩ :=
    hagrees.cell Office.branch hbranch Office.document hdocument
  obtain ⟨reported, hchecked, hresolves⟩ := checkedCreate_resolves
    Office.store_reachable.sound.registered .recursive hclerk hdocument
    (Label.ofText?_text Office.document.name) hbranch
    (show AskedAbout Office.clerk Office.branch (some Office.branch.name.text) from
      Label.ofText?_text _) (List.forall_mem_nil _)
  have hsame : reported = effective := by
    have hreported : (Office.store.service .recursive).effectiveResourceCreatePermissions
        Office.clerk.id Office.document.name.text (some Office.branch.name.text) = .ok reported :=
      bind_eq_ok hchecked rfl
    exact Except.ok.inj (hreported.symm.trans heffective)
  -- What the team holds in the company reaches the branch, so something is reported.
  have hheld : Office.store.HoldsToCreate Office.clerk.id Office.document.id Office.branch.id
      ⟨.create, true⟩ :=
    ⟨Office.team.id, Office.clerk_actsAs_team, Office.company.id, Office.branch_liesIn_company,
      by decide⟩
  obtain ⟨copied, hcopied, _⟩ := exists_copyIn_iff.mpr hheld
  have hne := (hresolves.summary (Office.clerk_not_superUser _)).ne_nil_iff.mpr ⟨copied, hcopied⟩
  rw [hsame] at hne
  exact ⟨overview, hoverview, hcell.mpr hne⟩

end Authorization.Memory
