import Authorization.Hierarchy.Edges
import Authorization.Proofs.Hierarchy.Condensed
import Authorization.Proofs.Hierarchy.Relaxation
import Authorization.Proofs.Hierarchy.Search
import Authorization.Proofs.Lookup

namespace Authorization

section Reported

variable {α : Type} [LE α] [DecidableLE α] [LT α] [DecidableEq α] [Std.IsLinearOrder α]
  [Std.LawfulOrderLT α] {hop : α → α → Prop} {seed : α} {entries : List (Ranked α)}

theorem isClosure_sort (hnodup : entries.Nodup)
    (hmem : ∀ {entry}, entry ∈ entries ↔ Distance hop seed entry.level entry.node) :
    IsClosure hop seed (Ranked.sort entries) := by
  constructor
  · intro entry
    rw [Ranked.sort, List.mem_mergeSort, hmem]
  · have hdistinct : (Ranked.sort entries).Nodup :=
      (List.mergeSort_perm entries Ranked.notAfter).nodup_iff.mpr hnodup
    refine ((Ranked.pairwise_sort entries).and hdistinct).imp fun {a b} hab => ?_
    exact (Ranked.notAfter_iff.mp hab.1).resolve_right hab.2

/-- A closure is already condensed. -/
theorem IsClosure.normalize_eq (h : IsClosure hop seed entries) (unseeded : Error) :
    Ranked.normalize seed unseeded entries = .ok entries := by
  obtain ⟨condensed, hcondensed, hclosure⟩ := h.covers.exists_normalize unseeded
  rw [hcondensed, hclosure.unique h]

/-- A store that reports a closure has it accepted. -/
theorem IsClosure.exists_normalize {reported : Except Error (List (Ranked α))}
    (h : ∃ entries, reported = .ok entries ∧ IsClosure hop seed entries) (unseeded : Error) :
    ∃ entries, (reported >>= Ranked.normalize seed unseeded) = .ok entries ∧
      IsClosure hop seed entries := by
  obtain ⟨answer, hanswer, hclosure⟩ := h
  exact ⟨answer, bind_eq_ok hanswer (hclosure.normalize_eq unseeded), hclosure⟩

theorem Levels.isClosure_reachable (edges : List (α × α)) (seed : α) :
    IsClosure (fun a b => (a, b) ∈ edges) seed (reachable edges seed) := by
  have hnodup := nodup_settle edges (edges.length + 1) seed
  refine isClosure_sort ?_ fun {entry} => ?_
  · refine List.Nodup.map (fun a b hab => ?_) (List.Nodup.of_map _ hnodup)
    exact Prod.ext (congrArg Ranked.node hab) (congrArg Ranked.level hab)
  · rw [← lookup_settle_iff (Nat.le_succ edges.length), ← KeyedList.mem_iff_lookup hnodup,
      List.mem_map]
    constructor
    · rintro ⟨_, hmem, rfl⟩
      exact hmem
    · exact fun hmem => ⟨_, hmem, rfl⟩

end Reported

/-- What the closures of a hierarchy have to be, by where its hops lead: from a resource to its
donors, and from a domain to its parent. -/
structure HierarchyClosure.Computes (closure : HierarchyClosure)
    (donor : ResourceId → ResourceId → Prop) (parent : DomainId → DomainId → Prop) : Prop where
  accessors : ∀ id, ∃ entries, closure.accessors id = .ok entries ∧ IsClosure donor id entries
  ancestors : ∀ id, ∃ entries, closure.ancestors id = .ok entries ∧ IsClosure parent id entries
  descendants : ∀ id, ∃ entries, closure.descendants id = .ok entries ∧
    IsClosure (fun above below => parent below above) id entries

namespace HierarchyClosure

variable {donor : ResourceId → ResourceId → Prop} {parent : DomainId → DomainId → Prop}

/-- There is only one way to answer with closures. -/
theorem answers_unique {entity : Entity} {hop : Id entity → Id entity → Prop}
    {ask ask' : Id entity → Except Error (List (Ranked (Id entity)))}
    (hask : ∀ id, ∃ entries, ask id = .ok entries ∧ IsClosure hop id entries)
    (hask' : ∀ id, ∃ entries, ask' id = .ok entries ∧ IsClosure hop id entries) : ask = ask' := by
  funext id
  obtain ⟨entries, heq, hentries⟩ := hask id
  obtain ⟨entries', heq', hentries'⟩ := hask' id
  rw [heq, heq', hentries.unique hentries']

theorem Computes.unique {closure other : HierarchyClosure} (h : closure.Computes donor parent)
    (h' : other.Computes donor parent) : closure = other := by
  cases closure
  cases other
  rw [mk.injEq]
  exact ⟨answers_unique h.accessors h'.accessors, answers_unique h.ancestors h'.ancestors,
    answers_unique h.descendants h'.descendants⟩

/-- Searching along neighbours computes closures if the neighbours are where the hops lead. -/
theorem computes_iterative {hops : HopSource} (hdonors : hops.donors.Follows donor)
    (hparents : hops.parents.Follows parent)
    (hchildren : hops.children.Follows fun above below => parent below above) :
    (iterative hops).Computes donor parent :=
  ⟨hdonors.closure_spec, hparents.closure_spec, hchildren.closure_spec⟩

theorem computes_recursive {native : NativeSource}
    (haccessors : ∀ id, ∃ entries, native.accessors id = .ok entries ∧ IsClosure donor id entries)
    (hancestors : ∀ id, ∃ entries, native.ancestors id = .ok entries ∧ IsClosure parent id entries)
    (hdescendants : ∀ id, ∃ entries, native.descendants id = .ok entries ∧
      IsClosure (fun above below => parent below above) id entries) :
    (recursive native).Computes donor parent := by
  constructor
  · intro id
    exact IsClosure.exists_normalize (haccessors id) _
  · intro id
    exact IsClosure.exists_normalize (hancestors id) _
  · intro id
    exact IsClosure.exists_normalize (hdescendants id) _

end HierarchyClosure

namespace HierarchyEdges

variable {edges : HierarchyEdges} {id parent : DomainId}

theorem mem_parents_iff : (id, parent) ∈ edges.parents ↔ (id, some parent) ∈ edges.domains := by
  simp only [parents, List.mem_filterMap, Option.map_eq_some_iff, Prod.mk.injEq]
  constructor
  · rintro ⟨⟨_, _⟩, hmem, _, hparent, rfl, rfl⟩
    cases hparent
    exact hmem
  · exact fun hmem => ⟨_, hmem, parent, rfl, rfl, rfl⟩

theorem mem_children_iff : (parent, id) ∈ edges.children ↔ (id, some parent) ∈ edges.domains := by
  rw [← mem_parents_iff, children, List.mem_map]
  constructor
  · rintro ⟨⟨_, _⟩, hmem, heq⟩
    cases heq
    exact hmem
  · exact fun hmem => ⟨_, hmem, rfl⟩

/-- Where handles are unique, the first domain with a handle is the only one. -/
theorem parentOf?_eq_some_iff (hunique : (edges.domains.map (·.1)).Nodup) :
    edges.parentOf? id = some parent ↔ (id, some parent) ∈ edges.domains := by
  constructor
  · exact fun h => mem_parents_iff.mp (mem_parents h)
  · intro hmem
    rw [parentOf?, (find?_eq_some_iff_of_nodup hunique).mpr ⟨hmem, rfl⟩]
    rfl

theorem follows_parents (hunique : (edges.domains.map (·.1)).Nodup) :
    edges.hops.parents.Follows fun id parent => (id, some parent) ∈ edges.domains := by
  intro frontier
  refine ⟨frontier.flatMap fun id => (edges.parentOf? id).toList, ?_, fun {parent} => ?_⟩
  · exact Neighbours.steps_eq_ok (fun id => edges.parentOf? id) frontier
  · simp only [List.mem_flatMap, Option.mem_toList, parentOf?_eq_some_iff hunique]

theorem follows_children (edges : HierarchyEdges) :
    edges.hops.children.Follows fun above below => (below, some above) ∈ edges.domains := by
  have hchildren := Neighbours.follows_ofEdges edges.children
  simp only [mem_children_iff] at hchildren
  exact hchildren

/-- Queries walk pairs of handles, the specification speaks of the rows that these come from. -/
theorem computes_queries {native : NativeSource}
    (haccessors : ∀ id, ∃ entries, native.accessors id = .ok entries ∧
      IsClosure (fun a b => (a, b) ∈ edges.donors) id entries)
    (hancestors : ∀ id, ∃ entries, native.ancestors id = .ok entries ∧
      IsClosure (fun a b => (a, b) ∈ edges.parents) id entries)
    (hdescendants : ∀ id, ∃ entries, native.descendants id = .ok entries ∧
      IsClosure (fun a b => (a, b) ∈ edges.children) id entries) :
    (HierarchyClosure.recursive native).Computes
      (fun accessor donor => (accessor, donor) ∈ edges.donors)
      (fun id parent => (id, some parent) ∈ edges.domains) := by
  simp only [mem_parents_iff] at hancestors
  simp only [mem_children_iff] at hdescendants
  exact HierarchyClosure.computes_recursive haccessors hancestors hdescendants

theorem computes (hunique : (edges.domains.map (·.1)).Nodup) (strategy : ClosureStrategy) :
    (strategy.closure edges.hops edges.native).Computes
      (fun accessor donor => (accessor, donor) ∈ edges.donors)
      (fun id parent => (id, some parent) ∈ edges.domains) := by
  cases strategy with
  | iterative =>
    exact HierarchyClosure.computes_iterative (Neighbours.follows_ofEdges edges.donors)
      (follows_parents hunique) (follows_children edges)
  | recursive =>
    apply computes_queries
    · intro id
      exact ⟨_, rfl, Levels.isClosure_reachable edges.donors id⟩
    · intro id
      exact ⟨_, rfl, Levels.isClosure_reachable edges.parents id⟩
    · intro id
      exact ⟨_, rfl, Levels.isClosure_reachable edges.children id⟩

end HierarchyEdges

end Authorization
