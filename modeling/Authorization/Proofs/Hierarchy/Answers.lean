import Authorization.Proofs.Hierarchy.Closure
import Authorization.Store.Scripted

namespace Authorization

namespace Ranked

/-- Keeping first entries keeps the very first one. -/
theorem head?_firsts {α : Type} [DecidableEq α] (entries : List (Ranked α)) :
    (firsts [] entries).head? = entries.head? := by
  cases entries with
  | nil => rfl
  | cons first rest => rw [firsts, if_neg List.not_mem_nil, List.head?_cons, List.head?_cons]

variable {α : Type} [LT α]

/-- The first entry of an answer in the order of closures. -/
def Leads (least : Ranked α) (answer : List (Ranked α)) : Prop :=
  least ∈ answer ∧ ∀ other ∈ answer, Before least other ∨ least = other

/-- What is made of an answer: it is condensed, if it starts at the seed, and refused as an internal
error otherwise. -/
structure Vets (answer : List (Ranked α)) (seed : α) (unseeded : Error)
    (result : Except Error (List (Ranked α))) : Prop where
  internal : unseeded.kind = .internal
  outcome : result = .error unseeded ∨
    ∃ closure, result = .ok closure ∧ Condenses answer closure ∧ closure.head? = some ⟨0, seed⟩
  refused_iff : result = .error unseeded ↔
    answer = [] ∨ ∃ least, Leads least answer ∧ least ≠ ⟨0, seed⟩

variable [LE α] [DecidableLE α] [DecidableEq α] [Std.IsLinearOrder α] [Std.LawfulOrderLT α]
  {answer : List (Ranked α)} {least : Ranked α} {unseeded : Error}

theorem head?_sort_eq_some_iff : (sort answer).head? = some least ↔ Leads least answer := by
  have hsorted := pairwise_sort answer
  have hmem {entry : Ranked α} : entry ∈ sort answer ↔ entry ∈ answer := List.mem_mergeSort
  simp only [Leads, ← hmem]
  generalize sort answer = sorted at hsorted
  cases sorted with
  | nil => simp
  | cons first rest =>
    have hfirst := (List.pairwise_cons.mp hsorted).1
    rw [List.head?_cons, Option.some.injEq]
    constructor
    · rintro rfl
      refine ⟨List.mem_cons_self, fun other hother => ?_⟩
      rcases List.mem_cons.mp hother with rfl | hrest
      · exact Or.inr rfl
      · exact notAfter_iff.mp (hfirst other hrest)
    · rintro ⟨hleast, hbefore⟩
      rcases hbefore first List.mem_cons_self with hlt | heq
      · -- What comes before the first entry would have to stand behind it.
        rcases List.mem_cons.mp hleast with heq | hrest
        · exact heq.symm
        · rcases notAfter_iff.mp (hfirst least hrest) with hgt | heq
          · exact (hlt.asymm hgt).elim
          · exact heq
      · exact heq.symm

/-- Either the entry that leads an answer is the seed, or the answer is refused. -/
theorem normalize_vets (answer : List (Ranked α)) (seed : α)
    (hinternal : unseeded.kind = .internal) :
    Vets answer seed unseeded (normalize seed unseeded answer) := by
  have hhead : (firsts [] (sort answer)).head? = (sort answer).head? := head?_firsts _
  have hrefused : normalize seed unseeded answer = .error unseeded ↔
      (sort answer).head? ≠ some ⟨0, seed⟩ := by
    simp [normalize, hhead]
  refine ⟨hinternal, ?_, ?_⟩
  · by_cases hseed : (sort answer).head? = some ⟨0, seed⟩
    · refine Or.inr ⟨firsts [] (sort answer), ?_, condenses_firsts_sort answer, hhead.trans hseed⟩
      rw [normalize, hhead, if_pos hseed]
    · exact Or.inl (hrefused.mpr hseed)
  · rw [hrefused]
    constructor
    · intro hseed
      cases hfirst : (sort answer).head? with
      | none =>
        have hempty : sort answer = [] := List.head?_eq_none_iff.mp hfirst
        have hperm : (sort answer).Perm answer := List.mergeSort_perm answer notAfter
        rw [hempty] at hperm
        exact Or.inl hperm.nil_eq.symm
      | some least =>
        rw [hfirst] at hseed
        exact Or.inr ⟨least, head?_sort_eq_some_iff.mp hfirst, fun heq => hseed (congrArg some heq)⟩
    · rintro (rfl | ⟨least, hleads, hne⟩) hseed
      · exact List.not_mem_nil (head?_sort_eq_some_iff.mp hseed).1
      · rw [head?_sort_eq_some_iff.mpr hleads] at hseed
        exact hne (Option.some.inj hseed)

end Ranked

namespace HierarchyClosure

open Ranked

/-- What is made of the answers to a query for closures: each is vetted, and where it covers the
hops that neighbours follow, it comes to what a search among these neighbours finds. -/
def TakesAnswers {entity : Entity} (ask : Id entity → Except Error (List (Ranked (Id entity))))
    (unseeded : Id entity → Error) (neighbours : Neighbours (Id entity))
    (taken searched : Id entity → Except Error (List (Ranked (Id entity)))) : Prop :=
  ∀ id answer, ask id = .ok answer → Vets answer id (unseeded id) (taken id) ∧
    ∀ hop, neighbours.Follows hop → Covers hop id answer → taken id = searched id

theorem takesAnswers_normalize {entity : Entity}
    (ask : Id entity → Except Error (List (Ranked (Id entity)))) {unseeded : Id entity → Error}
    (hinternal : ∀ id, (unseeded id).kind = .internal) (neighbours : Neighbours (Id entity)) :
    TakesAnswers ask unseeded neighbours
      (fun id => ask id >>= Ranked.normalize id (unseeded id)) neighbours.closure := by
  intro id answer hanswer
  dsimp only
  rw [bind_of_eq_ok hanswer]
  refine ⟨normalize_vets answer id (hinternal id), fun hop hfollows hcovers => ?_⟩
  -- Both are the one closure of the hops.
  obtain ⟨entries, htaken, hentries⟩ := hcovers.exists_normalize (unseeded id)
  obtain ⟨others, hsearched, hothers⟩ := hfollows.closure_spec id
  rw [htaken, hsearched, hentries.unique hothers]

/-- Whatever a store answers to its three queries, in any order and with any repetitions: the answer
is condensed or, if it does not start at its seed, refused as an internal error; and an answer that
covers the hops of some single reads is taken for what a search over these reads finds. -/
theorem native_answers_taken (native : NativeSource) (hops : HopSource) :
    TakesAnswers native.accessors .accessorClosureUnseeded hops.donors
        (recursive native).accessors (iterative hops).accessors ∧
      TakesAnswers native.ancestors .ancestorChainUnseeded hops.parents
        (recursive native).ancestors (iterative hops).ancestors ∧
      TakesAnswers native.descendants .descendantClosureUnseeded hops.children
        (recursive native).descendants (iterative hops).descendants :=
  ⟨takesAnswers_normalize native.accessors (fun _ => rfl) hops.donors,
    takesAnswers_normalize native.ancestors (fun _ => rfl) hops.parents,
    takesAnswers_normalize native.descendants (fun _ => rfl) hops.children⟩

/-- Walks of every length round a circle of two resources, the longest first. -/
def rounds : List (Ranked ResourceId) :=
  [⟨3, ⟨2⟩⟩, ⟨2, ⟨1⟩⟩, ⟨1, ⟨2⟩⟩, ⟨1, ⟨2⟩⟩, ⟨0, ⟨1⟩⟩]

/-- Two resources that inherit from each other, one of them twice, in a store that always goes round
the circle from the first one. -/
def rounding : Scripted where
  records.grants.direct := [(⟨⟨1⟩, ⟨2⟩⟩, ⟨.system .inherit, false⟩),
    (⟨⟨2⟩, ⟨1⟩⟩, ⟨.system .inherit, false⟩), (⟨⟨1⟩, ⟨2⟩⟩, ⟨.system .inherit, true⟩)]
  accessorEntries := rounds

/-- The walks come to what a search from the first resource finds. Asked about the second one, the
store does not start there and is refused. -/
theorem rounds_taken :
    ((Store.backend rounding).closure .recursive).accessors ⟨1⟩ =
        ((Store.backend rounding).closure .iterative).accessors ⟨1⟩ ∧
      ((Store.backend rounding).closure .iterative).accessors ⟨1⟩ =
        .ok [⟨0, ⟨1⟩⟩, ⟨1, ⟨2⟩⟩] ∧
      ((Store.backend rounding).closure .recursive).accessors ⟨2⟩ =
        .error (.accessorClosureUnseeded ⟨2⟩) := by
  have htaken := (native_answers_taken rounding.native rounding.hops).1
  have hfollows := (Neighbours.follows_ofEdges rounding.records.edges.donors).guarded fun _ =>
    show rounding.gate "donors" = .ok () from rfl
  have hsearch : (iterative rounding.hops).accessors ⟨1⟩ = .ok [⟨0, ⟨1⟩⟩, ⟨1, ⟨2⟩⟩] := by
    decide +kernel
  obtain ⟨entries, hentries, hclosure⟩ := hfollows.closure_spec ⟨1⟩
  obtain rfl : [⟨0, ⟨1⟩⟩, ⟨1, ⟨2⟩⟩] = entries := Except.ok.inj (hsearch.symm.trans hentries)
  have hcovers : Covers (fun a b => (a, b) ∈ rounding.records.edges.donors) ⟨1⟩ rounds := by
    have hthere : ([⟨0, ⟨1⟩⟩, ⟨1, ⟨2⟩⟩] : List (Ranked ResourceId)) ⊆ rounds := by decide
    have hnear : ∀ entry ∈ rounds, ∃ nearest ∈ ([⟨0, ⟨1⟩⟩, ⟨1, ⟨2⟩⟩] : List (Ranked ResourceId)),
        nearest.level ≤ entry.level ∧ nearest.node = entry.node := by
      decide
    refine ⟨fun h => hthere (hclosure.mem_iff.mpr h), fun entry hentry => ?_⟩
    obtain ⟨nearest, hmem, hlevel, hnode⟩ := hnear entry hentry
    exact ⟨nearest.level, hlevel, hnode ▸ hclosure.mem_iff.mp hmem⟩
  have hleads : Leads ⟨0, ⟨1⟩⟩ rounds := by
    refine ⟨by decide, ?_⟩
    simp [rounds, Before]
  refine ⟨(htaken ⟨1⟩ rounds rfl).2 _ hfollows hcovers, hsearch, ?_⟩
  exact (htaken ⟨2⟩ rounds rfl).1.refused_iff.mpr (Or.inr ⟨_, hleads, by decide⟩)

end HierarchyClosure

end Authorization
