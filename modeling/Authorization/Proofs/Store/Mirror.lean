import Authorization.Proofs.Service.Alike
import Authorization.Proofs.Store.Decode
import Authorization.Proofs.Store.RowWalk
import Authorization.Proofs.Store.Walk

namespace Authorization

section Rows

variable {ρ α β : Type} {row : α → ρ} {rows : List ρ} {as : List α}

/-- Rows of values in some order are the rows of the values in that order. -/
theorem exists_listed (h : rows.Perm (as.map row)) :
    ∃ listed : List α, rows = listed.map row ∧ listed.Perm as := by
  -- The values follow their rows, so whatever reorders the rows reorders the values.
  have hrows : List.Forall₂ (fun r a => row a = r) (as.map row) as :=
    List.forall₂_map_left_iff.mpr (List.forall₂_same.mpr fun _ _ => rfl)
  obtain ⟨listed, hlisted, hperm⟩ := List.perm_comp_forall₂ h hrows
  refine ⟨listed, ?_, hperm⟩
  have hmap : List.Forall₂ (· = ·) rows (listed.map row) :=
    List.forall₂_map_right_iff.mpr (hlisted.imp fun _ _ => Eq.symm)
  rwa [List.forall₂_eq_eq_eq] at hmap

theorem decodeRows_agrees {decode : ρ → Except Error β} {value : α → β} {values : List β}
    (h : rows.Perm (as.map row)) (hdecode : ∀ a, decode (row a) = .ok (value a))
    (hvalues : values.Perm (as.map value)) :
    Agree List.Perm (.ok values) (decodeRows decode rows) := by
  obtain ⟨listed, rfl, hperm⟩ := exists_listed h
  rw [decodeRows_map hdecode]
  exact .ok (hvalues.trans (hperm.symm.map value))

variable {κ : Type} {key : α → κ} {rowKey : ρ → κ}

/-- A lookup among the rows finds the row of what a lookup among the values finds. -/
theorem find?_rows [DecidableEq κ] (h : rows.Perm (as.map row))
    (hkey : ∀ a, rowKey (row a) = key a) (hunique : (as.map key).Nodup) (k : κ) :
    rows.find? (fun r => rowKey r = k) = (as.find? fun a => key a = k).map row := by
  obtain ⟨listed, rfl, hperm⟩ := exists_listed h
  have hsame : ((fun r => decide (rowKey r = k)) ∘ row) = fun a => decide (key a = k) := by
    funext a
    rw [Function.comp_apply, hkey]
  rw [List.find?_map, hsame, find?_eq_of_perm hperm.symm hunique]

/-- Rows sorted by a unique key are the rows of the sorted values. -/
theorem mergeSort_rows [LE κ] [DecidableLE κ] [LT κ] [Std.IsLinearOrder κ] [Std.LawfulOrderLT κ]
    (h : rows.Perm (as.map row)) (hkey : ∀ a, rowKey (row a) = key a)
    (hunique : (as.map key).Nodup) :
    (rows.mergeSort fun a b => decide (rowKey a ≤ rowKey b)) =
      (as.mergeSort fun a b => decide (key a ≤ key b)).map row := by
  have hsame : rowKey ∘ row = key := funext hkey
  have hunique' : (rows.map rowKey).Nodup := by
    rw [(h.map rowKey).nodup_iff, List.map_map, hsame]
    exact hunique
  have hsorted := pairwise_mergeSort_key rowKey hunique'
  have hsorted' : ((as.mergeSort fun a b => decide (key a ≤ key b)).map row).Pairwise
      fun a b => rowKey a < rowKey b := by
    apply List.pairwise_map.mpr
    simp only [hkey]
    exact pairwise_mergeSort_key key hunique
  -- Both sides are strictly ascending and have the same members.
  have hperm : (rows.mergeSort fun a b => decide (rowKey a ≤ rowKey b)).Perm
      ((as.mergeSort fun a b => decide (key a ≤ key b)).map row) :=
    calc
      List.Perm _ rows := List.mergeSort_perm rows _
      List.Perm _ (as.map row) := h
      List.Perm _ _ := (List.mergeSort_perm as _).symm.map row
  apply hperm.eq_of_pairwise _ hsorted hsorted'
  intro a b _ _ hab hba
  exact absurd (Std.lt_trans hab hba) Std.lt_irrefl

theorem mapM_map_row {decode : ρ → Except Error α} (hdecode : ∀ a, decode (row a) = .ok a)
    (found : Option α) : (found.map row).mapM decode = .ok found := by
  cases found with
  | none => rfl
  | some a =>
    rw [Option.map_some, Option.mapM_some, hdecode]
    rfl

end Rows

namespace GrantRows

variable {κ ρ σ : Type}

/-- The rows of grants, each under the key of its grant. -/
def stored (row : ρ → σ) (grants : GrantRows κ ρ) : GrantRows κ σ :=
  grants.map fun grant => (grant.1, row grant.2)

variable {row : ρ → σ} {rows : GrantRows κ σ} {grants : GrantRows κ ρ}

theorem filter_stored (h : rows.Perm (grants.stored row)) (kept : κ → Bool) :
    List.Perm (rows.filter fun entry => kept entry.1)
      (stored row (grants.filter fun grant => kept grant.1)) := by
  have hfilter := h.filter fun entry => kept entry.1
  rw [stored, List.filter_map] at hfilter
  exact hfilter

theorem countWithin_stored (h : rows.Perm (grants.stored row)) (scope : κ → Bool) :
    rows.countWithin scope = grants.countWithin scope := by
  have hcount := h.countP_eq fun entry => scope entry.1
  rw [stored, List.countP_map] at hcount
  exact hcount

theorem held_stored [DecidableEq κ] (h : rows.Perm (grants.stored row)) (key : κ) :
    (rows.held key).Perm ((grants.held key).map row) := by
  have hfilter := (filter_stored h fun other => decide (other = key)).map Prod.snd
  rw [stored, List.map_map] at hfilter
  rw [held, held, List.map_map]
  exact hfilter

end GrantRows

/-- Tables with one row for every value and no others. The names of the permissions of a class
stand in any order, too, and statements sort them. -/
structure Tables.Mirrors (tables : Tables) (records : Records) : Prop where
  domains : tables.domains.Perm (records.domains.map Domain.row)
  classes : tables.classRows.Perm (records.classes.map ResourceClass.row)
  resources : tables.resources.Perm records.resources
  direct : tables.grants.direct.Perm (records.grants.direct.stored ResourcePermission.row)
  global : tables.grants.global.Perm (records.grants.global.stored ResourcePermission.row)
  create : tables.grants.create.Perm (records.grants.create.stored ResourceCreatePermission.row)
  domain : tables.grants.domain.Perm (records.grants.domain.stored DomainPermission.row)
  domainCreate : tables.grants.domainCreate.Perm
    (records.grants.domainCreate.stored DomainCreatePermission.row)

/-- A database that refuses no statement and whose tables mirror a memory store. -/
structure Database.Mirrors (database : Database) (memory : Memory) : Prop where
  refusals : database.refusals = []
  tables : database.tables.Mirrors memory.records

/-- The rows that stand for the contents of a memory store, in the order of the values. -/
def Records.tables (records : Records) : Tables where
  domains := records.domains.map Domain.row
  classes := records.classes.map ResourceClass.row
  resources := records.resources
  grants :=
    { direct := records.grants.direct.stored ResourcePermission.row
      global := records.grants.global.stored ResourcePermission.row
      create := records.grants.create.stored ResourceCreatePermission.row
      domain := records.grants.domain.stored DomainPermission.row
      domainCreate := records.grants.domainCreate.stored DomainCreatePermission.row }

/-- Every memory store is mirrored by some tables. -/
theorem Records.mirrors_tables (records : Records) : records.tables.Mirrors records := by
  -- A class lists its names in ascending order, so sorting them once more changes nothing.
  have hsorted : ∀ resourceClass : ResourceClass,
      (resourceClass.row.permissionNames.mergeSort fun a b => decide (a ≤ b)) =
        resourceClass.row.permissionNames := by
    intro resourceClass
    apply List.mergeSort_of_pairwise
    apply List.pairwise_map.mpr
    apply resourceClass.ascending.imp
    intro a b hlt
    exact decide_eq_true (Std.le_of_lt (show a.text < b.text from hlt))
  have hclasses : records.tables.classRows = records.classes.map ResourceClass.row := by
    rw [Tables.classRows, tables, List.map_map]
    apply List.map_congr_left
    intro resourceClass _
    rw [Function.comp_apply, hsorted]
  exact
    { domains := List.Perm.refl _
      classes := List.Perm.of_eq hclasses
      resources := List.Perm.refl _
      direct := List.Perm.refl _
      global := List.Perm.refl _
      create := List.Perm.refl _
      domain := List.Perm.refl _
      domainCreate := List.Perm.refl _ }

attribute [ext] Directory

namespace Database

section Statements

variable {database : Database} (h : database.refusals = [])

include h

theorem query_eq {ρ α : Type} (statement : Statement) (decode : ρ → Except Error α)
    (rows : List ρ) : database.query statement decode rows = decodeRows decode rows :=
  bind_of_eq_ok (gate_eq_ok h statement)

theorem queryOne_eq {ρ α : Type} (statement : Statement) (decode : ρ → Except Error α)
    (row : Option ρ) : database.queryOne statement decode row = row.mapM decode :=
  bind_of_eq_ok (gate_eq_ok h statement)

end Statements

namespace Mirrors

variable {database : Database} {memory : Memory} (h : database.Mirrors memory)

include h

section Directory

variable {ρ α κ : Type} {row : α → ρ} {rows : List ρ} {as : List α} {key : α → κ} {rowKey : ρ → κ}
  {decode : ρ → Except Error α}

theorem queryOne_find? [DecidableEq κ] (hrows : rows.Perm (as.map row))
    (hdecode : ∀ a, decode (row a) = .ok a) (hkey : ∀ a, rowKey (row a) = key a)
    (hunique : (as.map key).Nodup) (statement : Statement) (k : κ) :
    database.queryOne statement decode (rows.find? fun r => rowKey r = k) =
      .ok (as.find? fun a => key a = k) := by
  rw [queryOne_eq h.refusals, find?_rows hrows hkey hunique, mapM_map_row hdecode]

theorem query_mergeSort [LE κ] [DecidableLE κ] [LT κ] [Std.IsLinearOrder κ] [Std.LawfulOrderLT κ]
    (hrows : rows.Perm (as.map row)) (hdecode : ∀ a, decode (row a) = .ok a)
    (hkey : ∀ a, rowKey (row a) = key a) (hunique : (as.map key).Nodup) (statement : Statement) :
    database.query statement decode (rows.mergeSort fun a b => decide (rowKey a ≤ rowKey b)) =
      .ok (as.mergeSort fun a b => decide (key a ≤ key b)) := by
  rw [query_eq h.refusals, mergeSort_rows hrows hkey hunique, decodeRows_map hdecode,
    List.map_id']

theorem directory_eq (hregistered : memory.records.Registered) :
    database.directory = memory.directory := by
  have hdomains := h.tables.domains
  have hclasses := h.tables.classes
  have hresources : database.tables.resources.Perm (memory.records.resources.map id) := by
    rw [List.map_id]
    exact h.tables.resources
  -- Every lookup is by a unique key, and every listing is sorted by one.
  ext1
  · funext id
    exact h.queryOne_find? hresources (fun _ => rfl) (fun _ => rfl) hregistered.resourceIds _ id
  · funext id
    exact h.queryOne_find? hclasses ResourceClass.decode_row (fun _ => rfl) hregistered.classIds
      _ id
  · funext name
    exact h.queryOne_find? hclasses ResourceClass.decode_row (fun _ => rfl)
      hregistered.nodup_classTexts _ name
  · exact h.query_mergeSort hclasses ResourceClass.decode_row (fun _ => rfl) hregistered.classIds _
  · funext id
    exact h.queryOne_find? hdomains Domain.decode_row (fun _ => rfl) hregistered.domains.nodup_ids
      _ id
  · funext name
    exact h.queryOne_find? hdomains Domain.decode_row (fun _ => rfl) hregistered.domains.nodup_texts
      _ name
  · funext classId
    have hclass : (database.tables.resources.filter (·.classId = classId)).Perm
        ((memory.records.resourcesOf classId).map id) := by
      rw [List.map_id]
      exact h.tables.resources.filter _
    have hunique : ((memory.records.resourcesOf classId).map (·.id)).Nodup :=
      hregistered.resourceIds.sublist (List.filter_sublist.map _)
    exact h.query_mergeSort hclass (fun _ => rfl) (fun _ => rfl) hunique _

end Directory

section Grants

variable {κ ρ σ : Type} {row : ρ → σ} {rows : GrantRows κ σ} {grants : GrantRows κ ρ}
  {decode : σ → Except Error ρ}

theorem query_held [DecidableEq κ] (hrows : rows.Perm (grants.stored row))
    (hdecode : ∀ permission, decode (row permission) = .ok permission) (statement : Statement)
    (key : κ) : Agree List.Perm (.ok (grants.held key))
      (database.query statement decode (rows.held key)) := by
  have hsame : (grants.held key).Perm ((grants.held key).map id) := by rw [List.map_id]
  rw [query_eq h.refusals]
  exact decodeRows_agrees (GrantRows.held_stored hrows key) hdecode hsame

/-- Listings over all keys of an accessor, in the order of the statement on the one side and of the
store on the other. -/
theorem query_listing {β : Type} {make : κ × σ → Except Error β} {value : κ × ρ → β}
    {sorted : GrantRows κ σ} {listing : List β} (accessorOf : κ → ResourceId)
    (hrows : rows.Perm (grants.stored row))
    (hmake : ∀ grant : κ × ρ, make (grant.1, row grant.2) = .ok (value grant))
    (statement : Statement) (accessor : ResourceId)
    (hsorted : sorted.Perm (rows.filter fun entry => accessorOf entry.1 = accessor))
    (hlisting : listing.Perm
      ((grants.filter fun grant => accessorOf grant.1 = accessor).map value)) :
    Agree List.Perm (.ok listing) (database.query statement make sorted) := by
  rw [query_eq h.refusals]
  have hfilter := GrantRows.filter_stored hrows fun key => decide (accessorOf key = accessor)
  exact decodeRows_agrees (hsorted.trans hfilter) hmake hlisting

theorem grants_alike : memory.grantSource.Alike database.grantSource := by
  -- Sorting changes neither which rows there are nor which grants.
  have hdirect : (Tables.byName database.tables.grants.direct).Perm
      (memory.records.grants.direct.stored ResourcePermission.row) :=
    (List.mergeSort_perm _ _).trans h.tables.direct
  have hglobal : (Tables.byName database.tables.grants.global).Perm
      (memory.records.grants.global.stored ResourcePermission.row) :=
    (List.mergeSort_perm _ _).trans h.tables.global
  have hdomain : (Tables.bySystemId database.tables.grants.domain).Perm
      (memory.records.grants.domain.stored DomainPermission.row) :=
    (List.mergeSort_perm _ _).trans h.tables.domain
  constructor
  · intro accessor accessed
    exact h.query_held hdirect ResourcePermission.decode_row _ _
  · intro accessor classId domain
    exact h.query_held hglobal ResourcePermission.decode_row _ _
  · intro accessor classId domain
    exact h.query_held h.tables.create ResourceCreatePermission.decode_row _ _
  · intro accessor domain
    exact h.query_held hdomain DomainPermission.decode_row _ _
  · intro accessor
    exact h.query_held h.tables.domainCreate DomainCreatePermission.decode_row _ _
  · intro accessor
    exact h.query_listing ClassKey.accessor hglobal
      (fun grant => bind_of_eq_ok (ResourcePermission.decode_row grant.2)) _ accessor
      (List.mergeSort_perm _ _) (List.mergeSort_perm _ _)
  · intro accessor
    exact h.query_listing ClassKey.accessor h.tables.create
      (fun grant => bind_of_eq_ok (ResourceCreatePermission.decode_row grant.2)) _ accessor
      (List.mergeSort_perm _ _) (List.mergeSort_perm _ _)
  · intro accessor
    exact h.query_listing DomainKey.accessor hdomain
      (fun grant => bind_of_eq_ok (DomainPermission.decode_row grant.2)) _ accessor
      (List.mergeSort_perm _ _) (List.mergeSort_perm _ _)

end Grants

/-- Rows tell inherit permissions by their numbers, a memory store tells them by their names. -/
theorem reorders : database.tables.edges.Reorders memory.records.edges := by
  constructor
  · have hsame : (fun grant : DirectKey × ResourcePermission =>
        decide (grant.2.row.systemId = some SystemPermission.inherit.id)) =
        fun grant => grant.2.isInherit := by
      funext grant
      rw [Bool.eq_iff_iff, decide_eq_true_eq, grant.2.systemId_row_eq_iff]
    have hfilter := h.tables.direct.filter fun entry : DirectKey × ResourcePermissionRow =>
      decide (entry.2.systemId = some SystemPermission.inherit.id)
    rw [GrantRows.stored, List.filter_map, Function.comp_def, hsame] at hfilter
    have hdonors := hfilter.map fun entry => (entry.1.accessor, entry.1.accessed)
    rw [List.map_map] at hdonors
    exact hdonors
  · have hdomains := h.tables.domains.map fun row => (row.id, row.parent?)
    rw [List.map_map] at hdomains
    exact hdomains

/-- Whichever way the two stores compute their closures, they are the same. -/
theorem closure_eq (hregistered : memory.records.Registered)
    (strategy strategy' : ClosureStrategy) :
    (Store.backend memory).closure strategy = (Store.backend database).closure strategy' := by
  have hmemory : ((Store.backend memory).closure strategy).Computes memory.Inherits
      memory.HasParent :=
    Memory.computes hregistered ⟨List.Perm.refl _, List.Perm.refl _⟩ strategy
  have hunique : (database.tables.edges.domains.map (·.1)).Nodup := by
    rw [(h.reorders.domains.map _).nodup_iff, Records.edges, List.map_map]
    exact hregistered.domains.nodup_ids
  have hdatabase := (walkable_of_refusals_eq h.refusals).computes hunique strategy'
  simp only [h.reorders.donors.mem_iff, h.reorders.domains.mem_iff, Memory.mem_donors_iff,
    Memory.mem_domains_iff] at hdatabase
  exact hmemory.unique hdatabase

end Mirrors

end Database

end Authorization
