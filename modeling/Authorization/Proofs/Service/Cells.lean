import Authorization.Proofs.KeyedList
import Authorization.Proofs.Store.Sound
import Authorization.Proofs.Permission.Summary
import Authorization.Service.Overview
import Mathlib.Data.List.Induction

namespace Authorization.Service

/-- A list as a cell: nothing, if there is nothing in it. -/
def asCell {α : Type} : List α → Option (List α)
  | [] => none
  | a :: as => some (a :: as)

section AsCell

variable {α : Type} {as cell : List α}

theorem asCell_of_ne_nil (h : as ≠ []) : asCell as = some as := by
  cases as with
  | nil => exact absurd rfl h
  | cons a as => rfl

theorem getD_asCell (as : List α) : (asCell as).getD [] = as := by
  cases as with
  | nil => rfl
  | cons a as => rfl

theorem asCell_eq_some_iff : asCell as = some cell ↔ as = cell ∧ as ≠ [] := by
  cases as with
  | nil => simp [asCell]
  | cons a as => simp [asCell]

theorem asCell_isSome_iff : (asCell as).isSome = true ↔ as ≠ [] := by
  cases as with
  | nil => simp [asCell]
  | cons a as => simp [asCell]

theorem asCell_rel {as' : List α} (h : as.Perm as') :
    Option.Rel List.Perm (asCell as) (asCell as') := by
  by_cases hnil : as = []
  · subst hnil
    rw [h.nil_eq]
    cases as' with
    | nil => exact .none
    | cons a as' => exact .some (.refl _)
  · have hnil' : as' ≠ [] := fun heq => hnil (heq ▸ h).eq_nil
    rw [asCell_of_ne_nil hnil, asCell_of_ne_nil hnil']
    exact .some h

/-- Appending one after the other, starting with no cell, gives a cell of all. -/
theorem foldl_append_asCell {β : Type} (value : β → α) (bs : List β) :
    bs.foldl (fun found b => some (found.getD [] ++ [value b])) none = asCell (bs.map value) := by
  -- The fold goes on at the right end, so that is where the induction takes an element off.
  induction bs using List.reverseRecOn with
  | nil => rfl
  | append_singleton bs b ih =>
    have hne : bs.map value ++ [value b] ≠ [] := by simp
    rw [List.foldl_append, ih, List.foldl_cons, List.foldl_nil, getD_asCell, List.map_append,
      List.map_singleton, asCell_of_ne_nil hne]

end AsCell

variable {π : Type} {cells : PermissionCells π} {classes : List ResourceClass}
  {covered : KeyedList DomainId Proximity} {domain : DomainId} {classId : ResourceClassId}

theorem ordered_collectCells (collected : List (ClassGrant (EffectivePermission π))) :
    Table.Ordered (collectCells collected) :=
  Table.Ordered.nil.foldl collected

/-- A cell holds what was collected for its domain and class. -/
theorem cell?_collectCells (collected : List (ClassGrant (EffectivePermission π)))
    (domain : DomainId) (classId : ResourceClassId) :
    Table.cell? (collectCells collected) domain classId =
      asCell ((collected.filter fun grant => grant.domainId = domain ∧ grant.classId = classId).map
        (·.permission)) := by
  rw [← foldl_append_asCell]
  exact Table.cell?_foldl Table.Ordered.nil collected domain classId

theorem mem_collected_iff {collected : List (ClassGrant (EffectivePermission π))}
    {entry : EffectivePermission π} :
    entry ∈ (collected.filter fun grant =>
        grant.domainId = domain ∧ grant.classId = classId).map (·.permission) ↔
      ⟨classId, domain, entry⟩ ∈ collected := by
  rw [List.mem_map]
  constructor
  · rintro ⟨⟨_, _, _⟩, hgrant, rfl⟩
    obtain ⟨hmem, hhere⟩ := List.mem_filter.mp hgrant
    obtain ⟨rfl, rfl⟩ := of_decide_eq_true hhere
    exact hmem
  · intro hmem
    exact ⟨_, List.mem_filter.mpr ⟨hmem, decide_eq_true ⟨rfl, rfl⟩⟩, rfl⟩

section Cover

variable [Permission π] [DecidableEq π]

/-- Covering goes over all pairs of a covered domain and a class. -/
theorem cover_eq_foldl (defined : ResourceClass → List π) (classes : List ResourceClass)
    (covered : KeyedList DomainId Proximity) (cells : PermissionCells π) :
    cover defined classes covered cells =
      (covered.flatMap fun entry => classes.map fun resourceClass => (entry, resourceClass)).foldl
        (fun cells step => Table.alter step.1.1 step.2.id
          (fun _ => step.1.2.expand (defined step.2)) cells) cells := by
  rw [List.foldl_flatMap]
  simp only [List.foldl_map]
  rfl

theorem mem_steps_iff {step : (DomainId × Proximity) × ResourceClass} :
    step ∈ covered.flatMap (fun entry => classes.map fun resourceClass => (entry, resourceClass)) ↔
      step.1 ∈ covered ∧ step.2 ∈ classes := by
  rw [List.mem_flatMap]
  constructor
  · rintro ⟨entry, hentry, hstep⟩
    obtain ⟨resourceClass, hclass, rfl⟩ := List.mem_map.mp hstep
    exact ⟨hentry, hclass⟩
  · rintro ⟨hentry, hclass⟩
    exact ⟨step.1, hentry, List.mem_map.mpr ⟨step.2, hclass, rfl⟩⟩

theorem ordered_cover (hcells : Table.Ordered cells) (defined : ResourceClass → List π) :
    Table.Ordered (cover defined classes covered cells) := by
  rw [cover_eq_foldl]
  exact hcells.foldl _

/-- The cells of a covered domain hold what their classes define. -/
theorem cell?_cover_of_covered (hcells : Table.Ordered cells)
    (hcovered : Ascending (covered.map (·.1))) (hclasses : (classes.map (·.id)).Nodup)
    (defined : ResourceClass → List π) {resourceClass : ResourceClass}
    (hclass : resourceClass ∈ classes) {proximity : Proximity}
    (hlookup : covered.lookup domain = some proximity) :
    Table.cell? (cover defined classes covered cells) domain resourceClass.id =
      some (proximity.expand (defined resourceClass)) := by
  rw [cover_eq_foldl]
  have hmem := (KeyedList.mem_iff_lookup hcovered.nodup).mpr hlookup
  apply Table.cell?_foldl_eq_some hcells
  · -- Keys are unique, so no other entry and no other class leads to this cell.
    rintro ⟨⟨other, proximity'⟩, other'⟩ hstep rfl hid
    obtain ⟨hentry, hother⟩ := mem_steps_iff.mp hstep
    have hsame := (KeyedList.mem_iff_lookup hcovered.nodup).mp hentry
    cases hsame.symm.trans hlookup
    rw [List.inj_on_of_nodup_map hclasses hother hclass hid]
  · exact ⟨((domain, proximity), resourceClass), mem_steps_iff.mpr ⟨hmem, hclass⟩, rfl, rfl⟩

/-- Cells of other domains stay as they were. -/
theorem cell?_cover_of_not_covered (hcells : Table.Ordered cells)
    (hcovered : Ascending (covered.map (·.1))) (defined : ResourceClass → List π)
    (hlookup : covered.lookup domain = none) :
    Table.cell? (cover defined classes covered cells) domain classId =
      Table.cell? cells domain classId := by
  rw [cover_eq_foldl]
  apply Table.cell?_foldl_of_forall_ne hcells
  rintro ⟨⟨other, proximity⟩, resourceClass⟩ hstep ⟨rfl, _⟩
  have hentry := (mem_steps_iff.mp hstep).1
  have hsome := (KeyedList.mem_iff_lookup hcovered.nodup).mp hentry
  cases hsome.symm.trans hlookup

/-- What an overview has in a cell before it is merged: what a super-user gets, or what was
collected. -/
def cellOf (covered : KeyedList DomainId Proximity)
    (collected : List (ClassGrant (EffectivePermission π))) (listed : List π) (domain : DomainId)
    (classId : ResourceClassId) : Option (List (EffectivePermission π)) :=
  match covered.lookup domain with
  | some proximity => some (proximity.expand listed)
  | none =>
    asCell ((collected.filter fun grant => grant.domainId = domain ∧ grant.classId = classId).map
      (·.permission))

theorem cell?_cover_collectCells (collected : List (ClassGrant (EffectivePermission π)))
    (hcovered : Ascending (covered.map (·.1))) (hclasses : (classes.map (·.id)).Nodup)
    (defined : ResourceClass → List π) {resourceClass : ResourceClass}
    (hclass : resourceClass ∈ classes) (domain : DomainId) :
    Table.cell? (cover defined classes covered (collectCells collected)) domain resourceClass.id =
      cellOf covered collected (defined resourceClass) domain resourceClass.id := by
  have hcells := ordered_collectCells collected
  unfold cellOf
  cases hlookup : covered.lookup domain with
  | none =>
    rw [cell?_cover_of_not_covered hcells hcovered defined hlookup, cell?_collectCells]
  | some proximity =>
    rw [cell?_cover_of_covered hcells hcovered hclasses defined hclass hlookup]

/-- Covering adds cells for the classes that are listed only. -/
theorem exists_class_of_cell?_cover (hcells : Table.Ordered cells)
    {defined : ResourceClass → List π} {cell : List (EffectivePermission π)}
    (hcell : Table.cell? (cover defined classes covered cells) domain classId = some cell) :
    (∃ resourceClass ∈ classes, resourceClass.id = classId) ∨
      Table.cell? cells domain classId = some cell := by
  by_cases hclass : ∃ resourceClass ∈ classes, resourceClass.id = classId
  · exact Or.inl hclass
  · right
    -- No step goes to this cell, so covering leaves it as it was.
    rw [← hcell, cover_eq_foldl]
    symm
    apply Table.cell?_foldl_of_forall_ne hcells
    rintro ⟨entry, resourceClass⟩ hstep ⟨_, hid⟩
    exact hclass ⟨resourceClass, (mem_steps_iff.mp hstep).2, hid⟩

end Cover

/-- Merging leaves something of something. -/
theorem map_merge_asCell [Permission π] [DecidableEq π]
    (collected : List (EffectivePermission π)) :
    (asCell collected).map EffectivePermission.merge =
      asCell (EffectivePermission.merge collected) := by
  cases collected with
  | nil =>
    rw [EffectivePermission.merge, EffectivePermission.collapse, List.foldl_nil, List.mergeSort_nil]
    rfl
  | cons entry collected =>
    have hne : EffectivePermission.merge (entry :: collected) ≠ [] := by
      apply (EffectivePermission.summarizes_merge (entry :: collected)).ne_nil_iff.mpr
      exact ⟨entry, List.mem_cons_self⟩
    rw [asCell_of_ne_nil hne]
    rfl

section Naming

variable [Permission π] [DecidableEq π]
  {named : List (Label × Label × List (EffectivePermission π))}

theorem ordered_overviewOf (named : List (Label × Label × List (EffectivePermission π))) :
    Table.Ordered (overviewOf named) :=
  Table.Ordered.nil.foldl named

/-- A cell of an overview merges the one cell that has its names. -/
theorem cell?_overviewOf_eq_some {row column : Label} {cell : List (EffectivePermission π)}
    (hcell : (row, column, cell) ∈ named)
    (hunique : ∀ other, (row, column, other) ∈ named → other = cell) :
    Table.cell? (overviewOf named) row.text column.text =
      some (EffectivePermission.merge cell) := by
  apply Table.cell?_foldl_eq_some Table.Ordered.nil
  · rintro ⟨row', column', other⟩ hother hrow hcolumn
    obtain rfl : row' = row := Label.text_injective hrow
    obtain rfl : column' = column := Label.text_injective hcolumn
    rw [hunique other hother]
  · exact ⟨_, hcell, rfl, rfl⟩

theorem exists_named_of_cell? {row column : String} {cell : List (EffectivePermission π)}
    (hcell : Table.cell? (overviewOf named) row column = some cell) :
    ∃ entry ∈ named, entry.1.text = row ∧ entry.2.1.text = column := by
  by_contra hnone
  have hempty : Table.cell? (overviewOf named) row column = none := by
    apply Table.cell?_foldl_of_forall_ne Table.Ordered.nil
    intro entry hentry hnames
    exact hnone ⟨entry, hentry, hnames⟩
  cases hempty.symm.trans hcell

end Naming

end Authorization.Service
