import Authorization.KeyedList
import Authorization.Order
import Mathlib.Data.List.Forall2
import Mathlib.Data.List.Nodup

namespace Authorization

namespace KeyedList

section Lookup

variable {κ β : Type} [DecidableEq κ] {entries : KeyedList κ β} {key : κ} {value : β}

theorem lookup_cons_eq (key : κ) (value : β) (entries : KeyedList κ β) (other : κ) :
    List.lookup other ((key, value) :: entries) =
      if other = key then some value else entries.lookup other := by
  by_cases h : other = key
  · simp [h]
  · rw [List.lookup_cons, beq_false_of_ne h, if_neg h]

theorem lookup_eq_none (h : key ∉ entries.map (·.1)) : entries.lookup key = none := by
  apply List.lookup_eq_none_iff.mpr
  intro entry hentry
  have hne : key ≠ entry.1 := fun heq => h (List.mem_map.mpr ⟨entry, hentry, heq.symm⟩)
  exact bne_iff_ne.mpr hne

/-- Where no key stands twice, an entry is found under its key. -/
theorem mem_iff_lookup (h : (entries.map (·.1)).Nodup) :
    (key, value) ∈ entries ↔ entries.lookup key = some value := by
  induction entries with
  | nil => simp
  | cons entry entries ih =>
    obtain ⟨first, stored⟩ := entry
    obtain ⟨hfirst, hentries⟩ := List.nodup_cons.mp h
    rw [List.mem_cons, lookup_cons_eq]
    by_cases heq : key = first
    · subst heq
      have hrest : (key, value) ∉ entries := fun hmem =>
        hfirst (List.mem_map.mpr ⟨_, hmem, rfl⟩)
      simp [hrest, eq_comm]
    · simp [heq, ih hentries]

end Lookup

/-- Two lists with the same keys in the same order and with related values. -/
def Matches {κ β γ : Type} (related : β → γ → Prop) :
    KeyedList κ β → KeyedList κ γ → Prop :=
  List.Forall₂ fun entry other => entry.1 = other.1 ∧ related entry.2 other.2

theorem Matches.eq {κ β : Type} {entries others : KeyedList κ β}
    (h : entries.Matches (· = ·) others) : entries = others := by
  have hsame : List.Forall₂ (· = ·) entries others :=
    h.imp fun _ _ hentry => Prod.ext_iff.mpr hentry
  rwa [List.forall₂_eq_eq_eq] at hsame

section Order

variable {κ β γ : Type} [LT κ] [DecidableEq κ] [LE κ] [Std.IsLinearOrder κ] [Std.LawfulOrderLT κ]
  {entries : KeyedList κ β}

/-- Ascending lists with related values under every key are related entry by entry. -/
theorem matches_of_lookup {others : KeyedList κ γ} {related : β → γ → Prop}
    (h : Ascending (entries.map (·.1))) (h' : Ascending (others.map (·.1)))
    (hrelated : ∀ key, Option.Rel related (entries.lookup key) (others.lookup key)) :
    entries.Matches related others := by
  induction entries generalizing others with
  | nil =>
    cases others with
    | nil => exact List.Forall₂.nil
    | cons other others =>
      have hhead := hrelated other.1
      rw [lookup_cons_eq, if_pos rfl] at hhead
      cases hhead
  | cons entry entries ih =>
    cases others with
    | nil =>
      have hhead := hrelated entry.1
      rw [lookup_cons_eq, if_pos rfl] at hhead
      cases hhead
    | cons other others =>
      obtain ⟨key, value⟩ := entry
      obtain ⟨key', value'⟩ := other
      obtain ⟨hbelow, hentries⟩ := List.pairwise_cons.mp h
      obtain ⟨hbelow', hothers⟩ := List.pairwise_cons.mp h'
      -- Each first key stands in the other list, so neither comes before the other.
      have hfirst : key ∈ key' :: others.map (·.1) := by
        by_contra hnew
        have hhead := hrelated key
        rw [lookup_cons_eq, if_pos rfl, lookup_eq_none hnew] at hhead
        cases hhead
      have hfirst' : key' ∈ key :: entries.map (·.1) := by
        by_contra hnew
        have hhead := hrelated key'
        rw [lookup_eq_none hnew, lookup_cons_eq, if_pos rfl] at hhead
        cases hhead
      have hkey : key = key' := by
        rcases List.mem_cons.mp hfirst with heq | hlater
        · exact heq
        · rcases List.mem_cons.mp hfirst' with heq | hlater'
          · exact heq.symm
          · exact (Std.lt_irrefl (Std.lt_trans (hbelow' key hlater) (hbelow key' hlater'))).elim
      subst hkey
      have hhead := hrelated key
      rw [lookup_cons_eq, if_pos rfl, lookup_cons_eq, if_pos rfl] at hhead
      cases hhead with
      | some hvalue =>
        refine List.Forall₂.cons ⟨rfl, hvalue⟩ (ih hentries hothers fun other => ?_)
        by_cases hother : other = key
        · subst hother
          have hnone : entries.lookup other = none :=
            lookup_eq_none fun hmem => Std.lt_irrefl (hbelow other hmem)
          have hnone' : others.lookup other = none :=
            lookup_eq_none fun hmem => Std.lt_irrefl (hbelow' other hmem)
          rw [hnone, hnone']
          exact Option.Rel.none
        · have hrest := hrelated other
          rwa [lookup_cons_eq, if_neg hother, lookup_cons_eq, if_neg hother] at hrest

end Order

variable {κ β σ : Type} [LT κ] [DecidableLT κ] [DecidableEq κ] {entries : KeyedList κ β}

/-- A change adds its key, unless it is there already. -/
theorem map_fst_alter (key : κ) (update : Option β → β) (entries : KeyedList κ β) :
    (entries.alter key update).map (·.1) = insertDistinct key (entries.map (·.1)) := by
  induction entries with
  | nil => rfl
  | cons entry entries ih =>
    rw [alter, List.map_cons, insertDistinct]
    split
    · rfl
    · split
      · next hkey => rw [List.map_cons, hkey]
      · rw [List.map_cons, ih]

variable [LE κ] [Std.IsLinearOrder κ] [Std.LawfulOrderLT κ]

theorem ascending_alter (h : Ascending (entries.map (·.1))) (key : κ) (update : Option β → β) :
    Ascending ((entries.alter key update).map (·.1)) := by
  rw [map_fst_alter]
  exact ascending_insertDistinct key h

/-- A change is seen under its key and nowhere else. -/
theorem lookup_alter (h : Ascending (entries.map (·.1))) (key : κ) (update : Option β → β)
    (other : κ) :
    (entries.alter key update).lookup other =
      if other = key then some (update (entries.lookup key)) else entries.lookup other := by
  induction entries with
  | nil => rw [alter, lookup_cons_eq]; rfl
  | cons entry entries ih =>
    obtain ⟨first, value⟩ := entry
    obtain ⟨hfirst, hentries⟩ := List.pairwise_cons.mp h
    rw [alter]
    split
    · next hlt =>
      -- What comes after is greater, so there was nothing under the key.
      have hnone : List.lookup key ((first, value) :: entries) = none := by
        apply lookup_eq_none
        intro hmem
        rcases List.mem_cons.mp hmem with rfl | hrest
        · exact Std.lt_irrefl hlt
        · exact Std.lt_irrefl (Std.lt_trans hlt (hfirst key hrest))
      rw [lookup_cons_eq, hnone]
    · split
      · next hkey =>
        obtain rfl : key = first := hkey
        rw [lookup_cons_eq, lookup_cons_eq, if_pos rfl, lookup_cons_eq]
        split
        · rfl
        · rfl
      · next hkey =>
        have hne : ¬key = first := hkey
        rw [lookup_cons_eq, ih hentries, lookup_cons_eq, if_neg hne, lookup_cons_eq]
        by_cases hother : other = first
        · rw [if_pos hother, if_pos hother, if_neg fun heq => hne (heq.symm.trans hother)]
        · rw [if_neg hother, if_neg hother]

section Changes

variable {outer : σ → κ} {update : σ → Option β → β}

theorem ascending_foldl (h : Ascending (entries.map (·.1))) (steps : List σ) :
    Ascending ((steps.foldl (fun entries step => entries.alter (outer step) (update step))
      entries).map (·.1)) := by
  induction steps generalizing entries with
  | nil => exact h
  | cons step steps ih => exact ih (ascending_alter h _ _)

theorem lookup_foldl (h : Ascending (entries.map (·.1))) (steps : List σ) (key : κ) :
    (steps.foldl (fun entries step => entries.alter (outer step) (update step)) entries).lookup
        key =
      (steps.filter fun step => outer step = key).foldl
        (fun found step => some (update step found)) (entries.lookup key) := by
  induction steps generalizing entries with
  | nil => rfl
  | cons step steps ih =>
    rw [List.foldl_cons, ih (ascending_alter h _ _), lookup_alter h]
    by_cases hkey : outer step = key
    · rw [List.filter_cons_of_pos (by simpa using hkey), List.foldl_cons, if_pos hkey.symm, hkey]
    · rw [List.filter_cons_of_neg (by simpa using hkey), if_neg (Ne.symm hkey)]

end Changes

end KeyedList

section Sorted

variable {α κ : Type}

/-- Sorting is stable: elements of which none has to come after another keep their order. -/
theorem filter_mergeSort_of_le {le : α → α → Bool}
    (htrans : ∀ a b c, le a b = true → le b c = true → le a c = true)
    (htotal : ∀ a b, (le a b || le b a) = true) (as : List α) {kept : α → Bool}
    (hkept : ∀ {a b}, kept a = true → kept b = true → le a b = true) :
    (as.mergeSort le).filter kept = as.filter kept := by
  have hordered : (as.filter kept).Pairwise fun a b => le a b = true :=
    List.pairwise_of_forall_mem_list fun a ha b hb =>
      hkept (List.mem_filter.mp ha).2 (List.mem_filter.mp hb).2
  have hsublist := (List.sublist_mergeSort htrans htotal hordered List.filter_sublist).filter kept
  have hlength := ((List.mergeSort_perm as le).filter kept).length_eq
  rw [List.filter_filter, funext fun a => Bool.and_self (kept a)] at hsublist
  exact (hsublist.eq_of_length hlength.symm).symm

/-- Two lists that are sorted by a key are the same if they have the same under every key. -/
theorem eq_of_filter_key_eq [LE κ] [Std.IsLinearOrder κ] [DecidableEq κ] {key : α → κ}
    {as bs : List α} (has : as.Pairwise fun a b => key a ≤ key b)
    (hbs : bs.Pairwise fun a b => key a ≤ key b)
    (h : ∀ k, as.filter (fun a => key a = k) = bs.filter fun b => key b = k) : as = bs := by
  induction as generalizing bs with
  | nil =>
    symm
    apply List.eq_nil_iff_forall_not_mem.mpr
    intro b hb
    have hmem : b ∈ bs.filter fun other => key other = key b :=
      List.mem_filter.mpr ⟨hb, decide_eq_true rfl⟩
    rw [← h] at hmem
    cases hmem
  | cons a as ih =>
    have hmem : a ∈ bs.filter fun other => key other = key a := by
      rw [← h]
      exact List.mem_filter.mpr ⟨List.mem_cons_self, decide_eq_true rfl⟩
    cases bs with
    | nil => cases hmem
    | cons b bs =>
      have hmem' : b ∈ (a :: as).filter fun other => key other = key b := by
        rw [h]
        exact List.mem_filter.mpr ⟨List.mem_cons_self, decide_eq_true rfl⟩
      obtain ⟨hfirst, hrest⟩ := List.pairwise_cons.mp has
      obtain ⟨hfirst', hrest'⟩ := List.pairwise_cons.mp hbs
      -- Each first element is in the other list, so neither of their keys is greater.
      have hle : key a ≤ key b := by
        rcases List.mem_cons.mp (List.mem_filter.mp hmem').1 with rfl | hlater
        · exact Std.le_refl _
        · exact hfirst b hlater
      have hle' : key b ≤ key a := by
        rcases List.mem_cons.mp (List.mem_filter.mp hmem).1 with rfl | hlater
        · exact Std.le_refl _
        · exact hfirst' a hlater
      have hkey : key b = key a := Std.le_antisymm hle' hle
      have hhead := h (key a)
      rw [List.filter_cons_of_pos (by simp), List.filter_cons_of_pos (by simp [hkey])] at hhead
      obtain ⟨rfl, hsame⟩ := List.cons.inj hhead
      refine congrArg _ (ih hrest hrest' fun k => ?_)
      by_cases hk : key a = k
      · subst hk
        exact hsame
      · have hothers := h k
        rwa [List.filter_cons_of_neg (by simpa using hk),
          List.filter_cons_of_neg (by simpa using hk)] at hothers

end Sorted

/-- Cells under two keys, row by row. -/
abbrev Table (κ ι β : Type) := KeyedList κ (KeyedList ι β)

namespace Table

/-- Rows and their cells in ascending order, and no row without a cell. -/
structure Ordered {κ ι β : Type} [LT κ] [LT ι] (table : Table κ ι β) : Prop where
  rows : Ascending (table.map (·.1))
  cells : ∀ row ∈ table, Ascending (row.2.map (·.1)) ∧ row.2 ≠ []

theorem Ordered.nil {κ ι β : Type} [LT κ] [LT ι] : Ordered ([] : Table κ ι β) :=
  ⟨List.Pairwise.nil, List.forall_mem_nil _⟩

section Cells

variable {κ ι β γ : Type} [DecidableEq κ]

section Lookup

variable [LT κ] [LE κ] [Std.LawfulOrderLT κ] [LT ι] {table : Table κ ι β} {row : κ}
  {cells : KeyedList ι β}

theorem Ordered.mem_iff (h : Ordered table) :
    (row, cells) ∈ table ↔ table.lookup row = some cells :=
  KeyedList.mem_iff_lookup h.rows.nodup

theorem Ordered.ascending_row (h : Ordered table) (row : κ) :
    Ascending (((table.lookup row).getD []).map (·.1)) := by
  cases hrow : table.lookup row with
  | none => exact List.Pairwise.nil
  | some cells => exact (h.cells _ (h.mem_iff.mpr hrow)).1

end Lookup

variable [DecidableEq ι]

/-- The cell in a row and a column, if there is one. -/
def cell? (table : Table κ ι β) (row : κ) (column : ι) : Option β :=
  (table.lookup row).bind fun cells => cells.lookup column

variable [LT κ] [LE κ] [Std.LawfulOrderLT κ] [LT ι] [LE ι] [Std.LawfulOrderLT ι]
  {table : Table κ ι β} {row : κ} {cells : KeyedList ι β}

theorem Ordered.mem_cell_iff (h : Ordered table) {column : ι} {cell : β} :
    (∃ cells, (row, cells) ∈ table ∧ (column, cell) ∈ cells) ↔
      cell? table row column = some cell := by
  rw [cell?, Option.bind_eq_some_iff]
  constructor
  · rintro ⟨cells, hrow, hcell⟩
    exact ⟨cells, h.mem_iff.mp hrow,
      (KeyedList.mem_iff_lookup (h.cells _ hrow).1.nodup).mp hcell⟩
  · rintro ⟨cells, hrow, hcell⟩
    have hmem := h.mem_iff.mpr hrow
    exact ⟨cells, hmem, (KeyedList.mem_iff_lookup (h.cells _ hmem).1.nodup).mpr hcell⟩

/-- A row that is there has a cell. -/
theorem Ordered.exists_cell (h : Ordered table) (hrow : (row, cells) ∈ table) :
    ∃ column cell, cell? table row column = some cell := by
  obtain ⟨⟨column, cell⟩, hcell⟩ := List.exists_mem_of_ne_nil _ (h.cells _ hrow).2
  exact ⟨column, cell, h.mem_cell_iff.mp ⟨cells, hrow, hcell⟩⟩

variable [Std.IsLinearOrder κ] [Std.IsLinearOrder ι]

/-- Tables in order with related cells everywhere are related row by row. -/
theorem matches_of_cell? {table' : Table κ ι γ} {related : β → γ → Prop} (h : Ordered table)
    (h' : Ordered table')
    (hrelated : ∀ row column, Option.Rel related (cell? table row column)
      (cell? table' row column)) :
    KeyedList.Matches (KeyedList.Matches related) table table' := by
  apply KeyedList.matches_of_lookup h.rows h'.rows
  intro row
  cases hrow : table.lookup row with
  | none =>
    cases hrow' : table'.lookup row with
    | none => exact Option.Rel.none
    | some cells' =>
      -- The row has a cell, and in the other table there is none.
      obtain ⟨column, cell, hcell⟩ := h'.exists_cell (h'.mem_iff.mpr hrow')
      have hnone := hrelated row column
      rw [cell?, hrow, hcell] at hnone
      cases hnone
  | some cells =>
    cases hrow' : table'.lookup row with
    | none =>
      obtain ⟨column, cell, hcell⟩ := h.exists_cell (h.mem_iff.mpr hrow)
      have hnone := hrelated row column
      rw [hcell, cell?, hrow'] at hnone
      cases hnone
    | some cells' =>
      have hcells := hrelated row
      simp only [cell?, hrow, hrow'] at hcells
      exact Option.Rel.some (KeyedList.matches_of_lookup (h.cells _ (h.mem_iff.mpr hrow)).1
        (h'.cells _ (h'.mem_iff.mpr hrow')).1 hcells)

/-- Two tables in order that have the same in some cells. -/
structure SameIn (spared : κ → ι → Prop) (table other : Table κ ι β) : Prop where
  left : Ordered table
  right : Ordered other
  cells : ∀ {row column}, spared row column → cell? other row column = cell? table row column

theorem SameIn.eq {spared : κ → ι → Prop} {other : Table κ ι β} (h : SameIn spared table other)
    (hall : ∀ row column, spared row column) : other = table := by
  have hmatches : KeyedList.Matches (KeyedList.Matches (· = ·)) other table := by
    apply matches_of_cell? h.right h.left
    intro row column
    rw [h.cells (hall row column)]
    cases cell? table row column with
    | none => exact .none
    | some cell => exact .some rfl
  have hrows : other.Matches (· = ·) table :=
    List.Forall₂.imp (fun _ _ hrow => ⟨hrow.1, hrow.2.eq⟩) hmatches
  exact hrows.eq

end Cells

variable {κ ι β σ : Type} [LT κ] [DecidableLT κ] [DecidableEq κ] [LT ι] [DecidableLT ι]
  [DecidableEq ι]

/-- Changes a cell, adding it if it is not there. -/
def alter (row : κ) (column : ι) (update : Option β → β) (table : Table κ ι β) : Table κ ι β :=
  KeyedList.alter row (fun cells => (cells.getD []).alter column update) table

variable [LE κ] [Std.IsLinearOrder κ] [Std.LawfulOrderLT κ] [LE ι] [Std.IsLinearOrder ι]
  [Std.LawfulOrderLT ι] {table : Table κ ι β}

theorem Ordered.alter (h : Ordered table) (row : κ) (column : ι) (update : Option β → β) :
    Ordered (table.alter row column update) := by
  have hrows := KeyedList.ascending_alter h.rows row
    fun cells => (cells.getD []).alter column update
  refine ⟨hrows, ?_⟩
  rintro ⟨other, cells⟩ hmem
  have hlookup := (KeyedList.mem_iff_lookup hrows.nodup).mp hmem
  rw [KeyedList.lookup_alter h.rows] at hlookup
  split at hlookup
  · cases hlookup
    constructor
    · exact KeyedList.ascending_alter (h.ascending_row row) column update
    · intro hnil
      have hkeys := KeyedList.map_fst_alter column update ((table.lookup row).getD [])
      dsimp only at hnil
      rw [hnil] at hkeys
      have hcolumn : column ∈ insertDistinct column (((table.lookup row).getD []).map (·.1)) :=
        mem_insertDistinct.mpr (Or.inl rfl)
      rw [← hkeys] at hcolumn
      cases hcolumn
  · exact h.cells _ (h.mem_iff.mpr hlookup)

theorem cell?_alter (h : Ordered table) (row : κ) (column : ι) (update : Option β → β) (other : κ)
    (other' : ι) :
    cell? (table.alter row column update) other other' =
      if other = row ∧ other' = column then some (update (table.cell? row column))
      else table.cell? other other' := by
  rw [Table.alter, cell?, KeyedList.lookup_alter h.rows]
  by_cases hrow : other = row
  · rw [if_pos hrow, Option.bind_some, KeyedList.lookup_alter (h.ascending_row row)]
    subst hrow
    cases hfound : table.lookup other with
    | none => simp [cell?, hfound]
    | some cells => simp [cell?, hfound]
  · rw [if_neg hrow, if_neg fun hboth => hrow hboth.1]
    rfl

section Changes

variable {row : σ → κ} {column : σ → ι} {update : σ → Option β → β} {steps : List σ} {other : κ}
  {other' : ι}

theorem Ordered.foldl (h : Ordered table) (steps : List σ) :
    Ordered (steps.foldl (fun table step => table.alter (row step) (column step) (update step))
      table) := by
  induction steps generalizing table with
  | nil => exact h
  | cons step steps ih => exact ih (h.alter _ _ _)

theorem cell?_foldl (h : Ordered table) (steps : List σ) (other : κ) (other' : ι) :
    cell? (steps.foldl (fun table step => table.alter (row step) (column step) (update step))
        table) other other' =
      (steps.filter fun step => row step = other ∧ column step = other').foldl
        (fun found step => some (update step found)) (table.cell? other other') := by
  induction steps generalizing table with
  | nil => rfl
  | cons step steps ih =>
    rw [List.foldl_cons, ih (h.alter _ _ _), cell?_alter h]
    by_cases hhere : row step = other ∧ column step = other'
    · obtain ⟨rfl, rfl⟩ := hhere
      rw [List.filter_cons_of_pos (by simp), List.foldl_cons, if_pos ⟨rfl, rfl⟩]
    · rw [List.filter_cons_of_neg (by simpa using hhere),
        if_neg fun heq => hhere ⟨heq.1.symm, heq.2.symm⟩]

/-- A cell that is written to, always with the same, holds that in the end. -/
theorem cell?_foldl_eq_some (h : Ordered table) {value : σ → β} {cell : β}
    (hvalue : ∀ step ∈ steps, row step = other → column step = other' → value step = cell)
    (hwritten : ∃ step ∈ steps, row step = other ∧ column step = other') :
    cell? (steps.foldl (fun table step =>
      table.alter (row step) (column step) fun _ => value step) table) other other' =
        some cell := by
  rw [cell?_foldl h]
  have hall : ∀ step ∈ steps.filter fun step => row step = other ∧ column step = other',
      value step = cell := by
    intro step hstep
    obtain ⟨hmem, hhere⟩ := List.mem_filter.mp hstep
    exact hvalue step hmem (of_decide_eq_true hhere).1 (of_decide_eq_true hhere).2
  obtain ⟨step, hstep, hhere⟩ := hwritten
  have hmem : step ∈ steps.filter fun step => row step = other ∧ column step = other' :=
    List.mem_filter.mpr ⟨hstep, decide_eq_true hhere⟩
  -- Only the last of the changes counts.
  obtain hnil | ⟨before, last, heq⟩ :=
    List.eq_nil_or_concat (steps.filter fun step => row step = other ∧ column step = other')
  · rw [hnil] at hmem
    cases hmem
  · rw [heq] at hall ⊢
    rw [List.concat_eq_append] at hall ⊢
    rw [List.foldl_append, List.foldl_cons, List.foldl_nil]
    exact congrArg some (hall last (List.mem_append_right _ List.mem_cons_self))

/-- A cell that nothing is done to stays as it was. -/
theorem cell?_foldl_of_forall_ne (h : Ordered table)
    (hother : ∀ step ∈ steps, ¬(row step = other ∧ column step = other')) :
    cell? (steps.foldl (fun table step => table.alter (row step) (column step) (update step))
      table) other other' = table.cell? other other' := by
  rw [cell?_foldl h, List.filter_eq_nil_iff.mpr fun step hstep => by simpa using hother step hstep]
  rfl

end Changes

/-- Two tables in order with cells in the same places, and related cells there. -/
structure Corresponds {γ : Type} (related : β → γ → Prop) (table : Table κ ι β)
    (other : Table κ ι γ) : Prop where
  left : Ordered table
  right : Ordered other
  cells : ∀ row column, Option.Rel related (cell? table row column) (cell? other row column)

namespace Corresponds

variable {γ τ : Type} {related : β → γ → Prop} {other : Table κ ι γ}

/-- Changes that relate what was there relate what is there then. -/
theorem alter (h : Corresponds related table other) (row : κ) (column : ι)
    {update : Option β → β} {update' : Option γ → γ}
    (hupdate : ∀ {found found'}, Option.Rel related found found' →
      related (update found) (update' found')) :
    Corresponds related (table.alter row column update) (other.alter row column update') := by
  refine ⟨h.left.alter row column update, h.right.alter row column update', fun row' column' => ?_⟩
  rw [cell?_alter h.left, cell?_alter h.right]
  split
  · exact .some (hupdate (h.cells row column))
  · exact h.cells row' column'

theorem foldl {row : σ → κ} {column : σ → ι} {update : σ → Option β → β} {row' : τ → κ}
    {column' : τ → ι} {update' : τ → Option γ → γ} {steps : List σ} {steps' : List τ}
    (h : Corresponds related table other)
    (hsteps : List.Forall₂ (fun step step' => row step = row' step' ∧ column step = column' step' ∧
      ∀ {found found'}, Option.Rel related found found' →
        related (update step found) (update' step' found')) steps steps') :
    Corresponds related
      (steps.foldl (fun table step => table.alter (row step) (column step) (update step)) table)
      (steps'.foldl (fun table step => table.alter (row' step) (column' step) (update' step))
        other) := by
  induction hsteps generalizing table other with
  | nil => exact h
  | cons hstep _ ih =>
    obtain ⟨hrow, hcolumn, hupdate⟩ := hstep
    rw [List.foldl_cons, List.foldl_cons, ← hrow, ← hcolumn]
    exact ih (h.alter _ _ hupdate)

end Corresponds

end Table

end Authorization
