import Mathlib.Data.List.Pairwise
import Mathlib.Data.List.Nodup

/-!
# Rows under a unique index

A table as a list of rows in the order they were written, with a partial unique index:
`keyOf` is the key a row is indexed under, `none` for a row the index leaves out.  A row
that would repeat a key is either skipped or refused.
-/

namespace Lib.UniqueIndex

variable {α κ : Type*} {keyOf : α → Option κ}

/-- Some row stands under the key of `row`. -/
def Clashes (keyOf : α → Option κ) (rows : List α) (row : α) : Prop :=
  keyOf row ≠ none ∧ ∃ held ∈ rows, keyOf held = keyOf row

/-- No two rows of the index stand under one key. -/
def Unique (keyOf : α → Option κ) (rows : List α) : Prop :=
  rows.Pairwise fun left right => keyOf left ≠ none → keyOf left ≠ keyOf right

theorem Clashes.append {rows : List α} {row : α} (clashes : Clashes keyOf rows row)
    (more : List α) : Clashes keyOf (rows ++ more) row := by
  obtain ⟨keyed, held, heldMem, same⟩ := clashes
  exact ⟨keyed, held, List.mem_append_left more heldMem, same⟩

section Skipping

variable [DecidableEq κ]

instance (rows : List α) (row : α) : Decidable (Clashes keyOf rows row) :=
  inferInstanceAs (Decidable (keyOf row ≠ none ∧ ∃ held ∈ rows, keyOf held = keyOf row))

instance (rows : List α) : Decidable (Unique keyOf rows) :=
  inferInstanceAs (Decidable (rows.Pairwise fun left right =>
    keyOf left ≠ none → keyOf left ≠ keyOf right))

/-- `INSERT … ON CONFLICT DO NOTHING`, of one row. -/
def insertOrSkip (keyOf : α → Option κ) (rows : List α) (row : α) : List α :=
  if Clashes keyOf rows row then rows else rows ++ [row]

/-- The same of several rows, each judged against those written before it. -/
def insertEach (keyOf : α → Option κ) (rows news : List α) : List α :=
  news.foldl (insertOrSkip keyOf) rows

/-- What is written is appended, in order, and clashes with nothing that stood. -/
theorem insertEach_eq (keyOf : α → Option κ) (rows news : List α) :
    ∃ kept, kept.Sublist news ∧ insertEach keyOf rows news = rows ++ kept ∧
      ∀ row ∈ kept, ¬ Clashes keyOf rows row := by
  induction news generalizing rows with
  | nil => exact ⟨[], List.Sublist.slnil, by simp [insertEach], by simp⟩
  | cons new rest ih =>
      by_cases clashes : Clashes keyOf rows new
      · obtain ⟨kept, sub, equal, fresh⟩ := ih rows
        have skipped : insertEach keyOf rows (new :: rest) = insertEach keyOf rows rest := by
          simp [insertEach, insertOrSkip, clashes]
        exact ⟨kept, sub.cons new, skipped.trans equal, fresh⟩
      · obtain ⟨kept, sub, equal, fresh⟩ := ih (rows ++ [new])
        have written :
            insertEach keyOf rows (new :: rest) = insertEach keyOf (rows ++ [new]) rest := by
          simp [insertEach, insertOrSkip, clashes]
        refine ⟨new :: kept, sub.cons_cons new, by rw [written, equal]; simp, ?_⟩
        intro row member
        rcases List.mem_cons.mp member with rfl | inside
        · exact clashes
        · intro stood
          exact fresh row inside (stood.append [new])

/-- Rows under new keys, no two under one, are all written. -/
theorem insertEach_fresh {rows news : List α}
    (fresh : ∀ row ∈ news, ¬ Clashes keyOf rows row) (apart : Unique keyOf news) :
    insertEach keyOf rows news = rows ++ news := by
  induction news generalizing rows with
  | nil => simp [insertEach]
  | cons new rest ih =>
      have written :
          insertEach keyOf rows (new :: rest) = insertEach keyOf (rows ++ [new]) rest := by
        simp [insertEach, insertOrSkip, fresh new List.mem_cons_self]
      have headApart := (List.pairwise_cons.mp apart).1
      have restFresh : ∀ row ∈ rest, ¬ Clashes keyOf (rows ++ [new]) row := by
        intro row member clashes
        obtain ⟨keyed, held, heldMem, same⟩ := clashes
        rcases List.mem_append.mp heldMem with stood | newest
        · exact fresh row (List.mem_cons_of_mem _ member) ⟨keyed, held, stood, same⟩
        · have heldNew : held = new := List.mem_singleton.mp newest
          subst heldNew
          exact headApart row member (same ▸ keyed) same
      rw [written, ih restFresh (List.pairwise_cons.mp apart).2, List.append_assoc,
        List.singleton_append]

end Skipping

/-! ## Writes that are refused -/

/-- A row under a new key may be appended. -/
theorem unique_concat_iff {rows : List α} {row : α} (unique : Unique keyOf rows) :
    Unique keyOf (rows ++ [row]) ↔ ∀ held ∈ rows, keyOf held ≠ none → keyOf held ≠ keyOf row := by
  constructor
  · intro both held member
    exact (List.pairwise_append.mp both).2.2 held member row List.mem_cons_self
  · intro fresh
    refine List.pairwise_append.mpr ⟨unique, List.pairwise_singleton _ _, ?_⟩
    intro held member new isNew
    rw [List.mem_singleton.mp isNew]
    exact fresh held member

section Addressed

variable {ι : Type*} [DecidableEq ι] {idOf : α → ι} {rows : List α} {id : ι} {change : α → α}

/-- `UPDATE … WHERE` the row's id. -/
def updateAt (idOf : α → ι) (rows : List α) (id : ι) (change : α → α) : List α :=
  rows.map fun row => if idOf row = id then change row else row

theorem ids_updateAt (keeps : ∀ row, idOf (change row) = idOf row) :
    (updateAt idOf rows id change).map idOf = rows.map idOf := by
  rw [updateAt, List.map_map]
  apply List.map_congr_left
  intro row _
  rw [Function.comp_apply]
  split
  · exact keeps row
  · rfl

theorem mem_updateAt {row : α} : row ∈ updateAt idOf rows id change ↔
    (∃ held ∈ rows, idOf held = id ∧ change held = row) ∨ row ∈ rows ∧ idOf row ≠ id := by
  rw [updateAt, List.mem_map]
  constructor
  · rintro ⟨held, member, rfl⟩
    split
    · next same => exact Or.inl ⟨held, member, same, rfl⟩
    · next other => exact Or.inr ⟨member, other⟩
  · rintro (⟨held, member, same, rfl⟩ | ⟨member, other⟩)
    · exact ⟨held, member, if_pos same⟩
    · exact ⟨row, member, if_neg other⟩

/-- A selection that does not depend on what changes. -/
theorem filter_updateAt {selects : α → Bool}
    (same : ∀ row ∈ rows, idOf row = id → selects (change row) = selects row) :
    (updateAt idOf rows id change).filter selects = updateAt idOf (rows.filter selects) id change := by
  rw [updateAt, updateAt, List.filter_map]
  congr 1
  apply List.filter_congr
  intro row member
  rw [Function.comp_apply]
  split
  · next here => exact same row member here
  · rfl

theorem updateAt_of_absent (absent : ∀ row ∈ rows, idOf row ≠ id) :
    updateAt idOf rows id change = rows := by
  rw [updateAt, List.map_congr_left fun row member => if_neg (absent row member)]
  exact List.map_id' rows

/-- The row's new key must be no other row's. -/
theorem unique_updateAt_iff (ids : (rows.map idOf).Nodup) (unique : Unique keyOf rows) {row : α}
    (member : row ∈ rows) (here : idOf row = id) :
    Unique keyOf (updateAt idOf rows id change) ↔
      ∀ held ∈ rows, idOf held ≠ id → keyOf held ≠ none → keyOf held ≠ keyOf (change row) := by
  obtain ⟨before, after, rfl⟩ := List.append_of_mem member
  rw [List.map_append, List.map_cons] at ids
  have apart : ∀ held ∈ before ++ after, idOf held ≠ id := by
    intro held heldMem same
    have absent := (List.nodup_middle.mp ids).notMem
    rw [← List.map_append] at absent
    exact absent (here ▸ same ▸ List.mem_map_of_mem heldMem)
  have beforeSame : updateAt idOf before id change = before :=
    updateAt_of_absent fun held heldMem => apart held (List.mem_append_left _ heldMem)
  have afterSame : updateAt idOf after id change = after :=
    updateAt_of_absent fun held heldMem => apart held (List.mem_append_right _ heldMem)
  have written : updateAt idOf (before ++ row :: after) id change =
      before ++ change row :: after :=
    calc updateAt idOf (before ++ row :: after) id change
        = updateAt idOf before id change ++ change row :: updateAt idOf after id change := by
          simp [updateAt, here]
      _ = before ++ change row :: after := by rw [beforeSame, afterSame]
  have others (new : α) : Unique keyOf (before ++ new :: after) ↔
      Unique keyOf (before ++ after) ∧
        ∀ held ∈ before ++ after, keyOf held ≠ none → keyOf held ≠ keyOf new := by
    unfold Unique
    rw [List.pairwise_middle (by
      intro left right differs keyed same
      exact differs (same ▸ keyed) same.symm), List.pairwise_cons, and_comm]
    refine and_congr_right fun _ => forall₂_congr fun held _ => ?_
    constructor
    · intro differs keyed same
      exact differs (same ▸ keyed) same.symm
    · intro differs keyed same
      exact differs (same ▸ keyed) same.symm
  rw [written, others]
  constructor
  · rintro ⟨_, fresh⟩ held heldMem other
    have elsewhere : held ∈ before ++ after := by
      rcases List.mem_append.mp heldMem with inBefore | inRest
      · exact List.mem_append_left _ inBefore
      · rcases List.mem_cons.mp inRest with rfl | inAfter
        · exact (other here).elim
        · exact List.mem_append_right _ inAfter
    exact fresh held elsewhere
  · intro fresh
    refine ⟨((others row).mp unique).1, fun held heldMem => fresh held ?_ (apart held heldMem)⟩
    rcases List.mem_append.mp heldMem with inBefore | inAfter
    · exact List.mem_append_left _ inBefore
    · exact List.mem_append_right _ (List.mem_cons_of_mem _ inAfter)

end Addressed

end Lib.UniqueIndex
