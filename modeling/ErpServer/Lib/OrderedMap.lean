import Mathlib.Algebra.BigOperators.Group.Finset.Piecewise
import Mathlib.Algebra.BigOperators.Group.List.Basic
import Mathlib.Data.List.Induction
import Mathlib.Data.List.Nodup

/-!
# Insertion-ordered maps

A map as a list of entries in the order their keys first arrived.  Setting a key
that is present replaces its value in place; setting a new one appends.  Reading
never depends on the order, but iterating does.
-/

namespace Lib

/-- Entries in the order their keys were first set. -/
structure OrderedMap (κ ν : Type*) where
  entries : List (κ × ν)
  deriving DecidableEq, Repr

namespace OrderedMap

variable {κ ν μ : Type*}

def empty : OrderedMap κ ν := ⟨[]⟩

def keys (map : OrderedMap κ ν) : List κ := map.entries.map Prod.fst

def values (map : OrderedMap κ ν) : List ν := map.entries.map Prod.snd

def mapValues (image : ν → μ) (map : OrderedMap κ ν) : OrderedMap κ μ :=
  ⟨map.entries.map fun entry => (entry.1, image entry.2)⟩

/-- Change every value in place, by its key. -/
def update (image : κ → ν → ν) (map : OrderedMap κ ν) : OrderedMap κ ν :=
  ⟨map.entries.map fun entry => (entry.1, image entry.1 entry.2)⟩

@[simp] theorem keys_empty : (empty : OrderedMap κ ν).keys = [] := rfl

variable [DecidableEq κ]

private def setEntry (key : κ) (value : ν) : List (κ × ν) → List (κ × ν)
  | [] => [(key, value)]
  | entry :: rest =>
      if entry.1 = key then (key, value) :: rest else entry :: setEntry key value rest

/-- Replace the value of a present key in place, or append a new entry. -/
def set (map : OrderedMap κ ν) (key : κ) (value : ν) : OrderedMap κ ν :=
  ⟨setEntry key value map.entries⟩

private def findEntry (key : κ) : List (κ × ν) → Option ν
  | [] => none
  | entry :: rest => if key = entry.1 then some entry.2 else findEntry key rest

def get? (map : OrderedMap κ ν) (key : κ) : Option ν := findEntry key map.entries

def has (map : OrderedMap κ ν) (key : κ) : Bool := (map.get? key).isSome

def ofList (entries : List (κ × ν)) : OrderedMap κ ν :=
  entries.foldl (fun map entry => map.set entry.1 entry.2) empty

@[simp] theorem get?_empty (key : κ) : (empty : OrderedMap κ ν).get? key = none := rfl

theorem get?_set (map : OrderedMap κ ν) (key query : κ) (value : ν) :
    (map.set key value).get? query = if query = key then some value else map.get? query := by
  obtain ⟨entries⟩ := map
  simp only [set, get?]
  induction entries with
  | nil => simp [setEntry, findEntry]
  | cons entry rest ih =>
      by_cases headEq : entry.1 = key
      · by_cases equal : query = key <;> simp [setEntry, findEntry, headEq, equal]
      · by_cases queryEq : query = entry.1
        · simp [setEntry, findEntry, headEq, queryEq]
        · simpa [setEntry, findEntry, headEq, queryEq] using ih

@[simp] theorem get?_set_self (map : OrderedMap κ ν) (key : κ) (value : ν) :
    (map.set key value).get? key = some value := by
  simp [get?_set]

variable {key : κ} {map : OrderedMap κ ν} {value : ν}

theorem get?_set_of_ne (map : OrderedMap κ ν) {query : κ} (value : ν) (different : query ≠ key) :
    (map.set key value).get? query = map.get? query := by
  simp [get?_set, different]

@[simp] theorem get?_mapValues (image : ν → μ) (map : OrderedMap κ ν) (key : κ) :
    (map.mapValues image).get? key = (map.get? key).map image := by
  obtain ⟨entries⟩ := map
  simp only [mapValues, get?]
  induction entries with
  | nil => rfl
  | cons entry rest ih => by_cases equal : key = entry.1 <;> simp [findEntry, equal, ih]

theorem mapValues_set (image : ν → μ) (map : OrderedMap κ ν) (key : κ) (value : ν) :
    (map.set key value).mapValues image = (map.mapValues image).set key (image value) := by
  obtain ⟨entries⟩ := map
  simp only [mapValues, set, mk.injEq]
  induction entries with
  | nil => rfl
  | cons entry rest ih => by_cases equal : entry.1 = key <;> simp [setEntry, equal, ih]

theorem mem_keys_iff (map : OrderedMap κ ν) (key : κ) :
    key ∈ map.keys ↔ ∃ value, map.get? key = some value := by
  obtain ⟨entries⟩ := map
  simp only [keys, get?]
  induction entries with
  | nil => simp [findEntry]
  | cons entry rest ih =>
      by_cases equal : key = entry.1
      · simp [findEntry, equal]
      · simpa [findEntry, equal] using ih

theorem mem_keys_set (map : OrderedMap κ ν) (key query : κ) (value : ν) :
    query ∈ (map.set key value).keys ↔ query = key ∨ query ∈ map.keys := by
  simp only [mem_keys_iff, get?_set]
  by_cases equal : query = key <;> simp [equal]

theorem keys_set_nodup (nodup : map.keys.Nodup) (key : κ) (value : ν) :
    (map.set key value).keys.Nodup := by
  obtain ⟨entries⟩ := map
  simp only [keys, set] at nodup ⊢
  induction entries with
  | nil => simp [setEntry]
  | cons entry rest ih =>
      simp only [List.map_cons, List.nodup_cons] at nodup
      by_cases headEq : entry.1 = key
      · simpa [setEntry, headEq] using nodup
      · have kept : entry.1 ∉ (setEntry key value rest).map Prod.fst := by
          intro member
          have found : entry.1 = key ∨ entry.1 ∈ (⟨rest⟩ : OrderedMap κ ν).keys :=
            (mem_keys_set ⟨rest⟩ key entry.1 value).mp member
          exact found.elim headEq nodup.1
        simpa [setEntry, headEq, kept] using ih nodup.2

theorem mem_entries_set {entry : κ × ν} (member : entry ∈ (map.set key value).entries) :
    entry = (key, value) ∨ entry ∈ map.entries := by
  obtain ⟨entries⟩ := map
  simp only [set] at member ⊢
  induction entries with
  | nil => exact Or.inl (by simpa [setEntry] using member)
  | cons head rest ih =>
      rw [setEntry] at member
      split at member
      · rcases List.mem_cons.mp member with here | later
        · exact Or.inl here
        · exact Or.inr (List.mem_cons_of_mem _ later)
      · rcases List.mem_cons.mp member with rfl | later
        · exact Or.inr List.mem_cons_self
        · exact (ih later).imp_right (List.mem_cons_of_mem _)

/-- A key the map does not hold is appended. -/
theorem entries_set_of_not_mem (absent : key ∉ map.keys) (value : ν) :
    (map.set key value).entries = map.entries ++ [(key, value)] := by
  obtain ⟨entries⟩ := map
  simp only [keys, set] at absent ⊢
  induction entries with
  | nil => rfl
  | cons entry rest ih =>
      rw [List.map_cons, List.mem_cons, not_or] at absent
      rw [setEntry, if_neg (Ne.symm absent.1), ih absent.2, List.cons_append]

theorem get?_of_mem (nodup : map.keys.Nodup) (member : (key, value) ∈ map.entries) :
    map.get? key = some value := by
  obtain ⟨entries⟩ := map
  simp only [keys, get?] at nodup member ⊢
  induction entries with
  | nil => simp at member
  | cons entry rest ih =>
      simp only [List.map_cons, List.nodup_cons] at nodup
      rcases List.mem_cons.mp member with rfl | later
      · simp [findEntry]
      · have different : key ≠ entry.1 := by
          rintro rfl
          exact nodup.1 (List.mem_map.mpr ⟨_, later, rfl⟩)
        simpa [findEntry, different] using ih nodup.2 later

theorem mem_of_get? (found : map.get? key = some value) : (key, value) ∈ map.entries := by
  obtain ⟨entries⟩ := map
  simp only [get?] at found ⊢
  induction entries with
  | nil => simp [findEntry] at found
  | cons entry rest ih =>
      by_cases equal : key = entry.1
      · simp only [findEntry, equal, if_true, Option.some.injEq] at found
        simp [equal, ← found]
      · simp only [findEntry, equal, if_false] at found
        exact List.mem_cons_of_mem _ (ih found)

theorem mem_of_get?_ofList {entries : List (κ × ν)} (found : (ofList entries).get? key = some value) :
    (key, value) ∈ entries := by
  suffices general : ∀ start : OrderedMap κ ν,
      (entries.foldl (fun map entry => map.set entry.1 entry.2) start).get? key = some value →
        start.get? key = some value ∨ (key, value) ∈ entries from
    (general empty found).resolve_left (by simp)
  clear found
  induction entries with
  | nil => exact fun start found => Or.inl found
  | cons entry rest ih =>
      intro start found
      rcases ih (start.set entry.1 entry.2) found with earlier | later
      · rw [get?_set] at earlier
        split at earlier
        next equal =>
          obtain rfl := Option.some.inj earlier
          exact Or.inr (by simp [equal])
        next => exact Or.inl earlier
      · exact Or.inr (List.mem_cons_of_mem _ later)

theorem keys_ofList_nodup (entries : List (κ × ν)) : (ofList entries).keys.Nodup := by
  suffices general : ∀ start : OrderedMap κ ν, start.keys.Nodup →
      (entries.foldl (fun map entry => map.set entry.1 entry.2) start).keys.Nodup from
    general empty List.nodup_nil
  induction entries with
  | nil => exact fun start nodup => nodup
  | cons entry rest ih => exact fun start nodup => ih _ (keys_set_nodup nodup _ _)

theorem mem_keys_ofList (entries : List (κ × ν)) (key : κ) :
    key ∈ (ofList entries).keys ↔ key ∈ entries.map Prod.fst := by
  suffices general : ∀ start : OrderedMap κ ν,
      key ∈ (entries.foldl (fun map entry => map.set entry.1 entry.2) start).keys ↔
        key ∈ start.keys ∨ key ∈ entries.map Prod.fst by
    have fromEmpty := general empty
    rw [keys_empty] at fromEmpty
    simpa [ofList] using fromEmpty
  induction entries with
  | nil => simp
  | cons entry rest ih =>
      intro start
      rw [List.foldl_cons, ih, mem_keys_set, List.map_cons, List.mem_cons]
      tauto

/-- Of entries that do not compete for a key, the map keeps what they come to. -/
theorem getD_get?_ofList {M : Type*} [AddCommMonoid M] {entries : List (κ × M)}
    (alone : (entries.filter fun entry => entry.1 = key).length ≤ 1 ∨
      ∀ entry ∈ entries, entry.1 = key → entry.2 = 0) : ((ofList entries).get? key).getD 0 =
      ((entries.filter fun entry => entry.1 = key).map Prod.snd).sum := by
  cases found : (ofList entries).get? key with
  | none =>
      have absent : entries.filter (fun entry => entry.1 = key) = [] := by
        rw [List.filter_eq_nil_iff]
        intro entry member named
        have isKey : key ∈ (ofList entries).keys := by
          rw [mem_keys_ofList, ← of_decide_eq_true named]
          exact List.mem_map_of_mem member
        obtain ⟨value, there⟩ := (mem_keys_iff _ _).mp isKey
        rw [found] at there
        cases there
      rw [absent]
      rfl
  | some value =>
      have member := mem_of_get?_ofList found
      have kept : (key, value) ∈ entries.filter fun entry => entry.1 = key :=
        List.mem_filter.mpr ⟨member, by simp⟩
      rw [Option.getD_some]
      cases alone with
      | inl short =>
          have one := Nat.le_antisymm short (List.length_pos_of_mem kept)
          obtain ⟨only, shape⟩ := List.length_eq_one_iff.mp one
          rw [shape] at kept ⊢
          rw [← List.mem_singleton.mp kept]
          simp
      | inr zero =>
          have none : value = 0 := zero _ member rfl
          rw [none]
          symm
          apply List.sum_eq_zero
          intro other otherMem
          obtain ⟨entry, entryMem, rfl⟩ := List.mem_map.mp otherMem
          have inside := List.mem_filter.mp entryMem
          exact zero entry inside.1 (of_decide_eq_true inside.2)

/-- Setting a key moves a total over the entries by what the entry of that key
gained. -/
theorem sum_set {M : Type*} [AddCommMonoid M] (measure : κ → ν → M) (map : OrderedMap κ ν)
    (key : κ) (value : ν) (gain : M)
    (grows : measure key value = (map.get? key).elim 0 (measure key) + gain) :
    ((map.set key value).entries.map fun entry => measure entry.1 entry.2).sum =
      (map.entries.map fun entry => measure entry.1 entry.2).sum + gain := by
  obtain ⟨entries⟩ := map
  simp only [get?, set] at grows ⊢
  induction entries with
  | nil => simpa [setEntry, findEntry] using grows
  | cons entry rest ih =>
      by_cases equal : entry.1 = key
      · subst equal
        simp only [findEntry, if_true, Option.elim_some] at grows
        simp only [setEntry, if_true, List.map_cons, List.sum_cons, grows]
        exact add_right_comm _ _ _
      · simp only [findEntry, Ne.symm equal, if_false] at grows
        simp only [setEntry, equal, if_false, List.map_cons, List.sum_cons, ih grows, add_assoc]

/-- Setting a key trades what its entry counted for, in a total over the entries, for
what the new value counts for. -/
theorem sum_set_trade {M : Type*} [AddCommMonoid M] (measure : κ → ν → M) (map : OrderedMap κ ν)
    (key : κ) (value : ν) :
    ((map.set key value).entries.map fun entry => measure entry.1 entry.2).sum +
        (map.get? key).elim 0 (measure key) =
      (map.entries.map fun entry => measure entry.1 entry.2).sum + measure key value := by
  obtain ⟨entries⟩ := map
  simp only [get?, set]
  induction entries with
  | nil => simp [setEntry, findEntry]
  | cons entry rest ih =>
      by_cases equal : entry.1 = key
      · subst equal
        simp only [setEntry, findEntry, if_true, Option.elim_some, List.map_cons, List.sum_cons]
        rw [add_right_comm, add_comm (measure _ value), add_right_comm]
      · simp only [setEntry, findEntry, equal, Ne.symm equal, if_false, List.map_cons,
          List.sum_cons, add_assoc, ih]

/-! ## Grouping -/

section Grouping

variable {α : Type*}

/-- The items of each key, in order, keys in the order they first appear. -/
def groupBy (keyOf : α → κ) (items : List α) : OrderedMap κ (List α) :=
  items.foldl (fun map item =>
    map.set (keyOf item) ((map.get? (keyOf item)).getD [] ++ [item])) empty

variable (keyOf : α → κ)

/-- A statement about the groups that appending one item keeps. -/
private theorem groupBy_induction {motive : List α → OrderedMap κ (List α) → Prop}
    (base : motive [] empty)
    (advance : ∀ done item map, motive done map → motive (done ++ [item])
      (map.set (keyOf item) ((map.get? (keyOf item)).getD [] ++ [item])))
    (items : List α) : motive items (groupBy keyOf items) := by
  induction items using List.reverseRecOn with
  | nil => exact base
  | append_singleton done item ih =>
      rw [groupBy, List.foldl_append]
      exact advance done item _ ih

theorem get?_groupBy (items : List α) (key : κ) :
    (groupBy keyOf items).get? key =
      if key ∈ items.map keyOf then some (items.filter fun item => keyOf item = key) else none := by
  refine groupBy_induction keyOf (motive := fun items map => map.get? key =
    if key ∈ items.map keyOf then some (items.filter fun item => keyOf item = key) else none)
    rfl ?_ items
  intro done item map held
  rw [get?_set]
  by_cases equal : key = keyOf item
  · subst equal
    by_cases seen : keyOf item ∈ done.map keyOf
    · simp [held, seen]
    · have none : done.filter (fun other => keyOf other = keyOf item) = [] := by
        refine List.filter_eq_nil_iff.mpr fun other member same => ?_
        exact seen (of_decide_eq_true same ▸ List.mem_map_of_mem member)
      simp [held, seen, none]
  · simp [held, equal, Ne.symm equal]

theorem keys_groupBy_nodup (items : List α) : (groupBy keyOf items).keys.Nodup :=
  groupBy_induction keyOf (motive := fun _ map => map.keys.Nodup) List.nodup_nil
    (fun _ _ _ nodup => keys_set_nodup nodup _ _) items

theorem mem_keys_groupBy (items : List α) (key : κ) :
    key ∈ (groupBy keyOf items).keys ↔ key ∈ items.map keyOf := by
  rw [mem_keys_iff]
  simp only [get?_groupBy]
  split <;> simp_all

theorem values_groupBy (items : List α) : (groupBy keyOf items).values =
    (groupBy keyOf items).keys.map fun key => items.filter fun item => keyOf item = key := by
  rw [values, keys, List.map_map]
  apply List.map_congr_left
  rintro ⟨key, group⟩ member
  have found := get?_of_mem (keys_groupBy_nodup keyOf items) member
  rw [get?_groupBy] at found
  split at found
  · exact (Option.some.inj found).symm
  · cases found

/-- A group holds the items of its key. -/
theorem mem_of_mem_groupBy {items : List α} {group : List α}
    (member : (key, group) ∈ (groupBy keyOf items).entries) {item : α} (inGroup : item ∈ group) :
    item ∈ items ∧ keyOf item = key := by
  have found := get?_of_mem (keys_groupBy_nodup keyOf items) member
  rw [get?_groupBy] at found
  split at found
  · obtain rfl := Option.some.inj found
    simpa using inGroup
  · simp at found

/-- Grouping loses nothing. -/
theorem sum_groupBy {M : Type*} [AddCommMonoid M] (amount : α → M) (items : List α) :
    ((groupBy keyOf items).entries.map fun entry => (entry.2.map amount).sum).sum =
      (items.map amount).sum := by
  refine groupBy_induction keyOf (motive := fun items map =>
    (map.entries.map fun entry => (entry.2.map amount).sum).sum = (items.map amount).sum)
    rfl ?_ items
  intro done item map held
  have moved := sum_set (fun _ group => (List.map amount group).sum) map (keyOf item)
    ((map.get? (keyOf item)).getD [] ++ [item]) (amount item)
    (by cases map.get? (keyOf item) <;> simp)
  rw [moved, held]
  simp

end Grouping

/-! ## Running totals -/

section Totals

variable [AddCommMonoid ν]

/-- Add to the figure kept under a key, which starts at zero. -/
def bump (map : OrderedMap κ ν) (key : κ) (amount : ν) : OrderedMap κ ν :=
  map.set key ((map.get? key).getD 0 + amount)

/-- Add every posting to the figure of its key. -/
def accumulate (map : OrderedMap κ ν) (postings : List (κ × ν)) : OrderedMap κ ν :=
  postings.foldl (fun totals posting => totals.bump posting.1 posting.2) map

/-- What the postings under one key come to. -/
def totalOf (key : κ) (postings : List (κ × ν)) : ν :=
  ((postings.filter fun posting => posting.1 = key).map Prod.snd).sum

@[simp] theorem totalOf_nil (key : κ) : totalOf key ([] : List (κ × ν)) = 0 := rfl

theorem totalOf_cons (key : κ) (posting : κ × ν) (postings : List (κ × ν)) :
    totalOf key (posting :: postings) =
      (if posting.1 = key then posting.2 else 0) + totalOf key postings := by
  by_cases equal : posting.1 = key <;> simp [totalOf, equal]

theorem totalOf_append (key : κ) (left right : List (κ × ν)) :
    totalOf key (left ++ right) = totalOf key left + totalOf key right := by
  simp [totalOf]

/-- After the postings a key carries what it carried before plus its own total,
and is present when it was present or was posted to. -/
theorem get?_accumulate (map : OrderedMap κ ν) (postings : List (κ × ν)) (key : κ) :
    (map.accumulate postings).get? key =
      if (map.get? key).isSome ∨ key ∈ postings.map Prod.fst then
        some ((map.get? key).getD 0 + totalOf key postings)
      else none := by
  unfold accumulate
  induction postings generalizing map with
  | nil => cases found : map.get? key <;> simp [found]
  | cons posting postings ih =>
      rw [List.foldl_cons, ih, totalOf_cons]
      by_cases equal : key = posting.1
      · subst equal
        simp [bump, add_assoc]
      · have other : (map.bump posting.1 posting.2).get? key = map.get? key :=
          get?_set_of_ne map _ equal
        simp only [other, List.map_cons, List.mem_cons, equal, false_or, Ne.symm equal, if_false,
          zero_add]

theorem keys_accumulate_nodup (nodup : map.keys.Nodup) (postings : List (κ × ν)) :
    (map.accumulate postings).keys.Nodup := by
  unfold accumulate
  induction postings generalizing map with
  | nil => exact nodup
  | cons posting postings ih => exact ih (keys_set_nodup nodup _ _)

variable {postings : List (κ × ν)}

/-- Postings whose keys are all among some come to the totals of those keys. -/
theorem sum_totalOf {keys : Finset κ} (within : ∀ posting ∈ postings, posting.1 ∈ keys) :
    ∑ key ∈ keys, totalOf key postings = (postings.map Prod.snd).sum := by
  induction postings with
  | nil => simp
  | cons posting rest ih =>
      have later := ih fun other member => within other (List.mem_cons_of_mem _ member)
      have own : posting.1 ∈ keys := within posting List.mem_cons_self
      simp only [totalOf_cons, Finset.sum_add_distrib, later, Finset.sum_ite_eq, own, if_true,
        List.map_cons, List.sum_cons]

/-- Postings that come to the same under every key come to the same. -/
theorem sum_eq_of_totalOf {left right : List (κ × ν)}
    (same : ∀ key, totalOf key left = totalOf key right) :
    (left.map Prod.snd).sum = (right.map Prod.snd).sum := by
  let keys : Finset κ := ((left ++ right).map Prod.fst).toFinset
  have leftWithin : ∀ posting ∈ left, posting.1 ∈ keys := fun posting member =>
    List.mem_toFinset.mpr (List.mem_map_of_mem (List.mem_append_left _ member))
  have rightWithin : ∀ posting ∈ right, posting.1 ∈ keys := fun posting member =>
    List.mem_toFinset.mpr (List.mem_map_of_mem (List.mem_append_right _ member))
  rw [← sum_totalOf leftWithin, ← sum_totalOf rightWithin]
  exact Finset.sum_congr rfl fun key _ => same key

theorem totalOf_flatMap {α : Type*} (key : κ) (items : List α) (postings : α → List (κ × ν)) :
    totalOf key (items.flatMap postings) =
      (items.map fun item => totalOf key (postings item)).sum := by
  induction items with
  | nil => rfl
  | cons item rest ih =>
      rw [List.flatMap_cons, totalOf_append, ih, List.map_cons, List.sum_cons]

theorem mem_entries_accumulate {entry : κ × ν} :
    entry ∈ ((empty : OrderedMap κ ν).accumulate postings).entries ↔
      entry.1 ∈ postings.map Prod.fst ∧ entry.2 = totalOf entry.1 postings := by
  have nodup : ((empty : OrderedMap κ ν).accumulate postings).keys.Nodup :=
    keys_accumulate_nodup (by simp) postings
  have found := get?_accumulate (empty : OrderedMap κ ν) postings entry.1
  simp only [get?_empty, Option.isSome_none, Bool.false_eq_true, false_or, Option.getD_none,
    zero_add] at found
  constructor
  · intro member
    rw [get?_of_mem nodup member] at found
    split at found
    · case isTrue posted => exact ⟨posted, Option.some.inj found⟩
    · cases found
  · intro ⟨posted, total⟩
    rw [if_pos posted, ← total] at found
    exact mem_of_get? found

/-- Accumulated, postings keep their total. -/
theorem sum_entries_accumulate (map : OrderedMap κ ν) (postings : List (κ × ν)) :
    ((map.accumulate postings).entries.map Prod.snd).sum =
      (map.entries.map Prod.snd).sum + (postings.map Prod.snd).sum := by
  unfold accumulate
  induction postings generalizing map with
  | nil => simp
  | cons posting rest ih =>
      have grown := sum_set (fun _ value => value) map posting.1
        ((map.get? posting.1).getD 0 + posting.2) posting.2
        (by cases map.get? posting.1 <;> simp)
      rw [List.foldl_cons, ih]
      rw [bump, grown, List.map_cons, List.sum_cons, add_assoc]

end Totals

/-! ## Tables brought up to date by key -/

/-- Set every one of some keys to a value made from the one it had, if any. -/
def upsert (value : κ → Option ν → ν) (map : OrderedMap κ ν) (upserted : List κ) :
    OrderedMap κ ν :=
  upserted.foldl (fun table key => table.set key (value key (table.get? key))) map

/-- Add a value for every key that has none. -/
def insertMissing (value : κ → ν) (map : OrderedMap κ ν) (inserted : List κ) :
    OrderedMap κ ν :=
  map.upsert (fun key was => was.getD (value key)) inserted

/-- The values of the keys that count, summed. -/
def total {M : Type*} [AddMonoid M] (counts : κ → Bool) (amount : ν → M) (map : OrderedMap κ ν) : M :=
  ((map.entries.filter fun entry => counts entry.1).map fun entry => amount entry.2).sum

section Feeding

variable {ι : Type*}

/-- Feed every item that counts to the value under its key, where the key has one. -/
def Feeds (keyOf : ι → κ) (counts : ι → Bool) (step : ν → ι → ν)
    (feed : OrderedMap κ ν → ι → OrderedMap κ ν) : Prop :=
  ∀ map item, feed map item =
    if counts item then
      (map.get? (keyOf item)).elim map fun value => map.set (keyOf item) (step value item)
    else map

theorem Feeds.get?_foldl {keyOf : ι → κ} {counts : ι → Bool} {step : ν → ι → ν}
    {feed : OrderedMap κ ν → ι → OrderedMap κ ν} (feeds : Feeds keyOf counts step feed)
    (items : List ι) (map : OrderedMap κ ν) (key : κ) :
    (items.foldl feed map).get? key = (map.get? key).map fun value =>
      (items.filter fun item => keyOf item = key && counts item).foldl step value := by
  induction items generalizing map with
  | nil => simp
  | cons item rest ih =>
      rw [List.foldl_cons, ih, feeds]
      cases counted : counts item with
      | false => simp [counted]
      | true =>
          cases found : map.get? (keyOf item) with
          | none =>
              by_cases here : keyOf item = key
              · simp [← here, found]
              · simp [counted, here]
          | some value =>
              by_cases here : keyOf item = key
              · simp [← here, counted, found]
              · simp [get?_set_of_ne _ _ (Ne.symm here), counted, here]

end Feeding

end OrderedMap

/-! ## Entries arranged in a tree -/

/-- The entries of a level, grouped by their label and ordered, and each group arranged
below.  Of entries with the same labels all the way down the last one stands. -/
def Nested.arranged {κ ε : Type*} [DecidableEq κ]
    (siblings : List (κ × List ε) → List (κ × List ε)) (labelAt : ℕ → ε → κ) :
    (depth level : ℕ) → List ε → List ε
  | 0, _, entries => entries.getLast?.toList
  | depth + 1, level, entries =>
      (siblings (OrderedMap.groupBy (labelAt level) entries).entries).flatMap fun group =>
        arranged siblings labelAt depth (level + 1) group.2

end Lib
