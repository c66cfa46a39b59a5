import Mathlib.Algebra.Group.Subgroup.Basic
import Mathlib.Algebra.Order.BigOperators.Group.List
import Mathlib.Algebra.Order.Ring.Defs
import Mathlib.Tactic.Linarith
import Mathlib.Tactic.Ring

/-!
# Pouring sources into targets

A list of sources is poured into a list of targets, in order, by two cursors that
only move forward.  Each meeting of a source and a target moves the smaller of
what one has and the other lacks.  The module proves what the pour conserves,
seen from either side, and when it fills every target.
-/

namespace Lib.Pour

/-- A holder and the figure it still has, or still lacks. -/
structure Level (α K : Type*) where
  holder : α
  remaining : K
  deriving DecidableEq, Repr

/-- One source landing on one target. -/
structure Transfer (τ σ K : Type*) where
  target : τ
  source : σ
  amount : K
  deriving DecidableEq, Repr

section Weighted

variable {α K : Type*} [Semiring K]

/-- The remaining figures, each counted with the weight of its holder. -/
def weighted (weight : α → K) (levels : List (Level α K)) : K :=
  (levels.map fun level => weight level.holder * level.remaining).sum

/-- The remaining figures together. -/
def total (levels : List (Level α K)) : K := (levels.map Level.remaining).sum

variable (weight : α → K)

@[simp] theorem weighted_nil : weighted weight ([] : List (Level α K)) = 0 := rfl

@[simp] theorem weighted_cons (level : Level α K) (levels : List (Level α K)) :
    weighted weight (level :: levels) =
      weight level.holder * level.remaining + weighted weight levels := by
  simp [weighted]

@[simp] theorem weighted_append (left right : List (Level α K)) :
    weighted weight (left ++ right) = weighted weight left + weighted weight right := by
  simp [weighted]

theorem weighted_one (levels : List (Level α K)) : weighted (fun _ => 1) levels = total levels := by
  simp [weighted, total]

theorem weighted_eq_zero {levels : List (Level α K)}
    (dry : ∀ level ∈ levels, level.remaining = 0) : weighted weight levels = 0 := by
  refine List.sum_eq_zero fun value member => ?_
  obtain ⟨level, levelMem, rfl⟩ := List.mem_map.mp member
  rw [dry level levelMem, mul_zero]

/-- Lowering one level lowers the weighted figure by the weight of its holder. -/
theorem weighted_set {K : Type*} [CommRing K] (weight : α → K) (levels : List (Level α K))
    {index : ℕ} {level : Level α K} (found : levels[index]? = some level) (amount : K) :
    weighted weight (levels.set index ⟨level.holder, level.remaining - amount⟩) +
      weight level.holder * amount = weighted weight levels := by
  induction levels generalizing index with
  | nil => simp at found
  | cons head rest ih =>
      cases index with
      | zero =>
          obtain rfl : head = level := by simpa using found
          simp only [List.set_cons_zero, weighted_cons, mul_sub]
          ring
      | succ index =>
          rw [List.set_cons_succ, weighted_cons, weighted_cons, add_assoc,
            ih (by simpa using found)]

end Weighted

section Transfers

variable {τ σ K : Type*} [Semiring K]

/-- The amounts moved, each counted with the weight of its transfer. -/
def moved (weight : τ → σ → K) (transfers : List (Transfer τ σ K)) : K :=
  (transfers.map fun transfer => weight transfer.target transfer.source * transfer.amount).sum

variable (weight : τ → σ → K)

@[simp] theorem moved_nil : moved weight ([] : List (Transfer τ σ K)) = 0 := rfl

@[simp] theorem moved_cons (transfer : Transfer τ σ K) (transfers : List (Transfer τ σ K)) :
    moved weight (transfer :: transfers) =
      weight transfer.target transfer.source * transfer.amount + moved weight transfers := by
  simp [moved]

@[simp] theorem moved_append (left right : List (Transfer τ σ K)) :
    moved weight (left ++ right) = moved weight left + moved weight right := by
  simp [moved]

end Transfers

/-! ## Filling one target -/

/-- What filling one target leaves behind. -/
structure Filled (τ σ K : Type*) where
  transfers : List (Transfer τ σ K)
  /-- What the target still lacks. -/
  short : K
  /-- The sources the cursor has moved past. -/
  passed : List (Level σ K)
  /-- The sources from the cursor on. -/
  waiting : List (Level σ K)

section Fill

variable {τ σ K : Type*} [CommRing K] [LinearOrder K]

/-- Take from the sources at the cursor until the target lacks nothing or the
sources end.  The cursor moves past a source only when it is empty and the target
still lacks something. -/
def fill (target : τ) : K → List (Level σ K) → Filled τ σ K
  | demand, [] => ⟨[], demand, [], []⟩
  | demand, source :: rest =>
      if demand ≤ 0 then
        ⟨[], demand, [], source :: rest⟩
      else if source.remaining ≤ 0 then
        let later := fill target demand rest
        { later with passed := source :: later.passed }
      else
        let take := min source.remaining demand
        let left : Level σ K := ⟨source.holder, source.remaining - take⟩
        if demand - take ≤ 0 then
          ⟨[⟨target, source.holder, take⟩], demand - take, [], left :: rest⟩
        else
          let later := fill target (demand - take) rest
          { later with
            transfers := ⟨target, source.holder, take⟩ :: later.transfers
            passed := left :: later.passed }

variable (target : τ)

theorem fill_nil (demand : K) : fill target demand ([] : List (Level σ K)) =
    ⟨[], demand, [], []⟩ := by
  rw [fill]

variable {demand : K} {source : Level σ K} {sources : List (Level σ K)}

theorem fill_cons_done (done : demand ≤ 0) (source : Level σ K) (rest : List (Level σ K)) :
    fill target demand (source :: rest) = ⟨[], demand, [], source :: rest⟩ := by
  rw [fill, if_pos done]

theorem fill_cons_dry (lacking : 0 < demand) (dry : source.remaining ≤ 0) (rest : List (Level σ K)) :
    fill target demand (source :: rest) =
      { fill target demand rest with passed := source :: (fill target demand rest).passed } := by
  rw [fill, if_neg (not_le.mpr lacking), if_pos dry]

/-- A source that covers the demand ends the filling with the cursor still on it. -/
theorem fill_cons_covers (lacking : 0 < demand) (covers : demand ≤ source.remaining)
    (rest : List (Level σ K)) : fill target demand (source :: rest) =
      ⟨[⟨target, source.holder, demand⟩], 0, [],
        ⟨source.holder, source.remaining - demand⟩ :: rest⟩ := by
  rw [fill, if_neg (not_le.mpr lacking), if_neg (not_le.mpr (lacking.trans_le covers))]
  simp [min_eq_right covers]

/-- The four ways one step of the filling goes. -/
theorem fill_induction {motive : K → List (Level σ K) → Prop}
    (empty : ∀ demand, motive demand [])
    (done : ∀ demand source rest, demand ≤ 0 → motive demand (source :: rest))
    (dry : ∀ demand source rest, 0 < demand → source.remaining ≤ 0 → motive demand rest →
      motive demand (source :: rest))
    (covers : ∀ demand source rest, 0 < demand → demand ≤ source.remaining →
      motive demand (source :: rest))
    (drains : ∀ demand source rest, 0 < source.remaining → source.remaining < demand →
      motive (demand - source.remaining) rest → motive demand (source :: rest))
    (demand : K) (sources : List (Level σ K)) : motive demand sources := by
  induction sources generalizing demand with
  | nil => exact empty demand
  | cons source rest ih =>
      rcases le_or_gt demand 0 with nothing | lacking
      · exact done demand source rest nothing
      · rcases le_or_gt source.remaining 0 with isDry | wet
        · exact dry demand source rest lacking isDry (ih demand)
        · rcases le_or_gt demand source.remaining with enough | less
          · exact covers demand source rest lacking enough
          · exact drains demand source rest wet less (ih _)

variable [IsStrictOrderedRing K]

/-- A source that does not cover the demand gives all it has. -/
theorem fill_cons_drains (wet : 0 < source.remaining) (drains : source.remaining < demand)
    (rest : List (Level σ K)) : fill target demand (source :: rest) =
      let later := fill target (demand - source.remaining) rest
      { later with
        transfers := ⟨target, source.holder, source.remaining⟩ :: later.transfers
        passed := ⟨source.holder, 0⟩ :: later.passed } := by
  have lacking : ¬ demand ≤ 0 := not_le.mpr (wet.trans drains)
  have short : ¬ demand - source.remaining ≤ 0 := not_le.mpr (sub_pos.mpr drains)
  rw [fill, if_neg lacking, if_neg (not_le.mpr wet)]
  simp [min_eq_left drains.le, short]

/-- Nothing is lost at the sources, whatever weights they carry. -/
theorem fill_supply (weight : σ → K) (demand : K) (sources : List (Level σ K)) :
    moved (fun _ source => weight source) (fill target demand sources).transfers +
      weighted weight ((fill target demand sources).passed ++
        (fill target demand sources).waiting) = weighted weight sources := by
  induction demand, sources using fill_induction with
  | empty demand => simp [fill_nil]
  | done demand source rest nothing => simp [fill_cons_done target nothing]
  | dry demand source rest lacking isDry ih =>
      rw [weighted_cons, ← ih, fill_cons_dry target lacking isDry]
      simp only [List.cons_append, weighted_cons]
      ring
  | covers demand source rest lacking enough =>
      simp only [fill_cons_covers target lacking enough, List.nil_append, moved_cons, moved_nil,
        weighted_cons, mul_sub]
      ring
  | drains demand source rest wet less ih =>
      rw [weighted_cons, ← ih, fill_cons_drains target wet less]
      simp only [List.cons_append, weighted_cons, moved_cons, mul_zero]
      ring

/-- What the target received is what it lacked less what it still lacks. -/
theorem fill_demand (weight : τ → K) (demand : K) (sources : List (Level σ K)) :
    moved (fun target _ => weight target) (fill target demand sources).transfers +
      weight target * (fill target demand sources).short = weight target * demand := by
  induction demand, sources using fill_induction with
  | empty demand => simp [fill_nil]
  | done demand source rest nothing => simp [fill_cons_done target nothing]
  | dry demand source rest lacking isDry ih => rw [fill_cons_dry target lacking isDry]; exact ih
  | covers demand source rest lacking enough => simp [fill_cons_covers target lacking enough]
  | drains demand source rest wet less ih =>
      rw [fill_cons_drains target wet less]
      simp only [moved_cons]
      rw [add_assoc, ih, mul_sub]
      ring

/-- Every transfer goes to the target, is positive, and comes from a source that is there. -/
theorem fill_transfer {transfer : Transfer τ σ K}
    (member : transfer ∈ (fill target demand sources).transfers) :
    transfer.target = target ∧ 0 < transfer.amount ∧
      transfer.source ∈ sources.map Level.holder := by
  induction demand, sources using fill_induction with
  | empty demand => simp [fill_nil] at member
  | done demand source rest nothing => simp [fill_cons_done target nothing] at member
  | dry demand source rest lacking isDry ih =>
      rw [fill_cons_dry target lacking isDry] at member
      obtain ⟨same, positive, held⟩ := ih member
      exact ⟨same, positive, List.mem_cons_of_mem _ held⟩
  | covers demand source rest lacking enough =>
      simp only [fill_cons_covers target lacking enough, List.mem_singleton] at member
      subst member
      exact ⟨rfl, lacking, by simp⟩
  | drains demand source rest wet less ih =>
      simp only [fill_cons_drains target wet less, List.mem_cons] at member
      rcases member with rfl | later
      · exact ⟨rfl, wet, by simp⟩
      · obtain ⟨same, positive, held⟩ := ih later
        exact ⟨same, positive, List.mem_cons_of_mem _ held⟩

theorem fill_holders (demand : K) (sources : List (Level σ K)) :
    ((fill target demand sources).passed ++ (fill target demand sources).waiting).map
      Level.holder = sources.map Level.holder := by
  induction demand, sources using fill_induction with
  | empty demand => simp [fill_nil]
  | done demand source rest nothing => simp [fill_cons_done target nothing]
  | dry demand source rest lacking isDry ih =>
      simpa [fill_cons_dry target lacking isDry] using ih
  | covers demand source rest lacking enough => simp [fill_cons_covers target lacking enough]
  | drains demand source rest wet less ih =>
      simpa [fill_cons_drains target wet less] using ih

theorem fill_short_nonneg (nonneg : 0 ≤ demand) : 0 ≤ (fill target demand sources).short := by
  induction demand, sources using fill_induction with
  | empty demand => simpa [fill_nil] using nonneg
  | done demand source rest nothing => simpa [fill_cons_done target nothing] using nonneg
  | dry demand source rest lacking isDry ih =>
      simpa [fill_cons_dry target lacking isDry] using ih nonneg
  | covers demand source rest lacking enough => simp [fill_cons_covers target lacking enough]
  | drains demand source rest wet less ih =>
      simpa [fill_cons_drains target wet less] using ih (sub_nonneg.mpr less.le)

/-- Nothing is taken that is not there. -/
theorem fill_left_nonneg (demand : K) (nonneg : ∀ source ∈ sources, 0 ≤ source.remaining) :
    ∀ source ∈ (fill target demand sources).passed ++ (fill target demand sources).waiting,
      0 ≤ source.remaining := by
  induction demand, sources using fill_induction with
  | empty demand => simp [fill_nil]
  | done demand source rest nothing => simpa [fill_cons_done target nothing] using nonneg
  | dry demand source rest lacking isDry ih =>
      have later := ih fun source member => nonneg source (List.mem_cons_of_mem _ member)
      simpa [fill_cons_dry target lacking isDry] using
        ⟨nonneg source List.mem_cons_self, by simpa using later⟩
  | covers demand source rest lacking enough =>
      simp only [fill_cons_covers target lacking enough, List.nil_append, List.mem_cons,
        forall_eq_or_imp, sub_nonneg]
      exact ⟨enough, fun source member => nonneg source (List.mem_cons_of_mem _ member)⟩
  | drains demand source rest wet less ih =>
      have later := ih fun source member => nonneg source (List.mem_cons_of_mem _ member)
      simpa [fill_cons_drains target wet less] using later

/-- The filling only adds and subtracts, so it stays in any subgroup it starts in. -/
theorem fill_mem {group : AddSubgroup K} (demandMem : demand ∈ group)
    (sourcesMem : ∀ source ∈ sources, source.remaining ∈ group) :
    (∀ transfer ∈ (fill target demand sources).transfers, transfer.amount ∈ group) ∧
      ∀ source ∈ (fill target demand sources).passed ++ (fill target demand sources).waiting,
        source.remaining ∈ group := by
  induction demand, sources using fill_induction with
  | empty demand => simp [fill_nil]
  | done demand source rest nothing => simpa [fill_cons_done target nothing] using sourcesMem
  | dry demand source rest lacking isDry ih =>
      have later := ih demandMem fun source member => sourcesMem source (.tail _ member)
      rw [fill_cons_dry target lacking isDry]
      exact ⟨later.1, List.forall_mem_cons.mpr ⟨sourcesMem source (.head _), later.2⟩⟩
  | covers demand source rest lacking enough =>
      have headMem := group.sub_mem (sourcesMem source (.head _)) demandMem
      rw [fill_cons_covers target lacking enough]
      exact ⟨by simpa using demandMem,
        List.forall_mem_cons.mpr ⟨headMem, fun source member => sourcesMem source (.tail _ member)⟩⟩
  | drains demand source rest wet less ih =>
      have headMem := sourcesMem source (.head _)
      have later := ih (group.sub_mem demandMem headMem)
        fun source member => sourcesMem source (.tail _ member)
      rw [fill_cons_drains target wet less]
      exact ⟨List.forall_mem_cons.mpr ⟨headMem, later.1⟩,
        List.forall_mem_cons.mpr ⟨group.zero_mem, later.2⟩⟩

/-- The cursor moves past empty sources only. -/
theorem fill_passed_dry : ∀ source ∈ (fill target demand sources).passed, source.remaining ≤ 0 := by
  induction demand, sources using fill_induction with
  | empty demand => simp [fill_nil]
  | done demand source rest nothing => simp [fill_cons_done target nothing]
  | dry demand source rest lacking isDry ih =>
      simpa [fill_cons_dry target lacking isDry] using ⟨isDry, ih⟩
  | covers demand source rest lacking enough => simp [fill_cons_covers target lacking enough]
  | drains demand source rest wet less ih => simpa [fill_cons_drains target wet less] using ih

/-- A target is left short only when the cursor has run off the sources. -/
theorem fill_waiting_of_short (short : 0 < (fill target demand sources).short) :
    (fill target demand sources).waiting = [] := by
  induction demand, sources using fill_induction with
  | empty demand => simp [fill_nil]
  | done demand source rest nothing =>
      rw [fill_cons_done target nothing] at short
      exact absurd short (not_lt.mpr nothing)
  | dry demand source rest lacking isDry ih =>
      rw [fill_cons_dry target lacking isDry] at short ⊢
      exact ih short
  | covers demand source rest lacking enough =>
      simp [fill_cons_covers target lacking enough] at short
  | drains demand source rest wet less ih =>
      rw [fill_cons_drains target wet less] at short ⊢
      exact ih short

end Fill

/-! ## Filling every target -/

/-- What the pour leaves behind: a shortage for each target, in order, and every
source with what it has left. -/
structure Poured (τ σ K : Type*) where
  transfers : List (Transfer τ σ K)
  targets : List (Level τ K)
  sources : List (Level σ K)

section Pour

variable {τ σ K : Type*} [CommRing K] [LinearOrder K]

/-- Fill the targets one after another, each from where the cursor stands. -/
def pour : List (Level τ K) → List (Level σ K) → Poured τ σ K
  | [], sources => ⟨[], [], sources⟩
  | target :: rest, sources =>
      let filled := fill target.holder target.remaining sources
      let later := pour rest filled.waiting
      ⟨filled.transfers ++ later.transfers, ⟨target.holder, filled.short⟩ :: later.targets,
        filled.passed ++ later.sources⟩

variable [IsStrictOrderedRing K]

theorem pour_supply (weight : σ → K) (targets : List (Level τ K)) (sources : List (Level σ K)) :
    moved (fun _ source => weight source) (pour targets sources).transfers +
      weighted weight (pour targets sources).sources = weighted weight sources := by
  induction targets generalizing sources with
  | nil => simp [pour]
  | cons target rest ih =>
      have head := fill_supply target.holder weight target.remaining sources
      have tail := ih (fill target.holder target.remaining sources).waiting
      simp only [pour, moved_append, weighted_append] at head tail ⊢
      rw [← head, ← tail]
      ring

theorem pour_demand (weight : τ → K) (targets : List (Level τ K)) (sources : List (Level σ K)) :
    moved (fun target _ => weight target) (pour targets sources).transfers +
      weighted weight (pour targets sources).targets = weighted weight targets := by
  induction targets generalizing sources with
  | nil => simp [pour]
  | cons target rest ih =>
      have head := fill_demand target.holder weight target.remaining sources
      have tail := ih (fill target.holder target.remaining sources).waiting
      simp only [pour, moved_append, weighted_cons]
      rw [← head, ← tail]
      ring

variable {sources : List (Level σ K)} {targets : List (Level τ K)}

theorem pour_transfer {transfer : Transfer τ σ K}
    (member : transfer ∈ (pour targets sources).transfers) :
    transfer.target ∈ targets.map Level.holder ∧ 0 < transfer.amount ∧
      transfer.source ∈ sources.map Level.holder := by
  induction targets generalizing sources with
  | nil => simp [pour] at member
  | cons target rest ih =>
      simp only [pour, List.mem_append] at member
      rcases member with here | later
      · obtain ⟨same, positive, held⟩ := fill_transfer target.holder here
        exact ⟨by simp [same], positive, held⟩
      · obtain ⟨aimed, positive, held⟩ := ih later
        refine ⟨List.mem_cons_of_mem _ aimed, positive, ?_⟩
        rw [← fill_holders target.holder target.remaining sources, List.map_append]
        exact List.mem_append_right _ held

theorem pour_sources_holders (targets : List (Level τ K)) (sources : List (Level σ K)) :
    (pour targets sources).sources.map Level.holder = sources.map Level.holder := by
  induction targets generalizing sources with
  | nil => simp [pour]
  | cons target rest ih =>
      rw [← fill_holders target.holder target.remaining sources]
      simp [pour, ih]

theorem pour_targets_nonneg (sources : List (Level σ K))
    (nonneg : ∀ target ∈ targets, 0 ≤ target.remaining) :
    ∀ target ∈ (pour targets sources).targets, 0 ≤ target.remaining := by
  induction targets generalizing sources with
  | nil => simp [pour]
  | cons target rest ih =>
      simp only [pour, List.mem_cons, forall_eq_or_imp] at nonneg ⊢
      exact ⟨fill_short_nonneg _ nonneg.1, ih _ nonneg.2⟩

theorem pour_sources_nonneg (targets : List (Level τ K))
    (nonneg : ∀ source ∈ sources, 0 ≤ source.remaining) :
    ∀ source ∈ (pour targets sources).sources, 0 ≤ source.remaining := by
  induction targets generalizing sources with
  | nil => simpa [pour] using nonneg
  | cons target rest ih =>
      have left := fill_left_nonneg target.holder target.remaining nonneg
      simp only [List.forall_mem_append, pour] at left ⊢
      exact ⟨left.1, ih left.2⟩

theorem pour_mem (group : AddSubgroup K) (targetsMem : ∀ target ∈ targets, target.remaining ∈ group)
    (sourcesMem : ∀ source ∈ sources, source.remaining ∈ group) :
    (∀ transfer ∈ (pour targets sources).transfers, transfer.amount ∈ group) ∧
      ∀ source ∈ (pour targets sources).sources, source.remaining ∈ group := by
  induction targets generalizing sources with
  | nil => simpa [pour] using sourcesMem
  | cons target rest ih =>
      simp only [List.forall_mem_cons] at targetsMem
      have here := fill_mem target.holder targetsMem.1 sourcesMem
      rw [List.forall_mem_append] at here
      have later := ih targetsMem.2 here.2.2
      exact ⟨List.forall_mem_append.mpr ⟨here.1, later.1⟩,
        List.forall_mem_append.mpr ⟨here.2.1, later.2⟩⟩

/-- Some target short means every source is empty. -/
theorem pour_dry_of_short {target : Level τ K} (member : target ∈ (pour targets sources).targets)
    (short : 0 < target.remaining) :
    ∀ source ∈ (pour targets sources).sources, source.remaining ≤ 0 := by
  induction targets generalizing sources with
  | nil => simp [pour] at member
  | cons head rest ih =>
      simp only [pour, List.mem_cons, List.forall_mem_append] at member ⊢
      refine ⟨fill_passed_dry _, ?_⟩
      rcases member with rfl | later
      · have none := fill_waiting_of_short head.holder short
        rw [none]
        have holders := pour_sources_holders rest ([] : List (Level σ K))
        simp only [List.map_nil, List.map_eq_nil_iff] at holders
        simp [holders]
      · exact ih later

/-- The pour fills every target exactly when the sources carry enough. -/
theorem pour_fills_iff (targetsNonneg : ∀ target ∈ targets, 0 ≤ target.remaining)
    (sourcesNonneg : ∀ source ∈ sources, 0 ≤ source.remaining) :
    (∀ target ∈ (pour targets sources).targets, target.remaining = 0) ↔
      total targets ≤ total sources := by
  have supply := pour_supply (fun _ => 1) targets sources
  have demand := pour_demand (fun _ => 1) targets sources
  have lacks := pour_targets_nonneg sources targetsNonneg
  have left := pour_sources_nonneg targets sourcesNonneg
  rw [weighted_one, weighted_one] at supply demand
  constructor
  · intro full
    have noShort : total (pour targets sources).targets = 0 := by
      rw [← weighted_one, weighted_eq_zero _ full]
    have leftNonneg : 0 ≤ total (pour targets sources).sources :=
      List.sum_nonneg (by simpa [total] using left)
    linarith
  · intro enough target member
    refine le_antisymm (not_lt.mp fun short => ?_) (lacks target member)
    have dry : total (pour targets sources).sources = 0 := by
      rw [← weighted_one, weighted_eq_zero]
      intro source sourceMem
      exact le_antisymm (pour_dry_of_short member short source sourceMem) (left source sourceMem)
    have atLeast : target.remaining ≤ total (pour targets sources).targets :=
      List.single_le_sum (by simpa using lacks) _ (List.mem_map_of_mem member)
    linarith

end Pour

end Lib.Pour
