import ErpServer.Lib.Places
import ErpServer.Till.Safe
import Mathlib.Data.List.Perm.Basic

/-!
# Every flow is counted once

As long as the stamps of flows and counts stand in the order of their commits, the flows
inside the counts made so far and those the next count will add are the committed flows,
each once.
-/

namespace ErpServer.Till

open Lib
open Interleaving

/-! ## The chain of counts -/

/-- Each count expected the figure before it with the flows inside it. -/
def Chained : Decimal → List TillCount → Prop
  | _, [] => True
  | figure, count :: rest =>
      count.tctExpected = figure + netOf count.inside ∧ Chained count.tctTotalCounted rest

/-- The last figure of a chain. -/
def figureOf (opening : Decimal) (counts : List TillCount) : Decimal :=
  (counts.getLast?.map (·.tctTotalCounted)).getD opening

theorem chained_append {opening : Decimal} {counts : List TillCount} {count : TillCount}
    (chained : Chained opening counts)
    (expected : count.tctExpected = figureOf opening counts + netOf count.inside) :
    Chained opening (counts ++ [count]) := by
  induction counts generalizing opening with
  | nil => exact ⟨expected, trivial⟩
  | cons first rest ih =>
      refine ⟨chained.1, ih chained.2 ?_⟩
      cases rest with
      | nil => exact expected
      | cons second others =>
          rw [figureOf, List.getLast?_cons_cons] at expected
          have last : (second :: others).getLast? = some ((second :: others).getLast (by simp)) :=
            List.getLast?_eq_getLast_of_ne_nil _
          rw [figureOf, last]
          rw [last] at expected
          exact expected

/-- Before any count the safe holds what its ledger held of its own, unless it is shared. -/
def SafeLedger.start (safe : SafeLedger) : Decimal := if safe.ledgerShared then 0 else safe.opening

/-- Every committed flow is inside one count or in what the next one adds, and the
expectation is the last counted figure with exactly the flows inside no count. -/
structure Accounted (safe : SafeLedger) (tables : SafeTables) : Prop where
  distinct : tables.flows.Nodup
  once : (tables.counts.flatMap (·.inside) ++ flowsOf tables tables.lastCountedOn).Perm tables.flows
  chained : Chained safe.start tables.counts
  expected : (stateOf safe.ledgerShared tables (bookOf safe tables)).expected =
    figureOf safe.start tables.counts +
      netOf (tables.flows.filter fun flow => flow ∉ tables.counts.flatMap (·.inside))

/-! ## What a change does -/

/-- The lock under which a movement is changed. -/
def ownLock (row : ℕ) (movement : TillCashMovement) : SafeLock :=
  match movement.tcmSessionId with
  | some session => .session session
  | none => .movement row

/-- A live movement under its lock that may be voided, or received. -/
def Held (tables : SafeTables) (locks : List SafeLock) (row : ℕ)
    (asks : TillCashMovement → Prop) : Prop :=
  ∃ movement, tables.movements[row]? = some movement ∧ ownLock row movement ∈ locks ∧ asks movement

def TillCashMovement.Live (movement : TillCashMovement) : Prop :=
  movement.tcmStatus = .POSTED ∧ movement.tcmReceiptStatus ≠ some .RECEIVED

def TillCashMovement.Waiting (movement : TillCashMovement) : Prop :=
  movement.tcmStatus = .POSTED ∧ movement.tcmReceiptStatus = some .AWAITING

/-- What holds of every movement written. -/
structure TillCashMovement.Ok (movement : TillCashMovement) : Prop where
  standing : movement.tcmStatus = .POSTED → movement.tcmVoidedOn = none
  office : movement.tcmKind = .REMIT →
    movement.tcmSessionId = none ∧ movement.tcmReceiptStatus = none

def Change.Ready (tables : SafeTables) (locks : List SafeLock) : Change → Prop
  | insert movement => movement.Ok
  | void row _ => Held tables locks row TillCashMovement.Live
  | receive row _ _ => Held tables locks row TillCashMovement.Waiting

def Change.target : Change → Option ℕ
  | insert _ => none
  | void row _ | receive row _ _ => some row

section Changes

variable {tables : SafeTables} {locks held : List SafeLock} {change : Change}
variable {changes : List Change} {row : ℕ} {movement : TillCashMovement}

theorem apply_frame (other : change.target ≠ some row)
    (found : tables.movements[row]? = some movement) :
    (change.apply tables).movements[row]? = some movement := by
  have within : row < tables.movements.length := (List.getElem?_eq_some_iff.mp found).1
  cases change with
  | insert written =>
      change (tables.movements ++ [written])[row]? = some movement
      rw [List.getElem?_append_left within]
      exact found
  | void target on =>
      have different : target ≠ row := by simpa [Change.target] using other
      change (tables.movements.modify target _)[row]? = some movement
      rw [List.getElem?_modify_ne _ _ different]
      exact found
  | receive target on amount =>
      have different : target ≠ row := by simpa [Change.target] using other
      change (tables.movements.modify target _)[row]? = some movement
      rw [List.getElem?_modify_ne _ _ different]
      exact found

theorem write_frame (others : ∀ change ∈ changes, change.target ≠ some row)
    (found : tables.movements[row]? = some movement) :
    (tables.write changes).movements[row]? = some movement := by
  induction changes generalizing tables with
  | nil => exact found
  | cons change rest ih =>
      apply ih
      · intro other member
        exact others other (List.mem_cons_of_mem _ member)
      · exact apply_frame (others change List.mem_cons_self) found

theorem write_counts : (tables.write changes).counts = tables.counts := by
  induction changes generalizing tables with
  | nil => rfl
  | cons change rest ih =>
      rw [SafeTables.write, List.foldl_cons, ← SafeTables.write, ih]
      cases change <;> rfl

/-- A row that is modified brings the flows it has more. -/
theorem flatMap_zipIdx_modify {α : Type} {rows : List α} {flows : α → ℕ → List Flow} {entry : α}
    {modified : α → α} {more : List Flow} (found : rows[row]? = some entry)
    (same : flows (modified entry) row = flows entry row ++ more) :
    ((rows.modify row modified).zipIdx.flatMap fun entry => flows entry.1 entry.2).Perm
      ((rows.zipIdx.flatMap fun entry => flows entry.1 entry.2) ++ more) := by
  obtain ⟨within, rfl⟩ := List.getElem?_eq_some_iff.mp found
  have split : rows = rows.take row ++ rows[row] :: rows.drop (row + 1) := by simp
  have length : (rows.take row).length = row := by simp [within.le]
  rw [List.modify_eq_take_cons_drop within]
  conv_rhs => rw [split]
  simp only [List.zipIdx_append, List.zipIdx_cons, List.flatMap_append, List.flatMap_cons, length,
    Nat.zero_add, same, List.append_assoc]
  apply List.Perm.append_left
  apply List.Perm.append_left
  exact List.perm_append_comm

/-- The flows a change brings. -/
def Change.news (tables : SafeTables) : Change → List Flow
  | insert movement => movement.flows tables.movements.length
  | void row on =>
      (tables.movements[row]?.toList.filter fun movement =>
        movement.tcmReceiptStatus = none && movement.tcmKind ≠ .PAID_IN).map fun movement =>
          ⟨row, .voided, .movement movement.tcmKind, on, -movement.tcmAmount⟩
  | receive row on amount =>
      tables.movements[row]?.toList.map fun movement =>
        ⟨row, .received, .movement movement.tcmKind, on, amount⟩

theorem news_stamps {flow : Flow} (member : flow ∈ change.news tables) :
    flow.stamp ∈ change.stamps tables := by
  cases change with
  | insert movement =>
      simp only [Change.news, TillCashMovement.flows] at member
      simp only [Change.stamps, TillCashMovement.flows]
      split <;> rename_i status <;> simp only [status] at member
      · split <;> rename_i kind
        · simp [kind] at member
        · simp only [if_neg kind] at member
          rcases List.mem_cons.mp member with rfl | voided
          · simp
          · obtain ⟨on, onMember, rfl⟩ := List.mem_map.mp voided
            simp only [List.map_cons, List.mem_cons, List.map_map]
            right
            exact List.mem_map.mpr ⟨on, onMember, rfl⟩
      · cases member
      · split <;> rename_i posted
        · simp only [if_pos posted] at member
          obtain ⟨on, onMember, rfl⟩ := List.mem_map.mp member
          rw [List.map_map]
          exact List.mem_map.mpr ⟨on, onMember, rfl⟩
        · simp [posted] at member
  | void row on =>
      obtain ⟨movement, selected, rfl⟩ := List.mem_map.mp member
      rw [List.mem_filter, Bool.and_eq_true] at selected
      rw [Change.stamps]
      exact List.mem_map.mpr ⟨movement, List.mem_filter.mpr ⟨selected.1, selected.2.1⟩, rfl⟩
  | receive row on amount =>
      obtain ⟨_, _, rfl⟩ := List.mem_map.mp member
      exact List.mem_singleton_self on

theorem apply_flows (standing : ∀ movement ∈ tables.movements, movement.Ok)
    (ready : change.Ready tables locks) :
    (change.apply tables).flows.Perm (tables.flows ++ change.news tables) := by
  have rearranged (movements office news : List Flow) :
      ((movements ++ news) ++ office).Perm ((movements ++ office) ++ news) := by
    rw [List.append_assoc, List.append_assoc]
    exact List.Perm.append_left _ List.perm_append_comm
  cases change with
  | insert movement =>
      simp only [Change.apply, SafeTables.flows, List.zipIdx_append, List.flatMap_append,
        List.zipIdx_singleton, List.flatMap_singleton, Nat.zero_add]
      exact rearranged _ _ _
  | void row on =>
      obtain ⟨movement, found, _, posted, unreceived⟩ := ready
      have unvoided := (standing movement (List.mem_of_getElem? found)).standing posted
      have same : (movement.voided on).flows row =
          movement.flows row ++ Change.news tables (.void row on) := by
        simp only [TillCashMovement.flows, TillCashMovement.voided, Change.news, found]
        cases status : movement.tcmReceiptStatus with
        | none =>
            by_cases kind : movement.tcmKind = .PAID_IN
            · simp [status, kind]
            · simp [status, kind, unvoided]
        | some receipt =>
            cases receipt with
            | AWAITING => simp [status]
            | RECEIVED => exact (unreceived status).elim
      exact ((flatMap_zipIdx_modify found same).append_right _).trans (rearranged _ _ _)
  | receive row on amount =>
      obtain ⟨movement, found, _, posted, awaiting⟩ := ready
      have same : (movement.received on amount).flows row =
          movement.flows row ++ Change.news tables (.receive row on amount) := by
        simp [TillCashMovement.flows, TillCashMovement.received, Change.news, found, awaiting, posted]
      exact ((flatMap_zipIdx_modify found same).append_right _).trans (rearranged _ _ _)

variable {asks : TillCashMovement → Prop} {other : Change}

/-- A held row stays as it is under a change of another row. -/
theorem Held.frame (holds : Held tables locks row asks) (other : change.target ≠ some row) :
    Held (change.apply tables) locks row asks := by
  obtain ⟨movement, found, locked, asked⟩ := holds
  exact ⟨movement, apply_frame other found, locked, asked⟩

theorem Change.Ready.frame (ready : other.Ready tables locks)
    (apart : ∀ row ∈ other.target, change.target ≠ some row) :
    other.Ready (change.apply tables) locks := by
  cases other with
  | insert movement => exact ready
  | void row on => exact Held.frame ready (apart row rfl)
  | receive row on amount => exact Held.frame ready (apart row rfl)

theorem Change.stamps_frame (ready : other.Ready tables locks)
    (apart : ∀ row ∈ other.target, change.target ≠ some row) :
    other.stamps (change.apply tables) = other.stamps tables := by
  cases other with
  | insert movement => rfl
  | void row on =>
      obtain ⟨movement, found, _⟩ := ready
      rw [Change.stamps, Change.stamps, found, apply_frame (apart row rfl) found]
  | receive row on amount => rfl

theorem apply_ok (standing : ∀ movement ∈ tables.movements, movement.Ok)
    (ready : change.Ready tables locks) : ∀ movement ∈ (change.apply tables).movements, movement.Ok := by
  intro movement member
  cases change with
  | insert written =>
      rcases List.mem_append.mp member with old | new
      · exact standing movement old
      · rw [List.mem_singleton.mp new]
        exact ready
  | void row on =>
      obtain ⟨before, beforeMem, rfl | rfl⟩ := Places.mem_modify member
      · exact standing movement beforeMem
      · exact ⟨by simp [TillCashMovement.voided], (standing before beforeMem).office⟩
  | receive row on amount =>
      obtain ⟨waiting, waitingFound, _, _, awaiting⟩ := ready
      obtain ⟨index, found⟩ := List.mem_iff_getElem?.mp member
      rcases Places.modify_cases found with ⟨_, before⟩ | ⟨rfl, before, beforeFound, rfl⟩
      · exact standing movement (List.mem_of_getElem? before)
      · rw [waitingFound] at beforeFound
        cases beforeFound
        have ok := standing waiting (List.mem_of_getElem? waitingFound)
        refine ⟨ok.standing, ?_⟩
        intro remit
        have office := ok.office remit
        rw [awaiting] at office
        cases office.2

/-- What a transaction writes, each row once. -/
structure Writable (tables : SafeTables) (locks : List SafeLock) (changes : List Change) : Prop where
  ready : ∀ change ∈ changes, change.Ready tables locks
  once : (changes.filterMap Change.target).Nodup

theorem Writable.rest (writable : Writable tables locks (change :: changes)) :
    Writable (change.apply tables) locks changes ∧
      ∀ other ∈ changes, other.stamps (change.apply tables) = other.stamps tables := by
  have apart : ∀ other ∈ changes, ∀ row ∈ other.target, change.target ≠ some row := by
    intro other member row target same
    have once := writable.once
    rw [List.filterMap_cons, same] at once
    apply (List.nodup_cons.mp once).1
    exact List.mem_filterMap.mpr ⟨other, member, target⟩
  refine ⟨⟨?_, ?_⟩, ?_⟩
  · intro other member
    exact (writable.ready other (List.mem_cons_of_mem _ member)).frame (apart other member)
  · have once := writable.once
    rw [List.filterMap_cons] at once
    split at once
    · exact once
    · exact (List.nodup_cons.mp once).2
  · intro other member
    exact Change.stamps_frame (writable.ready other (List.mem_cons_of_mem _ member))
      (apart other member)

theorem write_ok (standing : ∀ movement ∈ tables.movements, movement.Ok)
    (writable : Writable tables locks changes) :
    ∀ movement ∈ (tables.write changes).movements, movement.Ok := by
  induction changes generalizing tables with
  | nil => exact standing
  | cons change rest ih =>
      exact ih (apply_ok standing (writable.ready change List.mem_cons_self)) writable.rest.1

theorem write_flows (standing : ∀ movement ∈ tables.movements, movement.Ok)
    (writable : Writable tables locks changes) :
    ∃ news, (tables.write changes).flows.Perm (tables.flows ++ news) ∧
      ∀ flow ∈ news, ∃ change ∈ changes, flow.stamp ∈ change.stamps tables := by
  induction changes generalizing tables with
  | nil => exact ⟨[], by simp [SafeTables.write], by simp⟩
  | cons change rest ih =>
      have ready := writable.ready change List.mem_cons_self
      obtain ⟨later, laterBrought, laterStamped⟩ := ih (apply_ok standing ready) writable.rest.1
      refine ⟨change.news tables ++ later, ?_, ?_⟩
      · rw [← List.append_assoc]
        exact laterBrought.trans ((apply_flows standing ready).append_right later)
      · intro flow member
        rcases List.mem_append.mp member with first | second
        · exact ⟨change, List.mem_cons_self, news_stamps first⟩
        · obtain ⟨other, otherMember, otherStamp⟩ := laterStamped flow second
          rw [writable.rest.2 other otherMember] at otherStamp
          exact ⟨other, List.mem_cons_of_mem _ otherMember, otherStamp⟩

/-- A row held under one transaction's locks is not written under another's. -/
theorem Writable.keeps_held (writable : Writable tables locks changes)
    (disjoint : locks.Disjoint held) (holds : Held tables held row asks) :
    Held (tables.write changes) held row asks := by
  obtain ⟨movement, found, locked, asked⟩ := holds
  refine ⟨movement, write_frame ?_ found, locked, asked⟩
  intro change member target
  have ready := writable.ready change member
  cases change with
  | insert written => cases target
  | void target' on =>
      cases target
      obtain ⟨own, ownFound, ownLocked, _⟩ := ready
      rw [found] at ownFound
      cases ownFound
      exact disjoint ownLocked locked
  | receive target' on amount =>
      cases target
      obtain ⟨own, ownFound, ownLocked, _⟩ := ready
      rw [found] at ownFound
      cases ownFound
      exact disjoint ownLocked locked

end Changes

/-! ## The invariant -/

/-- What holds of the committed rows. -/
structure Counted (safe : SafeLedger) (tables : SafeTables) : Prop where
  movements : ∀ movement ∈ tables.movements, movement.Ok
  last : lastCount tables.counts = tables.counts.getLast?
  chained : Chained safe.start tables.counts
  sealed : (tables.counts.flatMap (·.inside)).Perm
    (tables.flows.filter fun flow => !stampedAfter tables.lastCountedOn flow)

/-- Flows read under the safe's lock. -/
structure Read (tables : SafeTables) (last : Option TillCount) (flows : List Flow) : Prop where
  last : last = lastCount tables.counts
  nodup : flows.Nodup
  within : ∀ flow ∈ flows, flow ∈ flowsOf tables tables.lastCountedOn

/-- An expectation made under the safe's lock. -/
structure Made (safe : SafeLedger) (tables : SafeTables) (expected : Decimal) (inside : List Flow) :
    Prop where
  nodup : inside.Nodup
  within : ∀ flow ∈ inside, flow ∈ flowsOf tables tables.lastCountedOn
  expected : expected = figureOf safe.start tables.counts + netOf inside

/-- What a transaction relies on at its next statement. -/
def Relies (safe : SafeLedger) (tables : SafeTables) (locks : List SafeLock) : SafeTask → Prop
  | .postLocked _ kind _ _ => kind ∈ sessionKinds
  | .insertMovement movement => movement.Ok
  | .voidLocked row => Held tables locks row fun _ => True
  | .receiving rest changes =>
      Writable tables locks changes ∧ (rest.map (·.1) ++ changes.filterMap Change.target).Nodup
  | .receivingSession row _ rest changes | .receivingLocked row _ rest changes =>
      Held tables locks row (fun _ => True) ∧ Writable tables locks changes ∧
        (row :: rest.map (·.1) ++ changes.filterMap Change.target).Nodup
  | .reopenLocked session => SafeLock.session session ∈ locks
  | .reopening rows changes =>
      (∀ row ∈ rows, Held tables locks row TillCashMovement.Live) ∧
        Writable tables locks changes ∧ (rows ++ changes.filterMap Change.target).Nodup
  | .safeLocked _ => SafeLock.safe ∈ locks
  | .flowsRead _ last flows => SafeLock.safe ∈ locks ∧ Read tables last flows
  | .stateRead _ state inside => SafeLock.safe ∈ locks ∧ Made safe tables state.expected inside
  | .counted count => SafeLock.safe ∈ locks ∧ Made safe tables count.tctExpected count.inside
  | .voidRemitLocked row => SafeLock.movement row ∈ locks
  | .voidRemitSafe row => Held tables locks row TillCashMovement.Live
  | .written changes => Writable tables locks changes
  | .post .. | .void _ | .receive _ | .reopen _ | .office _ | .voidRemit _ => True

section Keeping

variable {safe : SafeLedger} {tables later : SafeTables} {now : Instant} {task next : SafeTask}
variable {locks held : List SafeLock} {key : SafeLock}

variable {row : ℕ} {changes : List Change}

theorem Held.mono {asks weaker : TillCashMovement → Prop} (holds : Held tables locks row asks)
    (within : ∀ key ∈ locks, key ∈ held) (weaken : ∀ movement, asks movement → weaker movement) :
    Held tables held row weaker := by
  obtain ⟨movement, found, locked, asked⟩ := holds
  exact ⟨movement, found, within _ locked, weaken movement asked⟩

theorem Writable.mono (writable : Writable tables locks changes)
    (within : ∀ key ∈ locks, key ∈ held) : Writable tables held changes where
  ready := by
    intro change member
    have ready := writable.ready change member
    cases change with
    | insert movement => exact ready
    | void row on => exact Held.mono ready within fun _ asked => asked
    | receive row on amount => exact Held.mono ready within fun _ asked => asked
  once := writable.once

variable {session : ℕ} {counts : List TillCount} {other : SafeTask}

/-- A transaction that takes one lock more relies on no less. -/
theorem held_session (found : tables.movements[row]?.bind (·.tcmSessionId) = some session) :
    Held tables (.session session :: locks) row fun _ => True := by
  obtain ⟨movement, movementFound, own⟩ := Option.bind_eq_some_iff.mp found
  exact ⟨movement, movementFound, by simp [ownLock, own], trivial⟩

/-- What a live hand-over of a session is, to one who holds the session. -/
theorem held_handOver (locked : SafeLock.session session ∈ locks)
    (member : row ∈ (handOvers tables session).map (·.2))
    (unreceived : ∀ entry ∈ handOvers tables session, entry.1.tcmReceiptStatus ≠ some .RECEIVED) :
    Held tables locks row TillCashMovement.Live := by
  obtain ⟨⟨movement, index⟩, entryMember, rfl⟩ := List.mem_map.mp member
  have selected := List.mem_filter.mp entryMember
  have found : tables.movements[index]? = some movement :=
    List.mem_zipIdx_iff_getElem?.mp selected.1
  simp only [Bool.and_eq_true, decide_eq_true_eq] at selected
  refine ⟨movement, found, ?_, selected.2.1.2, unreceived _ entryMember⟩
  simp only [ownLock, selected.2.1.1]
  exact locked

theorem nodup_handOvers (session : ℕ) : ((handOvers tables session).map (·.2)).Nodup := by
  have indices : (tables.movements.zipIdx.map (·.2)).Nodup := by
    rw [List.zipIdx_map_snd]
    exact List.nodup_range'
  exact indices.sublist (List.filter_sublist.map _)

/-- The expectation of the figures read is the last figure with the flows inside it. -/
theorem Read.made {last : Option TillCount} {flows : List Flow} (counted : Counted safe tables)
    (read : Read tables last flows) :
    Made safe tables (safeState safe.ledgerShared last flows (bookOf safe tables)).expected
      (if last = none ∧ !safe.ledgerShared then tables.flows else flows) := by
  have lastIs := read.last.trans counted.last
  split
  · next first =>
      have every : flowsOf tables tables.lastCountedOn = tables.flows := by
        rw [flowsOf, SafeTables.lastCountedOn, ← read.last, first.1]
        exact List.filter_eq_self.mpr fun _ _ => rfl
      refine ⟨tables.nodup_flows, ?_, ?_⟩
      · rw [every]
        exact fun _ member => member
      · have unshared : safe.ledgerShared = false := by simpa using first.2
        rw [safeState_expected, first.1, figureOf, ← lastIs, first.1]
        simp [safeState, unshared, bookOf, SafeLedger.start]
  · next notFirst =>
      refine ⟨read.nodup, read.within, ?_⟩
      rw [safeState_expected, figureOf, ← lastIs]
      cases last with
      | none =>
          have shared : safe.ledgerShared = true := by simpa using notFirst
          simp [safeState, shared, SafeLedger.start]
      | some count => rfl

/-! ## Commits -/

/-- A commit of movements. -/
theorem Counted.write (counted : Counted safe tables) (writable : Writable tables locks changes)
    (timely : Timely tables now (.written changes)) : Counted safe (tables.write changes) where
  movements := write_ok counted.movements writable
  last := by
    rw [write_counts]
    exact counted.last
  chained := by
    rw [write_counts]
    exact counted.chained
  sealed := by
    obtain ⟨news, brought, stamped⟩ := write_flows counted.movements writable
    have since : (tables.write changes).lastCountedOn = tables.lastCountedOn := by
      rw [SafeTables.lastCountedOn, SafeTables.lastCountedOn, write_counts]
    have later : news.filter (fun flow => !stampedAfter tables.lastCountedOn flow) = [] := by
      apply List.filter_eq_nil_iff.mpr
      intro flow member
      obtain ⟨change, changeMember, stamp⟩ := stamped flow member
      have after := timely.flows change changeMember flow.stamp stamp
      cases found : tables.lastCountedOn with
      | none => simp [stampedAfter]
      | some last => simpa [stampedAfter] using after last found
    rw [write_counts, since]
    have split := brought.filter fun flow => !stampedAfter tables.lastCountedOn flow
    rw [List.filter_append, later, List.append_nil] at split
    exact counted.sealed.trans split.symm

/-- A commit of a count. -/
theorem Counted.count {count : TillCount} (counted : Counted safe tables)
    (made : Made safe tables count.tctExpected count.inside)
    (timely : Timely tables now (.counted count)) :
    Counted safe { tables with counts := tables.counts ++ [count] } := by
  have last : lastCount (tables.counts ++ [count]) = some count := by
    apply lastCount_append
    intro last found
    apply timely.last count rfl
    simp [SafeTables.lastCountedOn, Option.mem_def.mp found]
  have lastOn : SafeTables.lastCountedOn { tables with counts := tables.counts ++ [count] } =
      some count.tctCountedOn := by
    simp [SafeTables.lastCountedOn, last]
  constructor
  · exact counted.movements
  · change lastCount (tables.counts ++ [count]) = _
    rw [last]
    simp
  · exact chained_append counted.chained made.expected
  · rw [lastOn]
    change ((tables.counts ++ [count]).flatMap (·.inside)).Perm (tables.flows.filter _)
    rw [List.flatMap_append, List.flatMap_singleton]
    -- The flows up to the new stamp are those up to the last one and those the count read.
    have earlier : (tables.flows.filter fun flow => !stampedAfter (some count.tctCountedOn) flow).filter
        (fun flow => !stampedAfter tables.lastCountedOn flow) =
          tables.flows.filter fun flow => !stampedAfter tables.lastCountedOn flow := by
      rw [List.filter_filter]
      apply List.filter_congr
      intro flow _
      cases found : tables.lastCountedOn with
      | none => simp [stampedAfter]
      | some before =>
          have order := timely.last count rfl before found
          simp only [stampedAfter, Option.all_some, Bool.and_eq_left_iff_imp]
          intro within
          simp only [Bool.not_eq_true', decide_eq_false_iff_not, not_lt] at within ⊢
          exact within.trans order
    have read : count.inside.Perm
        ((tables.flows.filter fun flow => !stampedAfter (some count.tctCountedOn) flow).filter
          fun flow => !!stampedAfter tables.lastCountedOn flow) := by
      rw [List.perm_ext_iff_of_nodup made.nodup ((tables.nodup_flows.filter _).filter _)]
      intro flow
      constructor
      · intro member
        have within := made.within flow member
        have cut := (timely.cut count rfl flow within).mpr member
        have parts := List.mem_filter.mp within
        refine List.mem_filter.mpr ⟨List.mem_filter.mpr ⟨parts.1, ?_⟩, ?_⟩
        · simpa [stampedAfter] using cut
        · simpa using parts.2
      · intro member
        have parts := List.mem_filter.mp member
        have inner := List.mem_filter.mp parts.1
        apply (timely.cut count rfl flow (List.mem_filter.mpr ⟨inner.1, by simpa using parts.2⟩)).mp
        simpa [stampedAfter] using inner.2
    have whole := List.filter_append_perm (fun flow => !stampedAfter tables.lastCountedOn flow)
      (tables.flows.filter fun flow => !stampedAfter (some count.tctCountedOn) flow)
    rw [earlier] at whole
    exact (counted.sealed.append read).trans whole

/-- What one relies on under the safe's lock stays when others write movements. -/
theorem lastCountedOn_write : (tables.write changes).lastCountedOn = tables.lastCountedOn := by
  rw [SafeTables.lastCountedOn, SafeTables.lastCountedOn, write_counts]

theorem mem_flowsOf_write (counted : Counted safe tables) (writable : Writable tables locks changes)
    {flow : Flow} (member : flow ∈ flowsOf tables tables.lastCountedOn) :
    flow ∈ flowsOf (tables.write changes) (tables.write changes).lastCountedOn := by
  obtain ⟨news, brought, _⟩ := write_flows counted.movements writable
  have parts := List.mem_filter.mp member
  rw [lastCountedOn_write]
  exact List.mem_filter.mpr ⟨brought.mem_iff.mpr (List.mem_append_left news parts.1), parts.2⟩

/-- Rows another transaction holds stay when a count commits. -/
theorem Writable.recounted (writable : Writable tables locks changes) :
    Writable { tables with counts } locks changes where
  ready := by
    intro change member
    have ready := writable.ready change member
    cases change <;> exact ready
  once := writable.once

theorem relies_write (counted : Counted safe tables) (writable : Writable tables locks changes)
    (disjoint : locks.Disjoint held) (relied : Relies safe tables held other) :
    Relies safe (tables.write changes) held other := by
  have keepsHeld {row : ℕ} {asks : TillCashMovement → Prop} (holds : Held tables held row asks) :=
    writable.keeps_held disjoint holds
  have keepsWritable {others : List Change} (theirs : Writable tables held others) :
      Writable (tables.write changes) held others := by
    refine ⟨?_, theirs.once⟩
    intro change member
    have ready := theirs.ready change member
    cases change with
    | insert movement => exact ready
    | void row on => exact keepsHeld ready
    | receive row on amount => exact keepsHeld ready
  have keepsMade {expected : Decimal} {inside : List Flow} (made : Made safe tables expected inside) :
      Made safe (tables.write changes) expected inside := by
    refine ⟨made.nodup, fun flow member => mem_flowsOf_write counted writable (made.within flow member), ?_⟩
    rw [write_counts]
    exact made.expected
  cases other with
  | voidLocked row => exact keepsHeld relied
  | voidRemitSafe row => exact keepsHeld relied
  | receiving rest theirs => exact ⟨keepsWritable relied.1, relied.2⟩
  | receivingSession row amount rest theirs =>
      exact ⟨keepsHeld relied.1, keepsWritable relied.2.1, relied.2.2⟩
  | receivingLocked row amount rest theirs =>
      exact ⟨keepsHeld relied.1, keepsWritable relied.2.1, relied.2.2⟩
  | reopening rows theirs =>
      exact ⟨fun row member => keepsHeld (relied.1 row member), keepsWritable relied.2.1, relied.2.2⟩
  | written theirs => exact keepsWritable relied
  | flowsRead purpose last flows =>
      refine ⟨relied.1, ?_, relied.2.nodup, ?_⟩
      · rw [write_counts]
        exact relied.2.last
      · exact fun flow member => mem_flowsOf_write counted writable (relied.2.within flow member)
  | stateRead purpose state inside => exact ⟨relied.1, keepsMade relied.2⟩
  | counted count => exact ⟨relied.1, keepsMade relied.2⟩
  | _ => exact relied

theorem relies_count (unlocked : SafeLock.safe ∉ held) (relied : Relies safe tables held other) :
    Relies safe { tables with counts } held other := by
  cases other with
  | receiving rest theirs => exact ⟨relied.1.recounted, relied.2⟩
  | receivingSession row amount rest theirs => exact ⟨relied.1, relied.2.1.recounted, relied.2.2⟩
  | receivingLocked row amount rest theirs => exact ⟨relied.1, relied.2.1.recounted, relied.2.2⟩
  | reopening rows theirs => exact ⟨relied.1, relied.2.1.recounted, relied.2.2⟩
  | written theirs => exact Writable.recounted relied
  | flowsRead purpose last flows => exact (unlocked relied.1).elim
  | stateRead purpose state inside => exact (unlocked relied.1).elim
  | counted count => exact (unlocked relied.1).elim
  | _ => exact relied

/-- Each statement keeps what the next one relies on.  A commit adds a count under the safe's
lock, or writes movements under their own. -/
theorem safe_leads (counted : Counted safe tables) (relied : Relies safe tables locks task)
    (timely : Timely tables now task) :
    (safeProgram safe tables now task).Leads locks (Relies safe tables) fun later =>
      Counted safe later ∧ ((SafeLock.safe ∈ locks ∧ ∃ counts, later = { tables with counts }) ∨
        ∃ changes, Writable tables locks changes ∧ later = tables.write changes) := by
  have within (key : SafeLock) : ∀ held ∈ locks, held ∈ key :: locks :=
    fun _ => List.mem_cons_of_mem key
  cases task with
  | post session kind amount awaiting =>
      simp only [safeProgram]
      split
      · trivial
      · next known =>
          push Not at known
          exact known.1
  | postLocked session kind amount awaiting =>
      constructor
      · intro _
        rfl
      · intro remit
        have known : kind ∈ sessionKinds := relied
        rw [show kind = .REMIT from remit] at known
        simp [sessionKinds] at known
  | insertMovement movement =>
      refine ⟨?_, List.nodup_nil⟩
      intro change member
      rw [List.mem_singleton.mp member]
      exact relied
  | void row =>
      simp only [safeProgram]
      split
      · next session found => exact held_session found
      · trivial
  | voidLocked row =>
      simp only [safeProgram]
      split
      · next movement found =>
          split
          · next asked =>
              obtain ⟨own, ownFound, locked, _⟩ := relied
              rw [found] at ownFound
              cases ownFound
              simp only [TillCashMovement.voidable, Bool.and_eq_true, decide_eq_true_eq] at asked
              refine ⟨?_, by simp [Change.target]⟩
              intro change member
              rw [List.mem_singleton.mp member]
              exact ⟨movement, found, locked, asked.1.1, asked.2⟩
          · trivial
      · trivial
  | receive bags =>
      simp only [safeProgram]
      split
      · next distinct => exact ⟨⟨by simp, by simp⟩, by simpa using distinct⟩
      · trivial
  | receiving bags changes =>
      cases bags with
      | nil => exact relied.1
      | cons bag rest =>
          simp only [safeProgram]
          split
          · next session found => exact ⟨held_session found, relied.1.mono (within _), relied.2⟩
          · trivial
  | receivingSession row amount rest changes =>
      exact ⟨relied.1.mono (within _) fun _ asked => asked, relied.2.1.mono (within _), relied.2.2⟩
  | receivingLocked row amount rest changes =>
      simp only [safeProgram]
      split
      · next movement found =>
          split
          · next asked =>
              obtain ⟨⟨own, ownFound, locked, _⟩, writable, distinct⟩ := relied
              rw [found] at ownFound
              cases ownFound
              simp only [TillCashMovement.awaits, Bool.and_eq_true, decide_eq_true_eq] at asked
              have rearranged : (rest.map (·.1) ++ row :: changes.filterMap Change.target).Nodup :=
                (List.perm_middle.nodup_iff).mpr distinct
              refine ⟨⟨?_, (List.nodup_append.mp rearranged).2.1⟩, rearranged⟩
              intro change member
              rcases List.mem_cons.mp member with rfl | old
              · exact ⟨movement, found, locked, asked.2, asked.1⟩
              · exact writable.ready change old
          · trivial
      · trivial
  | reopenLocked session =>
      simp only [safeProgram]
      split
      · trivial
      · next unreceived =>
          refine ⟨?_, ⟨by simp, by simp⟩, by simpa using nodup_handOvers session⟩
          intro row member
          apply held_handOver relied member
          intro entry entryMember received
          apply unreceived
          exact List.any_eq_true.mpr ⟨entry, entryMember, by simpa using received⟩
  | reopening rows changes =>
      cases rows with
      | nil => exact relied.2.1
      | cons row rest =>
          have rearranged : (rest ++ row :: changes.filterMap Change.target).Nodup :=
            (List.perm_middle.nodup_iff).mpr relied.2.2
          refine ⟨?_, ⟨?_, (List.nodup_append.mp rearranged).2.1⟩, rearranged⟩
          · intro other member
            exact relied.1 other (List.mem_cons_of_mem _ member)
          · intro change member
            rcases List.mem_cons.mp member with rfl | old
            · exact relied.1 row List.mem_cons_self
            · exact relied.2.1.ready change old
  | reopen session | office purpose | voidRemit row => exact List.mem_cons_self
  | safeLocked purpose =>
      exact ⟨relied, rfl, tables.nodup_flows.filter _, fun _ member => member⟩
  | flowsRead purpose last flows => exact ⟨relied.1, relied.2.made counted⟩
  | stateRead purpose state inside =>
      cases purpose with
      | count total => exact relied
      | remit amount mode =>
          simp only [safeProgram]
          split
          · trivial
          · refine ⟨?_, List.nodup_nil⟩
            intro change member
            rw [List.mem_singleton.mp member]
            exact ⟨fun _ => rfl, fun _ => ⟨rfl, rfl⟩⟩
  | counted count => exact ⟨counted.count relied.2 timely, Or.inl ⟨relied.1, _, rfl⟩⟩
  | voidRemitLocked row =>
      simp only [safeProgram]
      split
      · next movement found =>
          split
          · next asked =>
              simp only [TillCashMovement.remitVoidable, Bool.and_eq_true, decide_eq_true_eq] at asked
              have office := (counted.movements movement (List.mem_of_getElem? found)).office asked.1.1
              refine ⟨movement, found, ?_, asked.1.2, by simp [office.2]⟩
              simp only [ownLock, office.1]
              exact List.mem_cons_of_mem _ relied
          · trivial
      · trivial
  | voidRemitSafe row =>
      simp only [safeProgram]
      split
      · split
        · trivial
        · refine ⟨?_, by simp [Change.target]⟩
          intro change member
          rw [List.mem_singleton.mp member]
          exact relied
      · trivial
  | written changes => exact ⟨counted.write relied timely, Or.inr ⟨changes, relied, rfl⟩⟩

theorem safe_keeps (safe : SafeLedger) :
    Keeps (safeProgram safe) Timely (Counted safe) (Relies safe) := by
  refine keeps_of_leads safe_leads ?_
  intro tables locks later held other counted left disjoint theirs
  rcases left with ⟨locked, counts, rfl⟩ | ⟨changes, writable, rfl⟩
  · exact relies_count (disjoint locked) theirs
  · exact relies_write counted writable disjoint theirs

/-- The invariant accounts for every flow. -/
theorem Counted.accounted (counted : Counted safe tables) : Accounted safe tables where
  distinct := tables.nodup_flows
  once := by
    have whole := List.filter_append_perm (fun flow => !stampedAfter tables.lastCountedOn flow)
      tables.flows
    simp only [Bool.not_not] at whole
    exact (counted.sealed.append_right _).trans whole
  chained := counted.chained
  expected := by
    have read : Read tables (lastCount tables.counts) (flowsOf tables tables.lastCountedOn) :=
      ⟨rfl, tables.nodup_flows.filter _, fun _ member => member⟩
    have outside : tables.flows.filter (fun flow => flow ∉ tables.counts.flatMap (·.inside)) =
        flowsOf tables tables.lastCountedOn := by
      apply List.filter_congr
      intro flow member
      have sealed := counted.sealed.mem_iff (a := flow)
      rw [List.mem_filter] at sealed
      simp [sealed, member]
    rw [stateOf, (read.made counted).expected, outside]
    split
    · next first =>
        have every : flowsOf tables tables.lastCountedOn = tables.flows := by
          rw [flowsOf, SafeTables.lastCountedOn, first.1]
          exact List.filter_eq_self.mpr fun _ _ => rfl
        rw [every]
    · rfl

end Keeping

/-! ## Every run -/

/-- As long as the stamps stand in the order of the commits, every flow of the safe is
counted exactly once. -/
theorem flows_countedOnce (safe : SafeLedger) (officeCash : List OfficeCash)
    (transactions : List SafeTransaction) (server : Server SafeTables SafeTask SafeLock)
    (reached : Reaches (safeProgram safe) Timely (safeServer officeCash transactions) server) :
    Accounted safe server.database := by
  have start : (safeServer officeCash transactions).Ok (Counted safe) (Relies safe) := by
    apply Server.ok_of_tasks
    · refine ⟨by simp, rfl, trivial, ?_⟩
      have none : (fun flow => !stampedAfter (SafeTables.lastCountedOn ⟨[], officeCash, []⟩) flow) =
          fun _ => false := rfl
      rw [none]
      simp
    · intro task member
      obtain ⟨transaction, _, rfl⟩ := List.mem_map.mp member
      cases transaction <;> trivial
  exact (reached.ok (safe_keeps safe) start).database.accounted

/-- A safe with a ledger of its own that starts empty. -/
def emptySafe : SafeLedger := ⟨false, 0⟩

/-- A bag dropped and received short, a count, a remittance out of the safe and its void,
and a second count while a pickup waits to commit. -/
def officeDay : List SafeTransaction :=
  [.post 1 .DROP 100 true, .receive [(0, 95)], .count 95, .remit 40 .CIT, .voidRemit 1, .count 95,
    .post 1 .PICKUP 30 false]

def officeSchedule : List (Action Instant) :=
  List.replicate 4 (.advance 0 1) ++ List.replicate 6 (.advance 1 2) ++
    List.replicate 5 (.advance 2 3) ++ List.replicate 5 (.advance 3 4) ++
    List.replicate 4 (.advance 4 5) ++ [.advance 6 5] ++ List.replicate 4 (.advance 5 6) ++
    [.advance 6 7, .advance 5 7, .advance 6 8, .advance 6 8]

theorem office_countedOnce :
    ∃ server, runAllowed (safeProgram emptySafe) Timely (safeServer [] officeDay) officeSchedule =
      some server ∧ Accounted emptySafe server.database := by
  have runs : (runAllowed (safeProgram emptySafe) Timely (safeServer [] officeDay)
      officeSchedule).isSome = true := by
    decide +kernel
  obtain ⟨server, moved⟩ := Option.isSome_iff_exists.mp runs
  exact ⟨server, moved, flows_countedOnce emptySafe [] officeDay server
    (reaches_of_runAllowed _ _ .start moved)⟩

/-- A drop stamped before a count has to wait for it: no count will ever hold it. -/
theorem drop_countedNever :
    ¬∀ (safe : SafeLedger) (officeCash : List OfficeCash) (transactions : List SafeTransaction)
      (schedule : List (Action Instant)) (server : Server SafeTables SafeTask SafeLock),
      runSchedule (safeProgram safe) (safeServer officeCash transactions) schedule = some server →
      Accounted safe server.database := by
  intro always
  let start := safeServer [] [.post 1 .DROP 100 false, .count 0]
  let schedule : List (Action Instant) :=
    List.replicate 2 (.advance 0 1) ++ List.replicate 5 (.advance 1 2) ++
      List.replicate 2 (.advance 0 3)
  have runs : (runSchedule (safeProgram emptySafe) start schedule).any (fun server =>
      (stateOf false server.database (bookOf emptySafe server.database)).expected ≠
        figureOf emptySafe.start server.database.counts + netOf (server.database.flows.filter
          fun flow => flow ∉ server.database.counts.flatMap (·.inside))) = true := by
    decide +kernel
  obtain ⟨server, moved, runs⟩ := (Option.any_eq_true _ _).mp runs
  have accounted := always emptySafe [] _ schedule server moved
  rw [decide_eq_true_eq] at runs
  exact runs accounted.expected

end ErpServer.Till
