import ErpServer.Lib.ListSum

/-!
# A journal of documents that are mirrored, never deleted

An entry posts legs to ledgers for a source.  It is undone by a mirror of its own, which
happens once: an entry that was cancelled is left alone.  A ledger's balance counts both.
-/

namespace Lib.Journal

variable {Source Ledger M : Type*}

/-- Legs posted for a source, debits positive. -/
structure Entry (Source Ledger M : Type*) where
  source : Source
  legs : List (Ledger × M)
  cancelled : Bool := false
  deriving DecidableEq, Repr

variable [AddCommGroup M]

/-- From one ledger to another. -/
def between (debit credit : Ledger) (size : M) : List (Ledger × M) :=
  [(debit, size), (credit, -size)]

def post (journal : List (Entry Source Ledger M)) (source : Source) (legs : List (Ledger × M)) :
    List (Entry Source Ledger M) :=
  journal ++ [⟨source, legs, false⟩]

/-- The entry cancelled and mirrored, unless it already is. -/
def reverse (journal : List (Entry Source Ledger M)) (id : ℕ) (mirror : Source) :
    List (Entry Source Ledger M) :=
  match journal[id]? with
  | some entry =>
      if entry.cancelled then journal
      else journal.modify id ({ · with cancelled := true }) ++
        [⟨mirror, entry.legs.map fun leg => (leg.1, -leg.2), false⟩]
  | none => journal

variable [DecidableEq Ledger] {journal : List (Entry Source Ledger M)} {ledger : Ledger}
variable {source mirror : Source} {legs : List (Ledger × M)} {id : ℕ} {size : M}

/-- What legs come to on a ledger. -/
def onLedger (ledger : Ledger) (legs : List (Ledger × M)) : M :=
  (legs.map fun leg => if leg.1 = ledger then leg.2 else 0).sum

def balance (journal : List (Entry Source Ledger M)) (ledger : Ledger) : M :=
  (journal.map fun entry => onLedger ledger entry.legs).sum

variable {credit debit : Ledger}

theorem onLedger_debit (apart : credit ≠ ledger) :
    onLedger ledger (between ledger credit size) = size := by
  simp [onLedger, between, apart]

theorem onLedger_credit (apart : debit ≠ ledger) :
    onLedger ledger (between debit ledger size) = -size := by
  simp [onLedger, between, apart]

theorem onLedger_between (debitApart : debit ≠ ledger) (creditApart : credit ≠ ledger) :
    onLedger ledger (between debit credit size) = 0 := by
  simp [onLedger, between, debitApart, creditApart]

theorem onLedger_neg (legs : List (Ledger × M)) :
    onLedger ledger (legs.map fun leg => (leg.1, -leg.2)) = -onLedger ledger legs := by
  rw [onLedger, onLedger, ← ListSum.sum_map_neg, List.map_map]
  congr 1
  apply List.map_congr_left
  intro leg _
  by_cases here : leg.1 = ledger <;> simp [here]

/-- The entry of a source, not cancelled, and what it comes to on a ledger. -/
def Stands (journal : List (Entry Source Ledger M)) (ledger : Ledger) (source : Source) (id : ℕ)
    (size : M) : Prop :=
  ∃ entry, journal[id]? = some entry ∧ entry.source = source ∧ entry.cancelled = false ∧
    onLedger ledger entry.legs = size

theorem balance_post : balance (post journal source legs) ledger =
    balance journal ledger + onLedger ledger legs := by
  simp [balance, post]

theorem stands_post : Stands (post journal source legs) ledger source journal.length
    (onLedger ledger legs) :=
  ⟨⟨source, legs, false⟩, by simp [post], rfl, rfl, rfl⟩

theorem Stands.post (stands : Stands journal ledger source id size) (other : Source) :
    Stands (Journal.post journal other legs) ledger source id size := by
  obtain ⟨entry, found, rest⟩ := stands
  refine ⟨entry, ?_, rest⟩
  rw [Journal.post, List.getElem?_append_left (List.getElem?_eq_some_iff.mp found).1]
  exact found

/-- A mirror takes back what its entry came to. -/
theorem Stands.balance_reverse (stands : Stands journal ledger source id size) :
    balance (reverse journal id mirror) ledger = balance journal ledger - size := by
  obtain ⟨entry, found, _, live, rfl⟩ := stands
  have sums := ListSum.sum_map_modify found (fun entry => onLedger ledger entry.legs)
    ({ · with cancelled := true })
  have same : ((journal.modify id ({ · with cancelled := true })).map
      fun entry => onLedger ledger entry.legs).sum = balance journal ledger :=
    add_right_cancel sums
  rw [reverse, found]
  simp only [live, Bool.false_eq_true, if_false]
  rw [balance, List.map_append, List.sum_append, same]
  simp [onLedger_neg, sub_eq_add_neg]

/-- Entries of other sources are left standing. -/
theorem Stands.reverse {other : Source} {place : ℕ} (stands : Stands journal ledger source id size)
    (reversed : ∃ entry, journal[place]? = some entry ∧ entry.source = other) (apart : other ≠ source) :
    Stands (Journal.reverse journal place mirror) ledger source id size := by
  obtain ⟨entry, found, same, rest⟩ := stands
  obtain ⟨gone, goneFound, goneSource⟩ := reversed
  refine ⟨entry, ?_, same, rest⟩
  have placeApart : place ≠ id := by
    rintro rfl
    rw [found, Option.some.injEq] at goneFound
    subst goneFound
    exact apart (goneSource.symm.trans same)
  simp only [Journal.reverse, goneFound]
  split
  · exact found
  · rw [List.getElem?_append_left (by simpa using (List.getElem?_eq_some_iff.mp found).1),
      List.getElem?_modify_ne _ _ placeApart]
    exact found

end Lib.Journal
