import Mathlib.Algebra.BigOperators.Group.List.Basic
import Mathlib.Algebra.Order.Group.Defs
import Mathlib.Algebra.Ring.Defs
import Mathlib.Tactic.Abel

/-!
# Double entry

A list of legs, each on the debit or the credit side for an amount.  What the two
sides come to, when they agree, and how both follow the way a list of legs is put
together.
-/

namespace Lib.DoubleEntry

/-- How a leg is read: its side and its amount. -/
structure Reading (α K : Type*) where
  isDebit : α → Bool
  amount : α → K

namespace Reading

section Totals

variable {α ι K : Type*} [AddCommGroup K] (reading : Reading α K)

def debits (legs : List α) : K := ((legs.filter reading.isDebit).map reading.amount).sum

def credits (legs : List α) : K :=
  ((legs.filter fun leg => !reading.isDebit leg).map reading.amount).sum

/-- The two sides agree. -/
def Balanced (legs : List α) : Prop := reading.debits legs = reading.credits legs

/-- What a leg adds to the debit side, a credit counting against it. -/
def signed (leg : α) : K := if reading.isDebit leg then reading.amount leg else -reading.amount leg

/-- The movement of a list of legs, debits less credits. -/
def net (legs : List α) : K := (legs.map reading.signed).sum

@[simp] theorem net_nil : reading.net [] = 0 := rfl

@[simp] theorem net_cons (leg : α) (rest : List α) :
    reading.net (leg :: rest) = reading.signed leg + reading.net rest := by
  simp [net]

@[simp] theorem net_append (left right : List α) :
    reading.net (left ++ right) = reading.net left + reading.net right := by
  simp [net]

theorem net_flatMap (items : List ι) (legsOf : ι → List α) :
    reading.net (items.flatMap legsOf) = (items.map fun item => reading.net (legsOf item)).sum := by
  induction items with
  | nil => rfl
  | cons item rest ih => simp [ih]

theorem debits_sub_credits (legs : List α) :
    reading.debits legs - reading.credits legs = reading.net legs := by
  induction legs with
  | nil => simp [debits, credits]
  | cons leg rest ih =>
      rw [net_cons, ← ih]
      cases side : reading.isDebit leg
      · simp [debits, credits, signed, side]
        abel
      · simp [debits, credits, signed, side]
        abel

theorem balanced_iff {legs : List α} : reading.Balanced legs ↔ reading.net legs = 0 := by
  rw [← reading.debits_sub_credits legs]
  exact sub_eq_zero.symm

/-- Legs written over on the other side undo what they moved. -/
theorem net_mirror {mirror : α → α}
    (sides : ∀ leg, reading.isDebit (mirror leg) = !reading.isDebit leg)
    (amounts : ∀ leg, reading.amount (mirror leg) = reading.amount leg) (legs : List α) :
    reading.net (legs.map mirror) = -reading.net legs := by
  induction legs with
  | nil => simp
  | cons leg rest ih =>
      rw [List.map_cons, net_cons, net_cons, ih, neg_add, signed, signed, sides, amounts]
      cases reading.isDebit leg
      · simp
      · simp

end Totals

/-! ## Some legs only -/

section Weigh

variable {α K : Type*} [CommRing K] (reading : Reading α K)

/-- The reading that counts every leg by a weight. -/
def weigh (weight : α → K) : Reading α K where
  isDebit := reading.isDebit
  amount leg := weight leg * reading.amount leg

theorem signed_weigh (weight : α → K) (leg : α) :
    (reading.weigh weight).signed leg = weight leg * reading.signed leg := by
  unfold signed weigh
  split
  · rfl
  · exact (mul_neg _ _).symm

/-- Every leg counting once is every leg counting. -/
theorem net_weigh_one (legs : List α) : (reading.weigh fun _ => 1).net legs = reading.net legs := by
  induction legs with
  | nil => rfl
  | cons leg rest ih => rw [net_cons, net_cons, ih, signed_weigh, one_mul]

/-- Some legs counting once and the others not at all is a choice of the legs. -/
theorem net_weigh_filter (counts : α → Bool) (legs : List α) :
    (reading.weigh fun leg => if counts leg then 1 else 0).net legs =
      reading.net (legs.filter counts) := by
  induction legs with
  | nil => rfl
  | cons leg rest ih =>
      rw [net_cons, ih, signed_weigh]
      cases counted : counts leg
      · simp [counted]
      · simp [counted]

end Weigh

/-! ## A leg written only for more than nothing -/

section Entry

variable {α K : Type*} [AddCommGroup K] [LinearOrder K] (reading : Reading α K)

/-- The leg of an amount, unless there is nothing to write. -/
def entry (leg : α) (amount : K) : List α := if amount ≤ 0 then [] else [leg]

variable {amount : K} {leg : α}

theorem mem_entry {written : α} (member : written ∈ entry leg amount) :
    written = leg ∧ 0 < amount := by
  unfold entry at member
  split at member
  · cases member
  · next more => exact ⟨List.mem_singleton.mp member, not_le.mp more⟩

theorem net_entry_debit (side : reading.isDebit leg = true) (reads : reading.amount leg = amount) :
    reading.net (entry leg amount) = max 0 amount := by
  unfold entry
  split
  · next nothing => simp [max_eq_left nothing]
  · next more => simp [signed, side, reads, max_eq_right (not_le.mp more).le]

theorem net_entry_credit (side : reading.isDebit leg = false) (reads : reading.amount leg = amount) :
    reading.net (entry leg amount) = -max 0 amount := by
  unfold entry
  split
  · next nothing => simp [max_eq_left nothing]
  · next more => simp [signed, side, reads, max_eq_right (not_le.mp more).le]

end Entry

end Reading

end Lib.DoubleEntry
