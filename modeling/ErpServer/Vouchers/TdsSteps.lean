import ErpServer.Vouchers.TypedLines

/-!
# The steps of the deduction

What the deduction of one party records, and what each deductee of a voucher with several
adds: below the threshold a record of what was paid, above it the lines grossed up and one
leg of the tax.
-/

namespace ErpServer.Vouchers

open Lib
open Receipt (Decimal DrCr Figure money money_mem money_nonneg paise)

variable {cases : Text.CaseMapping} {input : DeriveInput} {ctx : GuardContext}

/-! ## One party -/

/-- What a header party's deduction that refuses nothing comes to. -/
inductive DeductsOne (cases : Text.CaseMapping) (input : DeriveInput) (typed : List TypedLeg) :
    PartyRead → TdsOne → Prop
  /-- The party is not deducted from. -/
  | nothing {read : PartyRead}
      (exempt : ∀ party, read.party = some party → ∀ side, read.side = some side →
        ¬(input.type.tdsMode = .DEDUCT ∧ party.isTdsApplicable = true)) :
      DeductsOne cases input typed read ⟨none, [], []⟩
  | deducted {party : LedgerFacts} {side : DrCr} {refusals : List Refusal} {one : TdsOne}
      {tdsSection : Text} {facts : TdsFacts} {rate : TdsRateFacts}
      (deducts : input.type.tdsMode = .DEDUCT ∧ party.isTdsApplicable = true)
      (known : input.tds = some facts) (rated : facts.rate = some rate)
      (ok : deductOne cases input party side typed tdsSection rate facts.annualBaseSoFar =
        .ok one) :
      DeductsOne cases input typed ⟨some party, some side, refusals⟩ one

variable {group typed : List TypedLeg} {one : TdsOne} {annualBaseSoFar : Decimal}
variable {party : LedgerFacts} {rate : TdsRateFacts} {tdsSection : Text} {run : TdsRun}

theorem deriveTdsOne_deducts {read : PartyRead} (ok : deriveTdsOne cases input read typed = .ok one)
    (quiet : Quiet ctx one.notes) : DeductsOne cases input typed read one := by
  rw [deriveTdsOne] at ok
  split at ok
  · next party side partyRead sideRead =>
      split at ok
      · next deducts =>
          simp only at ok
          split at ok
          · cases ok
            cases quiet _ List.mem_cons_self
          · split at ok
            · cases ok
              cases quiet _ List.mem_cons_self
            · next facts rate found =>
                obtain ⟨known, knownFacts, rated⟩ := Option.bind_eq_some_iff.mp found
                obtain ⟨_, isRate, same⟩ := Option.map_eq_some_iff.mp rated
                cases same
                obtain ⟨readParty, readSide, refusals⟩ := read
                cases partyRead
                cases sideRead
                exact .deducted deducts knownFacts isRate ok
      · next exempt =>
          cases ok
          apply DeductsOne.nothing
          intro other otherRead otherSide _
          rw [partyRead] at otherRead
          cases otherRead
          exact exempt
  · next absent =>
      cases ok
      apply DeductsOne.nothing
      intro party partyRead side sideRead
      exact absurd sideRead (absent party side partyRead)

/-- What the lines that count come to. -/
def netOf (partySide : DrCr) (typed : List TypedLeg) : Decimal :=
  ((tdsBaseLegs partySide typed).map (·.amount)).sum

/-- The record and the leg of one party. -/
inductive RecordsOne (cases : Text.CaseMapping) (input : DeriveInput) (party : LedgerFacts)
    (tdsSection : Text) (rate : TdsRateFacts) (annualBaseSoFar base tax : Decimal)
    (rows : List ℕ) : TdsOne → Prop
  | below {reason : String} {notes : List Note}
      (within : crossesTdsThreshold base (annualBaseSoFar + base) rate = false) :
      RecordsOne cases input party tdsSection rate annualBaseSoFar base tax rows
        ⟨some (tdsRecord cases party tdsSection rate .BELOW_THRESHOLD base 0 (some reason) rows
          none none), [], notes⟩
  | above {ledger : ResolvedRoleLedger} {remarks : String}
      (crosses : crossesTdsThreshold base (annualBaseSoFar + base) rate = true) :
      RecordsOne cases input party tdsSection rate annualBaseSoFar base tax rows
        ⟨some (tdsRecord cases party tdsSection rate (tdsRateSource party) base tax none rows
          (some ledger.ledgerId) none),
        if 0 < tax then [tdsLeg ledger tax remarks rows false none] else [], []⟩

theorem deductOne_records {partySide : DrCr}
    (ok : deductOne cases input party partySide typed tdsSection rate annualBaseSoFar = .ok one)
    (quiet : Quiet ctx one.notes) :
    ¬(paymentShaped input.type = true ∧ tdsPercent party rate = 100) ∧
      RecordsOne cases input party tdsSection rate annualBaseSoFar
        (tdsFigures input.type (tdsPercent party rate) (netOf partySide typed)).1
        (tdsFigures input.type (tdsPercent party rate) (netOf partySide typed)).2
        ((tdsBaseLegs partySide typed).map (·.lineRowNo)) one := by
  rw [deductOne] at ok
  split at ok
  · cases ok
  · next finite =>
      refine ⟨finite, ?_⟩
      simp only at ok
      split at ok
      · next within =>
          cases ok
          exact .below ((Bool.not_eq_true' _).mp within)
      · next crosses =>
          have above := (Bool.not_eq_false' _).mp (Bool.eq_false_iff.mpr crosses)
          cases mapped : tdsPayable input with
          | none =>
              simp only [mapped] at ok
              cases ok
              cases quiet _ List.mem_cons_self
          | some ledger =>
              simp only [mapped] at ok
              cases ok
              exact .above above

/-! ## Parties on the lines -/

/-- What the lines of a deductee come to, grossed up. -/
def groupBase (pct : Decimal) (group : List TypedLeg) : Decimal :=
  (group.map fun leg => grossUp pct leg.amount).sum

/-- The tax in that. -/
def groupTax (pct : Decimal) (group : List TypedLeg) : Decimal :=
  (group.map fun leg => grossUp pct leg.amount - leg.amount).sum

/-- What was typed for the lines. -/
def groupPaid (group : List TypedLeg) : Decimal := (group.map (·.amount)).sum

def rowsOf (group : List TypedLeg) : List ℕ := group.map (·.lineRowNo)

/-- What a deductee adds to a run that refuses nothing. -/
inductive DeductsGroup (cases : Text.CaseMapping) (run : TdsRun) (party : LedgerFacts)
    (group : List TypedLeg) (rate : TdsRateFacts) (annualBaseSoFar : Decimal) : TdsRun → Prop
  | below {tdsSection : Text} {reason : String} {first : ℕ} {note : Note}
      (within : crossesTdsThreshold (groupBase (tdsPercent party rate) group)
        (annualBaseSoFar + groupBase (tdsPercent party rate) group) rate = false) :
      DeductsGroup cases run party group rate annualBaseSoFar
        { run with
          records := run.records ++ [tdsRecord cases party tdsSection rate .BELOW_THRESHOLD
            (groupPaid group) 0 (some reason) (rowsOf group) none (some first)]
          notes := run.notes ++ [note] }
  | above {tdsSection : Text} {remarks : String} {first : ℕ} {ledger : ResolvedRoleLedger}
      {postDated : Bool} {postsOn : Option IsoDate}
      (crosses : crossesTdsThreshold (groupBase (tdsPercent party rate) group)
        (annualBaseSoFar + groupBase (tdsPercent party rate) group) rate = true)
      (today : postDated = false → ∀ leg ∈ group, leg.postDated = false)
      (alone : postDated = true → 0 < groupTax (tdsPercent party rate) group →
        ∃ leg, group = [leg] ∧ leg.postDated = true) :
      DeductsGroup cases run party group rate annualBaseSoFar
        { run with
          typed := if 0 < groupTax (tdsPercent party rate) group then
            grossLines (tdsPercent party rate) (rowsOf group) run.typed else run.typed
          legs := run.legs ++ if 0 < groupTax (tdsPercent party rate) group then
              [tdsLeg ledger (groupTax (tdsPercent party rate) group) remarks (rowsOf group)
                postDated postsOn]
            else []
          records := run.records ++ [tdsRecord cases party tdsSection rate (tdsRateSource party)
            (groupBase (tdsPercent party rate) group) (groupTax (tdsPercent party rate) group) none
            (rowsOf group) (some ledger.ledgerId) (some first)] }

/-- A last note that refuses is not quiet. -/
theorem not_quiet_append {notes : List Note} {refusal : Refusal} :
    ¬Quiet ctx (notes ++ [.refuse refusal]) := by
  intro quiet
  cases quiet (.refuse refusal) (List.mem_append_right _ List.mem_cons_self)

/-- The first of a group's post-dated lines. -/
theorem datedOf_alone {tax : Decimal} (single : (group.filter TypedLeg.postDated).head?.filter
      (fun _ => 0 < tax ∧ 1 < group.length) = none) :
    ((group.filter TypedLeg.postDated).head?.isSome = false →
      ∀ leg ∈ group, leg.postDated = false) ∧
    ((group.filter TypedLeg.postDated).head?.isSome = true → 0 < tax →
      ∃ leg, group = [leg] ∧ leg.postDated = true) := by
  cases dated : group.filter TypedLeg.postDated with
  | nil =>
      constructor
      · intro _ leg member
        exact Bool.eq_false_iff.mpr (List.filter_eq_nil_iff.mp dated leg member)
      · intro isSome
        cases isSome
  | cons first rest =>
      have member : first ∈ group.filter TypedLeg.postDated := by
        rw [dated]
        exact List.mem_cons_self
      constructor
      · intro isNone
        cases isNone
      · intro _ positive
        rw [dated, List.head?_cons, Option.filter_some] at single
        have short : ¬1 < group.length := by
          intro longer
          rw [decide_eq_true ⟨positive, longer⟩] at single
          cases single
        cases group with
        | nil => cases dated
        | cons leg others =>
            cases others with
            | nil =>
                rw [List.mem_filter, List.mem_singleton] at member
                exact ⟨leg, rfl, member.1 ▸ member.2⟩
            | cons second more => exact absurd (Nat.lt_add_of_pos_left (Nat.succ_pos _)) short

theorem withhold_deducts {first : ℕ} (told : run.unmappedTold = false)
    (crosses : crossesTdsThreshold (groupBase (tdsPercent party rate) group)
      (annualBaseSoFar + groupBase (tdsPercent party rate) group) rate = true)
    (quiet : Quiet ctx (withhold cases input run party group first tdsSection rate
      (groupBase (tdsPercent party rate) group) (groupTax (tdsPercent party rate) group)).notes) :
    DeductsGroup cases run party group rate annualBaseSoFar
      (withhold cases input run party group first tdsSection rate
        (groupBase (tdsPercent party rate) group) (groupTax (tdsPercent party rate) group)) := by
  rw [withhold] at quiet ⊢
  cases mapped : tdsPayable input with
  | none =>
      simp only [mapped, told] at quiet
      exact absurd quiet not_quiet_append
  | some ledger =>
      simp only [mapped] at quiet ⊢
      split at quiet
      · exact absurd quiet not_quiet_append
      · next single =>
          exact .above crosses (datedOf_alone single).1 (datedOf_alone single).2

theorem deductGroup_deducts {after : TdsRun} {leg : TypedLeg} {rest : List TypedLeg}
    (ok : deductGroup cases input run (leg :: rest) = .ok after) (quiet : Quiet ctx after.notes)
    (told : run.unmappedTold = false) : paymentShaped input.type = true ∧ ∃ facts rate,
      input.tdsByParty leg.ledger.ledId = some facts ∧ facts.rate = some rate ∧
        tdsPercent leg.ledger rate ≠ 100 ∧
        DeductsGroup cases run leg.ledger (leg :: rest) rate facts.annualBaseSoFar after := by
  simp only [deductGroup] at ok
  split at ok
  · cases ok
    exact absurd quiet not_quiet_append
  · next shaped =>
      have shaped := (Bool.not_eq_false' _).mp (Bool.eq_false_iff.mpr shaped)
      split at ok
      · cases ok
        exact absurd quiet not_quiet_append
      · split at ok
        · cases ok
          exact absurd quiet not_quiet_append
        · next facts rate found =>
            obtain ⟨known, knownFacts, rated⟩ := Option.bind_eq_some_iff.mp found
            obtain ⟨_, isRate, same⟩ := Option.map_eq_some_iff.mp rated
            cases same
            rw [deductMany] at ok
            split at ok
            · cases ok
            · next finite =>
                refine ⟨shaped, facts, rate, knownFacts, isRate, finite, ?_⟩
                simp only at ok
                split at ok
                · next within =>
                    cases ok
                    exact .below ((Bool.not_eq_true' _).mp within)
                · next crosses =>
                    have above := (Bool.not_eq_false' _).mp (Bool.eq_false_iff.mpr crosses)
                    cases ok
                    exact withhold_deducts told above quiet

/-- The legs of a deduction are credits of tax. -/
def CreditsOfTax (legs : List InternalLeg) : Prop :=
  ∀ leg ∈ legs, leg.source = .TDS ∧ leg.drCr = .CR ∧ leg.amount ∈ paise

end ErpServer.Vouchers
