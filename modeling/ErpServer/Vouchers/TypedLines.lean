import ErpServer.Vouchers.Derive

/-!
# Every typed line is a leg

When no line is refused each becomes one leg, in row order, under its own row, on its own
side and for its own amount rounded to two places.  A type with one party reads the header's.
-/

namespace ErpServer.Vouchers

open Lib
open Receipt (Decimal DrCr Figure money money_mem money_nonneg paise)

variable {cases : Text.CaseMapping} {input : DeriveInput}

/-- The leg a line becomes. -/
structure LineLeg (input : DeriveInput) (line : TypedLineInput) (leg : TypedLeg) : Prop where
  rowNo : leg.lineRowNo = line.rowNo
  side : leg.drCr = line.drCr
  ledger : input.ledgers line.ledgerId = some leg.ledger
  amount : leg.amount = money line.amount
  positive : 0 < line.amount
  gst : leg.gst = line.gst
  isTdsBase : leg.isTdsBase = line.tdsBase.getD leg.ledger.isTdsApplicable
  instrument : leg.instrument.isSome = line.instrument.isSome

variable {line : TypedLineInput}

theorem LineLeg.figure {leg : TypedLeg} (becomes : LineLeg input line leg) : Figure leg.amount := by
  rw [becomes.amount]
  exact ⟨money_mem _, money_nonneg becomes.positive.le⟩

theorem amountRefusals_nil (none : amountRefusals line = []) : 0 < line.amount := by
  rw [amountRefusals] at none
  split at none
  · cases none
  · next above => exact lt_of_not_ge above

/-- What a line that is not refused does to the run. -/
structure LineRun.Takes (input : DeriveInput) (line : TypedLineInput) (before after : LineRun) :
    Prop where
  clean : before.notes = []
  fresh : line.rowNo ∉ before.seenRows
  seenRows : after.seenRows = line.rowNo :: before.seenRows
  typed : ∃ leg, LineLeg input line leg ∧ after.typed = before.typed ++ [leg]

theorem deriveLine_takes {run : LineRun} (clean : (deriveLine cases input run line).notes = []) :
    LineRun.Takes input line run (deriveLine cases input run line) := by
  rw [deriveLine] at clean ⊢
  by_cases twice : line.rowNo ∈ run.seenRows
  · rw [if_pos twice] at clean
    exact absurd (List.append_eq_nil_iff.mp clean).2 (List.cons_ne_nil _ _)
  · rw [if_neg twice] at clean ⊢
    cases found : input.ledgers line.ledgerId with
    | none =>
        simp only [found] at clean
        exact absurd (List.append_eq_nil_iff.mp clean).2 (List.cons_ne_nil _ _)
    | some ledger =>
        have becomes (notes : List Refusal) (before : run.notes ++ amountRefusals line ++
            ledgerRefusals cases input line ledger ++ notes = [])
            (instrument : Option InternalInstrument)
            (same : instrument.isSome = line.instrument.isSome) :
            run.notes = [] ∧ LineLeg input line (typedLeg line ledger instrument) := by
          have start := (List.append_eq_nil_iff.mp before).1
          have earlier := List.append_eq_nil_iff.mp (List.append_eq_nil_iff.mp start).1
          exact ⟨earlier.1, rfl, rfl, found, rfl, amountRefusals_nil earlier.2, rfl, rfl, same⟩
        cases sent : line.instrument with
        | none =>
            simp only [found, sent] at clean ⊢
            have held := becomes [] (by rwa [List.append_nil]) none (by rw [sent]; rfl)
            exact ⟨held.1, twice, rfl, _, held.2, rfl⟩
        | some ins =>
            simp only [found, sent] at clean ⊢
            cases read : readInstrument cases input run.promised line ins ledger with
            | error refusal =>
                simp only [read] at clean
                exact absurd (List.append_eq_nil_iff.mp clean).2 (List.cons_ne_nil _ _)
            | ok result =>
                simp only [read] at clean ⊢
                have held := becomes result.notes clean (some result.instrument) (by rw [sent]; rfl)
                exact ⟨held.1, twice, rfl, _, held.2, rfl⟩

/-- The legs of the lines read so far. -/
structure ReadLines (input : DeriveInput) (done : List TypedLineInput) (run : LineRun) : Prop where
  legs : List.Forall₂ (LineLeg input) done run.typed
  seenRows : run.seenRows = (done.map (·.rowNo)).reverse
  nodup : (done.map (·.rowNo)).Nodup

theorem ReadLines.take {done : List TypedLineInput} {before after : LineRun}
    (held : ReadLines input done before) (takes : LineRun.Takes input line before after) :
    ReadLines input (done ++ [line]) after := by
  obtain ⟨leg, becomes, typed⟩ := takes.typed
  have fresh : line.rowNo ∉ done.map (·.rowNo) := by
    intro listed
    apply takes.fresh
    rw [held.seenRows]
    exact List.mem_reverse.mpr listed
  constructor
  · rw [typed]
    exact List.rel_append held.legs (List.Forall₂.cons becomes List.Forall₂.nil)
  · rw [takes.seenRows, held.seenRows, List.map_append, List.reverse_append]
    rfl
  · rw [List.map_append]
    apply List.nodup_append.mpr
    refine ⟨held.nodup, List.nodup_singleton _, ?_⟩
    intro row listed other single same
    rw [List.map_singleton, List.mem_singleton] at single
    rw [same, single] at listed
    exact fresh listed

theorem deriveLines_read (clean : (deriveLines cases input).notes = []) :
    ReadLines input (sortedLines input) (deriveLines cases input) := by
  rw [deriveLines] at clean ⊢
  generalize (if input.lines = [] then [ofHeader .NO_LINES "Type at least one line" "lines"]
    else []) = notes at clean ⊢
  generalize sortedLines input = lines at clean ⊢
  induction lines using List.reverseRecOn with
  | nil => exact ⟨.nil, rfl, List.nodup_nil⟩
  | append_singleton done line ih =>
      rw [List.foldl_append, List.foldl_cons, List.foldl_nil] at clean ⊢
      have takes := deriveLine_takes clean
      exact (ih takes.clean).take takes

namespace ReadLines

variable {done : List TypedLineInput} {run : LineRun}

theorem rows (held : ReadLines input done run) :
    run.typed.map (·.lineRowNo) = done.map (·.rowNo) := by
  have legs := held.legs
  clear held
  generalize run.typed = typed at legs ⊢
  induction legs with
  | nil => rfl
  | cons becomes _ ih => rw [List.map_cons, List.map_cons, becomes.rowNo, ih]

theorem rows_nodup (held : ReadLines input done run) :
    (run.typed.map (·.lineRowNo)).Nodup := by
  rw [held.rows]
  exact held.nodup

/-- Every leg is that of a line. -/
theorem of_mem (held : ReadLines input done run) {leg : TypedLeg} (member : leg ∈ run.typed) :
    ∃ line ∈ done, LineLeg input line leg :=
  Fold.forall₂_right held.legs member

theorem figure (held : ReadLines input done run) {leg : TypedLeg} (member : leg ∈ run.typed) :
    Figure leg.amount := by
  obtain ⟨line, _, becomes⟩ := held.of_mem member
  exact becomes.figure

end ReadLines

/-! ## The header's party -/

theorem readParty_of {party : LedgerFacts} (isParty : (readParty cases input).party = some party) :
    input.type.partyMode = .ONE ∧ input.party = some party := by
  rw [readParty] at isParty
  simp only at isParty
  split at isParty
  · next mode =>
      refine ⟨mode, ?_⟩
      split at isParty
      · cases isParty
      · cases isParty
      · next found =>
          rw [found]
          split at isParty
          · exact isParty
          · exact isParty
  · cases isParty

theorem readParty_on {side : DrCr} (isSide : (readParty cases input).side = some side) :
    input.type.partySide.fixed = some side := by
  rw [readParty] at isSide
  simp only at isSide
  split at isSide
  · split at isSide
    · cases isSide
    · cases isSide
    · split at isSide
      · cases isSide
      · next found =>
          rw [found]
          exact isSide
  · cases isSide

theorem readParty_side {side : DrCr} (isSide : (readParty cases input).side = some side) :
    ∃ party, (readParty cases input).party = some party := by
  rw [readParty] at isSide ⊢
  simp only at isSide ⊢
  split
  · next one =>
      rw [if_pos one] at isSide
      split at isSide
      · cases isSide
      · cases isSide
      · next _ party _ _ =>
          split
          · exact ⟨_, rfl⟩
          · exact ⟨_, rfl⟩
  · next several =>
      rw [if_neg several] at isSide
      cases isSide

/-- A party that is not refused is read, on its side. -/
theorem readParty_clean (mode : input.type.partyMode = .ONE)
    (clean : (readParty cases input).notes = []) :
    ∃ party side, (readParty cases input).party = some party ∧
      (readParty cases input).side = some side := by
  rw [readParty] at clean ⊢
  simp only [if_pos mode] at clean ⊢
  split at clean
  · cases clean
  · cases clean
  · split at clean
    · exact absurd (List.append_eq_nil_iff.mp clean).2 (List.cons_ne_nil _ _)
    · exact ⟨_, _, rfl, rfl⟩

theorem readParty_reads {party : LedgerFacts} {side : DrCr}
    (mode : input.type.partyMode = .ONE) (isParty : input.party = some party)
    (fixed : input.type.partySide.fixed = some side) (clean : (readParty cases input).notes = []) :
    (readParty cases input).party = some party ∧ (readParty cases input).side = some side := by
  obtain ⟨other, otherSide, partyRead, sideRead⟩ := readParty_clean mode clean
  have sameParty := (readParty_of partyRead).2
  have sameSide := readParty_on sideRead
  rw [isParty] at sameParty
  rw [fixed] at sameSide
  rw [partyRead, sideRead]
  exact ⟨sameParty.symm, sameSide.symm⟩

end ErpServer.Vouchers
