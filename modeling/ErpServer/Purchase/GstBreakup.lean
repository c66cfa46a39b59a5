import ErpServer.Purchase.Payable

/-!
# The GST of a bill by rate

Every line and every charge with its own GST is a piece of taxable value with its tax.  The
pieces of a rate make one row; grouping them loses nothing, so the rows reproduce the bill.
-/

namespace ErpServer.Purchase

open Lib
open Receipt (Decimal)

/-! ## The pieces of a bill -/

structure GstPiece where
  gstPct : Decimal
  taxable : Decimal
  cgst : Decimal
  sgst : Decimal
  igst : Decimal
  cess : Option Decimal
  deriving DecidableEq, Repr

/-- Whether a charge carries its own GST: on the bill, after tax and taxed, and the supplier
charges tax. -/
def carriesGst (mode : Option SupplierTaxMode) (charge : CalcChargeIn) : Bool :=
  !(!charge.onBill || charge.beforeTax || noTaxSupplier mode || D charge.taxPct = 0)

/-- Every line, and every after-tax charge on the bill with its own GST. -/
def calcGstPieces (input : CalcIn) (out : CalcOut) : List GstPiece :=
  let lines := out.lines.map fun line =>
    (⟨line.gstPct, line.taxable, line.tax.cgst, line.tax.sgst, line.tax.igst, some line.cess⟩ :
      GstPiece)
  let charges := out.charges.zipIdx.flatMap fun entry =>
    match input.charges[entry.2]? with
    | none => []
    | some charge =>
        if carriesGst input.supplierTaxMode charge then
          [(⟨D charge.taxPct, entry.1.amount, entry.1.tax.cgst, entry.1.tax.sgst,
            entry.1.tax.igst, some 0⟩ : GstPiece)]
        else []
  lines ++ charges

/-! ## Grouping by rate -/

/-- One rate of the breakup. -/
structure GstBreakupRow where
  gstPct : Decimal
  taxable : Decimal
  cgst : Decimal
  sgst : Decimal
  igst : Decimal
  cess : Decimal
  total : Decimal
  deriving DecidableEq, Repr

/-- The rate written with six decimals, its sign in front. -/
def rateKey (gstPct : Decimal) : Bool × Decimal := (gstPct < 0, r6 |gstPct|)

def GstBreakupRow.opened (gstPct : Decimal) : GstBreakupRow := ⟨gstPct, 0, 0, 0, 0, 0, 0⟩

def GstBreakupRow.add (row : GstBreakupRow) (piece : GstPiece) : GstBreakupRow :=
  { row with
    taxable := row.taxable + piece.taxable
    cgst := row.cgst + piece.cgst
    sgst := row.sgst + piece.sgst
    igst := row.igst + piece.igst
    cess := row.cess + D piece.cess }

def addPiece (rows : OrderedMap (Bool × Decimal) GstBreakupRow) (piece : GstPiece) :
    OrderedMap (Bool × Decimal) GstBreakupRow :=
  rows.set (rateKey piece.gstPct)
    (((rows.get? (rateKey piece.gstPct)).getD (.opened piece.gstPct)).add piece)

def GstBreakupRow.totalled (row : GstBreakupRow) : GstBreakupRow :=
  { row with total := row.taxable + row.cgst + row.sgst + row.igst + row.cess }

/-- A rate with nothing on it. -/
def GstBreakupRow.isEmpty (row : GstBreakupRow) : Bool :=
  row.taxable = 0 && row.cgst = 0 && row.sgst = 0 && row.igst = 0 && row.cess = 0

/-- Grouped by rate, ascending; a rate with nothing on it is dropped. -/
def gstBreakup (pieces : List GstPiece) : List GstBreakupRow :=
  (((pieces.foldl addPiece .empty).values.map GstBreakupRow.totalled).filter
    (!·.isEmpty)).insertionSort fun left right => left.gstPct ≤ right.gstPct

/-! ## Nothing is lost -/

section Grouped

variable {figure : GstBreakupRow → Decimal} {value : GstPiece → Decimal}

/-- A figure of a row that every piece adds its own value to, and nothing else. -/
structure Adds (figure : GstBreakupRow → Decimal) (value : GstPiece → Decimal) : Prop where
  opened : ∀ gstPct, figure (.opened gstPct) = 0
  add : ∀ row piece, figure (row.add piece) = figure row + value piece
  totalled : ∀ row, figure row.totalled = figure row
  empty : ∀ row, row.isEmpty = true → figure row = 0

theorem sum_grouped (adds : Adds figure value) (pieces : List GstPiece) :
    (((pieces.foldl addPiece .empty).entries).map fun entry => figure entry.2).sum =
      (pieces.map value).sum := by
  induction pieces using List.reverseRecOn with
  | nil => rfl
  | append_singleton rest piece ih =>
      have grown := OrderedMap.sum_set (fun _ row => figure row) (rest.foldl addPiece .empty)
        (rateKey piece.gstPct)
        ((((rest.foldl addPiece .empty).get? (rateKey piece.gstPct)).getD
          (.opened piece.gstPct)).add piece) (value piece) (by
            cases (rest.foldl addPiece .empty).get? (rateKey piece.gstPct) with
            | none => rw [Option.getD_none, adds.add, adds.opened]; rfl
            | some row => rw [Option.getD_some, adds.add]; rfl)
      rw [List.foldl_append, List.foldl_cons, List.foldl_nil, addPiece, grown, ih,
        List.map_append, List.sum_append, List.map_singleton, List.sum_singleton]

/-- The rows of the breakup come to what the pieces come to. -/
theorem sum_gstBreakup (adds : Adds figure value) (pieces : List GstPiece) :
    ((gstBreakup pieces).map figure).sum = (pieces.map value).sum := by
  rw [gstBreakup, ((List.perm_insertionSort _ _).map figure).sum_eq, ListSum.sum_filter_of_zero,
    List.map_map, OrderedMap.values, List.map_map, ← sum_grouped adds pieces]
  · congr 1
    apply List.map_congr_left
    intro entry _
    exact adds.totalled entry.2
  · intro row _ dropped
    apply adds.empty
    simpa using dropped

end Grouped

/-! ## One row a rate -/

theorem keyed_grouped (pieces : List GstPiece) :
    (pieces.foldl addPiece .empty).keys.Nodup ∧
      ∀ entry ∈ (pieces.foldl addPiece .empty).entries, rateKey entry.2.gstPct = entry.1 := by
  induction pieces using List.reverseRecOn with
  | nil => exact ⟨List.nodup_nil, fun entry member => absurd member List.not_mem_nil⟩
  | append_singleton rest piece ih =>
      rw [List.foldl_append, List.foldl_cons, List.foldl_nil, addPiece]
      constructor
      · exact OrderedMap.keys_set_nodup ih.1 _ _
      · intro entry member
        cases OrderedMap.mem_entries_set member with
        | inr old => exact ih.2 entry old
        | inl new =>
            rw [new]
            cases held : (rest.foldl addPiece .empty).get? (rateKey piece.gstPct) with
            | none => rfl
            | some row => exact ih.2 (rateKey piece.gstPct, row) (OrderedMap.mem_of_get? held)

/-- The rates ascend, each once. -/
theorem gstBreakup_ascends (pieces : List GstPiece) :
    (gstBreakup pieces).Pairwise fun left right => left.gstPct < right.gstPct := by
  obtain ⟨nodup, keyed⟩ := keyed_grouped pieces
  have distinct : ((pieces.foldl addPiece .empty).values.map fun row => row.gstPct).Nodup := by
    apply List.Nodup.of_map rateKey
    have keys : ((pieces.foldl addPiece .empty).values.map fun row => row.gstPct).map rateKey =
        (pieces.foldl addPiece .empty).keys := by
      rw [OrderedMap.values, List.map_map, List.map_map]
      exact List.map_congr_left keyed
    rw [keys]
    exact nodup
  have apart : (gstBreakup pieces).Pairwise fun left right => left.gstPct ≠ right.gstPct := by
    apply List.pairwise_map.mp
    apply (((List.perm_insertionSort _ _).map fun row : GstBreakupRow => row.gstPct).nodup_iff).mpr
    apply List.Nodup.sublist (List.filter_sublist.map _)
    rw [List.map_map]
    exact distinct
  have sorted : (gstBreakup pieces).Pairwise fun left right => left.gstPct ≤ right.gstPct :=
    List.pairwise_insertionSort _ _
  exact (sorted.and apart).imp fun both => lt_of_le_of_ne both.1 both.2

/-! ## The bill -/

/-- The charges of a bill, each with what became of it. -/
theorem charges_zipIdx {M : Type} (input : CalcIn) (image : CalcChargeOut → CalcChargeIn → List M) :
    ((chargesOut input).zipIdx.flatMap fun entry =>
      match input.charges[entry.2]? with
      | none => []
      | some charge => image entry.1 charge) =
      input.charges.flatMap fun charge =>
        image (chargeOut input (baseLines input) charge) charge := by
  unfold chargesOut
  rw [List.zipIdx_map, List.flatMap_map, List.flatMap_def]
  have each : ∀ entry ∈ input.charges.zipIdx,
      (match input.charges[(Prod.map (chargeOut input (baseLines input)) id entry).2]? with
        | none => []
        | some charge => image (Prod.map (chargeOut input (baseLines input)) id entry).1 charge) =
        image (chargeOut input (baseLines input) entry.1) entry.1 := by
    intro entry member
    have found := List.mem_zipIdx_iff_getElem?.mp member
    simp only [Prod.map_snd, Prod.map_fst, id_eq, found]
  rw [List.map_congr_left each, List.flatMap_def]
  congr 1
  conv_rhs => rw [← List.zipIdx_map_fst 0 input.charges, List.map_map]
  rfl

/-- A charge without its own GST has no tax. -/
theorem tax_of_not_carriesGst {input : CalcIn} {charge : CalcChargeIn}
    (untaxed : carriesGst input.supplierTaxMode charge = false) :
    (chargeOut input (baseLines input) charge).tax = ⟨0, 0, 0⟩ := by
  unfold chargeOut
  apply if_neg
  intro taxed
  unfold carriesGst at untaxed
  cases onBill : charge.onBill <;> cases before : charge.beforeTax <;>
    cases noTax : noTaxSupplier input.supplierTaxMode <;> simp_all

/-- What the pieces of a bill come to: its lines, and its taxed charges. -/
theorem sum_pieces (input : CalcIn) (value : GstPiece → Decimal) :
    ((calcGstPieces input (calcPurchase input)).map value).sum =
      (sumLines input fun line => value ⟨line.gstPct, line.taxable, line.tax.cgst, line.tax.sgst,
        line.tax.igst, some line.cess⟩) +
      (input.charges.map fun charge =>
        if carriesGst input.supplierTaxMode charge then
          value ⟨D charge.taxPct, (chargeOut input (baseLines input) charge).amount,
            (chargeOut input (baseLines input) charge).tax.cgst,
            (chargeOut input (baseLines input) charge).tax.sgst,
            (chargeOut input (baseLines input) charge).tax.igst, some 0⟩
        else 0).sum := by
  have charges := charges_zipIdx input fun out charge =>
    if carriesGst input.supplierTaxMode charge then
      [(⟨D charge.taxPct, out.amount, out.tax.cgst, out.tax.sgst, out.tax.igst, some 0⟩ :
        GstPiece)]
    else []
  rw [calcGstPieces, List.map_append, List.sum_append, List.map_map]
  congr 1
  change ((List.flatMap _ (chargesOut input).zipIdx).map value).sum = _
  rw [charges, List.map_flatMap, List.flatMap_def, List.sum_flatten, List.map_map]
  congr 1
  apply List.map_congr_left
  intro charge _
  rw [Function.comp_apply]
  split
  · rw [List.map_singleton, List.sum_singleton]
  · rfl

/-- The tax the charges carry is all on those with their own GST. -/
theorem sum_charge_tax (input : CalcIn) {head : Gst → Decimal} (none : head ⟨0, 0, 0⟩ = 0) :
    (input.charges.map fun charge =>
      if carriesGst input.supplierTaxMode charge then
        head (chargeOut input (baseLines input) charge).tax
      else 0).sum = ((calcPurchase input).charges.map fun charge => head charge.tax).sum := by
  change _ = ((input.charges.map (chargeOut input (baseLines input))).map _).sum
  rw [List.map_map]
  congr 1
  apply List.map_congr_left
  intro charge _
  split
  · rfl
  · rename_i untaxed
    rw [Function.comp_apply, tax_of_not_carriesGst (Bool.eq_false_of_not_eq_true untaxed), none]

/-- The rows of a breakup reproduce a bill: its rates, each once and ascending, its taxable
value with the charges that are taxed, and the tax of its lines and charges head by head. -/
structure ReproducesBill (input : CalcIn) (out : CalcOut) (rows : List GstBreakupRow) : Prop where
  rates : rows.Pairwise fun left right => left.gstPct < right.gstPct
  taxable : (rows.map GstBreakupRow.taxable).sum =
    out.taxable + chargesWhere (carriesGst input.supplierTaxMode) input
  cgst : (rows.map GstBreakupRow.cgst).sum =
    out.tax.cgst + (out.charges.map fun charge => charge.tax.cgst).sum
  sgst : (rows.map GstBreakupRow.sgst).sum =
    out.tax.sgst + (out.charges.map fun charge => charge.tax.sgst).sum
  igst : (rows.map GstBreakupRow.igst).sum =
    out.tax.igst + (out.charges.map fun charge => charge.tax.igst).sum
  cess : (rows.map GstBreakupRow.cess).sum = out.cess
  tax : (rows.map fun row => row.cgst + row.sgst + row.igst).sum = out.tax.total + out.chargeTax
  total : ∀ row ∈ rows, row.total = row.taxable + row.cgst + row.sgst + row.igst + row.cess

theorem gstBreakup_reproduces (input : CalcIn) :
    ReproducesBill input (calcPurchase input)
      (gstBreakup (calcGstPieces input (calcPurchase input))) := by
  have emptied {row : GstBreakupRow} (empty : row.isEmpty = true) :
      row.taxable = 0 ∧ row.cgst = 0 ∧ row.sgst = 0 ∧ row.igst = 0 ∧ row.cess = 0 := by
    simpa [GstBreakupRow.isEmpty, and_assoc] using empty
  have taxable : Adds GstBreakupRow.taxable GstPiece.taxable :=
    ⟨fun _ => rfl, fun _ _ => rfl, fun _ => rfl, fun _ empty => (emptied empty).1⟩
  have cgst : Adds GstBreakupRow.cgst GstPiece.cgst :=
    ⟨fun _ => rfl, fun _ _ => rfl, fun _ => rfl, fun _ empty => (emptied empty).2.1⟩
  have sgst : Adds GstBreakupRow.sgst GstPiece.sgst :=
    ⟨fun _ => rfl, fun _ _ => rfl, fun _ => rfl, fun _ empty => (emptied empty).2.2.1⟩
  have igst : Adds GstBreakupRow.igst GstPiece.igst :=
    ⟨fun _ => rfl, fun _ _ => rfl, fun _ => rfl, fun _ empty => (emptied empty).2.2.2.1⟩
  have cess : Adds GstBreakupRow.cess fun piece => D piece.cess :=
    ⟨fun _ => rfl, fun _ _ => rfl, fun _ => rfl, fun _ empty => (emptied empty).2.2.2.2⟩
  have cgstSum : ((gstBreakup (calcGstPieces input (calcPurchase input))).map
      GstBreakupRow.cgst).sum = (calcPurchase input).tax.cgst +
        ((calcPurchase input).charges.map fun charge => charge.tax.cgst).sum := by
    rw [sum_gstBreakup cgst, sum_pieces, @sum_charge_tax input Gst.cgst rfl]
    rfl
  have sgstSum : ((gstBreakup (calcGstPieces input (calcPurchase input))).map
      GstBreakupRow.sgst).sum = (calcPurchase input).tax.sgst +
        ((calcPurchase input).charges.map fun charge => charge.tax.sgst).sum := by
    rw [sum_gstBreakup sgst, sum_pieces, @sum_charge_tax input Gst.sgst rfl]
    rfl
  have igstSum : ((gstBreakup (calcGstPieces input (calcPurchase input))).map
      GstBreakupRow.igst).sum = (calcPurchase input).tax.igst +
        ((calcPurchase input).charges.map fun charge => charge.tax.igst).sum := by
    rw [sum_gstBreakup igst, sum_pieces, @sum_charge_tax input Gst.igst rfl]
    rfl
  constructor
  · exact gstBreakup_ascends _
  · rw [sum_gstBreakup taxable, sum_pieces, chargesWhere_eq]
    rfl
  · exact cgstSum
  · exact sgstSum
  · exact igstSum
  · rw [sum_gstBreakup cess, sum_pieces]
    simp [calcPurchase]
  · have charges : (calcPurchase input).chargeTax =
        ((calcPurchase input).charges.map fun charge => charge.tax.cgst).sum +
          ((calcPurchase input).charges.map fun charge => charge.tax.sgst).sum +
          ((calcPurchase input).charges.map fun charge => charge.tax.igst).sum := by
      change ((calcPurchase input).charges.map fun charge =>
        charge.tax.cgst + charge.tax.sgst + charge.tax.igst).sum = _
      rw [List.sum_map_add, List.sum_map_add]
    rw [List.sum_map_add, List.sum_map_add, cgstSum, sgstSum, igstSum, charges, Gst.total]
    ring
  · intro row member
    rw [gstBreakup, List.mem_insertionSort] at member
    obtain ⟨grouped, -, rfl⟩ := List.mem_map.mp (List.mem_filter.mp member).1
    rfl

end ErpServer.Purchase
