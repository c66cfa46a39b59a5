import ErpServer.Receipt.SelfCheck
import ErpServer.Receipt.Mirror
import ErpServer.BillBalance.OverSettlement
import ErpServer.Sales.Carried
import ErpServer.Sales.ChargeRecovery
import ErpServer.Loyalty.Interleavings
import ErpServer.Print.PageTotals
import ErpServer.Print.GroupTotals
import ErpServer.Sequence.Issued
import ErpServer.Till.SafeCounts
import ErpServer.Till.DrawerCounts
import ErpServer.Sales.SourceFulfilment
import ErpServer.Till.SessionCash
import ErpServer.Sales.PromotionTally
import ErpServer.Till.CountConserved
import ErpServer.Till.DayClosed
import ErpServer.Sales.PdcRegistered
import ErpServer.Cheques.ChequePlaced
import ErpServer.Stock.LotsOpened
import ErpServer.Stock.ReservedFigure
import ErpServer.Loyalty.Quotes
import ErpServer.Loyalty.LineSnapshots
import ErpServer.Stock.PickDocument
import ErpServer.Stock.RevaluedStock
import ErpServer.Posting.MoneyLinesCovered
import ErpServer.Purchase.GstBreakup
import ErpServer.Purchase.SpreadShares
import ErpServer.Purchase.CreditPartition
import ErpServer.Receipt.ProRata
import ErpServer.Expense.Balanced
import ErpServer.Vouchers.Billwise
import ErpServer.Vouchers.TdsAgree
import ErpServer.Vouchers.Balanced
import ErpServer.Print.CrosstabSplit
import ErpServer.Print.AmountRead
import ErpServer.Settlement.Matched
import ErpServer.Settlement.DatesRead
import ErpServer.Settlement.Statement
import ErpServer.Print.SqlBound
import ErpServer.Print.FiguresBack
import ErpServer.Vouchers.LeavesPromised
import ErpServer.Posting.TrialBalance
import ErpServer.BillBalance.RowsAlone
