import ShopManager.Library.Transaction
import ShopManager.Library.Table
import ShopManager.Library.Execution
import ShopManager.Library.Rounding
import ShopManager.Library.ColumnWrite
import ShopManager.Basic
import ShopManager.Pay.Wallet.Model
import ShopManager.Pay.Wallet.Spec
import ShopManager.Pay.Wallet.Ledger
import ShopManager.Pay.Wallet.Interleaving
import ShopManager.Coupon.Model
import ShopManager.Pay.Coin
import ShopManager.Pay.Trade.Extras
import ShopManager.Pay.Trade.Model
import ShopManager.Pay.Trade.Spec
import ShopManager.Pay.Trade.Exclusion
import ShopManager.Pay.Trade.Charging
import ShopManager.Pay.Trade.Account
import ShopManager.Pay.Trade.FullPayment
import ShopManager.Pay.Trade.CoinOnce
import ShopManager.Pay.Trade.Overdraft
import ShopManager.Library.Aggregate
import ShopManager.Warehouse.Assign
import ShopManager.Coupon.Exchange.Overlap
import ShopManager.Coupon.Cancelled
import ShopManager.Coupon.ReturnRecords
import ShopManager.Library.Key
import ShopManager.Mama.Carry
import ShopManager.Mama.CarryWallet
import ShopManager.Pay.Envelop.Model
import ShopManager.Pay.Envelop.PaidOnce
import ShopManager.Pay.Cart.Coupons
import ShopManager.Pay.Cart.Creation
import ShopManager.Pay.Cart.OneTrade
import ShopManager.Pay.Cart.RealGoods
import ShopManager.Pay.Cart.Splitting
import ShopManager.Pay.Group.AllOrNothing
import ShopManager.Pay.Refund.PaidBack
import ShopManager.Pay.Refund.Shares
import ShopManager.Coupon.Transfer.Delivery
import ShopManager.Coupon.Transfer.Requests
import ShopManager.Library.Trail
import ShopManager.Library.Forest
import ShopManager.Mama.Referal.Forest
import ShopManager.Mama.Referal.Awards
import ShopManager.Mama.CashOut
import ShopManager.Coupon.Transfer.Concurrent
import ShopManager.Purchase.Inbound.Checked
import ShopManager.Purchase.Inbound.Proposed
import ShopManager.Purchase.Totals
import ShopManager.Pay.Order.Numbers
import ShopManager.Pay.Order.Signed
import ShopManager.Pay.Order.Units
import ShopManager.Mama.Earning.Drained
import ShopManager.Xiaolupay.Refund
import ShopManager.Xiaolupay.Notify
import ShopManager.Finance.Settled
import ShopManager.Outware.Delivery.Divided
import ShopManager.Outware.Delivery.Coded
import ShopManager.Outware.Delivery.Notified
import ShopManager.Outware.Inbound.Booked
import ShopManager.Outware.LifeCycle
import ShopManager.Pay.Reserved.Released
import ShopManager.Supplier.Paid
import ShopManager.Warehouse.FirstCome
import ShopManager.Warehouse.Deficit
import ShopManager.Warehouse.Shipping
import ShopManager.Forecast.Grouped
import ShopManager.Forecast.Merged
import ShopManager.Forecast.Split
import ShopManager.Purchase.StockFlow.Kept
import ShopManager.Refunds.Counted
import ShopManager.Purchase.Return.Undone
import ShopManager.Warehouse.Adjust.Reconciled
import ShopManager.Mama.Elite.Ledger
import ShopManager.Finance.Conserved
import ShopManager.Mama.Rank.Ranked
import ShopManager.Warehouse.Dispatch.Sent
import ShopManager.Mama.Fans.Bound
import ShopManager.Promotion.NineCards
import ShopManager.Trades.Closed
import ShopManager.OrmCache.Transparent
import ShopManager.Category.Moves
import ShopManager.Mama.Mission.Weeks
import ShopManager.Purchase.Batch
import ShopManager.Purchase.Inbound.Reduced
import ShopManager.Coupon.Transfer.Chain
import ShopManager.Mama.Rebeta
import ShopManager.Xiaolupay.Signature
import ShopManager.Promotion.Clearance
import ShopManager.Mama.Rank.Team
import ShopManager.Warehouse.Ended
