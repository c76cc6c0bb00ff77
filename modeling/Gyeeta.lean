import Gyeeta.Alerts.Disable
import Gyeeta.Alerts.Dispatch
import Gyeeta.Alerts.MuteRange
import Gyeeta.Alerts.Realtime
import Gyeeta.Alerts.Remembered
import Gyeeta.Alerts.Rollback
import Gyeeta.Capture.Delivery
import Gyeeta.Capture.Detect
import Gyeeta.Capture.EthernetFrame
import Gyeeta.Capture.Expected
import Gyeeta.Capture.Fragment
import Gyeeta.Capture.HeldOrder
import Gyeeta.Capture.Invariance
import Gyeeta.Capture.Register
import Gyeeta.Comm.MaxSizes
import Gyeeta.Conn.Counters
import Gyeeta.Conn.Ownership
import Gyeeta.Conn.SendOrder
import Gyeeta.Filter.Compare
import Gyeeta.Filter.DbFilter
import Gyeeta.Filter.Populate
import Gyeeta.Hosts.ConnList
import Gyeeta.Hosts.Placement
import Gyeeta.Http.Headers
import Gyeeta.Http.Pairing
import Gyeeta.Misc.DataBatches
import Gyeeta.Misc.IovecCache
import Gyeeta.Misc.IpAddr
import Gyeeta.Misc.PktPool
import Gyeeta.Misc.PoolArray
import Gyeeta.Misc.ProcComm
import Gyeeta.Misc.Strings
import Gyeeta.Mongo.Cursors
import Gyeeta.Mongo.Tokens
import Gyeeta.Postgres.Rows
import Gyeeta.Postgres.Tokens
import Gyeeta.Stats.Histogram
import Gyeeta.Stats.PrioQueue
import Gyeeta.Sybase.Stmts
import Gyeeta.Sybase.Stream
import Gyeeta.Tran.Transfer
