import TiWlan.Lib.Run
import TiWlan.Lib.MachInt
import TiWlan.Lib.Memory
import TiWlan.Driver.Types
import TiWlan.Driver.Queues
import TiWlan.Driver.Power
import TiWlan.Driver.TxFrame
import TiWlan.Driver.TxWork
import TiWlan.Driver.TxStatus
import TiWlan.Driver.Links
import TiWlan.Driver.Irq
import TiWlan.Driver.Lifecycle
import TiWlan.Driver.Keys
import TiWlan.Driver.Keep
import TiWlan.Driver.Roles
import TiWlan.Driver.Wlcore
import TiWlan.Driver.Elp
import TiWlan.Driver.RemoveThread
import TiWlan.Keys.SpareBlocks
import TiWlan.Tx.Admission
import TiWlan.Power.IrqDepth
import TiWlan.Lib.Tally
import TiWlan.Tx.Atoms
import TiWlan.Tx.Keep
import TiWlan.Tx.Ledger
import TiWlan.Tx.Conservation
import TiWlan.Tx.Blocks
import TiWlan.Tx.AggrFormat
import TiWlan.Tx.Aggregation
import TiWlan.Link.Ownership
import TiWlan.Link.PktAccounting
import TiWlan.Tx.Dequeue
import TiWlan.Tx.Flow
import TiWlan.Tx.NoStall
import TiWlan.Tx.IdTable
import TiWlan.Keys.SeqFrame
import TiWlan.Keys.SeqNumbers
import TiWlan.Lib.Holding
import TiWlan.Link.Atoms
import TiWlan.Iface.Frame
import TiWlan.Iface.Operations
import TiWlan.Iface.Indices
import TiWlan.Iface.BlockAck
import TiWlan.Iface.Scan
import TiWlan.Iface.Roc
import TiWlan.Iface.Watchdog
import TiWlan.Iface.Links
import TiWlan.Power.Elp
import TiWlan.Iface.RemoveAwake
import TiWlan.Lib.Ring
import TiWlan.Driver.TxRings
import TiWlan.Tx.Rings
import TiWlan.Driver.Rx
import TiWlan.Rx.Batching
import TiWlan.Driver.FwLog
import TiWlan.Rx.LogStream
import TiWlan.Rx.PanicLog
import TiWlan.Keys.ApKeys
import TiWlan.Lib.Fallible
import TiWlan.Driver.Wow
import TiWlan.Power.WowFilters
import TiWlan.Lib.Bytes
import TiWlan.Nvs.File
import TiWlan.Nvs.Layout
import TiWlan.Nvs.Rewrite
import TiWlan.Lib.Reader
import TiWlan.Lib.CString
import TiWlan.Lib.Regex
import TiWlan.Wlconf.Table
import TiWlan.Wlconf.StructFile
import TiWlan.Wlconf.Elements
import TiWlan.Wlconf.TextFiles
import TiWlan.Wlconf.Main
import TiWlan.Wlconf.Layout
import TiWlan.Wlconf.ParseHeader
import TiWlan.Wlconf.Paths
import TiWlan.Wlconf.TextWrites
import TiWlan.Wlconf.Dump
import TiWlan.Wlconf.DumpImport
import TiWlan.Wlconf.Lookup
import TiWlan.Wlconf.Header
import TiWlan.Wlconf.Edits
import TiWlan.Wlconf.Defaults
import TiWlan.Wlconf.Checksum
import TiWlan.Wlconf.ConfValues
import TiWlan.Wlconf.IniLines
import TiWlan.Wlconf.Dictionary
import TiWlan.Driver.ScanParams
import TiWlan.Iface.ScanTables
import TiWlan.Driver.SchedScan
import TiWlan.Iface.SsidList
import TiWlan.Power.WowPatterns
import TiWlan.Lib.RoundRobin
import TiWlan.Tx.Requeue
import TiWlan.Tx.Fairness
import TiWlan.Iface.WorkConserving
import TiWlan.Tx.Turns
import TiWlan.Tx.Prepare
import TiWlan.Tx.BoundedWork
import TiWlan.Tx.Order
import TiWlan.Tx.VifLess
import TiWlan.Tx.Hysteresis
import TiWlan.Link.AcAccounting
import TiWlan.Lib.Status
import TiWlan.Driver.Io
import TiWlan.Driver.Boot
import TiWlan.Boot.Upload
import TiWlan.Boot.Windows
import TiWlan.Boot.Image
import TiWlan.Boot.NvsUpload
import TiWlan.Boot.ToolFile
import TiWlan.Lib.Tlv
import TiWlan.Driver.Templates
import TiWlan.Iface.ProbeResp
