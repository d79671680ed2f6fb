import BrBox.Lib.LabelledRun
import BrBox.Lib.WhileLoop
import BrBox.Lib.LinkedHeap
import BrBox.Lib.CText
import BrBox.Lib.CxxText
import BrBox.Lib.DecimalText
import BrBox.Lib.Slots
import BrBox.Lib.DisplayModule
import BrBox.Lib.CopyTrace
import BrBox.Adav.GenericChain
import BrBox.Adav.LinkedChain
import BrBox.Adav.NetFraming
import BrBox.Adav.NodeStrings
import BrBox.Adav.NetServer
import BrBox.Adav.BusDescriptor
import BrBox.Adav.EthTable
import BrBox.Lib.PackedField
import BrBox.Adav.I2CTaos3414
import BrBox.Adav.ColourSettings
import BrBox.Adav.ClientInfo
import BrBox.Adav.RequestEntries
import BrBox.Adav.JsonChecker
import BrBox.Adav.JsonRpcProxy
import BrBox.Adav.RequestCopies
import BrBox.Adav.JsonRoots
import BrBox.Adav.JsonRpcClient
import BrBox.Adav.JsonRoundTrip
import BrBox.Adav.RpcMessages
import BrBox.Adav.RpcRouting
import BrBox.Adav.SubArguments
import BrBox.Adav.I2CBusAccess
import BrBox.Adav.I2CPcfLcd
import BrBox.Adav.I2CRemote
import BrBox.Adav.MwWidths
import BrBox.Adav.RpcPipeline
import BrBox.Adav.RpcInvariant
import BrBox.Adav.RpcAnswers
import BrBox.Adav.RpcConnections
import BrBox.Adav.TaskWorker
import BrBox.Adav.TaskWorkerIds
import BrBox.Adav.TaskWorkerReset
import BrBox.Adav.TaskWorkerResults
import BrBox.Adav.EvntMgr
import BrBox.Adav.EvntNotify
import BrBox.Adav.EvntLoop
import BrBox.Adav.EvntDelivery
import BrBox.Adav.Settings
import BrBox.Adav.SettingsCrash
import BrBox.Adav.SettingsStore
import BrBox.Adav.SettingsRetry
import BrBox.Adav.SettingsText
import BrBox.Adav.SettingsCorrupt
import BrBox.Adav.SerialPort
import BrBox.Adav.RuntimeMinCounter
import BrBox.Adav.CustomSignals
import BrBox.Raspi.Update
import BrBox.Raspi.UpdateSafety
import BrBox.Sysmgr.FmwVersion
import BrBox.Sysmgr.EventMonitor
import BrBox.Sysmgr.SysRpcTable
import BrBox.Sysmgr.SysRpcCopies
import BrBox.Sysmgr.TaskOutcome
import BrBox.Xmproxy.CmdTable
import BrBox.Xmproxy.XmppMgr
import BrBox.Xmproxy.AliasList
import BrBox.Xmproxy.AsyncTasks
import BrBox.Xmproxy.EventSubscr
import BrBox.Xmproxy.CmdDispatch
import BrBox.Xmproxy.CmdQueue
import BrBox.Xmproxy.CmdExpansion
import BrBox.Xmproxy.ArgAlias
import BrBox.Xmproxy.AdminAccess
import BrBox.Xmproxy.XmppSessions
import BrBox.Xmproxy.PingWatchdog
import BrBox.Kmods.KernelChain
import BrBox.Kmods.KernelChainRuns
import BrBox.Kmods.GenIntrDrv
import BrBox.Kmods.GenIntrDrvRuns
import BrBox.Dispsrv.DispScanner
import BrBox.Modbussrv.ModbusRpc
import BrBox.Bboxsms.SmsDeletion
import BrBox.Bboxsms.UssdDial
import BrBox.Hotwire.MediaPlay
import BrBox.Firmware.Attiny85Hid
import BrBox.Lib.ByteOrder
import BrBox.Mkimage.Image
import BrBox.Mkimage.RoundTrip
import BrBox.Lib.AccessTrace
import BrBox.Mkimage.Malformed
import BrBox.Lib.BlockRead
import BrBox.Mkimage.Compare
import BrBox.Mips.MipsUpdate
import BrBox.Lib.RunningMax
import BrBox.Smarteye.ImgIdentify
import BrBox.Settingslib.StoredSettings
import BrBox.Settingslib.FaithfulLib
import BrBox.Firmware.MicronucleusMain
import BrBox.Adav.I2CSsd1306
import BrBox.Onion.Dict
import BrBox.Kmods.UsbIssTransfer
