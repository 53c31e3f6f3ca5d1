import BluezSil.A2dpRequests
import BluezSil.A2dpStatus
import BluezSil.A2dpTransport
import BluezSil.AdapterDiscovery
import BluezSil.AdapterDiscoveryRuns
import BluezSil.AdapterMirror
import BluezSil.AdapterSettings
import BluezSil.AddressRanges
import BluezSil.AdvertisedProperties
import BluezSil.AdvertisementScan
import BluezSil.AdvertiserIds
import BluezSil.AvrcpBrowsePaths
import BluezSil.AvrcpConnection
import BluezSil.AvrcpPlayStatus
import BluezSil.AvrcpPlayerSettings
import BluezSil.AvrcpPlayers
import BluezSil.ByteAccess
import BluezSil.CalendarTime
import BluezSil.CallProgram
import BluezSil.CarriedFlag
import BluezSil.ChangeStream
import BluezSil.ConnectedUuids
import BluezSil.DecimalText
import BluezSil.DeviceAdvertData
import BluezSil.DeviceProperties
import BluezSil.DiscoveryCancel
import BluezSil.DiscoveryTimerRuns
import BluezSil.FirstMatch
import BluezSil.FollowedSet
import BluezSil.FtpTimes
import BluezSil.GattAddressCase
import BluezSil.GattAutoConnect
import BluezSil.GattConnectionRuns
import BluezSil.GattConnections
import BluezSil.GattDescriptorOwner
import BluezSil.GattFlags
import BluezSil.GattIds
import BluezSil.GattLocalAlignment
import BluezSil.GattLocalOperations
import BluezSil.GattLocalRegistration
import BluezSil.GattLocalServer
import BluezSil.GattLocalTeardown
import BluezSil.GattLocalValues
import BluezSil.GattMultiRead
import BluezSil.GattObjectPaths
import BluezSil.GattRemoteMirror
import BluezSil.GattRemoteServices
import BluezSil.GattServiceCache
import BluezSil.GattStoredObjects
import BluezSil.GattStoredPlaces
import BluezSil.HexText
import BluezSil.HfpConnection
import BluezSil.KeyedFold
import BluezSil.KeyedMap
import BluezSil.LeDeviceTables
import BluezSil.LeFilter
import BluezSil.LeFilterBounds
import BluezSil.LeFilterFullMask
import BluezSil.LeFilterMatch
import BluezSil.LeFilterRefusal
import BluezSil.LeRemovalReports
import BluezSil.LeScanViews
import BluezSil.LiveObjects
import BluezSil.MapMessages
import BluezSil.MapNotifications
import BluezSil.MarkedStream
import BluezSil.MeshBindKey
import BluezSil.MeshComposition
import BluezSil.MeshCompositionCodec
import BluezSil.MeshConfigClient
import BluezSil.MeshConfigCommands
import BluezSil.MeshConfigKeys
import BluezSil.MeshConfigNetwork
import BluezSil.MeshConfigRollback
import BluezSil.MeshConfigRuns
import BluezSil.MeshConfigStatus
import BluezSil.MeshKeyIndexes
import BluezSil.MeshKeyRefresh
import BluezSil.MeshKeyRefreshDistribution
import BluezSil.MeshKeyRefreshExpiry
import BluezSil.MeshKeyRefreshPhases
import BluezSil.MeshKeyRefreshRuns
import BluezSil.MeshNodeDeletion
import BluezSil.MeshOpcode
import BluezSil.MeshRequestTimer
import BluezSil.MeshUnicast
import BluezSil.MeshUuidText
import BluezSil.ObexFailedConnect
import BluezSil.ObexProfile
import BluezSil.ObexReportLog
import BluezSil.ObexSessionRemoval
import BluezSil.ObexSessions
import BluezSil.ObexTransfer
import BluezSil.ObexTransferEnds
import BluezSil.ObexTransferReports
import BluezSil.ObexTransferRuns
import BluezSil.ObexUpdateOrder
import BluezSil.OppConfirmation
import BluezSil.OppReceiveProgress
import BluezSil.OppUpdateLog
import BluezSil.OwnedObjects
import BluezSil.PairingAgent
import BluezSil.PairingAnswers
import BluezSil.PairingEntries
import BluezSil.PbapIsolation
import BluezSil.PbapOperations
import BluezSil.PbapStatusStream
import BluezSil.PositionAgreement
import BluezSil.ReportLog
import BluezSil.RequestLedger
import BluezSil.RequestLoop
import BluezSil.ScanFormat
import BluezSil.SilApi
import BluezSil.SilRouting
import BluezSil.SilService
import BluezSil.SilServiceRuns
import BluezSil.SppChannelIds
import BluezSil.SppChannelState
import BluezSil.SppChannels
import BluezSil.SppData
import BluezSil.TextSearch
import BluezSil.TimerTable
import BluezSil.TransitionRun
import BluezSil.UpdateHistory
