import CislunarDtn.StorageKeys
import CislunarDtn.NodeCustody
import CislunarDtn.NodeAdmission
import CislunarDtn.NodeReception
import CislunarDtn.NodeRelays
import CislunarDtn.NodePings
import CislunarDtn.NodeHealthChecks
import CislunarDtn.RateLimiters
import CislunarDtn.NodeRateLimits
import CislunarDtn.RadioCustody
import CislunarDtn.KissStreams
import CislunarDtn.PlanValidity
import CislunarDtn.PlanPredictions
import CislunarDtn.KissSegments
import CislunarDtn.Tnc4Frames
import CislunarDtn.BundleCodecs
import CislunarDtn.RadioReceptions
import CislunarDtn.NvmStorage
import CislunarDtn.HdtnContacts
import CislunarDtn.HdtnLifecycles
import CislunarDtn.HdtnGenerations
import CislunarDtn.HdtnExitChannels
import CislunarDtn.HdtnExits
import CislunarDtn.HdtnStops
import CislunarDtn.HdtnPlans
import CislunarDtn.PowerModes
import CislunarDtn.IonContactPlans
import CislunarDtn.IonDuplicates
import CislunarDtn.ListeningSides
import CislunarDtn.IonDeployments
import CislunarDtn.IonReconfigurations
import CislunarDtn.IonRemovals
import CislunarDtn.NumberedTexts
import CislunarDtn.LinkIdentifiers
import CislunarDtn.ManagementApis
import CislunarDtn.LifecycleRequests
import CislunarDtn.ActiveAdapters
import CislunarDtn.ConfigurationRoutes
import CislunarDtn.BlockLayouts
import CislunarDtn.HardyDocuments
import CislunarDtn.HardyReadings
import CislunarDtn.BundleLifetimes
import CislunarDtn.PlanLookups
import CislunarDtn.RankedPrefixes
import CislunarDtn.EvictionRanks
import CislunarDtn.EvictionLaws
import CislunarDtn.NodeTransmissions
import CislunarDtn.CapabilityChecks
import CislunarDtn.Utf8Slices
import CislunarDtn.TelemetryPreviews
import CislunarDtn.BpstatsFormats
import CislunarDtn.LtpinfoLines
import CislunarDtn.PassWindows
import CislunarDtn.DroppingChannels
import CislunarDtn.TncChannels
import CislunarDtn.Tnc4Reads
import CislunarDtn.BpskLoopbacks
import CislunarDtn.SpiBuffers
import CislunarDtn.ConfigurationErrors
import CislunarDtn.BuiltInServiceKeys
import CislunarDtn.FilledDefaults
import CislunarDtn.TcpListeners
import CislunarDtn.CheckRegisters
import CislunarDtn.NvmReads
import CislunarDtn.NodeNetworks
import CislunarDtn.SerialLinks
import CislunarDtn.SBandSessions
import CislunarDtn.SessionTables
import CislunarDtn.Tnc4Links
import CislunarDtn.CreatedBundles
import CislunarDtn.InteropNetworks
import CislunarDtn.IonRuns
import CislunarDtn.EventStreams
import CislunarDtn.HardyAnswers
import CislunarDtn.PlanTimetables
import CislunarDtn.RunningNodes
import CislunarDtn.ServedNodes
