import EnetTsn.Bmcs.AnnounceFlags
import EnetTsn.Bmcs.BuiltVectors
import EnetTsn.Bmcs.PerformLoop
import EnetTsn.Bmcs.SettingCalls
import EnetTsn.Bmcs.SlavePort
import EnetTsn.Bmcs.Stations
import EnetTsn.Clock.ActiveDomain
import EnetTsn.Clock.ClockRuns
import EnetTsn.Clock.GmRateRuns
import EnetTsn.Clock.MasterClock
import EnetTsn.Daemon.AsCapableRuns
import EnetTsn.Interval.CapableRuns
import EnetTsn.Interval.TickRuns
import EnetTsn.Md.SignalingRuns
import EnetTsn.Net.BufRing
import EnetTsn.Net.TimestampRuns
import EnetTsn.Netconf.EditConfigResults
import EnetTsn.Netconf.FrameSafety
import EnetTsn.Netconf.MessageBuffers
import EnetTsn.Netconf.PathSegments
import EnetTsn.Netconf.ReplyTemplate
import EnetTsn.Netconf.SubtreeArrays
import EnetTsn.Netconf.TreeInfoPaths
import EnetTsn.Netconf.ValueText
import EnetTsn.Netconf.XpathExpression
import EnetTsn.Pdelay.Capable
import EnetTsn.Pdelay.ExchangeRuns
import EnetTsn.Pdelay.FixedDelay
import EnetTsn.Pdelay.LostResponses
import EnetTsn.Pdelay.PdelayRespRuns
import EnetTsn.Pdelay.RateRatio
import EnetTsn.Perfmon.ReportedDelays
import EnetTsn.Sync.FollowUpInstant
import EnetTsn.Sync.FollowedSyncs
import EnetTsn.Sync.MasterSyncSend
import EnetTsn.Sync.ReceiveRuns
import EnetTsn.Sync.RelayedSends
import EnetTsn.Sync.SiteRuns
import EnetTsn.Timer.NearestTimeout
import EnetTsn.Unibase.AddressTexts
import EnetTsn.Unibase.CommandLine
import EnetTsn.Unibase.Esarray
import EnetTsn.Unibase.ListRuns
import EnetTsn.Unibase.OctetLists
import EnetTsn.Unibase.StaticMemRuns
import EnetTsn.Uniconf.Capabilities
import EnetTsn.Uniconf.CbsParameters
import EnetTsn.Uniconf.ConfReader
import EnetTsn.Uniconf.HeldItems
import EnetTsn.Uniconf.LeafLists
import EnetTsn.Uniconf.NameRegisterRuns
import EnetTsn.Uniconf.NoticeRuns
import EnetTsn.Uniconf.RangeRuns
import EnetTsn.Uniconf.RuntimeItemRuns
import EnetTsn.Uniconf.SavedContents
import EnetTsn.Uniconf.ValueDestination
import EnetTsn.Uniconf.ValueRoundTrip
import EnetTsn.Uniconf.WildcardPulls
import EnetTsn.Uniconf.YdbiRuns
