import Osfacts.Basic.Utf8
import Osfacts.Basic.Decimal
import Osfacts.Basic.Delimited
import Osfacts.Basic.FirstSeen
import Osfacts.Basic.KeyedSort
import Osfacts.Basic.Walk
import Osfacts.Basic.Grouped
import Osfacts.Rust.Text
import Osfacts.Json
import Osfacts.JsonTree
import Osfacts.Schema.Facet
import Osfacts.Schema.WriteJson
import Osfacts.Schema.Document
import Osfacts.UnixSocket
import Osfacts.Contract.UnixTable
import Osfacts.Cli.Args
import Osfacts.Linux.Os
import Osfacts.Linux.Readers
import Osfacts.Linux.CollectPids
import Osfacts.Linux.Snapshot
import Osfacts.Linux.Facets
import Osfacts.Client.Parse
import Osfacts.Contract.Rows
import Osfacts.Contract.RoundTrip
import Osfacts.Contract.Account
import Osfacts.Contract.Roots
import Osfacts.Client.Ask
import Osfacts.Contract.Scoping
import Osfacts.Contract.Independence
import Osfacts.Contract.Acceptance
import Osfacts.Cli.Lexopt
import Osfacts.Cli.Parse
import Osfacts.Main
import Osfacts.Linux.SocketHolders
import Osfacts.Client.ChildFailure
import Osfacts.Client.Occupancy
import Osfacts.Contract.Occupancy
import Osfacts.Contract.Asks
import Osfacts.Contract.Canonical
import Osfacts.Contract.PidSets
import Osfacts.Basic.FirstClaim
import Osfacts.Basic.Bytes
import Osfacts.Rust.Slice
import Osfacts.Pcblist
import Osfacts.Contract.PcblistTable
import Osfacts.Contract.PcblistSockets
import Osfacts.Darwin.Os
import Osfacts.Darwin.Listeners
import Osfacts.Contract.DarwinListeners
import Osfacts.Client.Identity
import Osfacts.Contract.Identity
import Osfacts.Contract.TcpTable
import Osfacts.Contract.Listeners
import Osfacts.Contract.Accepts
import Osfacts.Contract.BrokenWrite
import Osfacts.Contract.CutRows
import Osfacts.Contract.Truncation
import Osfacts.Basic.Breadth
import Osfacts.HostFacets
import Osfacts.Linux.Host
import Osfacts.Darwin.Readers
import Osfacts.Darwin.Snapshot
import Osfacts.Darwin.Host
import Osfacts.Contract.SharedRows
import Osfacts.Contract.Refusals
import Osfacts.Contract.VerbsApart
import Osfacts.Contract.ListenerUnion
import Osfacts.Contract.OneSocket
import Osfacts.Contract.Argv
import Osfacts.Contract.Subtree
import Osfacts.Contract.StatFields
import Osfacts.Contract.PcblistFrames
import Osfacts.Contract.PcblistRows
import Osfacts.Contract.PcblistDrift
import Osfacts.Client.Twins
import Osfacts.Contract.Twins
import Osfacts.Contract.Kinfo
import Osfacts.Basic.Rounding
import Osfacts.Contract.CoreTimes
import Osfacts.Contract.CpuBuckets
import Osfacts.Basic.Workers
import Osfacts.Linux.FdWalk
import Osfacts.Contract.FdWalk
import Osfacts.Contract.FirstWitness
import Osfacts.Contract.Faces
import Osfacts.Contract.Forest
import Osfacts.Contract.SameListeners
import Osfacts.Contract.StartOrder
import Osfacts.Rust.Checked
import Osfacts.Linux.Checked
import Osfacts.Contract.Numbers
import Osfacts.Basic.Restriction
import Osfacts.Contract.Survey
import Osfacts.Darwin.Facets
import Osfacts.Contract.DarwinSurvey
import Osfacts.Contract.DarwinAccount
import Osfacts.Contract.LinuxSurvey
import Osfacts.Contract.Parts
import Osfacts.Contract.LinuxOrder
import Osfacts.Contract.DarwinOrder
import Osfacts.Client.Verbs
import Osfacts.Platforms
import Osfacts.Contract.Verbs
import Osfacts.Contract.Supervisor
import Osfacts.Contract.Verdicts
import Osfacts.Contract.HostSurvey
import Osfacts.Contract.HostAccount
import Osfacts.Contract.HostVerdict
import Osfacts.Contract.HostCalls
import Osfacts.Contract.IdentityCalls
import Osfacts.Contract.CommandLine
import Osfacts.Contract.Endings
