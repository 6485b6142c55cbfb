import AgenId.Core.Canonical
import AgenId.Core.RevocationOrder
import AgenId.Core.OperatorState
import AgenId.Core.Encoding
import AgenId.Registry.KeyResolution
import AgenId.Registry.Recovery
import AgenId.Registry.Levels
import AgenId.Registry.WriteOnce
import AgenId.Core.Signed
import AgenId.Registry.SigningInput
import AgenId.Registry.Republication
import AgenId.Web.Freshness
import AgenId.Web.DirectoryHistory
import AgenId.Web.DirectoryRace
import AgenId.Web.RateCounters
import AgenId.Web.Degraded
import AgenId.Web.Surfaces
import AgenId.Web.Issuance
import AgenId.Core.JsonTextLayer
import AgenId.Web.KeysSchema
import AgenId.Core.AssertionSubject
import AgenId.Registry.ClockPolicy
import AgenId.Web.RetellBind
import AgenId.Registry.Listing
import AgenId.Web.Delisting
import AgenId.Web.AdvertisedLimits
import AgenId.Web.ClientAddress
import AgenId.Web.KeysFile
import AgenId.Core.Ulid
import AgenId.Core.KeyReferences
import AgenId.Core.NumberCheck
import AgenId.Core.Resigned
import AgenId.Web.LiteralSummary
import AgenId.Web.Authenticity
import AgenId.Web.AuthoredDecision
import AgenId.Registry.Ledger
import AgenId.Core.PermissionTime
import AgenId.Web.FleetIssuance
import AgenId.Web.Consenting
import AgenId.Registry.Refinement
import AgenId.Registry.Issuing
import AgenId.Registry.DatabaseReads
import AgenId.Core.Fitting
import AgenId.Core.KeyMaterial
import AgenId.Ecma.JsonFile
import AgenId.Operator.Cli
import AgenId.Operator.OperatorKey
import AgenId.Operator.CliInit
import AgenId.Operator.DnsToken
import AgenId.Operator.RetellManifest
