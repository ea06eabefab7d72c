import Kurbu5Pkinit.Library.Fallible
import Kurbu5Pkinit.Library.Codecs
import Kurbu5Pkinit.Library.DerLength
import Kurbu5Pkinit.Library.LengthField
import Kurbu5Pkinit.Library.Runs
import Kurbu5Pkinit.Asn1
import Kurbu5Pkinit.Constants
import Kurbu5Pkinit.Error
import Kurbu5Pkinit.Config
import Kurbu5Pkinit.Platform
import Kurbu5Pkinit.KemTypes
import Kurbu5Pkinit.Crypto.Checksum
import Kurbu5Pkinit.Crypto.Cms
import Kurbu5Pkinit.Crypto.Dh
import Kurbu5Pkinit.Crypto.Kem
import Kurbu5Pkinit.Crypto.Kdf
import Kurbu5Pkinit.Certauth
import Kurbu5Pkinit.Reference.Der
import Kurbu5Pkinit.Reference.Synta
import Kurbu5Pkinit.Reference.Provider
import Kurbu5Pkinit.Reference.Exchange
import Kurbu5Pkinit.Crypto.CmsSoundness
import Kurbu5Pkinit.TrustStore
import Kurbu5Pkinit.Identity
import Kurbu5Pkinit.CertificateUri
import Kurbu5Pkinit.Library.Text
import Kurbu5Pkinit.Library.Glob
import Kurbu5Pkinit.Matching
import Kurbu5Pkinit.Server
import Kurbu5Pkinit.Plugin.Kdc
import Kurbu5Pkinit.Plugin.KdcSoundness
import Kurbu5Pkinit.Client.State
import Kurbu5Pkinit.Client.Exchange
import Kurbu5Pkinit.Client.Outcomes
import Kurbu5Pkinit.Client.KdcAuthentication
import Kurbu5Pkinit.Client.Calls
import Kurbu5Pkinit.Client.Policy
import Kurbu5Pkinit.Client.KeyMatching
import Kurbu5Pkinit.Brokerd.Store
import Kurbu5Pkinit.Plugin.Profile
import Kurbu5Pkinit.TrustProto
import Kurbu5Pkinit.Plugin.Client
import Kurbu5Pkinit.Plugin.Calls
import Kurbu5Pkinit.Plugin.ClientOutcomes
import Kurbu5Pkinit.Crypto.CmsRoundTrip
import Kurbu5Pkinit.Crypto.Establishment
import Kurbu5Pkinit.Verification
import Kurbu5Pkinit.Laws
import Kurbu5Pkinit.Reference.Client
import Kurbu5Pkinit.Reference.Laws
import Kurbu5Pkinit.Agreement
import Kurbu5Pkinit.Reference.Plugin
import Kurbu5Pkinit.Plugin.ClientParty
import Kurbu5Pkinit.Reference.Broker
import Kurbu5Pkinit.Brokerd.Provenance
import Kurbu5Pkinit.Brokerd.Reopen
import Kurbu5Pkinit.Brokerd.Pinning
import Kurbu5Pkinit.Negotiation
import Kurbu5Pkinit.Reference.Kdc
import Kurbu5Pkinit.Acceptance
import Kurbu5Pkinit.Retry
import Kurbu5Pkinit.Crypto.Envelopes
import Kurbu5Pkinit.Framing
import Kurbu5Pkinit.Reference.Crl
import Kurbu5Pkinit.Revocation
import Kurbu5Pkinit.Client.Revocation
import Kurbu5Pkinit.Plugin.KdcReply
import Kurbu5Pkinit.KdfNegotiation
import Kurbu5Pkinit.Client.Commitment
import Kurbu5Pkinit.Reference.PostQuantum
import Kurbu5Pkinit.Library.First
import Kurbu5Pkinit.Client.Selection
import Kurbu5Pkinit.Client.MinimumGroup
import Kurbu5Pkinit.Library.Base64
import Kurbu5Pkinit.TrustCtl
import Kurbu5Pkinit.Brokerd.Publication
import Kurbu5Pkinit.Plugin.TrustSources
import Kurbu5Pkinit.Library.Sha1
import Kurbu5Pkinit.Crypto.LegacyKey
import Kurbu5Pkinit.BodyBinding
import Kurbu5Pkinit.Client.KemKeys
import Kurbu5Pkinit.Client.KdcName
import Kurbu5Pkinit.Library.Escaping
import Kurbu5Pkinit.BrokerRealm
import Kurbu5Pkinit.Library.Bits
import Kurbu5Pkinit.KeyPurpose
import Kurbu5Pkinit.Library.TopLevel
import Kurbu5Pkinit.MatchRule
import Kurbu5Pkinit.MatchSplitting
import Kurbu5Pkinit.MatchPrinting
import Kurbu5Pkinit.Plugin.Freshness
import Kurbu5Pkinit.Client.BrokerAnchors
import Kurbu5Pkinit.Plugin.Precedence
import Kurbu5Pkinit.Library.Service
import Kurbu5Pkinit.Brokerd.Service
import Kurbu5Pkinit.Plugin.KeyTrust
import Kurbu5Pkinit.Plugin.TrustOnFirstUse
import Kurbu5Pkinit.Brokerd.Crash
import Kurbu5Pkinit.Library.Beside
import Kurbu5Pkinit.Crypto.Provenance
import Kurbu5Pkinit.Plugin.KdcSessions
import Kurbu5Pkinit.Plugin.Network
