import SignerTrust.Bytes
import SignerTrust.Calendar
import SignerTrust.Canonical.Certificate
import SignerTrust.Canonical.Reader
import SignerTrust.Certificate.Basic
import SignerTrust.Certificate.Endpoints
import SignerTrust.Certificate.Extension
import SignerTrust.Certificate.GeneralName
import SignerTrust.Certificate.Name
import SignerTrust.Certificate.Text
import SignerTrust.Certificate.Time
import SignerTrust.Classification
import SignerTrust.Decimal.Binary64
import SignerTrust.Decimal.Shortest
import SignerTrust.Der.Element
import SignerTrust.Der.Grammar
import SignerTrust.Der.Reader
import SignerTrust.Digest
import SignerTrust.Digest.Md5
import SignerTrust.Digest.Padding
import SignerTrust.Digest.Sha1
import SignerTrust.Digest.Sha2
import SignerTrust.Ecosystem
import SignerTrust.Holder
import SignerTrust.Json.Basic
import SignerTrust.Json.Number
import SignerTrust.Json.Reader
import SignerTrust.Network.Client
import SignerTrust.Network.Directory
import SignerTrust.Network.DirectoryUrl
import SignerTrust.Network.Http
import SignerTrust.Network.Inquiry
import SignerTrust.Network.Ipv6
import SignerTrust.Network.Rehearsal
import SignerTrust.Network.Uri
import SignerTrust.Oid
import SignerTrust.Outcome
import SignerTrust.Outcome.Json
import SignerTrust.Path
import SignerTrust.Path.AltName
import SignerTrust.Path.Chain
import SignerTrust.Path.Conformance
import SignerTrust.Path.Fault
import SignerTrust.Path.Link
import SignerTrust.Path.Name
import SignerTrust.Path.NameMatch
import SignerTrust.Path.Profile
import SignerTrust.Proofs.Accepted
import SignerTrust.Proofs.ArmouredBlock
import SignerTrust.Proofs.AttributeOrder
import SignerTrust.Proofs.Authentic
import SignerTrust.Proofs.Body
import SignerTrust.Proofs.ByteNumber
import SignerTrust.Proofs.CanonicalReader
import SignerTrust.Proofs.CertificateField
import SignerTrust.Proofs.ChainSearch
import SignerTrust.Proofs.CharacterString
import SignerTrust.Proofs.ClassificationOrder
import SignerTrust.Proofs.Clients
import SignerTrust.Proofs.CorruptVerdict
import SignerTrust.Proofs.DecisionLaw
import SignerTrust.Proofs.DirectoryRead
import SignerTrust.Proofs.DistinctAnchors
import SignerTrust.Proofs.DistinguishedName
import SignerTrust.Proofs.DistributionPoint
import SignerTrust.Proofs.Element
import SignerTrust.Proofs.EntryLink
import SignerTrust.Proofs.FieldArc
import SignerTrust.Proofs.FirstEntry
import SignerTrust.Proofs.JsonGrammar
import SignerTrust.Proofs.JsonToken
import SignerTrust.Proofs.ListCheck
import SignerTrust.Proofs.ListResults
import SignerTrust.Proofs.Nonce
import SignerTrust.Proofs.ObjectId
import SignerTrust.Proofs.OptionalField
import SignerTrust.Proofs.Overlay
import SignerTrust.Proofs.PartialReads
import SignerTrust.Proofs.PathSoundness
import SignerTrust.Proofs.PercentEncoding
import SignerTrust.Proofs.PointOrder
import SignerTrust.Proofs.PointVisit
import SignerTrust.Proofs.QuestionOrder
import SignerTrust.Proofs.QuotedString
import SignerTrust.Proofs.ReadEncodings
import SignerTrust.Proofs.Reads
import SignerTrust.Proofs.ReceivedLists
import SignerTrust.Proofs.ReceivedReport
import SignerTrust.Proofs.ReceivedRequest
import SignerTrust.Proofs.RegistryAnchors
import SignerTrust.Proofs.RegistryTable
import SignerTrust.Proofs.RequestSize
import SignerTrust.Proofs.RequestedCertificate
import SignerTrust.Proofs.ResponderAnswer
import SignerTrust.Proofs.ResponderChoice
import SignerTrust.Proofs.ResponderReply
import SignerTrust.Proofs.RevocationWalk
import SignerTrust.Proofs.SettingEntries
import SignerTrust.Proofs.SettingField
import SignerTrust.Proofs.Settlement
import SignerTrust.Proofs.SignedPart
import SignerTrust.Proofs.StatusTable
import SignerTrust.Proofs.Transcript
import SignerTrust.Proofs.TreeView
import SignerTrust.Proofs.Utf8Text
import SignerTrust.Proofs.WideText
import SignerTrust.Proofs.WrappedText
import SignerTrust.Proofs.WrittenElement
import SignerTrust.Proofs.WrittenLine
import SignerTrust.Proofs.WrittenSettings
import SignerTrust.Proofs.WrittenTag
import SignerTrust.Proofs.WrittenValue
import SignerTrust.Revocation.List
import SignerTrust.Revocation.Walk
import SignerTrust.Settings.Basic
import SignerTrust.Settings.Document
import SignerTrust.Settings.Path
import SignerTrust.Settings.Record
import SignerTrust.Settings.Tree
import SignerTrust.Settings.Written
import SignerTrust.Signature
import SignerTrust.Signature.Curve
import SignerTrust.Signature.Ecdsa
import SignerTrust.Signature.Library
import SignerTrust.Signature.Modular
import SignerTrust.Signature.PublicKey
import SignerTrust.Signature.Reference
import SignerTrust.Signature.Rsa
import SignerTrust.Status.Check
import SignerTrust.Status.Interpretation
import SignerTrust.Status.Request
import SignerTrust.Status.Response
import SignerTrust.Text.Base64
import SignerTrust.Text.Infix
import SignerTrust.Text.Lower
import SignerTrust.Text.Utf8
import SignerTrust.Text.Wide
import SignerTrust.Toml.Lexical
import SignerTrust.Toml.Number
import SignerTrust.Toml.Reader
import SignerTrust.Toml.Value
import SignerTrust.Toml.Writer
import SignerTrust.TrustAnchor.Accredited
import SignerTrust.TrustAnchor.Armour
import SignerTrust.TrustAnchor.Basic
import SignerTrust.TrustAnchor.Registry
import SignerTrust.Validation
