import Possession.Json.Check
import Possession.Main
import Possession.Proofs.Base64
import Possession.Proofs.Outcome
import Possession.Proofs.Text.Utf8
import Possession.Store.Scripted
import Possession.Validation
import Possession.Proofs.Json.Number
import Possession.Proofs.Json.Text
import Possession.Proofs.Json.Record
import Possession.Proofs.Digest
import Possession.Proofs.Rsa.Signature
import Possession.Proofs.Token
import Possession.Proofs.Algorithm
import Possession.Proofs.Thumbprint
import Possession.Proofs.Validation.Acceptance
import Possession.Proofs.Validation.Minted
import Possession.Proofs.Validation.KeyBinding
import Possession.Proofs.Url.Scheme
import Possession.Proofs.Url.Authority
import Possession.Proofs.Url.File
import Possession.Proofs.Url.Reading
import Possession.Proofs.Url.Domain
import Possession.Proofs.Url.Host
import Possession.Proofs.Target.Cut
import Possession.Proofs.Target.Region
import Possession.Proofs.Target.BoundHost
import Possession.Proofs.Validation.Secrecy
import Possession.Proofs.Validation.KeyThumbprint
import Possession.Proofs.Association
import Possession.Proofs.Der
import Possession.Proofs.Device.Generation
import Possession.Proofs.Device.Inspection
import Possession.Proofs.Device.Lifecycle
import Possession.Proofs.Device.Readers
import Possession.Proofs.Device.Serialization
import Possession.Proofs.Device.Residue
import Possession.Proofs.Store.Agreement
import Possession.Proofs.Store.Interruption
import Possession.Proofs.Device.Usability
import Possession.Proofs.Device.Naming
import Possession.Proofs.Device.Overlap
import Possession.Proofs.Device.Delivery
import Possession.Proofs.Device.Footprint
import Possession.Proofs.Mint
import Possession.Proofs.Token.Canonicity
import Possession.Proofs.Json.Integer
import Possession.Proofs.Json.Skipping
import Possession.Proofs.Json.Unambiguous
import Possession.Proofs.Json.Recognition
import Possession.Proofs.Json.Rows
import Possession.Proofs.Json.Shapes
import Possession.Proofs.Json.Readers
import Possession.Proofs.Token.Grammar
import Possession.Proofs.Files.Beside
import Possession.Proofs.Store.Presence
import Possession.Proofs.Target.Decomposition
import Possession.Proofs.Store.Aliases
import Possession.Proofs.Store.Removal
import Possession.Proofs.Device.Signatures
import Possession.Proofs.Schemes
import Possession.Proofs.Confirmation
import Possession.Proofs.CommandLine.Arguments
import Possession.Proofs.CommandLine.Settings
import Possession.Proofs.Files.Links
import Possession.Proofs.Store.Confinement
import Possession.Proofs.Store.RoundTrip
