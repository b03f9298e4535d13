import ObjectVault.Action
import ObjectVault.Backend
import ObjectVault.BlobKey
import ObjectVault.Bytes
import ObjectVault.Category
import ObjectVault.Command.Arguments
import ObjectVault.Command.Run
import ObjectVault.Config
import ObjectVault.Crypto.Aead
import ObjectVault.Crypto.ChaCha20
import ObjectVault.Crypto.Hmac
import ObjectVault.Crypto.Poly1305
import ObjectVault.Crypto.Sha512
import ObjectVault.Disk
import ObjectVault.Disk.Content
import ObjectVault.Disk.FileError
import ObjectVault.Disk.Image
import ObjectVault.Disk.Path
import ObjectVault.Engine
import ObjectVault.Engine.Fault
import ObjectVault.Engine.Files
import ObjectVault.Engine.Scripted
import ObjectVault.Envelope
import ObjectVault.Error
import ObjectVault.Event
import ObjectVault.Hex
import ObjectVault.Location
import ObjectVault.Log
import ObjectVault.Metadata
import ObjectVault.Object
import ObjectVault.Recovery
import ObjectVault.SealingKey
import ObjectVault.Session
import ObjectVault.SortedMap
import ObjectVault.Suite
import ObjectVault.Text.Blank
import ObjectVault.Text.Decimal
import ObjectVault.Text.Inspect
import ObjectVault.Text.Quoted
import ObjectVault.Text.Unprinted
import ObjectVault.Text.Utf8
import ObjectVault.Vault
import ObjectVault.Workbench.Bench
import ObjectVault.Workbench.Step
import ObjectVault.Workbench.Tampering
import ObjectVault.Main
import ObjectVault.Proofs.BlobKey
import ObjectVault.Proofs.Decimal
import ObjectVault.Proofs.Action
import ObjectVault.Proofs.Conduct.Metadata
import ObjectVault.Proofs.Conduct.Session
import ObjectVault.Proofs.Conduct.Vault
import ObjectVault.Proofs.Adversity
import ObjectVault.Proofs.Lifetime
import ObjectVault.Proofs.Soundness
import ObjectVault.Proofs.Coherence
import ObjectVault.Proofs.Reachable
import ObjectVault.Proofs.Handles
import ObjectVault.Proofs.Plain
import ObjectVault.Proofs.Refinement
import ObjectVault.Proofs.Absence
import ObjectVault.Proofs.Conduct.Recovery
import ObjectVault.Proofs.Disk
import ObjectVault.Proofs.Quarantine
import ObjectVault.Proofs.Conservation
import ObjectVault.Proofs.Recovery
import ObjectVault.Proofs.Journal
import ObjectVault.Proofs.Escalation
import ObjectVault.Proofs.Provision
import ObjectVault.Proofs.Recreation
import ObjectVault.Proofs.Failure
import ObjectVault.Proofs.Sight
import ObjectVault.Proofs.Interruption
import ObjectVault.Proofs.Repetition
import ObjectVault.Proofs.Causes
import ObjectVault.Proofs.Alike
import ObjectVault.Proofs.Secrets
import ObjectVault.Proofs.Secrecy
import ObjectVault.Proofs.Hex
import ObjectVault.Proofs.Resting
import ObjectVault.Proofs.Shelf
import ObjectVault.Proofs.Serving
import ObjectVault.Proofs.Commands
import ObjectVault.Proofs.Verdict
import ObjectVault.Proofs.Isolation
import ObjectVault.Proofs.Initialization
import ObjectVault.Proofs.Frame
import ObjectVault.Proofs.KeyGrammar
import ObjectVault.Proofs.Loading
import ObjectVault.Proofs.Accounting
import ObjectVault.Proofs.AllOrNothing
import ObjectVault.Proofs.Opening
import ObjectVault.Proofs.Removal
import ObjectVault.Proofs.Padding
import ObjectVault.Proofs.Nonces
import ObjectVault.Proofs.Lossy
import ObjectVault.Proofs.Allocation
