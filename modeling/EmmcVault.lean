import EmmcVault.Json.Parser
import EmmcVault.Main
import EmmcVault.Memory.Bench
import EmmcVault.Proofs.BkopsOnce
import EmmcVault.Proofs.Buffer
import EmmcVault.Proofs.Classification
import EmmcVault.Proofs.ConfiguredPaths
import EmmcVault.Proofs.DumpSections
import EmmcVault.Proofs.Effect
import EmmcVault.Proofs.Exclusion
import EmmcVault.Proofs.Footprint
import EmmcVault.Proofs.Handles
import EmmcVault.Proofs.History
import EmmcVault.Proofs.HostLog
import EmmcVault.Proofs.ImageFile
import EmmcVault.Proofs.InForce
import EmmcVault.Proofs.JsonText
import EmmcVault.Proofs.KeyDestruction
import EmmcVault.Proofs.KeySweep
import EmmcVault.Proofs.LeftBehind
import EmmcVault.Proofs.LockFiles
import EmmcVault.Proofs.LockRetry
import EmmcVault.Proofs.LockState
import EmmcVault.Proofs.Opening
import EmmcVault.Proofs.Overwrite
import EmmcVault.Proofs.PartialSettings
import EmmcVault.Proofs.PassphraseLines
import EmmcVault.Proofs.Passphrases
import EmmcVault.Proofs.PatternErase
import EmmcVault.Proofs.PatternReference
import EmmcVault.Proofs.RawDevice
import EmmcVault.Proofs.Recovery
import EmmcVault.Proofs.RetryBudget
import EmmcVault.Proofs.Rollback
import EmmcVault.Proofs.SandboxLocks
import EmmcVault.Proofs.SanitizeOnce
import EmmcVault.Proofs.SanitizePlan
import EmmcVault.Proofs.Scene
import EmmcVault.Proofs.Secrecy
import EmmcVault.Proofs.ServiceRuns
import EmmcVault.Proofs.StagedHeaders
import EmmcVault.Proofs.Utf8
import EmmcVault.Proofs.WriteOrder
import EmmcVault.Proofs.WrittenForms
import EmmcVault.Service.Claim
