import TenantAuth.Settings
import TenantAuth.Totp.Memory
import TenantAuth.Mfa.Standard
import TenantAuth.Credential.Action
import TenantAuth.Credential.Json
import TenantAuth.SignIn.Request
import TenantAuth.SignIn.Directory
import TenantAuth.Mfa.Rehearsal
import TenantAuth.Schema
import TenantAuth.Stream.Payload
import TenantAuth.Stream.Rehearsal
import TenantAuth.Stream.Relay
import TenantAuth.Proofs.Mfa.Proving
import TenantAuth.Proofs.Mfa.Replay
import TenantAuth.Proofs.Credential.Arranged
import TenantAuth.Proofs.Credential.Drawing
import TenantAuth.Proofs.Credential.Messages
import TenantAuth.Proofs.Credential.RecoveryCodes
import TenantAuth.Proofs.Credential.Refusals
import TenantAuth.Proofs.Credential.Turnover
import TenantAuth.Proofs.Credential.Challenges
import TenantAuth.Proofs.Credential.WellFormed
import TenantAuth.Proofs.SignIn.Archive
import TenantAuth.Proofs.SignIn.Conduct
import TenantAuth.Proofs.SignIn.Issuance
import TenantAuth.Proofs.SignIn.Owners
import TenantAuth.Proofs.SignIn.Precedence
import TenantAuth.Proofs.SignIn.SecondFactor
import TenantAuth.Proofs.SignIn.Strangers
import TenantAuth.Proofs.Stream.AnyBatch
import TenantAuth.Proofs.Stream.NoLoss
import TenantAuth.Proofs.Stream.ExactlyOnce
import TenantAuth.Proofs.Stream.StoreOrder
import TenantAuth.Proofs.Stream.SeveralStores
import TenantAuth.Proofs.Mfa.Consuming
import TenantAuth.Proofs.Mfa.Recording
import TenantAuth.Proofs.Stream.Routing
import TenantAuth.Proofs.Stream.Subscriptions
import TenantAuth.Proofs.Credential.Enrolling
import TenantAuth.Proofs.SignIn.Spelling
import TenantAuth.Proofs.Mfa.Deciding
import TenantAuth.Proofs.SignIn.Resetting
import TenantAuth.Proofs.Settings.Leaves
import TenantAuth.Proofs.Cipher.AtRest
import TenantAuth.Proofs.Credential.Vouching
import TenantAuth.Proofs.Credential.Persisted
import TenantAuth.Proofs.Mfa.Remembering
