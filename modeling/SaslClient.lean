import SaslClient.Attempt
import SaslClient.Clock.Timestamp
import SaslClient.Document.Access
import SaslClient.Document.Cursor
import SaslClient.Document.Decode
import SaslClient.Document.Encode
import SaslClient.Except
import SaslClient.Main
import SaslClient.Metadata.KeyDocument
import SaslClient.Nonce
import SaslClient.Probe
import SaslClient.Proofs.Attempt
import SaslClient.Proofs.Attempt.Configuration
import SaslClient.Proofs.Attempt.Explicit
import SaslClient.Proofs.Attempt.Isolation
import SaslClient.Proofs.Attempt.Secrets
import SaslClient.Proofs.Clock.Timestamp
import SaslClient.Proofs.Conversation.Credential
import SaslClient.Proofs.Conversation.Iam
import SaslClient.Proofs.Conversation.LifeCycle
import SaslClient.Proofs.Conversation.Plain
import SaslClient.Proofs.Conversation.ServerFirst
import SaslClient.Proofs.Document.Cursor
import SaslClient.Proofs.Document.Decode
import SaslClient.Proofs.Document.Extension
import SaslClient.Proofs.Document.Fields
import SaslClient.Proofs.Document.Framing
import SaslClient.Proofs.Document.Insertion
import SaslClient.Proofs.Document.Layout
import SaslClient.Proofs.Document.RoundTrip
import SaslClient.Proofs.Probe
import SaslClient.Proofs.Resolver
import SaslClient.Proofs.Resolver.Calls
import SaslClient.Proofs.Resolver.Rules
import SaslClient.Proofs.Signing.Authorization
import SaslClient.Proofs.Signing.Delimiters
import SaslClient.Proofs.Signing.Headers
import SaslClient.Proofs.Signing.Region
import SaslClient.Proofs.Signing.Request
import SaslClient.Proofs.Signing.SignedNames
import SaslClient.Proofs.Signing.StringToSign
import SaslClient.Proofs.Text.Join
import SaslClient.Proofs.Text.Normalize
import SaslClient.Proofs.Text.Words
import SaslClient.Settings.Json
import SaslClient.Signing.Authorization
