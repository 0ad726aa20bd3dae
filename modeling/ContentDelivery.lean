import ContentDelivery.Client.Intake
import ContentDelivery.Host.StoreHandles
import ContentDelivery.Proofs.Visitor.Coherence
import ContentDelivery.Proofs.Client.Ledger
import ContentDelivery.Proofs.Client.EdgeHost
import ContentDelivery.Proofs.Client.Persistence
import ContentDelivery.Proofs.Client.Privacy
import ContentDelivery.Proofs.Client.Content
import ContentDelivery.Proofs.Client.Continuity
import ContentDelivery.Proofs.Client.Failures
import ContentDelivery.Proofs.Client.Forgetting
import ContentDelivery.Proofs.Client.Payload
import ContentDelivery.Proofs.Client.Publication
import ContentDelivery.Proofs.Client.Serialisation
import ContentDelivery.Proofs.Client.Identity
import ContentDelivery.Proofs.Client.Interference
import ContentDelivery.Proofs.Client.Displays
import ContentDelivery.Proofs.Client.Reconciliation
import ContentDelivery.Proofs.Exchange.Encoding
import ContentDelivery.Proofs.Exchange.Endpoint
import ContentDelivery.Proofs.Client.Clicks
import ContentDelivery.Proofs.Parameters.Precedence
import ContentDelivery.Proofs.Parameters.ReadBack
import ContentDelivery.Proofs.Host.Lifecycle
import ContentDelivery.Proofs.Client.WholeSeconds
import ContentDelivery.Proofs.Exchange.Sections
import ContentDelivery.Proofs.Host.SharedStorage
import ContentDelivery.Proofs.Visitor.Expiry
import ContentDelivery.Proofs.Visitor.Reads
