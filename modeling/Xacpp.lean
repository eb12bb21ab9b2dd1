import Xacpp.Wire.Buffering
import Xacpp.Reliability.Exchange
import Xacpp.Reliability.Reassembly
import Xacpp.Reliability.Exports
import Xacpp.Reliability.Streaming
import Xacpp.Reliability.Merging
import Xacpp.Reliability.Backoff
import Xacpp.Transfer.Callbacks
import Xacpp.Transfer.Closing
import Xacpp.Transfer.Refusals
import Xacpp.Transfer.Unannounced
import Xacpp.Transfer.Pausing
import Xacpp.Transfer.Announcing
import Xacpp.Transfer.Resuming
import Xacpp.Transfer.Parcels
import Xacpp.Transfer.Identifiers
import Xacpp.Link.Opened
import Xacpp.Link.Handshake
import Xacpp.Link.Integrity
import Xacpp.Carrier.Flags
import Xacpp.Carrier.Pending
import Xacpp.Egress.Drain
import Xacpp.Fetch.Puller
import Xacpp.Fetch.Sinks
import Xacpp.Peer.Negotiation
