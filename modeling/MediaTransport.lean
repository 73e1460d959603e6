import MediaTransport.Config.Logging
import MediaTransport.Media.Document
import MediaTransport.Media.Reader
import MediaTransport.Media.Registry
import MediaTransport.Media.Writer
import MediaTransport.Proofs.Octets
import MediaTransport.Proofs.Rescaling
import MediaTransport.Proofs.Rtp.Image
import MediaTransport.Proofs.Rtp.RoundTrip
import MediaTransport.Proofs.Rtp.Grammar
import MediaTransport.Proofs.Rtp.Truncation
import MediaTransport.Proofs.Rtcp.Framing
import MediaTransport.Proofs.Rtcp.RoundTrip
import MediaTransport.Proofs.Rtcp.Sizes
import MediaTransport.Proofs.Rtcp.Grammar
import MediaTransport.Proofs.Rtcp.Concatenation
import MediaTransport.Proofs.Text.Utf8
import MediaTransport.Proofs.Rtcp.Forwarding
import MediaTransport.Proofs.Rtcp.Reasons
import MediaTransport.Proofs.Rtcp.NtpConversion
import MediaTransport.Proofs.Rtp.Widening
import MediaTransport.Proofs.Rtp.History
import MediaTransport.Proofs.Rtp.Resynchronisation
import MediaTransport.Proofs.Rtp.ClockConversion
import MediaTransport.Proofs.Media.Reception
import MediaTransport.Proofs.Media.Delivery
import MediaTransport.Proofs.Media.SourceTracking
import MediaTransport.Proofs.Media.Sending
import MediaTransport.Proofs.Media.EndToEnd
import MediaTransport.Proofs.Media.Writing
import MediaTransport.Proofs.Media.ClockStep
import MediaTransport.Proofs.Media.Interleaving
import MediaTransport.Proofs.Media.Dialling
import MediaTransport.Proofs.Media.Allocation
import MediaTransport.Proofs.Media.Scanning
import MediaTransport.Proofs.Media.Negotiation
import MediaTransport.Proofs.Media.Ledger
import MediaTransport.Proofs.Media.Ownership
import MediaTransport.Proofs.Media.Agreement
import MediaTransport.Proofs.Media.Lifetime
import MediaTransport.Proofs.Media.Closing
