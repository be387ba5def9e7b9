import Osc.Address.Lookup
import Osc.Clock
import Osc.Session.Report
import Osc.Settings.File
import Osc.Value.Convert
import Osc.Value.Equality
import Osc.Value.View
import Osc.Wire.Encode
import Osc.Wire.Decode
import Osc.Proofs.Layout
import Osc.Proofs.PacketTree
import Osc.Proofs.Reading
import Osc.Proofs.Accepted
import Osc.Proofs.Canonical
import Osc.Proofs.Consumers
import Osc.Proofs.Delivery
import Osc.Proofs.RoundTrip
import Osc.Proofs.Handles
import Osc.Proofs.Resilience
import Osc.Proofs.Closed
import Osc.Proofs.Representable
import Osc.Proofs.Receipt
import Osc.Proofs.Receivers
import Osc.Proofs.Writers
import Osc.Proofs.Truncation
import Osc.Proofs.Resolution
import Osc.Proofs.Convertible
import Osc.Proofs.Exactness
import Osc.Proofs.Nearness
import Osc.Proofs.ExactTimes
import Osc.Proofs.FloatArguments
import Osc.Proofs.Contents
import Osc.Proofs.Alignment
import Osc.Proofs.Splitting
import Osc.Proofs.Loading
