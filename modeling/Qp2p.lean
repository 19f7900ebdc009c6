import Qp2p.Wire
import Qp2p.Stream
import Qp2p.Endpoint
import Qp2p.Handler
import Qp2p.Connection
import Qp2p.Channel
import Qp2p.Demux
import Qp2p.Pairing
import Qp2p.PseudoBi
import Qp2p.Send
import Qp2p.ConnectionHandle
import Qp2p.Delivery
import Qp2p.Progress
import Qp2p.Handshake
import Qp2p.Incoming
import Qp2p.Receive
