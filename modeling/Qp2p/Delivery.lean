import Qp2p.Demux
import Qp2p.Send

/-! From a send to the peer's application: each attempt of `send_with` that wrote the message
gives the peer one inbound uni-stream, and the peer's demultiplexer one item with it. -/

namespace Qp2p

open scoped List

/-- The payload an item brings the application, if it brings one. -/
def itemPayload (item : Item) : Option Bytes := item.toOption.map Prod.fst

variable {isBenign : ConnectionError → Bool}

end Qp2p
