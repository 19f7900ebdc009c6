import Qp2p.Handler

/-! The send path of a connection: `send_uni` writes one user message on a fresh uni-stream, and
`send_with` runs it under a retry policy. -/

namespace Qp2p

/-- The answers one `send_uni` attempt's I/O gets. -/
structure SendIo where
  openUni : Except ConnectionError SendStream
  write : Except SendError Unit
  finish : Except SendError Unit

/-- `Connection::send_uni`: the frames it writes on the stream it opens, and its result. -/
def sendUni (msg : Bytes) (io : SendIo) : List WireMsg × Except SendError Unit :=
  match io.openUni, io.write with
  | .error e, _ => ([], .error (.connectionLost e))
  | .ok _, .error e => ([], .error e)
  | .ok _, .ok () =>
    ([.userMsg msg], match io.finish with
      | .error (.streamLost (.stopped _)) => .ok ()
      | r => r)

/-- The classification in `send_with`: only a lost connection is permanent. -/
def SendError.isPermanent : SendError → Bool
  | .connectionLost _ => true
  | _ => false

/-- Modelled from the spec: the retry policy of `config.rs`, not in the source tree, as the number
of retries its time bound leaves. -/
structure RetryConfig where
  retries : Nat

section Retry

variable {ε α : Type} (permanent : ε → Bool) (op : Nat → Except ε α)

def isTransient : Except ε α → Bool
  | .error e => !permanent e
  | .ok _ => false

/-- Modelled from the spec: `RetryConfig::retry` from attempt `k` on, with `retries` retries left:
the last result and the number of attempts made. -/
def retryFrom (k : Nat) : Nat → Except ε α × Nat
  | 0 => (op k, 1)
  | retries + 1 =>
    if isTransient permanent (op k) then
      ((retryFrom (k + 1) retries).1, (retryFrom (k + 1) retries).2 + 1)
    else (op k, 1)

end Retry

/-- `Connection::send_with`: the frames of each attempt's stream, in order, and the result. -/
def sendWith (msg : Bytes) (retryConfig defaultRetryConfig : Option RetryConfig)
    (io : Nat → SendIo) : List (List WireMsg) × Except SendError Unit :=
  match retryConfig.or defaultRetryConfig with
  | some config =>
    let r := retryFrom SendError.isPermanent (fun k => (sendUni msg (io k)).2) 0 config.retries
    ((List.range r.2).map fun k => (sendUni msg (io k)).1, r.1)
  | none => ([(sendUni msg (io 0)).1], (sendUni msg (io 0)).2)

/-- `Connection::send`: `send_with` at priority 0 under the default policy. -/
def send (msg : Bytes) (defaultRetryConfig : Option RetryConfig) (io : Nat → SendIo) :
    List (List WireMsg) × Except SendError Unit :=
  sendWith msg none defaultRetryConfig io

end Qp2p
