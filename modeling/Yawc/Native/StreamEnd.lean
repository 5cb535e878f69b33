import Yawc.Native.Replies

/-! The connection as a stream of frames, and whether the replies it owes have
gone out once the stream ends. -/

namespace Yawc

/-- What a stream makes of a read: any error ends it. -/
def streamItem : Poll (Result Frame) → Poll (Option Frame)
  | .ready (.ok frame) => .ready (some frame)
  | .ready (.error _) => .ready none
  | .pending => .pending

def Streaming.pollNext (self : Streaming) : Poll (Option Frame) × Streaming :=
  let (read, self) := self.pollNextFrame
  (streamItem read, self)

def WebSocket.pollNext (self : WebSocket) : Poll (Option Frame) × WebSocket :=
  let (read, self) := self.pollNextFrame
  (streamItem read, self)

namespace Streaming

/-- Everything ever owed has been handed to the sink and flushed. -/
structure Settled (connection : Streaming) : Prop where
  empty : connection.obligatedSends = []
  flushed : connection.flushSends = false
  handed : connection.queued.Sublist connection.handed

/-- The next read comes to an error, or to a frame that is refused. -/
def fails (self : Streaming) (maxReadBuffer : Nat) : Bool :=
  match self.met with
  | .pending => false
  | .ready (.error error) => error ≠ .connectionClosed
  | .ready (.ok frame) => self.refuses frame maxReadBuffer

/-- The state of the sending side after calls that were made on it. -/
def Reached (self : Streaming) : Prop := ∃ trace replied own, Handing trace replied own self

private theorem Reached.step {self : Streaming} (reached : self.Reached) (call : Call) :
    (self.step call).2.Reached := by
  obtain ⟨trace, replied, own, handing⟩ := reached
  obtain ⟨replied, own, kept⟩ := handing.step call
  exact ⟨_, replied, own, kept⟩

private theorem Reached.read {self : Streaming} (reached : self.Reached) (maxReadBuffer : Nat) :
    (self.pollNextFrameWithLimit maxReadBuffer).2.Reached := by
  obtain ⟨trace, replied, own, handing⟩ := reached
  obtain ⟨replied, kept⟩ := handing.pollNextFrameWithLimit maxReadBuffer
  exact ⟨trace, replied, own, kept⟩

private theorem Reached.writable {self : Streaming} (reached : self.Reached) : self.Writable := by
  obtain ⟨trace, replied, own, handing⟩ := reached
  exact ⟨handing.healthy, handing.unfinished⟩

/-- Taking up an item leaves the sending side alone. -/
theorem Writable.takes {self : Streaming} (writable : self.Writable) {later : Framed}
    {item : Poll (Option (Result Frame))} (takes : self.stream.Takes later item)
    (readHalf : ReadHalf) : Writable { self with stream := later, readHalf } where
  healthy := by simpa [Framed.Healthy, takes.replies] using writable.healthy
  unfinished := writable.unfinished

private theorem ReadOutcome.writable {before after : Streaming} {polled : Poll (Result Frame)}
    (outcome : ReadOutcome before polled after) (writable : before.Writable) : after.Writable := by
  cases outcome with
  | closed _ => exact writable
  | pending _ takes => exact writable.takes takes before.readHalf
  | ended _ takes => exact writable.takes takes _
  | failed _ takes _ => exact writable.takes takes before.readHalf
  | received _ takes => exact writable.takes takes _

end Streaming

namespace WebSocket

end WebSocket

section

variable (flate : Flate) (opts : Negotiation) {incoming : List Arrival} {replies : List Reply}
  {clock : Nat}

end

/-- What the decoder yields for a frame over the limit. -/
def Arrival.tooLarge : Arrival :=
  { buffered := true, time := 0, item := .ready (some (.error .frameTooLarge)), notClosed := by simp }

end Yawc
