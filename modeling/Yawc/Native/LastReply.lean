import Yawc.Native.Sending

/-! The reply to a Close of the peer: owed once the Close is delivered, and out once a
later read reports the end of the connection. -/

namespace Yawc

namespace Streaming

/-- An attempt of a writer that is not done. It stays so and fails only with the sink;
short of that, all that has left the queue has been handed on. -/
structure Delivers {Value : Type} (before : Streaming)
    (attempt : Poll.Attempt WebSocketError Streaming Value) : Prop where
  unfinished : attempt.2.writeHalf.closeState ≠ some .done
  replies : attempt.2.stream.replies <:+ before.stream.replies
  cause : ∀ error, attempt.1 = .ready (.error error) → .ready (.error error) ∈ before.stream.replies
  handed : (∀ error, attempt.1 ≠ .ready (.error error)) → ∃ popped,
    before.obligatedSends = popped ++ attempt.2.obligatedSends ∧
      attempt.2.handed = before.handed ++ popped

theorem Delivers.andThen {Value Other : Type} {self : Streaming}
    {attempt : Poll.Attempt WebSocketError Streaming Value}
    {next : Value → Streaming → Poll.Attempt WebSocketError Streaming Other}
    (first : Delivers self attempt)
    (second : ∀ value middle, attempt = (.ready (.ok value), middle) →
      middle.writeHalf.closeState ≠ some .done → Delivers middle (next value middle)) :
    Delivers self (Poll.andThen attempt next) := by
  obtain ⟨unfinished, replies, cause, handed⟩ := first
  rcases attempt with ⟨(error | value) | _, middle⟩
  · have same (other : WebSocketError)
        (failed : (Poll.ready (.error error) : Poll (Result Other)) = .ready (.error other)) :
        .ready (.error other) ∈ self.stream.replies := cause other (by simpa using failed)
    exact ⟨unfinished, replies, same, fun fine => absurd rfl (fine error)⟩
  · have later := second value middle rfl unfinished
    refine ⟨later.unfinished, later.replies.trans replies,
      fun error failed => replies.subset (later.cause error failed), fun fine => ?_⟩
    obtain ⟨early, owed, grown⟩ := handed (by simp)
    obtain ⟨late, owed', grown'⟩ := later.handed fine
    dsimp only at owed grown
    exact ⟨early ++ late, by rw [owed, owed', List.append_assoc]; rfl,
      by rw [Poll.andThen_ok, grown', grown, List.append_assoc]⟩
  · exact ⟨unfinished, replies, nofun, fun _ => handed (by simp)⟩

variable {self after : Streaming}

/-- A call that hands on nothing and leaves the queue alone. -/
theorem Delivers.pure {Value : Type} {answer : Poll (Result Value)}
    (unfinished : after.writeHalf.closeState ≠ some .done)
    (replies : after.stream.replies <:+ self.stream.replies)
    (cause : ∀ error, answer = .ready (.error error) → .ready (.error error) ∈ self.stream.replies)
    (owed : after.obligatedSends = self.obligatedSends) (handed : after.handed = self.handed) :
    Delivers self (answer, after) :=
  ⟨unfinished, replies, cause, fun _ => ⟨[], owed.symm, by simpa using handed⟩⟩

private theorem pollWriteReady_delivers (unfinished : self.writeHalf.closeState ≠ some .done) :
    Delivers self self.pollWriteReady := by
  simp only [pollWriteReady, WriteHalf.pollReady]
  rw [if_neg unfinished]
  exact .pure unfinished (List.tail_suffix _) (fun _ failed => nextReply_error failed) rfl
    (by simp [handed])

private theorem pollWriteFlush_delivers (unfinished : self.writeHalf.closeState ≠ some .done) :
    Delivers self self.pollWriteFlush :=
  .pure unfinished (List.tail_suffix _) (fun _ failed => nextReply_error failed) rfl
    self.stream.handed_pollFlush

private theorem sendObligated_delivers {next : Frame} {rest : List Frame}
    (unfinished : self.writeHalf.closeState ≠ some .done)
    (owed : self.obligatedSends = next :: rest) : Delivers self (self.sendObligated next rest) := by
  apply (pollWriteReady_delivers unfinished).andThen
  intro _ middle ready unfinished
  obtain ⟨-, rfl⟩ := pollWriteReady_ok ready
  have open' : (self.writeHalf.onSend next).closeState ≠ some .done :=
    fun done => unfinished (onSend_stage [next] (by simp) done)
  have grown := self.stream.pollReady.2.handed_startSend next
  split
  · rename_i error after sent
    simp only [writeStartSend, WriteHalf.startSend, Prod.mk.injEq] at sent
    obtain ⟨refused, rfl⟩ := sent
    refine ⟨open', List.tail_suffix _, ?_, fun fine => absurd rfl (fine error)⟩
    intro cause failed
    simp only [Poll.ready.injEq, Except.error.injEq] at failed
    exact failed ▸ startSend_error refused
  · rename_i after sent
    simp only [writeStartSend, WriteHalf.startSend, Prod.mk.injEq] at sent
    obtain ⟨accepted, rfl⟩ := sent
    rw [accepted] at grown
    refine ⟨open', List.tail_suffix _, ?_, fun _ => ⟨[next], owed, grown⟩⟩
    intro error failed
    cases failed

private theorem sendAllObligated_delivers (owed : List Frame) {self : Streaming}
    (unfinished : self.writeHalf.closeState ≠ some .done) (same : self.obligatedSends = owed) :
    Delivers self (sendAllObligated owed self) := by
  induction owed generalizing self with
  | nil => exact .pure unfinished List.suffix_rfl nofun rfl rfl
  | cons next rest ih =>
    apply (sendObligated_delivers unfinished same).andThen
    exact fun _ middle sent unfinished => ih unfinished (sendObligated_ok sent)

private theorem flushObligated_delivers (unfinished : self.writeHalf.closeState ≠ some .done) :
    Delivers self self.flushObligated := by
  apply (sendAllObligated_delivers _ unfinished rfl).andThen
  intro _ middle _ unfinished
  split
  · apply (pollWriteFlush_delivers unfinished).andThen
    exact fun _ final _ unfinished => .pure unfinished List.suffix_rfl nofun rfl rfl
  · exact .pure unfinished List.suffix_rfl nofun rfl rfl

theorem pollFlushObligated_delivers (unfinished : self.writeHalf.closeState ≠ some .done) :
    Delivers self self.pollFlushObligated := by
  unfold pollFlushObligated
  split
  · exact .pure unfinished List.suffix_rfl nofun rfl rfl
  · have first := flushObligated_delivers unfinished
    unfold Poll.again
    split
    · rename_i flushed
      rwa [flushed] at first
    · rename_i middle flushed
      rw [flushed] at first
      obtain ⟨early, owed, grown⟩ := first.handed (by simp)
      have second := flushObligated_delivers first.unfinished
      refine ⟨second.unfinished, second.replies.trans first.replies,
        fun error failed => first.replies.subset (second.cause error failed), fun fine => ?_⟩
      obtain ⟨late, owed', grown'⟩ := second.handed fine
      dsimp only at owed grown
      exact ⟨early ++ late, by rw [owed, owed', List.append_assoc],
        by rw [grown', grown, List.append_assoc]⟩

/-- There is something left to hand on, or to flush. -/
def Owing (self : Streaming) : Prop := self.obligatedSends ≠ [] ∨ self.flushSends

/-- The last call on the sink was a flush, and a complete one. -/
def FlushedLast (self : Streaming) : Prop :=
  self.stream.log.getLast? = some (.pollFlush (.ready (.ok ())))

private theorem sendObligated_pending {next : Frame} {rest : List Frame}
    (waits : self.sendObligated next rest = (.pending, after)) :
    after.obligatedSends = self.obligatedSends := by
  simp only [sendObligated, pollWriteReady, WriteHalf.pollReady] at waits
  split at waits
  · simp at waits
  · rcases ready : self.stream.pollReady with ⟨(error | value) | _, stream⟩
    · simp [ready] at waits
    · simp only [ready, Poll.andThen_ok] at waits
      split at waits
      · simp at waits
      · simp at waits
    · simp only [ready, Poll.andThen_pending, Prod.mk.injEq, true_and] at waits
      rw [← waits]

private theorem sendObligated_marks {next : Frame} {rest : List Frame}
    (done : self.sendObligated next rest = (.ready (.ok ()), after)) : after.flushSends := by
  obtain ⟨_, middle, -, sent⟩ := Poll.andThen_eq_ok done
  split at sent
  · simp at sent
  · simp only [Prod.mk.injEq, true_and] at sent
    rw [← sent]

private theorem sendAllObligated_marks (owed : List Frame) {self : Streaming}
    (done : sendAllObligated owed self = (.ready (.ok ()), after))
    (owing : owed ≠ [] ∨ self.flushSends) : after.flushSends := by
  induction owed generalizing self with
  | nil =>
    simp only [sendAllObligated, Prod.mk.injEq, true_and] at done
    exact done ▸ owing.resolve_left (by simp)
  | cons next rest ih =>
    obtain ⟨_, middle, sent, later⟩ := Poll.andThen_eq_ok done
    exact ih later (.inr (sendObligated_marks sent))

private theorem sendAllObligated_pending (owed : List Frame) {self : Streaming}
    (same : self.obligatedSends = owed)
    (waits : sendAllObligated owed self = (.pending, after)) : after.obligatedSends ≠ [] := by
  induction owed generalizing self with
  | nil => simp [sendAllObligated] at waits
  | cons next rest ih =>
    rw [sendAllObligated] at waits
    rcases sent : self.sendObligated next rest with ⟨(error | value) | _, middle⟩
    · simp [sent] at waits
    · rw [sent, Poll.andThen_ok] at waits
      exact ih (sendObligated_ok sent) waits
    · rw [sent, Poll.andThen_pending] at waits
      obtain rfl := (Prod.mk.inj waits).2
      rw [sendObligated_pending sent, same]
      simp

/-- What waits to be flushed is flushed at the end. -/
theorem flushObligated_last (done : self.flushObligated = (.ready (.ok ()), after))
    (owing : self.Owing) : after.FlushedLast := by
  obtain ⟨_, middle, sent, later⟩ := Poll.andThen_eq_ok done
  have marked := sendAllObligated_marks _ sent owing
  simp only [marked, ↓reduceIte] at later
  obtain ⟨_, final, flushed, last⟩ := Poll.andThen_eq_ok later
  simp only [Prod.mk.injEq, true_and] at last
  simp only [pollWriteFlush, WriteHalf.pollFlush, Framed.pollFlush, Prod.mk.injEq] at flushed
  obtain ⟨answer, rfl⟩ := flushed
  rw [← last]
  simp [FlushedLast, Framed.record, answer]

theorem flushObligated_pending (waits : self.flushObligated = (.pending, after)) :
    after.Owing := by
  unfold flushObligated at waits
  rcases sent : sendAllObligated self.obligatedSends self with ⟨(error | value) | _, middle⟩
  · simp [sent] at waits
  · rw [sent, Poll.andThen_ok] at waits
    split at waits
    · rename_i marked
      rcases flushed : middle.pollWriteFlush with ⟨(error | value) | _, final⟩
      · simp [flushed] at waits
      · simp [flushed] at waits
      · rw [flushed, Poll.andThen_pending] at waits
        obtain rfl := (Prod.mk.inj waits).2
        simp only [pollWriteFlush, Prod.mk.injEq] at flushed
        rw [← flushed.2]
        exact .inr marked
    · simp at waits
  · rw [sent, Poll.andThen_pending] at waits
    obtain rfl := (Prod.mk.inj waits).2
    exact .inl (sendAllObligated_pending _ rfl sent)

private theorem pollFlushObligated_last (done : self.pollFlushObligated = (.ready (.ok ()), after))
    (owing : self.Owing) : after.FlushedLast := by
  unfold pollFlushObligated at done
  split at done
  · rename_i idle
    rcases owing with owed | marked
    · exact absurd (by simpa using idle.1) owed
    · exact absurd marked idle.2
  · rcases Poll.again_cases done with once | ⟨middle, first, second⟩
    · exact flushObligated_last once owing
    · exact flushObligated_last second (flushObligated_pending first)

private theorem pollFlushObligated_pending (waits : self.pollFlushObligated = (.pending, after)) :
    after.Owing := by
  unfold pollFlushObligated at waits
  split at waits
  · simp at waits
  · rcases Poll.again_cases waits with once | ⟨middle, first, second⟩
    · exact flushObligated_pending once
    · exact flushObligated_pending second

/-- A writer that is not done, over a transport that does not report its errors as the end
of the connection. -/
structure Sound (connection : Streaming) : Prop where
  unfinished : connection.writeHalf.closeState ≠ some .done
  sink : .ready (.error .connectionClosed) ∉ connection.stream.replies

namespace Sound

private theorem sends (sound : self.Sound) {popped : List Frame}
    (effect : FlushEffect self after popped) :
    after.Sound where
  unfinished := by
    rw [effect.writer]
    exact fun done => sound.unfinished (onSend_stage popped (by simp) done)
  sink := fun reported => sound.sink (effect.reader.stream.replies.subset reported)

theorem flushes {Value : Type} {attempt : Poll.Attempt WebSocketError Streaming Value}
    (sound : self.Sound) (flushes : Flushes self attempt) : attempt.2.Sound :=
  flushes.effect.elim fun _ effect => sound.sends effect

private theorem takes (sound : self.Sound) {later : Framed} (readHalf : ReadHalf)
    {item : Poll (Option (Result Frame))} (takes : self.stream.Takes later item) :
    Sound { self with stream := later, readHalf } :=
  ⟨sound.unfinished, by simpa [takes.replies] using sound.sink⟩

theorem emitClose (sound : self.Sound) (frame : Frame) : (self.emitClose frame).Sound :=
  ⟨sound.unfinished, sound.sink⟩

private theorem onFrame (sound : self.Sound) {frame : Frame} {maxReadBuffer : Nat}
    {result : Result Frame}
    (taken : self.onFrame frame maxReadBuffer = (result, after)) : after.Sound := by
  have outcome := self.onFrame_outcome frame maxReadBuffer
  rw [taken] at outcome
  cases outcome with
  | ping _ => exact ⟨sound.unfinished, sound.sink⟩
  | pong _ => exact sound
  | close _ _ => exact sound.emitClose _
  | badClose _ _ => exact sound
  | data _ _ => exact ⟨sound.unfinished, sound.sink⟩

theorem read (sound : self.Sound) (maxReadBuffer : Nat) :
    (self.pollNextFrameWithLimit maxReadBuffer).2.Sound := by
  have step := self.pollNextFrameWithLimit_step maxReadBuffer
  generalize self.pollNextFrameWithLimit maxReadBuffer = result at step ⊢
  cases step with
  | closed _ => exact sound.flushes (self.silent_flushes (.inr rfl)).1
  | silent _ takes => exact (sound.takes _ takes).flushes (silent_flushes _ (.inl rfl)).1
  | ended _ takes => exact (sound.takes _ takes).flushes (silent_flushes _ (.inr rfl)).1
  | failed _ takes _ => exact (sound.takes _ takes).emitClose _
  | accepted _ takes taken => exact (sound.takes _ takes).onFrame taken
  | refused _ takes taken _ => exact ((sound.takes _ takes).onFrame taken).emitClose _

private theorem startSend (sound : self.Sound) (item : Frame) : (self.startSend item).2.Sound := by
  rcases self.startSend_cases item with ⟨error, deflate, failed⟩ | ⟨frame, deflate, -, sent⟩
  · rw [failed]
    exact ⟨sound.unfinished, sound.sink⟩
  · rw [sent]
    exact ⟨fun done => sound.unfinished (onSend_stage [frame] (by simp) done),
      fun reported => sound.sink (List.mem_of_mem_tail reported)⟩

private theorem pollClose (sound : self.Sound) : self.pollClose.2.Sound where
  unfinished := by
    cases self.writeHalf.pollClose_outcome self.stream with
    | sends frame state outcome => exact outcome.state.2
    | behind _ outcome => exact outcome.state.2
  sink := fun reported => sound.sink
    ((self.writeHalf.pollClose_sends self.stream).replies.subset reported)

theorem step (sound : self.Sound) (call : Call) : (self.step call).2.Sound := by
  cases call with
  | pollNextFrame => exact sound.read _
  | pollReady => exact sound.flushes self.pollReady_effect
  | startSend item => exact sound.startSend item
  | pollFlush => exact sound.flushes self.pollWriteFlush_effect
  | pollClose => exact sound.pollClose

end Sound

/-- A Close that is delivered closes the reader, and its reply is the last frame owed. -/
theorem pollNextFrameWithLimit_close {frame : Frame} {maxReadBuffer : Nat}
    (read : self.pollNextFrameWithLimit maxReadBuffer = (.ready (.ok frame), after))
    (closes : frame.opcode = .close) :
    after.readHalf.isClosed ∧
      ∃ earlier, after.obligatedSends = earlier ++ [.closeRaw frame.payload] := by
  obtain ⟨raw, later, -, -, taken⟩ := pollNextFrameWithLimit_ok read
  have outcome := onFrame_outcome
    { self with stream := later, readHalf := (self.readHalf.receive raw).2 }
    (self.readHalf.receive raw).1 maxReadBuffer
  rw [taken] at outcome
  cases outcome with
  | ping opcode => simp [closes] at opcode
  | pong opcode => simp [closes] at opcode
  | close _ _ => exact ⟨rfl, self.obligatedSends, rfl⟩
  | data control data =>
    rw [← (onData_ok data).1, closes] at control
    cases control

end Streaming

/-- The open message is not a Close. -/
def FragmentLayer.Sound (layer : FragmentLayer) : Prop :=
  ∀ fragment, layer.incomingFragment = some fragment → fragment.opcode ≠ .close

private theorem FragmentLayer.continueMessage_sound (layer : FragmentLayer)
    {fragment : FragmentationState}
    (data : fragment.opcode ≠ .close) (frame : Frame) (now : Nat) :
    (layer.continueMessage fragment frame now).2.Sound ∧
      ∀ message, (layer.continueMessage fragment frame now).1 = .ok (some message) →
        message.opcode ≠ .close := by
  unfold continueMessage
  dsimp only
  split
  · exact ⟨nofun, nofun⟩
  · split
    · exact ⟨nofun, nofun⟩
    · split
      · refine ⟨nofun, ?_⟩
        rintro message ⟨⟩
        exact data
      · refine ⟨?_, nofun⟩
        rintro fragment ⟨⟩
        exact data

/-- A Close that comes out of the assembly has come in. -/
theorem FragmentLayer.Sound.assembles {layer : FragmentLayer} (sound : layer.Sound) (frame : Frame)
    (now : Nat) :
    (layer.assembleIncoming frame now).2.Sound ∧
      ∀ message, (layer.assembleIncoming frame now).1 = .ok (some message) →
        message.opcode = .close → message = frame := by
  have same (result : Result (Option Frame)) (given : result = .ok (some frame)) :
      ∀ message, result = .ok (some message) → message.opcode = .close → message = frame := by
    rintro message rfl -
    exact Option.some.inj (Except.ok.inj given)
  have opened (data : frame.opcode ≠ .close) :
      FragmentLayer.Sound { layer with
        incomingBuffer := frame.payload
        incomingFragment := some {
          started := now
          opcode := frame.opcode
          isCompressed := frame.isCompressed
          bytesRead := frame.payload.length } } := by
    rintro fragment ⟨⟩
    exact data
  unfold assembleIncoming
  cases opcode : frame.opcode with
  | text | binary =>
    dsimp only
    split
    · exact ⟨sound, nofun⟩
    · split
      · exact ⟨sound, same _ rfl⟩
      · rw [opcode] at opened
        exact ⟨opened (by simp), nofun⟩
  | continuation =>
    cases state : layer.incomingFragment with
    | none => exact ⟨sound, nofun⟩
    | some fragment =>
      obtain ⟨kept, other⟩ := layer.continueMessage_sound (sound fragment state) frame now
      exact ⟨kept, fun message taken closes => absurd closes (other message taken)⟩
  | ping | pong | close => exact ⟨sound, same _ rfl⟩

namespace WebSocket

structure Sound (socket : WebSocket) : Prop where
  streaming : socket.streaming.Sound
  layer : socket.fragmentLayer.Sound

variable {self middle after : WebSocket} {frame : Frame}

theorem onFrame_sound (sound : self.fragmentLayer.Sound) {result : Result (Option Frame)}
    (taken : self.onFrame frame = (result, after)) :
    after.fragmentLayer.Sound ∧
      ∀ message, result = .ok (some message) → message.opcode = .close → message = frame := by
  obtain ⟨kept, same⟩ := sound.assembles frame self.streaming.stream.clock
  have layer := self.onFrame_fragmentLayer frame
  rw [taken] at layer
  refine ⟨layer ▸ kept, ?_⟩
  rintro message rfl closes
  simp only [onFrame] at taken
  split at taken
  · rename_i assembled found
    split at taken
    · simp at taken
    · obtain ⟨⟨⟩, -⟩ := Prod.mk.inj taken
      exact same message found closes
  · exact same message (Prod.mk.inj taken).1 closes

theorem pollStreaming_layer {answer : Poll (Result Frame)}
    (polled : self.pollStreaming = (answer, middle)) : middle.fragmentLayer = self.fragmentLayer := by
  simp only [pollStreaming, Prod.mk.injEq] at polled
  rw [← polled.2]

private theorem Rounds.layer {result : Poll (Result Frame) × WebSocket}
    (rounds : Rounds self result)
    (sound : self.fragmentLayer.Sound) : result.2.fragmentLayer.Sound := by
  induction rounds with
  | stop polled _ => exact pollStreaming_layer polled ▸ sound
  | refuse polled taken => exact (onFrame_sound (pollStreaming_layer polled ▸ sound) taken).1
  | deliver polled taken => exact (onFrame_sound (pollStreaming_layer polled ▸ sound) taken).1
  | again polled taken _ ih => exact ih (onFrame_sound (pollStreaming_layer polled ▸ sound) taken).1

/-- A Close that is delivered is answered next. -/
theorem Rounds.close {result : Poll (Result Frame) × WebSocket} (rounds : Rounds self result)
    (sound : self.fragmentLayer.Sound) (delivered : result.1 = .ready (.ok frame))
    (closes : frame.opcode = .close) :
    result.2.streaming.readHalf.isClosed ∧
      ∃ earlier, result.2.streaming.obligatedSends = earlier ++ [.closeRaw frame.payload] := by
  induction rounds with
  | stop _ nothing => exact absurd delivered (nothing frame)
  | refuse _ _ => cases delivered
  | @deliver self middle after raw message polled taken =>
    obtain rfl : message = frame := by simpa using delivered
    obtain rfl := (onFrame_sound (pollStreaming_layer polled ▸ sound) taken).2 message rfl closes
    have same := middle.onFrame_streaming message
    rw [taken] at same
    dsimp only at same ⊢
    rw [same]
    simp only [pollStreaming, Prod.mk.injEq] at polled
    obtain ⟨answer, rfl⟩ := polled
    exact Streaming.pollNextFrameWithLimit_close (Prod.ext answer rfl) closes
  | again polled taken _ ih =>
    exact ih (onFrame_sound (pollStreaming_layer polled ▸ sound) taken).1 delivered

private theorem Sound.step (sound : self.Sound) {call : Call} {answer : Answer}
    (taken : self.step call = some (answer, after)) : after.Sound where
  streaming := step_lifts (motive := Streaming.Sound)
    (fun _ maxReadBuffer sound => sound.read maxReadBuffer) (fun _ call sound => sound.step call)
    taken sound.streaming
  layer := by
    by_cases reading : call = .pollNextFrame
    · subst reading
      simp only [WebSocket.step, Option.some.injEq, Prod.mk.injEq] at taken
      obtain ⟨-, rfl⟩ := taken
      exact self.pollNextFrame_rounds.layer sound.layer
    · obtain ⟨outgoingFragments, same⟩ := (step_writes reading taken).layer
      rw [same]
      exact sound.layer

/-- A socket as some calls leave it, over a transport that does not report its errors as
the end of the connection. -/
def Reached (socket : WebSocket) : Prop :=
  ∃ (flate : Flate) (incoming : List Arrival) (replies : List Reply) (clock : Nat)
    (opts : Negotiation) (trace : List (Call × Answer)),
    .ready (.error .connectionClosed) ∉ replies ∧
    Trace.Run (fun (connection : WebSocket) call => connection.step call) (fun _ _ => True)
      (.new flate (.new incoming replies clock) opts) trace socket

theorem Reached.sound (reached : self.Reached) : self.Sound := by
  obtain ⟨flate, incoming, replies, clock, opts, trace, sink, run⟩ := reached
  refine run.keeps (motive := Sound) (fun _ taken sound => sound.step taken) ⟨⟨nofun, sink⟩, nofun⟩

/-- A read of a closed reader, by what becomes of the replies. -/
inductive SilentRead (self : WebSocket) : Poll (Result Frame) × WebSocket → Prop where
  | ended {streaming : Streaming}
      (flushed : self.streaming.pollFlushObligated = (.ready (.ok ()), streaming)) :
      SilentRead self (.ready (.error .connectionClosed), { self with streaming })
  | failed {streaming : Streaming} {error : WebSocketError}
      (refused : self.streaming.pollFlushObligated = (.ready (.error error), streaming)) :
      SilentRead self (.ready (.error error), { self with streaming })
  | waits {streaming : Streaming}
      (waits : self.streaming.pollFlushObligated = (.pending, streaming)) :
      SilentRead self (.pending, { self with streaming })

private theorem pollNextFrame_silent (closed : self.streaming.readHalf.isClosed) :
    SilentRead self self.pollNextFrame := by
  have step := self.streaming.pollNextFrameWithLimit_step self.fragmentLayer.remainingReadCapacity
  unfold pollNextFrame readLoop pollStreaming
  generalize self.streaming.pollNextFrameWithLimit _ = result at step ⊢
  cases step with
  | closed _ =>
    rcases flushed : self.streaming.pollFlushObligated with ⟨(error | value) | _, streaming⟩
    · exact .failed flushed
    · exact .ended flushed
    · exact .waits flushed
  | silent reading _ => simp [closed] at reading
  | ended reading _ => simp [closed] at reading
  | failed reading _ _ => simp [closed] at reading
  | accepted reading _ _ => simp [closed] at reading
  | refused reading _ _ _ => simp [closed] at reading

/-- The replies that were owed are out. -/
structure RepliesOut (before after : WebSocket) : Prop where
  handed : after.handed = before.handed ++ before.streaming.obligatedSends
  flushed : after.streaming.FlushedLast

/-- Reads behind a Close come to an error, and to the end only with the replies out. -/
theorem nextFrame_closed {polls : Nat} {received : Result Frame}
    (closed : self.streaming.readHalf.isClosed) (sound : self.streaming.Sound)
    (owing : self.streaming.Owing) (read : self.nextFrame polls = (some received, after)) :
    (∃ error, received = .error error) ∧
      (received = .error .connectionClosed → RepliesOut self after) := by
  induction polls generalizing self with
  | zero => cases read
  | succ polls ih =>
    have silent := pollNextFrame_silent closed
    have delivers := Streaming.pollFlushObligated_delivers sound.unfinished
    rw [nextFrame] at read
    generalize self.pollNextFrame = result at silent read
    cases silent with
    | ended flushed =>
      obtain ⟨⟨⟩, rfl⟩ := Prod.mk.inj read
      rw [flushed] at delivers
      obtain ⟨popped, owed, grown⟩ := delivers.handed (by simp)
      rw [(Streaming.pollFlushObligated_ok flushed).1, List.append_nil] at owed
      exact ⟨⟨_, rfl⟩, fun _ => ⟨owed ▸ grown, Streaming.pollFlushObligated_last flushed owing⟩⟩
    | @failed streaming error refused =>
      obtain ⟨⟨⟩, rfl⟩ := Prod.mk.inj read
      refine ⟨⟨error, rfl⟩, ?_⟩
      rintro ⟨⟩
      exact absurd (delivers.cause _ (by rw [refused])) sound.sink
    | @waits streaming waits =>
      have flushes := self.streaming.pollFlushObligated_effect
      rw [waits] at delivers flushes
      obtain ⟨popped, owed, grown⟩ := delivers.handed (by simp)
      have still : streaming.readHalf.isClosed := by rw [flushes.reader.readHalf, closed]
      obtain ⟨failed, out⟩ := ih still (sound.flushes flushes)
        (Streaming.pollFlushObligated_pending waits) read
      refine ⟨failed, fun ended => ⟨?_, (out ended).flushed⟩⟩
      have last : after.handed = streaming.handed ++ streaming.obligatedSends := (out ended).handed
      rw [last, owed, grown, List.append_assoc]
      rfl

/-- The reads behind a Close that was delivered end the connection only once its reply is
the last frame handed on, and flushed. -/
theorem nextFrame_replied {before : WebSocket} {polls : Nat} {received : Result Frame}
    (sound : before.Sound) (delivered : before.pollNextFrame = (.ready (.ok frame), self))
    (closes : frame.opcode = .close) (read : self.nextFrame polls = (some received, after)) :
    (∃ error, received = .error error) ∧
      (received = .error .connectionClosed →
        (∃ earlier, after.handed = self.handed ++ earlier ++ [.closeRaw frame.payload]) ∧
          after.streaming.FlushedLast) := by
  have rounds := before.pollNextFrame_rounds
  have kept := rounds.keeps (motive := Streaming.Sound)
    (fun _ maxReadBuffer sound => sound.read maxReadBuffer) sound.streaming
  rw [delivered] at rounds kept
  obtain ⟨closed, earlier, owed⟩ := rounds.close sound.layer rfl closes
  dsimp only at closed owed kept
  have owing : self.streaming.Owing := .inl (by simp [owed])
  obtain ⟨failed, out⟩ := nextFrame_closed closed kept owing read
  refine ⟨failed, fun ended => ⟨⟨earlier, ?_⟩, (out ended).flushed⟩⟩
  rw [(out ended).handed, owed, List.append_assoc]

end WebSocket

end Yawc
