import Yawc.Library.Broadcast
import Yawc.Library.Interleave
import Yawc.Yawcc.Session

/-! The sessions of the command line server: an echo for each client, or what is typed
for all of them. -/

namespace Yawc.Yawcc

section Clients

/-- How far a session of `serve` is. -/
inductive Phase where
  | upgrading
  | serving
  | closing
  | ended (outcome : Except String Unit)

/-- A session, with the frames it has received while serving and those it has sent. -/
structure Client where
  start : Nat
  position : Nat
  received : List Frame
  sent : List Frame
  phase : Phase

/-- What a session waits for. A frame comes from a poll of its socket. -/
inductive Happening where
  | upgraded (outcome : Except String Unit)
  | received (socket : WebSocket)
  | outgoing
  | timeout

namespace Client

/-- `subscribe`: only what is sent later is heard. -/
def join (outgoing : List Frame) : Client where
  start := outgoing.length
  position := outgoing.length
  received := []
  sent := []
  phase := .upgrading

def finish (self : Client) (outcome : Except String Unit) : Client :=
  { self with phase := .ended outcome }

/-- Sends a frame, which ends the session if it fails. -/
def send (self : Client) (frame : Frame) (world : World) (next : Phase) : Client :=
  let self := { self with sent := self.sent ++ [frame] }
  match world.send with
  | .error error => self.finish (.error error)
  | .ok () => { self with phase := next }

/-- Whether the frame is sent back. -/
def echoed (interactive : Bool) (frame : Frame) : Bool :=
  !interactive && (frame.opcode = .text || frame.opcode = .binary)

def onServing (interactive : Bool) (self : Client) (frame : Frame) (socket : WebSocket)
    (world : World) : Client :=
  let self := { self with received := self.received ++ [frame] }
  let shown := if interactive || frame.opcode.isControl then world.display else .ok ()
  match shown with
  | .error error => self.finish (.error error)
  | .ok () =>
    if frame.opcode = .close then self.finish (finishPeerClose world.polls socket)
    else if echoed interactive frame then self.send frame world .serving
    else self

/-- Behind a Close only that of the client is waited for. -/
def phaseBehind (frame : Frame) : Phase := if frame.opcode = .close then .closing else .serving

def onOutgoing (channel : Broadcast.Channel Frame) (self : Client) (outgoing : List Frame)
    (world : World) : Client :=
  match channel.recv outgoing self.position with
  | .lagged => self.finish (.error "server output queue overflowed or closed")
  | .empty => self
  | .item frame =>
    { self with position := self.position + 1 }.send frame world (phaseBehind frame)

/-- A session in one of its phases. Nothing else is waited for. -/
def step (channel : Broadcast.Channel Frame) (interactive : Bool) (outgoing : List Frame)
    (self : Client) (world : World) : Happening → Client
  | .upgraded outcome =>
    match self.phase, outcome with
    | .upgrading, .ok () => { self with phase := .serving }
    | .upgrading, .error error => self.finish (.error error)
    | _, _ => self
  | .received socket =>
    match self.phase, socket.pollNextFrame with
    | .serving, (.ready (.ok frame), socket) => self.onServing interactive frame socket world
    | .closing, (.ready (.ok frame), _) =>
      if frame.opcode = .close then self.finish (.ok ()) else self
    | .serving, (.ready (.error error), _) | .closing, (.ready (.error error), _) =>
      self.finish (.error error.toString)
    | _, _ => self
  | .outgoing =>
    match self.phase with
    | .serving => self.onOutgoing channel outgoing world
    | _ => self
  | .timeout =>
    match self.phase with
    | .closing => self.finish (.error "peer did not close")
    | _ => self

end Client

end Clients

section Main

/-- The variables of the main loop: what was sent to all clients, the sessions, and
whether new ones are still taken. -/
structure Server where
  outgoing : List Frame
  clients : List Client
  running : Bool

inductive Occasion where
  | joined
  | input (event : Option Input)
  | stopped
  | client (index : Nat) (happening : Happening) (world : World)

namespace Server

def empty : Server := { outgoing := [], clients := [], running := true }

/-- A session that has ended no longer listens. -/
def listens (client : Client) : Bool :=
  match client.phase with
  | .ended _ => false
  | _ => true

/-- Without a listener nothing is sent. -/
def broadcast (self : Server) (frame : Frame) : Server :=
  if self.clients.any listens then { self with outgoing := self.outgoing ++ [frame] } else self

/-- The end of the loop, which closes every session. -/
def shutDown (self : Server) : Server :=
  { self.broadcast (.close .normal (textBytes "server shutting down")) with running := false }

/-- What is typed. A line that cannot be sent is reported and dropped. -/
def onInput (args : MessageArgs) (self : Server) : Option Input → Server
  | some (.line line) =>
    match args.parse line with
    | .ok (some frame) => self.broadcast frame
    | _ => self
  | some (.frame frame) => self.broadcast frame
  | some (.error _) | some .interrupted | none => self.shutDown

def step (channel : Broadcast.Channel Frame) (args : MessageArgs) (interactive : Bool)
    (self : Server) : Occasion → Server
  | .joined =>
    if self.running then { self with clients := self.clients ++ [.join self.outgoing] } else self
  | .input event => if self.running && interactive then self.onInput args event else self
  | .stopped => if self.running then self.shutDown else self
  | .client index happening world =>
    { self with
      clients := self.clients.modify index fun client =>
        client.step channel interactive self.outgoing world happening }

/-- The server behind any number of occasions. -/
def run (channel : Broadcast.Channel Frame) (args : MessageArgs) (interactive : Bool)
    (occasions : List Occasion) : Server :=
  occasions.foldl (step channel args interactive) empty

end Server

end Main

section Served

variable {channel : Broadcast.Channel Frame} {interactive : Bool} {outgoing : List Frame}
  {client : Client} {world : World} {args : MessageArgs}

/-- A phase in which a session may still send. -/
def Phase.sends : Phase → Bool
  | upgrading | serving => true
  | closing | ended _ => false

/-- What holds of a session: it sends the echoes and what is sent to all since it has
joined, each in order and without a gap. A Close is the last frame it sends. -/
structure Client.Served (interactive : Bool) (outgoing : List Frame) (client : Client) : Prop where
  joined : client.start ≤ client.position
  heard : client.position ≤ outgoing.length
  merged : Interleaved (client.received.filter (echoed interactive))
    (Broadcast.heard outgoing client.start client.position) client.sent
  last : ∀ frame ∈ client.sent.dropLast, frame.opcode ≠ .close
  open' : client.phase.sends → ∀ frame ∈ client.sent, frame.opcode ≠ .close

namespace Client.Served

private theorem join (interactive : Bool) (outgoing : List Frame) :
    (Client.join outgoing).Served interactive outgoing where
  joined := le_refl _
  heard := le_refl _
  merged := by simpa [Client.join] using Interleaved.nil
  last := by simp [Client.join]
  open' := by simp [Client.join]

/-- More is sent to all. -/
theorem more (served : client.Served interactive outgoing) (frames : List Frame) :
    client.Served interactive (outgoing ++ frames) where
  joined := served.joined
  heard := by
    rw [List.length_append]
    exact served.heard.trans (Nat.le_add_right _ _)
  merged := by
    rw [Broadcast.heard_append served.heard]
    exact served.merged
  last := served.last
  open' := served.open'

theorem finish (served : client.Served interactive outgoing) (outcome : Except String Unit) :
    (client.finish outcome).Served interactive outgoing where
  joined := served.joined
  heard := served.heard
  merged := served.merged
  last := served.last
  open' := by simp [Client.finish, Phase.sends]

private theorem enter (served : client.Served interactive outgoing) {phase : Phase}
    (sends : phase.sends → client.phase.sends) :
    { client with phase }.Served interactive outgoing where
  joined := served.joined
  heard := served.heard
  merged := served.merged
  last := served.last
  open' := fun may => served.open' (sends may)

theorem send {frame : Frame} {phase : Phase} (joined : client.start ≤ client.position)
    (heard : client.position ≤ outgoing.length)
    (merged : Interleaved (client.received.filter (echoed interactive))
      (Broadcast.heard outgoing client.start client.position) (client.sent ++ [frame]))
    (before : ∀ sent ∈ client.sent, sent.opcode ≠ .close)
    (next : phase.sends → frame.opcode ≠ .close) :
    (client.send frame world phase).Served interactive outgoing := by
  have sent : { client with sent := client.sent ++ [frame], phase }.Served interactive outgoing := {
    joined
    heard
    merged
    last := by simpa using before
    open' := by
      intro sends sent member
      rcases List.mem_append.mp member with early | late
      · exact before sent early
      · obtain rfl := List.mem_singleton.mp late
        exact next sends }
  unfold Client.send
  cases world.send with
  | error error => exact sent.finish (.error error)
  | ok value => exact sent

/-- A frame that is not sent back is only noted. -/
theorem note (served : client.Served interactive outgoing) {frame : Frame}
    (silent : echoed interactive frame = false) :
    { client with received := client.received ++ [frame] }.Served interactive outgoing where
  joined := served.joined
  heard := served.heard
  merged := by
    rw [List.filter_append]
    simpa [silent] using served.merged
  last := served.last
  open' := served.open'

private theorem onServing (served : client.Served interactive outgoing)
    (serving : client.phase = .serving)
    (frame : Frame) (socket : WebSocket) :
    (client.onServing interactive frame socket world).Served interactive outgoing := by
  unfold Client.onServing
  by_cases back : echoed interactive frame
  · -- Such a frame is neither shown nor the end of the session.
    have data : frame.opcode = .text ∨ frame.opcode = .binary := by
      simpa using (Bool.and_eq_true_iff.mp back).2
    have unshown : (interactive || frame.opcode.isControl) = false := by
      have echoing : interactive = false := by simpa using (Bool.and_eq_true_iff.mp back).1
      rcases data with text | binary
      · simp [echoing, text, OpCode.isControl]
      · simp [echoing, binary, OpCode.isControl]
    have goesOn : frame.opcode ≠ .close := by
      rcases data with text | binary
      · simp [text]
      · simp [binary]
    simp only [unshown, Bool.false_eq_true, ↓reduceIte, goesOn, back]
    refine send served.joined served.heard ?_ ?_ fun _ => goesOn
    · have grown := served.merged.left frame
      rw [List.filter_append]
      simpa [back] using grown
    · exact served.open' (by simp [serving, Phase.sends])
  · have noted := served.note (by simpa using back : echoed interactive frame = false)
    simp only [back, Bool.false_eq_true, ↓reduceIte]
    split
    · exact noted.finish _
    · split
      · exact noted.finish _
      · exact noted

private theorem onOutgoing (served : client.Served interactive outgoing)
    (serving : client.phase = .serving) :
    (client.onOutgoing channel outgoing world).Served interactive outgoing := by
  unfold Client.onOutgoing
  split
  · exact served.finish _
  · exact served
  · rename_i frame told
    have next := channel.recv_item told
    have within : client.position < outgoing.length := (List.getElem?_eq_some_iff.mp next).1
    refine send (served.joined.trans (Nat.le_succ _)) within ?_ ?_ ?_
    · rw [Broadcast.heard_next served.joined next]
      exact served.merged.right frame
    · exact served.open' (by simp [serving, Phase.sends])
    · unfold Client.phaseBehind
      split
      · simp [Phase.sends]
      · rename_i other
        exact fun _ => other

private theorem step (served : client.Served interactive outgoing) (happening : Happening) :
    (client.step channel interactive outgoing world happening).Served interactive outgoing := by
  cases happening with
  | upgraded outcome =>
    simp only [Client.step]
    split
    · rename_i upgrading
      exact served.enter (by simp [upgrading, Phase.sends])
    · exact served.finish _
    · exact served
  | received received =>
    simp only [Client.step]
    split
    · rename_i serving read
      exact served.onServing serving _ _
    · split
      · exact served.finish _
      · exact served
    · exact served.finish _
    · exact served.finish _
    · exact served
  | outgoing =>
    simp only [Client.step]
    split
    · rename_i serving
      exact served.onOutgoing serving
    · exact served
  | timeout =>
    simp only [Client.step]
    split
    · exact served.finish _
    · exact served

end Client.Served

/-- All sessions of the server are in order. -/
def Server.Ordered (interactive : Bool) (server : Server) : Prop :=
  ∀ client ∈ server.clients, client.Served interactive server.outgoing

theorem Server.Ordered.broadcast {server : Server} (ordered : server.Ordered interactive)
    (frame : Frame) : (server.broadcast frame).Ordered interactive := by
  unfold Server.broadcast
  split
  · exact fun client member => (ordered client member).more [frame]
  · exact ordered

private theorem Server.Ordered.shutDown {server : Server} (ordered : server.Ordered interactive) :
    server.shutDown.Ordered interactive := ordered.broadcast _

private theorem Server.Ordered.step {server : Server} (ordered : server.Ordered interactive)
    (occasion : Occasion) : (server.step channel args interactive occasion).Ordered interactive := by
  cases occasion with
  | joined =>
    simp only [Server.step]
    split
    · intro client member
      rcases List.mem_append.mp member with old | new
      · exact ordered client old
      · obtain rfl := List.mem_singleton.mp new
        exact .join interactive server.outgoing
    · exact ordered
  | stopped =>
    simp only [Server.step]
    split
    · exact ordered.shutDown
    · exact ordered
  | input event =>
    simp only [Server.step]
    split
    · unfold Server.onInput
      split
      · split
        · exact ordered.broadcast _
        · exact ordered
      · exact ordered.broadcast _
      · exact ordered.shutDown
      · exact ordered.shutDown
      · exact ordered.shutDown
    · exact ordered
  | client index happening world =>
    intro client member
    obtain ⟨position, inside, found⟩ := List.getElem_of_mem member
    simp only [Server.step, List.getElem_modify] at found
    have before := ordered _ (List.getElem_mem (by simpa [Server.step] using inside))
    split at found
    · rw [← found]
      exact before.step happening
    · rw [← found]
      exact before

/-- The frame that closes all sessions at the end. -/
def Server.farewell : Frame := .close .normal (textBytes "server shutting down")

/-- An echo server sends nothing to all but the Close at its end. -/
def Server.Quiet (server : Server) : Prop :=
  (server.running → server.outgoing = []) ∧
    (server.outgoing = [] ∨ server.outgoing = [Server.farewell])

private theorem Server.Quiet.step {server : Server} (quiet : server.Quiet) (occasion : Occasion) :
    (server.step channel args false occasion).Quiet := by
  have closed (running : server.running) : server.shutDown.Quiet := by
    refine ⟨Bool.false_ne_true.elim, ?_⟩
    simp only [Server.shutDown, Server.broadcast]
    split
    · simp [quiet.1 running, Server.farewell]
    · exact quiet.2
  cases occasion with
  | joined =>
    simp only [Server.step]
    split
    · exact quiet
    · exact quiet
  | input event => simpa [Server.step] using quiet
  | stopped =>
    simp only [Server.step]
    split
    · rename_i running
      exact closed running
    · exact quiet
  | client index happening world => exact quiet

private theorem run_ordered (channel : Broadcast.Channel Frame) (args : MessageArgs)
    (interactive : Bool) (occasions : List Occasion) :
    (Server.run channel args interactive occasions).Ordered interactive := by
  have kept (server : Server) (ordered : server.Ordered interactive) :
      (occasions.foldl (Server.step channel args interactive) server).Ordered interactive := by
    induction occasions generalizing server with
    | nil => exact ordered
    | cons occasion occasions ih => exact ih _ (ordered.step occasion)
  exact kept .empty (by simp [Server.Ordered, Server.empty])

private theorem run_quiet (channel : Broadcast.Channel Frame) (args : MessageArgs)
    (occasions : List Occasion) :
    (Server.run channel args false occasions).Quiet := by
  have kept (server : Server) (quiet : server.Quiet) :
      (occasions.foldl (Server.step channel args false) server).Quiet := by
    induction occasions generalizing server with
    | nil => exact quiet
    | cons occasion occasions ih => exact ih _ (quiet.step occasion)
  exact kept .empty ⟨fun _ => rfl, .inl rfl⟩

/-- Whatever happens to the server, every session sends back all data frames it has
received, if it is one that echoes, and all that is sent to the sessions since it has
joined, each in order, without a gap and only once. A Close is the last frame it
sends. -/
theorem sessions_served (channel : Broadcast.Channel Frame) (args : MessageArgs)
    (interactive : Bool) (occasions : List Occasion) :
    (∀ client ∈ (Server.run channel args interactive occasions).clients,
      client.Served interactive (Server.run channel args interactive occasions).outgoing) ∧
    (interactive = false → ∀ client ∈ (Server.run channel args interactive occasions).clients,
      ∃ own, (own = [] ∨ own = [Server.farewell]) ∧
        client.sent = client.received.filter (Client.echoed interactive) ++ own) := by
  have ordered := run_ordered channel args interactive occasions
  refine ⟨ordered, ?_⟩
  rintro rfl client member
  have served := ordered client member
  have few : Broadcast.heard (Server.run channel args false occasions).outgoing client.start
        client.position = [] ∨
      Broadcast.heard (Server.run channel args false occasions).outgoing client.start
        client.position = [Server.farewell] := by
    have part := Broadcast.heard_sublist (Server.run channel args false occasions).outgoing client.start
      client.position
    rcases (run_quiet channel args occasions).2 with none' | one
    · rw [none'] at part ⊢
      exact .inl (List.sublist_nil.mp part)
    · rw [one] at part ⊢
      exact List.sublist_singleton.mp part
  refine ⟨_, few, served.merged.eq_append ?_⟩
  intro frame said early
  have closes : frame.opcode = .close := by
    rcases few with none' | one
    · simp [none'] at said
    · rw [one, List.mem_singleton] at said
      rw [said]
      rfl
  exact served.last frame early closes

example :
    (Server.run (.bounded 64) { comments := false, slash := false } true
      [.joined, .client 0 (.upgraded (.ok ())) .fine, .input (some (.line "hi".toList)), .joined,
        .client 0 .outgoing .fine]).clients.map (·.sent) = [[.text (textBytes "hi")], []] := by
  decide +kernel

end Served

end Yawc.Yawcc
