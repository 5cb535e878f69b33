import Yawc.Yawcc.Redirects
import Yawc.Native.LegalReplies
import Yawc.Native.LastReply

/-! The session of the command line client: the frames a user's lines stand for, and the
loop that sends them until both sides have closed. -/

namespace Yawc.Yawcc

section Lines

def trimEnd (text : Text) : Text := (text.reverse.dropWhile isWhitespace).reverse

/-- `str::split_once` at the first white space. -/
def splitWhitespace (text : Text) : Option (Text × Text) :=
  if text.any isWhitespace then
    some (text.takeWhile (!isWhitespace ·), (text.dropWhile (!isWhitespace ·)).tail)
  else none

/-- `str::parse::<u16>`: digits behind an optional plus sign, up to 65535. -/
def parseU16 (text : Text) : Option UInt16 :=
  let digits := match text with
    | '+' :: rest => rest
    | text => text
  if digits.isEmpty ∨ ¬ digits.all Char.isDigit then none
  else
    let value := digits.foldl (fun value digit => 10 * value + (digit.toNat - '0'.toNat)) 0
    if value ≤ 65535 then some (UInt16.ofNat value) else none

/-- The loop of `strip_comment`, with what is behind it. A comment starts at the line's
start or behind white space, outside of quotation marks. -/
def stripFrom (before : Text) (quoted escaped : Bool) : Text → Text
  | [] => before
  | char :: rest =>
    if escaped then stripFrom (before ++ [char]) quoted false rest
    else if quoted && char = '\\' then stripFrom (before ++ [char]) quoted true rest
    else
      let quoted := if char = '"' then !quoted else quoted
      if !quoted && "//".toList.isPrefixOf (char :: rest) && (before.getLast?.all isWhitespace) then
        trimEnd before
      else stripFrom (before ++ [char]) quoted false rest

def stripComment (line : Text) : Text := stripFrom [] false false line

/-- `MessageArgs`, without what only concerns the display of messages. -/
structure MessageArgs where
  comments : Bool
  slash : Bool

/-- `/ping` and `/pong`. -/
def control (make : Bytes → Frame) (rest : Text) : Except String Frame := do
  ensure ((asBytes rest).length ≤ 125) "control frame payload exceeds 125 bytes"
  return make (asBytes rest)

/-- The code of `/close`, which need not be given. -/
def closingCode (code : Text) : Except String UInt16 :=
  if (trim code).isEmpty then .ok 1000 else context (parseU16 (trim code)) "invalid close code"

def close (rest : Text) : Except String Frame := do
  let (code, reason) := (splitOnce ',' rest).getD (rest, [])
  let code ← closingCode code
  ensure (CloseCode.fromU16 code).isAllowed ("close code " ++ toString code.toNat ++ " cannot be sent")
  let reason := trimStart reason
  ensure ((asBytes reason).length ≤ 123) "close reason exceeds 123 bytes"
  return .close (.fromU16 code) (asBytes reason)

/-- A line with a slash in front. Another command than these three is a message. -/
def command (line : Text) : Except String Frame :=
  let (command, rest) := (splitWhitespace line).getD (line, [])
  let rest := trimStart rest
  if command = "/ping".toList then control .ping rest
  else if command = "/pong".toList then control .pong rest
  else if command = "/close".toList then close rest
  else .ok (.text (asBytes line))

/-- The line without a comment, if there may be one. -/
def MessageArgs.content (self : MessageArgs) (line : Text) : Text :=
  if self.comments then stripComment line else line

def MessageArgs.parse (self : MessageArgs) (line : Text) : Except String (Option Frame) := do
  let line := self.content line
  if self.comments && (trim line).isEmpty then return none
  else if self.slash && line.head? = some '/' then return some (← command line)
  else return some (.text (asBytes line))

end Lines

section Loop

/-- What the terminal, or the script that replaces it, sends. -/
inductive Input where
  | line (line : Text)
  | frame (frame : Frame)
  | interrupted
  | error (message : String)

/-- What the loop waits for. A frame comes from a poll of the socket. -/
inductive Event where
  | input (event : Option Input)
  | frame (socket : WebSocket)
  | stop (signal : Except String Unit)
  | deadline

/-- What the operations of one round come to, if it gets to them: showing a message and
sending a frame, and how often the socket is polled in the two seconds for the reply. -/
structure World where
  display : Except String Unit
  polls : Nat
  send : Except String Unit

/-- `finish_peer_close`. The next read flushes the reply. -/
def finishPeerClose (polls : Nat) (socket : WebSocket) : Except String Unit :=
  match (socket.nextFrame polls).1 with
  | some (.error .connectionClosed) => .ok ()
  | some (.error error) => .error error.toString
  | some (.ok _) => .ok ()
  | none => .error "timed out replying to close frame"

/-- The variables of the loop. Of the deadline it is only kept whether there is one. -/
structure Session where
  inputDone : Bool
  deadline : Bool
  closingCode : Option UInt16

namespace Session

def start : Session := { inputDone := false, deadline := false, closingCode := none }

/-- The conditions of the branches of `select!`. -/
def waitsFor (self : Session) : Event → Bool
  | .stop _ => self.closingCode.isNone
  | .deadline => self.deadline
  | .frame _ => true
  | .input _ => !self.inputDone

/-- The frame that closes a session. -/
def goodbye : Frame := .close .normal []

/-- Which code of the peer is in order. -/
def judge (self : Session) (frame : Frame) : Except String Unit :=
  match frame.closeCode with
  | none => .ok ()
  | some code =>
    if code.toU16 = 1000 || code.toU16 = 1001 || self.closingCode = some code.toU16 then .ok ()
    else
      match frame.closeReason with
      | .error error => .error error.toString
      | .ok reason =>
        .error ("peer closed with code " ++ toString code.toU16.toNat ++ ": " ++
          (String.fromUTF8? ⟨(reason.getD []).toArray⟩).getD "")

/-- What the session comes to when the peer closes. -/
def onClose (self : Session) (frame : Frame) (socket : WebSocket) (polls : Nat) :
    Except String Unit := do
  if self.closingCode.isNone then finishPeerClose polls socket
  self.judge frame

/-- What an event asks to be sent, or what ends the session. -/
def onEvent (args : MessageArgs) (wait : Bool) (self : Session) (world : World) :
    Event → Except (Except String Unit) (Option Frame × Session)
  | .stop (.error error) => .error (.error error)
  | .stop (.ok ()) => .ok (some goodbye, self)
  | .deadline =>
    if self.closingCode.isSome then .error (.error "timed out waiting for peer close frame")
    else .ok (some goodbye, self)
  | .frame socket =>
    match socket.pollNextFrame with
    | (.pending, _) => .ok (none, self)
    | (.ready (.error _), _) => .error (.error "receive frame")
    | (.ready (.ok frame), socket) =>
      match world.display with
      | .error error => .error (.error error)
      | .ok () =>
        if frame.opcode = .close then .error (self.onClose frame socket world.polls)
        else .ok (none, self)
  | .input (some (.line line)) =>
    match args.parse line with
    | .error error => .error (.error error)
    | .ok frame => .ok (frame, self)
  | .input (some (.frame frame)) => .ok (some frame, self)
  | .input (some (.error _)) => .error (.error "read stdin")
  | .input (some .interrupted) => .ok (some goodbye, self)
  | .input none => .ok (none, { self with inputDone := true, deadline := wait })

/-- A Close is the last thing that is sent. -/
def sending (self : Session) (frame : Frame) : Session :=
  if frame.opcode = .close then
    { inputDone := true, deadline := true, closingCode := frame.closeCode.map (·.toU16) }
  else self

/-- One round: the frame that is sent, and the variables or the outcome. -/
def step (args : MessageArgs) (wait : Bool) (self : Session) (event : Event) (world : World) :
    Option Frame × Except (Except String Unit) Session :=
  match self.onEvent args wait world event with
  | .error outcome => (none, .error outcome)
  | .ok (none, self) => (none, .ok self)
  | .ok (some frame, self) =>
    match world.send with
    | .error error => (some frame, .error (.error error))
    | .ok () => (some frame, .ok (self.sending frame))

/-- `session::run`: the frames that are sent, and the outcome if there is one yet. An
event that is not waited for does not take place. `wait` says whether there is a deadline
for the replies once the input has ended. -/
def run (args : MessageArgs) (wait : Bool) : Session → List (Event × World) →
    List Frame × Option (Except String Unit)
  | _, [] => ([], none)
  | self, (event, world) :: rounds =>
    if self.waitsFor event then
      match self.step args wait event world with
      | (sent, .error outcome) => (sent.toList, some outcome)
      | (sent, .ok next) => (sent.toList ++ (run args wait next rounds).1, (run args wait next rounds).2)
    else run args wait self rounds

end Session

end Loop

section Taken

/-- A peer that is between two messages takes the frame as it was sent, if it is not too
large for it. -/
def Taken (frame : Frame) : Prop :=
  ∀ peer : WebSocket, peer.fragmentLayer.incomingFragment = none →
    frame.payload.length < peer.streaming.maxPayloadRead → ∀ limit,
    (peer.streaming.onFrame frame limit).1 = .ok frame ∧
      ∀ streaming, ({ peer with streaming }.onFrame frame).1 = .ok (some frame)

theorem fromUtf8_asBytes (text : Text) : fromUtf8 (asBytes text) := by
  have written : asBytes text = textBytes (String.ofList text) := by
    rw [asBytes, textBytes, String.toList_ofList]
  rw [written]
  exact fromUtf8_textBytes _

private theorem taken_text (text : Text) : Taken (.text (asBytes text)) := by
  intro peer idle fits limit
  constructor
  · have within : ¬ peer.streaming.maxPayloadRead ≤ (asBytes text).length := not_le.mpr fits
    simp [Streaming.onFrame, Streaming.onData, Streaming.inflateFrame, Streaming.maxOutputSize,
      Frame.text, Frame.new, within]
  · intro streaming
    simp [WebSocket.onFrame, FragmentLayer.assembleIncoming, Frame.text, Frame.new, idle,
      fromUtf8_asBytes]

private theorem taken_ping (payload : Bytes) : Taken (.ping payload) := by
  intro peer idle fits limit
  exact ⟨rfl, fun streaming => by simp [WebSocket.onFrame, FragmentLayer.assembleIncoming, Frame.ping, Frame.new]⟩

private theorem taken_pong (payload : Bytes) : Taken (.pong payload) := by
  intro peer idle fits limit
  exact ⟨rfl, fun streaming => by simp [WebSocket.onFrame, FragmentLayer.assembleIncoming, Frame.pong, Frame.new]⟩

private theorem toU16_ite {condition : Prop} [Decidable condition] {first second : CloseCode}
    {code : UInt16}
    (yes : condition → first.toU16 = code) (no : ¬ condition → second.toU16 = code) :
    (if condition then first else second).toU16 = code := by
  by_cases holds : condition
  · rw [if_pos holds]
    exact yes holds
  · rw [if_neg holds]
    exact no holds

private theorem toU16_fromU16 (code : UInt16) : (CloseCode.fromU16 code).toU16 = code := by
  unfold CloseCode.fromU16
  repeat refine toU16_ite (fun same => Eq.symm same) fun _ => ?_
  repeat refine toU16_ite (fun _ => rfl) fun _ => ?_
  rfl

private theorem taken_close {code : UInt16} (allowed : (CloseCode.fromU16 code).isAllowed)
    (reason : Text) :
    Taken (.close (.fromU16 code) (asBytes reason)) := by
  intro peer idle fits limit
  have checked : Streaming.checkClose (.close (.fromU16 code) (asBytes reason)) = .ok () := by
    have coded := Frame.closeCode_close (.fromU16 code) (asBytes reason)
    rw [toU16_fromU16] at coded
    unfold Streaming.checkClose
    rw [coded]
    simp [Frame.close, Frame.closeRaw, Frame.new, BigEndian.toBytes, Frame.closeReason,
      fromUtf8_asBytes, allowed]
  constructor
  · have opcode : (Frame.close (.fromU16 code) (asBytes reason)).opcode = .close := rfl
    rw [Streaming.onFrame, opcode]
    simp [Streaming.onClose, checked]
  · intro streaming
    simp [WebSocket.onFrame, FragmentLayer.assembleIncoming, Frame.close, Frame.closeRaw, Frame.new]

private theorem control_ok {make : Bytes → Frame} {rest : Text} {frame : Frame}
    (made : control make rest = .ok frame) :
    frame = make (asBytes rest) ∧ (asBytes rest).length ≤ 125 := by
  simp only [control, bind_ok, ensure_ok, decide_eq_true_eq] at made
  obtain ⟨_, short, done⟩ := made
  exact ⟨(Except.ok.inj done).symm, short⟩

private theorem close_ok {rest : Text} {frame : Frame} (made : close rest = .ok frame) :
    ∃ code reason, frame = .close (.fromU16 code) (asBytes reason) ∧
      (CloseCode.fromU16 code).isAllowed ∧ (asBytes reason).length ≤ 123 := by
  simp only [close, bind_ok, ensure_ok, decide_eq_true_eq] at made
  obtain ⟨code, -, _, allowed, _, short, done⟩ := made
  exact ⟨code, _, (Except.ok.inj done).symm, allowed, short⟩

/-- The frames a line can stand for. -/
inductive Typed : Frame → Prop where
  | text (text : Text) : Typed (.text (asBytes text))
  | ping {payload : Text} (short : (asBytes payload).length ≤ 125) : Typed (.ping (asBytes payload))
  | pong {payload : Text} (short : (asBytes payload).length ≤ 125) : Typed (.pong (asBytes payload))
  | close {code : UInt16} {reason : Text} (allowed : (CloseCode.fromU16 code).isAllowed)
      (short : (asBytes reason).length ≤ 123) : Typed (.close (.fromU16 code) (asBytes reason))

private theorem command_typed {line : Text} {frame : Frame} (made : command line = .ok frame) :
    Typed frame := by
  unfold command at made
  simp only at made
  split at made
  · obtain ⟨rfl, short⟩ := control_ok made
    exact .ping short
  · split at made
    · obtain ⟨rfl, short⟩ := control_ok made
      exact .pong short
    · split at made
      · obtain ⟨code, reason, rfl, allowed, short⟩ := close_ok made
        exact .close allowed short
      · obtain rfl := Except.ok.inj made
        exact .text line

private theorem parse_typed {args : MessageArgs} {line : Text} {frame : Frame}
    (parsed : args.parse line = .ok (some frame)) : Typed frame := by
  unfold MessageArgs.parse at parsed
  simp only at parsed
  split at parsed
  · cases parsed
  · split at parsed
    · simp only [bind_ok] at parsed
      obtain ⟨made, commanded, done⟩ := parsed
      obtain rfl := Option.some.inj (Except.ok.inj done)
      exact command_typed commanded
    · obtain rfl := Option.some.inj (Except.ok.inj parsed)
      exact .text _

private theorem Typed.taken {frame : Frame} (typed : Typed frame) : Taken frame := by
  cases typed with
  | text text => exact taken_text text
  | ping short => exact taken_ping _
  | pong short => exact taken_pong _
  | close allowed short => exact taken_close allowed _

private theorem Typed.short {frame : Frame} (typed : Typed frame)
    (control : frame.opcode.isControl) :
    frame.payload.length ≤ 125 := by
  cases typed with
  | text text => cases control
  | ping short => exact short
  | pong short => exact short
  | close allowed short =>
    simp only [Frame.close, Frame.closeRaw, Frame.new, List.length_append, BigEndian.length_toBytes]
    omega

theorem Typed.coded {frame : Frame} (typed : Typed frame) (closes : frame.opcode = .close) :
    ∃ code, frame.closeCode = some code := by
  cases typed with
  | text text => cases closes
  | ping short => cases closes
  | pong short => cases closes
  | close allowed short => exact ⟨_, Frame.closeCode_close _ _⟩

theorem goodbye_typed : Typed Session.goodbye := by
  have same : Session.goodbye = .close (.fromU16 1000) (asBytes []) := by decide
  have allowed : (CloseCode.fromU16 1000).isAllowed := by decide
  have short : (asBytes []).length ≤ 123 := by decide
  rw [same]
  exact .close allowed short

end Taken

section Runs

variable {args : MessageArgs} {wait : Bool} {self next : Session} {event : Event} {world : World}
  {rounds : List (Event × World)} {frames : List Frame}

/-- The frame the user asks for. -/
def Event.typed (args : MessageArgs) : Event → Option Frame
  | .input (some (.line line)) => (args.parse line).toOption.join
  | .input (some (.frame given)) => some given
  | _ => none

/-- All the user asks for, in order. -/
def asked (args : MessageArgs) (rounds : List (Event × World)) : List Frame :=
  rounds.filterMap fun round => round.1.typed args

theorem asked_cons (event : Event) (world : World) :
    asked args ((event, world) :: rounds) = (event.typed args).toList ++ asked args rounds := by
  rw [asked, List.filterMap_cons]
  cases event.typed args with
  | none => rfl
  | some frame => rfl

/-- A script has been checked before it is run. -/
def Scripted (args : MessageArgs) (rounds : List (Event × World)) : Prop :=
  ∀ frame world, (Event.input (some (.frame frame)), world) ∈ rounds →
    ∃ line, args.parse line = .ok (some frame)

theorem Scripted.tail {round : Event × World} (scripted : Scripted args (round :: rounds)) :
    Scripted args rounds := fun frame world member => scripted frame world (.tail _ member)

private theorem typed_typed (scripted : Scripted args ((event, world) :: rounds)) {frame : Frame}
    (wanted : event.typed args = some frame) : Typed frame := by
  cases event with
  | frame socket => cases wanted
  | stop signal => cases wanted
  | deadline => cases wanted
  | input given =>
    cases given with
    | none => cases wanted
    | some input =>
      cases input with
      | interrupted => cases wanted
      | error message => cases wanted
      | frame given =>
        obtain rfl := Option.some.inj wanted
        obtain ⟨line, parsed⟩ := scripted given world (.head _)
        exact parse_typed parsed
      | line line =>
        simp only [Event.typed] at wanted
        cases parsed : args.parse line with
        | error error => simp [parsed, Except.toOption] at wanted
        | ok made =>
          obtain rfl : made = some frame := by simpa [parsed, Except.toOption] using wanted
          exact parse_typed parsed

/-- What a round can send: what the user asked for, or a Close of its own. -/
theorem onEvent_sends {frame : Frame} (asks : self.onEvent args wait world event = .ok (some frame, next)) :
    next = self ∧ (event.typed args = some frame ∨ frame = Session.goodbye ∧ event.typed args = none) := by
  cases event with
  | frame socket =>
    simp only [Session.onEvent] at asks
    split at asks
    · cases asks
    · cases asks
    · split at asks
      · cases asks
      · split at asks <;> cases asks
  | stop signal =>
    cases signal with
    | error error => cases asks
    | ok value =>
      obtain ⟨⟨⟩, rfl⟩ := Prod.mk.inj (Except.ok.inj asks)
      exact ⟨rfl, .inr ⟨rfl, rfl⟩⟩
  | deadline =>
    simp only [Session.onEvent] at asks
    split at asks
    · cases asks
    · obtain ⟨⟨⟩, rfl⟩ := Prod.mk.inj (Except.ok.inj asks)
      exact ⟨rfl, .inr ⟨rfl, rfl⟩⟩
  | input given =>
    cases given with
    | none => cases asks
    | some input =>
      cases input with
      | error message => cases asks
      | interrupted =>
        obtain ⟨⟨⟩, rfl⟩ := Prod.mk.inj (Except.ok.inj asks)
        exact ⟨rfl, .inr ⟨rfl, rfl⟩⟩
      | frame given =>
        obtain ⟨⟨⟩, rfl⟩ := Prod.mk.inj (Except.ok.inj asks)
        exact ⟨rfl, .inl rfl⟩
      | line line =>
        simp only [Session.onEvent] at asks
        split at asks
        · cases asks
        · rename_i made parsed
          obtain ⟨rfl, rfl⟩ := Prod.mk.inj (Except.ok.inj asks)
          exact ⟨rfl, .inl (by simp [Event.typed, parsed, Except.toOption])⟩

/-- A round that sends nothing and goes on has not been asked for anything. -/
theorem onEvent_silent (asks : self.onEvent args wait world event = .ok (none, next)) :
    next.closingCode = self.closingCode ∧ event.typed args = none ∧
      (event ≠ .input none → next = self) := by
  cases event with
  | frame socket =>
    have same : next = self := by
      simp only [Session.onEvent] at asks
      split at asks
      · exact (Prod.mk.inj (Except.ok.inj asks)).2.symm
      · cases asks
      · split at asks
        · cases asks
        · split at asks
          · cases asks
          · exact (Prod.mk.inj (Except.ok.inj asks)).2.symm
    exact ⟨by rw [same], rfl, fun _ => same⟩
  | stop signal => cases signal <;> cases asks
  | deadline =>
    simp only [Session.onEvent] at asks
    split at asks <;> cases asks
  | input given =>
    cases given with
    | none =>
      obtain ⟨-, rfl⟩ := Prod.mk.inj (Except.ok.inj asks)
      exact ⟨rfl, rfl, fun other => absurd rfl other⟩
    | some input =>
      cases input with
      | error message => cases asks
      | interrupted => cases asks
      | frame given => cases asks
      | line line =>
        simp only [Session.onEvent] at asks
        split at asks
        · cases asks
        · rename_i made parsed
          obtain ⟨rfl, rfl⟩ := Prod.mk.inj (Except.ok.inj asks)
          exact ⟨rfl, by simp [Event.typed, parsed, Except.toOption], fun _ => rfl⟩

/-- A session that has closed only waits for the peer. -/
structure Session.Closing (session : Session) : Prop where
  code : session.closingCode.isSome
  done : session.inputDone

private theorem Session.Closing.step (closing : self.Closing) (waits : self.waitsFor event) :
    (∃ outcome, self.step args wait event world = (none, .error outcome)) ∨
      self.step args wait event world = (none, .ok self) := by
  cases event with
  | input given => simp [Session.waitsFor, closing.done] at waits
  | stop signal =>
    have none' : self.closingCode = none := by simpa [Session.waitsFor] using waits
    exact absurd closing.code (by simp [none'])
  | deadline =>
    refine .inl ⟨.error "timed out waiting for peer close frame", ?_⟩
    simp [Session.step, Session.onEvent, closing.code]
  | frame socket =>
    simp only [Session.step, Session.onEvent]
    rcases socket.pollNextFrame with ⟨(error | received) | _, after⟩
    · exact .inl ⟨_, rfl⟩
    · cases world.display with
      | error error => exact .inl ⟨_, rfl⟩
      | ok value =>
        by_cases closes : received.opcode = .close
        · exact .inl ⟨self.onClose received after world.polls, by simp [closes]⟩
        · exact .inr (by simp [closes])
    · exact .inr rfl

/-- Behind its own Close a session sends nothing. -/
theorem Session.Closing.run (closing : self.Closing) : (self.run args wait rounds).1 = [] := by
  induction rounds with
  | nil => rfl
  | cons round rounds ih =>
    obtain ⟨event, world⟩ := round
    rw [Session.run]
    split
    · rename_i waits
      rcases closing.step waits with ⟨outcome, ended⟩ | same
      · rw [ended]
        rfl
      · rw [same]
        simpa using ih
    · exact ih

/-- What a session may send: what the user asks for, in order, and at the end perhaps a
Close of its own. -/
structure Sends (args : MessageArgs) (session : Session) (rounds : List (Event × World))
    (frames : List Frame) : Prop where
  split : ∃ typed own, frames = typed ++ own ∧ typed <+: asked args rounds ∧
    (session.inputDone → typed = []) ∧ (own = [] ∨ own = [Session.goodbye])
  last : ∀ frame ∈ frames.dropLast, frame.opcode ≠ .close
  typed : ∀ frame ∈ frames, Typed frame

namespace Sends

private theorem nil : Sends args self rounds [] where
  split := ⟨[], [], rfl, List.nil_prefix, fun _ => rfl, .inl rfl⟩
  last := by simp
  typed := by simp

private theorem goodbye : Sends args self rounds [Session.goodbye] where
  split := ⟨[], [Session.goodbye], rfl, List.nil_prefix, fun _ => rfl, .inr rfl⟩
  last := by simp
  typed := by simpa using goodbye_typed

private theorem single {frame : Frame} (wanted : event.typed args = some frame)
    (reads : self.inputDone = false) (typed : Typed frame) :
    Sends args self ((event, world) :: rounds) [frame] where
  split := by
    refine ⟨[frame], [], rfl, ?_, by simp [reads], .inl rfl⟩
    rw [asked_cons, wanted]
    simp
  last := by simp
  typed := by simpa using typed

private theorem cons {frame : Frame} (sends : Sends args self rounds frames)
    (wanted : event.typed args = some frame) (data : frame.opcode ≠ .close)
    (reads : self.inputDone = false) (typed : Typed frame) :
    Sends args self ((event, world) :: rounds) (frame :: frames) where
  split := by
    obtain ⟨typed, own, rfl, before, -, ends⟩ := sends.split
    refine ⟨frame :: typed, own, rfl, ?_, by simp [reads], ends⟩
    rw [asked_cons, wanted]
    exact List.cons_prefix_cons.mpr ⟨rfl, before⟩
  last := by
    cases frames with
    | nil => simp
    | cons second frames => simpa using ⟨data, sends.last⟩
  typed := by simpa using ⟨typed, sends.typed⟩

/-- A round that asks for nothing, or is not waited for. -/
theorem skip (sends : Sends args next rounds frames) (later : self.inputDone → next.inputDone)
    (idle : event.typed args = none ∨ next.inputDone) :
    Sends args self ((event, world) :: rounds) frames where
  split := by
    obtain ⟨typed, own, rfl, before, unread, ends⟩ := sends.split
    refine ⟨typed, own, rfl, ?_, fun done => unread (later done), ends⟩
    rcases idle with none' | done
    · rw [asked_cons, none']
      exact before
    · rw [unread done]
      exact List.nil_prefix
  last := sends.last
  typed := sends.typed

end Sends

private theorem typed_reads {frame : Frame} (wanted : event.typed args = some frame)
    (waits : self.waitsFor event) : self.inputDone = false := by
  cases event with
  | frame socket => cases wanted
  | stop signal => cases wanted
  | deadline => cases wanted
  | input given => simpa [Session.waitsFor] using waits

private theorem typed_unread (unwaited : ¬ self.waitsFor event) :
    event.typed args = none ∨ self.inputDone := by
  cases event with
  | frame socket => exact .inl rfl
  | stop signal => exact .inl rfl
  | deadline => exact .inl rfl
  | input given => exact .inr (by simpa [Session.waitsFor] using unwaited)

theorem onEvent_typed (scripted : Scripted args ((event, world) :: rounds)) {frame : Frame}
    (asks : self.onEvent args wait world event = .ok (some frame, next)) : Typed frame := by
  obtain ⟨-, wanted | ⟨rfl, -⟩⟩ := onEvent_sends asks
  · exact typed_typed scripted wanted
  · exact goodbye_typed

/-- Whoever sends a Close is closing. -/
theorem Typed.closing {frame : Frame} (typed : Typed frame) (closes : frame.opcode = .close)
    (session : Session) : (session.sending frame).Closing := by
  obtain ⟨code, coded⟩ := typed.coded closes
  simp only [Session.sending, closes, ↓reduceIte]
  exact ⟨by simp [coded], rfl⟩

/-- The input does not come back. -/
theorem onEvent_done (waits : self.waitsFor event)
    (asks : self.onEvent args wait world event = .ok (none, next)) (done : self.inputDone) :
    next.inputDone := by
  have given : event ≠ .input none := by
    rintro rfl
    simp [Session.waitsFor, done] at waits
  rw [(onEvent_silent asks).2.2 given]
  exact done

private theorem run_sends (opened : self.closingCode = none) (scripted : Scripted args rounds) :
    Sends args self rounds (self.run args wait rounds).1 := by
  induction rounds generalizing self with
  | nil => exact .nil
  | cons round rounds ih =>
    obtain ⟨event, world⟩ := round
    have later := @ih self opened scripted.tail
    rw [Session.run]
    split
    · rename_i waits
      unfold Session.step
      cases handled : self.onEvent args wait world event with
      | error outcome => exact .nil
      | ok asks =>
        obtain ⟨sent, next⟩ := asks
        cases sent with
        | none =>
          obtain ⟨same, idle, -⟩ := onEvent_silent handled
          exact (ih (same.trans opened) scripted.tail).skip (onEvent_done waits handled) (.inl idle)
        | some frame =>
          obtain ⟨rfl, why⟩ := onEvent_sends handled
          have typed := onEvent_typed scripted handled
          have alone : Sends args next ((event, world) :: rounds) [frame] := by
            rcases why with wanted | ⟨rfl, -⟩
            · exact .single wanted (typed_reads wanted waits) typed
            · exact .goodbye
          cases world.send with
          | error error => exact alone
          | ok value =>
            by_cases closes : frame.opcode = .close
            · simpa [(typed.closing closes next).run] using alone
            · have same : next.sending frame = next := if_neg closes
              rcases why with wanted | ⟨rfl, -⟩
              · simpa [same] using later.cons wanted closes (typed_reads wanted waits) typed
              · exact absurd rfl closes
    · rename_i unwaited
      exact later.skip id (typed_unread unwaited)

/-- The code of the Close that is among the frames. -/
def sentCode (frames : List Frame) : Option UInt16 :=
  (frames.find? (·.opcode = .close)).bind fun frame => frame.closeCode.map (·.toU16)

/-- The reply to the Close is the last frame that was handed on, and flushed. -/
structure Replied (peer : Frame) (socket final : WebSocket) : Prop where
  handed : ∃ earlier, final.handed = socket.handed ++ earlier ++ [.closeRaw peer.payload]
  flushed : final.streaming.FlushedLast

private theorem finishPeerClose_ok {before socket : WebSocket} {peer : Frame} {polls : Nat}
    (sound : before.Sound) (delivered : before.pollNextFrame = (.ready (.ok peer), socket))
    (closes : peer.opcode = .close) (fine : finishPeerClose polls socket = .ok ()) :
    Replied peer socket (socket.nextFrame polls).2 := by
  unfold finishPeerClose at fine
  rcases read : socket.nextFrame polls with ⟨_ | received, final⟩
  · simp [read] at fine
  · obtain ⟨⟨error, rfl⟩, out⟩ := WebSocket.nextFrame_replied sound delivered closes read
    cases error with
    | connectionClosed =>
      obtain ⟨handed, flushed⟩ := out rfl
      exact ⟨handed, flushed⟩
    | _ => simp [read] at fine

/-- The peer closes as a session that has closed with this code, or not at all, takes to
be in order. Without a Close of its own the session has replied. -/
structure Farewell (closing : Option UInt16) (peer : Frame) (socket : WebSocket) (world : World) :
    Prop where
  closes : peer.opcode = .close
  replied : closing = none → Replied peer socket (socket.nextFrame world.polls).2
  code : ∀ code, peer.closeCode = some code →
    code.toU16 = 1000 ∨ code.toU16 = 1001 ∨ closing = some code.toU16

private theorem onClose_ok {before socket : WebSocket} {peer : Frame} (sound : before.Sound)
    (delivered : before.pollNextFrame = (.ready (.ok peer), socket)) (closes : peer.opcode = .close)
    (fine : self.onClose peer socket world.polls = .ok ()) :
    Farewell self.closingCode peer socket world := by
  have judged (fine : self.judge peer = .ok ()) (code : CloseCode)
      (coded : peer.closeCode = some code) :
      code.toU16 = 1000 ∨ code.toU16 = 1001 ∨ self.closingCode = some code.toU16 := by
    unfold Session.judge at fine
    simp only [coded] at fine
    split at fine
    · rename_i orderly
      simpa [or_assoc] using orderly
    · split at fine <;> cases fine
  unfold Session.onClose at fine
  split at fine
  · simp only [bind_ok] at fine
    obtain ⟨_, replied, fine⟩ := fine
    exact ⟨closes, fun _ => finishPeerClose_ok sound delivered closes replied, judged fine⟩
  · rename_i closing
    exact ⟨closes, fun none' => absurd (by simp [none']) closing, judged fine⟩

/-- Only a Close of the peer ends a session well. -/
theorem onEvent_ok (sound : ∀ socket, event = .frame socket → socket.Sound)
    (fine : self.onEvent args wait world event = .error (.ok ())) :
    ∃ before peer socket, event = .frame before ∧
      before.pollNextFrame = (.ready (.ok peer), socket) ∧
      Farewell self.closingCode peer socket world := by
  cases event with
  | stop signal => cases signal <;> cases fine
  | deadline =>
    simp only [Session.onEvent] at fine
    split at fine <;> cases fine
  | input given =>
    cases given with
    | none => cases fine
    | some input =>
      cases input with
      | error message => cases fine
      | interrupted => cases fine
      | frame given => cases fine
      | line line =>
        simp only [Session.onEvent] at fine
        split at fine <;> cases fine
  | frame before =>
    rcases delivered : before.pollNextFrame with ⟨(error | peer) | _, socket⟩
    · simp [Session.onEvent, delivered] at fine
    · simp only [Session.onEvent, delivered] at fine
      split at fine
      · cases fine
      · split at fine
        · rename_i closes
          exact ⟨before, peer, socket, rfl, delivered,
            onClose_ok (sound before rfl) delivered closes (Except.error.inj fine)⟩
        · cases fine
    · simp [Session.onEvent, delivered] at fine

/-- The sockets the loop reads from are connections of the library. -/
def Connected (rounds : List (Event × World)) : Prop :=
  ∀ socket world, (Event.frame socket, world) ∈ rounds → socket.Reached

private theorem Connected.tail {round : Event × World} (connected : Connected (round :: rounds)) :
    Connected rounds := fun socket world member => connected socket world (.tail _ member)

/-- One of the rounds reads a Close of the peer that ends the session well. -/
def EndedBy (closing : Option UInt16) (rounds : List (Event × World)) : Prop :=
  ∃ front before world back peer socket, rounds = front ++ (.frame before, world) :: back ∧
    before.pollNextFrame = (.ready (.ok peer), socket) ∧ Farewell closing peer socket world

private theorem EndedBy.later {closing : Option UInt16} {round : Event × World}
    (ended : EndedBy closing rounds) : EndedBy closing (round :: rounds) := by
  obtain ⟨front, before, world, back, peer, socket, rfl, delivered, farewell⟩ := ended
  exact ⟨round :: front, before, world, back, peer, socket, rfl, delivered, farewell⟩

private theorem run_ended (scripted : Scripted args rounds) (connected : Connected rounds)
    (sane : self.closingCode.isSome → self.inputDone)
    (ended : (self.run args wait rounds).2 = some (.ok ())) :
    EndedBy ((sentCode (self.run args wait rounds).1).or self.closingCode) rounds := by
  induction rounds generalizing self with
  | nil => cases ended
  | cons round rounds ih =>
    obtain ⟨event, world⟩ := round
    rw [Session.run] at ended ⊢
    split at ended
    · rename_i waits
      rw [if_pos waits]
      unfold Session.step at ended ⊢
      cases handled : self.onEvent args wait world event with
      | error outcome =>
        simp only [handled, Option.some.injEq] at ended
        subst ended
        have sound (socket : WebSocket) (here : event = .frame socket) : socket.Sound :=
          (connected socket world (by simp [here])).sound
        obtain ⟨before, peer, socket, rfl, delivered, farewell⟩ := onEvent_ok sound handled
        exact ⟨[], before, world, rounds, peer, socket, rfl, delivered, farewell⟩
      | ok asks =>
        obtain ⟨sent, next⟩ := asks
        cases sent with
        | none =>
          obtain ⟨same, -⟩ := onEvent_silent handled
          have sane' : next.closingCode.isSome → next.inputDone := by
            rw [same]
            exact fun closing => onEvent_done waits handled (sane closing)
          simp only [handled] at ended ⊢
          rw [← same]
          exact (ih scripted.tail connected.tail sane' ended).later
        | some frame =>
          obtain ⟨rfl, why⟩ := onEvent_sends handled
          have typed := onEvent_typed scripted handled
          simp only [handled] at ended ⊢
          cases outcome : world.send with
          | error error =>
            simp [outcome] at ended
          | ok value =>
            simp only [outcome] at ended ⊢
            by_cases closes : frame.opcode = .close
            · obtain ⟨code, coded⟩ := typed.coded closes
              have closing := typed.closing closes next
              have later := ih scripted.tail connected.tail (fun _ => closing.done) ended
              rw [closing.run] at later ⊢
              have same : ((sentCode []).or (next.sending frame).closingCode) =
                  (sentCode [frame]).or next.closingCode := by
                simp [sentCode, Session.sending, closes, coded]
              rw [same] at later
              exact later.later
            · have same : next.sending frame = next := if_neg closes
              have skipped (rest : List Frame) :
                  sentCode ((some frame).toList ++ rest) = sentCode rest := by
                simp [sentCode, closes]
              rw [same] at ended ⊢
              rw [skipped]
              exact (ih scripted.tail connected.tail sane ended).later
    · rename_i unwaited
      rw [if_neg unwaited]
      exact (ih scripted.tail connected.tail sane ended).later

/-- A session sends what the user asks for, in order, and then perhaps a Close of its
own. Nothing follows a Close, and every frame is one that a peer takes. -/
theorem session_sends (scripted : Scripted args rounds) :
    (∃ typed own, (Session.start.run args wait rounds).1 = typed ++ own ∧
      typed <+: asked args rounds ∧ (own = [] ∨ own = [Session.goodbye])) ∧
    (∀ frame ∈ (Session.start.run args wait rounds).1.dropLast, frame.opcode ≠ .close) ∧
    ∀ frame ∈ (Session.start.run args wait rounds).1,
      Taken frame ∧ (frame.opcode.isControl → frame.payload.length ≤ 125) := by
  have opened : Session.start.closingCode = none := rfl
  have sends : Sends args .start rounds (Session.start.run args wait rounds).1 :=
    run_sends opened scripted
  obtain ⟨typed, own, split, before, -, ends⟩ := sends.split
  refine ⟨⟨typed, own, split, before, ends⟩, sends.last, ?_⟩
  intro frame member
  have typed := sends.typed frame member
  exact ⟨typed.taken, typed.short⟩

/-- A world in which everything succeeds at once. -/
def World.fine : World := { display := .ok (), polls := 1, send := .ok () }

/-- A socket on which the peer closes. -/
def closedByPeer : WebSocket :=
  .new .stored (.new [.at 0 (.close .normal [])] (List.replicate 3 (.ready (.ok ()))) 0) .plain

private theorem closedByPeer_reached : closedByPeer.Reached := by
  refine ⟨.stored, [.at 0 (.close .normal [])], List.replicate 3 (.ready (.ok ())), 0, .plain, [],
    ?_, .nil⟩
  decide

/-- A script of one message, and a peer that closes behind it. -/
def politeRounds : List (Event × World) :=
  [(.input (some (.frame (.text (textBytes "hello")))), .fine), (.input none, .fine),
    (.frame closedByPeer, .fine)]

theorem politeRounds_scripted :
    Scripted { comments := true, slash := true } politeRounds := by
  intro frame world member
  obtain ⟨rfl, -⟩ : frame = .text (textBytes "hello") ∧ world = .fine := by
    simpa [politeRounds] using member
  exact ⟨"hello // there".toList, by decide +kernel⟩

private theorem politeRounds_connected : Connected politeRounds := by
  intro socket world member
  obtain ⟨rfl, -⟩ : socket = closedByPeer ∧ world = .fine := by simpa [politeRounds] using member
  exact closedByPeer_reached

theorem session_sends_polite :
    (Session.start.run { comments := true, slash := true } true politeRounds).1 =
        [.text (textBytes "hello")] ∧
      Taken (.text (textBytes "hello")) := by
  have sent : (Session.start.run { comments := true, slash := true } true politeRounds).1 =
      [.text (textBytes "hello")] := by decide +kernel
  have taken := (@session_sends { comments := true, slash := true } true _ politeRounds_scripted).2.2
  rw [sent] at taken
  exact ⟨sent, (taken _ (by simp)).1⟩

/-- A session ends well only with a Close of the peer: one without a code, with that of
a normal end or with the code that the session closed with itself. If it has sent none, its
reply is out. -/
theorem session_ends (scripted : Scripted args rounds) (connected : Connected rounds)
    (ended : (Session.start.run args wait rounds).2 = some (.ok ())) :
    ∃ front before world back peer socket, rounds = front ++ (.frame before, world) :: back ∧
      before.pollNextFrame = (.ready (.ok peer), socket) ∧
      Farewell (sentCode (Session.start.run args wait rounds).1) peer socket world := by
  have sane : Session.start.closingCode.isSome → Session.start.inputDone := by decide
  obtain ⟨front, before, world, back, peer, socket, split, delivered, farewell⟩ :=
    run_ended scripted connected sane ended
  have start : Session.start.closingCode = none := rfl
  rw [start, Option.or_none] at farewell
  exact ⟨front, before, world, back, peer, socket, split, delivered, farewell⟩

theorem session_ends_polite :
    ∃ front before world back peer socket,
      politeRounds = front ++ (.frame before, world) :: back ∧
      before.pollNextFrame = (.ready (.ok peer), socket) ∧
      Replied peer socket (socket.nextFrame world.polls).2 := by
  have ended : (Session.start.run { comments := true, slash := true } true politeRounds) =
      ([.text (textBytes "hello")], some (.ok ())) := by decide +kernel
  obtain ⟨front, before, world, back, peer, socket, split, delivered, farewell⟩ :=
    session_ends politeRounds_scripted politeRounds_connected (congrArg Prod.snd ended)
  rw [ended] at farewell
  exact ⟨front, before, world, back, peer, socket, split, delivered, farewell.replied rfl⟩

end Runs

end Yawc.Yawcc
