import Yawc.Native.Delivery
import Yawc.Native.Origins

/-! What automatic fragmentation does to a frame: when it comes to an end, and
which frames it leaves whole. -/

namespace Yawc

section Ending

/-- Fragments of size 0 take nothing off the payload. -/
theorem Split.collect_zero (fuel index : Nat) {frame : Frame} (carries : frame.payload ≠ []) :
    Split.collect fuel ⟨index, 0, some frame⟩ = none := by
  induction fuel generalizing index with
  | zero => rfl
  | succ fuel ih =>
    have some' : ¬ frame.payload.length ≤ 0 := by
      rw [Nat.le_zero, List.length_eq_zero_iff]
      exact carries
    simp [Split.collect, Split.next, some', ih]

/-- A frame that fits is its only fragment. -/
theorem Split.collect_fits {size : Nat} {frame : Frame} (fits : frame.payload.length ≤ size) :
    (frame.intoFragments size).collect (frame.payload.length + 2) = some [frame] := by
  simp [Split.collect, Split.next, Frame.intoFragments, fits]

theorem Split.collect_ends_iff (size : Nat) (frame : Frame) :
    (∃ fuel fragments, (frame.intoFragments size).collect fuel = some fragments) ↔
      0 < size ∨ frame.payload = [] := by
  constructor
  · rintro ⟨fuel, fragments, collected⟩
    by_contra stuck
    simp only [not_or, Nat.pos_iff_ne_zero, not_not] at stuck
    obtain ⟨rfl, carries⟩ := stuck
    rw [Frame.intoFragments, Split.collect_zero fuel 0 carries] at collected
    contradiction
  · rintro (positive | empty)
    · obtain ⟨fragments, collected, -⟩ := Split.collect_fragmented positive frame
      exact ⟨_, fragments, collected⟩
    · exact ⟨_, [frame], Split.collect_fits (by simp [empty])⟩

/-- The rounds the fragment layer's model makes are enough. -/
theorem FragmentLayer.fragmentOutgoing_returns_iff {size : Nat} {layer : FragmentLayer}
    (set : layer.fragmentSize = some size) {frame : Frame} (whole : frame.fin) :
    (∃ after, layer.fragmentOutgoing frame = some after) ↔ 0 < size ∨ frame.payload = [] := by
  rw [← Split.collect_ends_iff size frame]
  constructor
  · rintro ⟨after, sent⟩
    simp only [fragmentOutgoing, fragmentsOf, whole, set, Bool.not_true, Bool.false_eq_true,
      false_and, ↓reduceIte, Option.getD_some, Option.map_eq_some_iff] at sent
    obtain ⟨fragments, collected, -⟩ := sent
    exact ⟨_, fragments, collected⟩
  · intro ends
    have returns : ∃ fragments,
        (frame.intoFragments size).collect (frame.payload.length + 2) = some fragments := by
      rcases (Split.collect_ends_iff size frame).mp ends with positive | empty
      · obtain ⟨fragments, collected, -⟩ := Split.collect_fragmented positive frame
        exact ⟨fragments, collected⟩
      · exact ⟨[frame], Split.collect_fits (by simp [empty])⟩
    obtain ⟨fragments, collected⟩ := returns
    refine ⟨{ layer with outgoingFragments := layer.outgoingFragments ++ fragments }, ?_⟩
    simp [fragmentOutgoing, fragmentsOf, whole, set, collected]

/-- Under any size the options take, the fragments of a frame come to an end, and
queueing them returns, exactly if the size is not 0 or the frame is empty. -/
theorem fragments_end_iff (options : Options) (size : UInt64) (layer : FragmentLayer)
    (set : layer.fragmentSize =
      ((options.withMaxFragmentSize size).fragmentation.bind (·.fragmentSize)).map (·.toNat))
    (frame : Frame) (whole : frame.fin) :
    ((∃ fuel fragments, (frame.intoFragments size.toNat).collect fuel = some fragments) ↔
        0 < size ∨ frame.payload = []) ∧
      ((∃ after, layer.fragmentOutgoing frame = some after) ↔ 0 < size ∨ frame.payload = []) := by
  have positive : 0 < size ↔ 0 < size.toNat := UInt64.lt_iff_toNat_lt
  rw [positive]
  exact ⟨Split.collect_ends_iff size.toNat frame,
    FragmentLayer.fragmentOutgoing_returns_iff (by simpa [Options.withMaxFragmentSize] using set)
      whole⟩

theorem fragments_end_iff_hello :
    let layer := FragmentLayer.new (some 2) 1024 none
    let frame := Frame.text (textBytes "Hello")
    (∃ fuel fragments, (frame.intoFragments 2).collect fuel = some fragments) ∧
      ∃ after, layer.fragmentOutgoing frame = some after := by
  have both := fragments_end_iff .default 2 (.new (some 2) 1024 none) rfl
    (.text (textBytes "Hello")) rfl
  exact ⟨both.1.mpr (.inl (by decide)), both.2.mpr (.inl (by decide))⟩

/-- With size 0, a frame of one byte has no last fragment. -/
theorem size_zero_endless :
    (Options.default.withMaxFragmentSize 0).fragmentation =
        some { timeout := none, fragmentSize := some 0 } ∧
      (Frame.text [0x61]).fin ∧
      ∀ fuel, ((Frame.text [0x61]).intoFragments 0).collect fuel = none :=
  ⟨rfl, rfl, fun fuel => Split.collect_zero fuel 0 (by simp [Frame.text, Frame.new])⟩

end Ending

section Whole

variable {size : Option Nat} {start self final : Sender} {item : Frame} {group : List Frame}

/-- What the sender makes of each frame it is given, under a fragment size. -/
def Sender.shares (size : Option Nat) : Sender → List Frame → Option (List (List Frame) × Sender)
  | self, [] => some ([], self)
  | self, item :: items =>
    match self.sendAll (pieces size item) with
    | none => none
    | some (group, self) => (self.shares size items).map fun (groups, self) => (group :: groups, self)

private theorem Sender.shares_flatten {items sent : List Frame}
    (done : self.sendAll (items.flatMap (pieces size)) = some (sent, final)) :
    ∃ groups, self.shares size items = some (groups, final) ∧ groups.flatten = sent := by
  induction items generalizing self sent with
  | nil =>
    simp only [List.flatMap_nil, Sender.sendAll, Option.some.injEq, Prod.mk.injEq] at done
    obtain ⟨rfl, rfl⟩ := done
    exact ⟨[], rfl, rfl⟩
  | cons item items ih =>
    obtain ⟨first, middle, second, front, back, rfl⟩ := Sender.sendAll_split done
    obtain ⟨groups, shared, rfl⟩ := ih back
    exact ⟨first :: groups, by simp [Sender.shares, front, shared], rfl⟩

private theorem Sender.sendAll_length {items sent : List Frame}
    (done : self.sendAll items = some (sent, final)) : sent.length = items.length := by
  induction items generalizing self sent with
  | nil =>
    simp only [Sender.sendAll, Option.some.injEq, Prod.mk.injEq] at done
    rw [← done.1]
  | cons item items ih =>
    obtain ⟨first, middle, second, front, back, rfl⟩ := Sender.sendAll_split
      (show self.sendAll ([item] ++ items) = _ from done)
    have one : first.length = 1 := by
      simp only [Sender.sendAll] at front
      split at front
      · simp at front
      · simp only [Option.map_some, Option.some.injEq, Prod.mk.injEq] at front
        simp [← front.1]
    rw [List.length_append, one, ih back, List.length_cons, Nat.add_comm]

/-- The peer's decoder takes the frame, under any limit above its length. -/
def Frame.Decodes (frame : Frame) : Prop :=
  ∀ (cpu encoderCpu : Cpu) (role : Role) (limit : UInt64) (random : Mask) (more : Bytes),
    frame.payload.length < limit.toNat → (role = .server → frame.mask = none) →
    (Decoder.new role.opposite limit).decode cpu
        (Encoder.encode encoderCpu role frame random [] ++ more) =
      (.ok (some (frame.sentBy role random)), Decoder.new role.opposite limit, more)

/-- The frame goes out as one final frame with its opcode, and a control frame
with its payload, which the peer takes if it has the length of one. -/
structure OneFrame (item : Frame) (group : List Frame) : Prop where
  one : ∃ frame, group = [frame] ∧ frame.fin ∧ frame.opcode = item.opcode ∧
    (item.opcode.isControl → frame.payload = item.payload ∧
      (item.payload.length ≤ 125 → frame.Decodes))

/-- Only Text and Binary messages go out as more or less than one frame. -/
def Unsplit (item : Frame) (group : List Frame) : Prop :=
  item.opcode = .text ∨ item.opcode = .binary ∨ OneFrame item group

/-- A frame that may not or need not be split. -/
def Spared (size : Option Nat) (item : Frame) : Prop :=
  item.opcode = .text ∨ item.opcode = .binary ∨ ∀ limit ∈ size, item.payload.length ≤ limit

private theorem Sender.send_control (control : item.opcode.isControl) :
    self.send item = (.ok item, self.after item) := by
  unfold Sender.send
  split
  · rfl
  · simp [Sender.compresses, control]

private theorem decodes_control (whole : item.fin) (small : item.payload.length ≤ 125) :
    item.Decodes := by
  intro cpu encoderCpu role limit random more fits unmasked
  exact Decoder.decode_encode cpu encoderCpu ⟨fun _ => whole, fun _ => small, fits, unmasked⟩
    random more

/-- A frame that is its only piece goes out as one. -/
theorem oneFrame_of_pieces (whole : item.fin) (single : pieces size item = [item])
    (sent : self.sendAll (pieces size item) = some (group, final)) : OneFrame item group := by
  rw [single] at sent
  simp only [Sender.sendAll] at sent
  split at sent
  · simp at sent
  · rename_i frame next taken
    simp only [Option.map_some, Option.some.injEq, Prod.mk.injEq] at sent
    obtain ⟨rfl, rfl⟩ := sent
    obtain ⟨opcode, fin, -⟩ := Streaming.send_frame taken
    refine ⟨frame, rfl, fin.trans whole, opcode, ?_⟩
    intro control
    rw [Sender.send_control control] at taken
    simp only [Prod.mk.injEq, Except.ok.injEq] at taken
    obtain ⟨rfl, -⟩ := taken
    exact ⟨rfl, decodes_control whole⟩

private theorem pieces_single_iff : (pieces size item).length = 1 ↔
    ∀ limit ∈ size, item.payload.length ≤ limit := by
  cases size with
  | none => simp [pieces]
  | some limit =>
    simp only [Option.mem_def, Option.some.injEq, forall_eq', pieces]
    by_cases fits : item.payload.length ≤ limit
    · simp [Split.collect_fits fits, fits]
    · simp only [fits, iff_false]
      by_cases positive : 0 < limit
      · obtain ⟨fragments, collected, fragmented⟩ := Split.collect_fragmented positive item
        rw [collected, Option.getD_some]
        cases fragmented with
        | whole fits' => exact absurd fits' fits
        | split _ _ _ later _ =>
          cases later with
          | last => simp
          | more => simp
      · obtain rfl : limit = 0 := Nat.eq_zero_of_not_pos positive
        have carries : item.payload ≠ [] := by
          rintro empty
          simp [empty] at fits
        simp [Frame.intoFragments, Split.collect_zero _ 0 carries]

theorem pieces_fits (fits : ∀ limit ∈ size, item.payload.length ≤ limit) :
    pieces size item = [item] := by
  cases size with
  | none => rfl
  | some limit => simp [pieces, Split.collect_fits (fits limit rfl)]

private theorem unsplit_iff (whole : item.fin)
    (sent : self.sendAll (pieces size item) = some (group, final)) :
    Unsplit item group ↔ Spared size item := by
  unfold Unsplit Spared
  apply or_congr_right
  apply or_congr_right
  constructor
  · rintro ⟨frame, rfl, -⟩
    rw [← pieces_single_iff]
    exact (Sender.sendAll_length sent).symm
  · intro fits
    exact oneFrame_of_pieces whole (pieces_fits fits) sent

private theorem shares_unsplit_iff {items : List Frame} {groups : List (List Frame)}
    (shared : self.shares size items = some (groups, final)) :
    List.Forall₂ (fun item group => item.fin → (Unsplit item group ↔ Spared size item))
      items groups := by
  induction items generalizing self groups with
  | nil =>
    simp only [Sender.shares, Option.some.injEq, Prod.mk.injEq] at shared
    rw [← shared.1]
    exact .nil
  | cons item items ih =>
    simp only [Sender.shares] at shared
    split at shared
    · simp at shared
    · rename_i group middle sent
      simp only [Option.map_eq_some_iff, Prod.mk.injEq] at shared
      obtain ⟨⟨others, _⟩, later, rfl, rfl⟩ := shared
      exact .cons (fun whole => unsplit_iff whole sent) (ih later)

/-- Without a frame to be split, the pieces of what was given are whole, apart
from those of a message. -/
theorem spared_pieces {given : List Frame} (spared : ∀ item ∈ given, Spared size item)
    {piece : Frame} (member : piece ∈ given.flatMap (pieces size)) :
    ∃ item ∈ given, piece = item ∨
      (item.opcode = .text ∨ item.opcode = .binary) ∧ piece.opcode.isControl = false := by
  obtain ⟨item, accepted, piece'⟩ := List.mem_flatMap.mp member
  refine ⟨item, accepted, ?_⟩
  have data (message : item.opcode = .text ∨ item.opcode = .binary) :
      piece.opcode.isControl = false := by
    rcases pieces_opcode size item piece piece' with same | continued
    · rcases message with text | binary
      · simp [same, text, OpCode.isControl]
      · simp [same, binary, OpCode.isControl]
    · simp [continued, OpCode.isControl]
  rcases spared item accepted with text | binary | fits
  · exact .inr ⟨.inl text, data (.inl text)⟩
  · exact .inr ⟨.inr binary, data (.inr binary)⟩
  · rw [pieces_fits fits, List.mem_singleton] at piece'
    exact .inl piece'

/-- A run in which everything given is handed on: the transport answers ready or
pending, the connection is not closed, no call fails, and nothing waits at the
end. -/
structure Drained (stream : Framed) (trace : List (Call × Answer)) (sender : WebSocket) :
    Prop where
  healthy : stream.Healthy
  unclosed : ∀ pair ∈ trace, pair.1 ≠ .pollClose
  unfailed : ∀ pair ∈ trace, ¬ pair.2.failed
  empty : sender.fragmentLayer.outgoingFragments = []

/-- In every run in which each accepted frame is a Text or Binary message or fits
the fragment size, all that is handed to the codec or waits for it are such
frames, whole, parts of messages, and the connection's own replies. When all has
been handed on, a whole frame was kept to one frame exactly if it is one of
these. -/
theorem handed_unsplit_iff {flate : Flate} {incoming : List Arrival} {replies : List Reply}
    {clock : Nat} {opts : Negotiation} {trace : List (Call × Answer)} {sender : WebSocket}
    (run : Trace.Run WebSocket.step (fun _ _ => True)
      (.new flate (.new incoming replies clock) opts) trace sender) :
    ((∀ item ∈ trace.filterMap Call.accepted, Spared opts.fragmentSize item) →
      ∀ frame ∈ sender.handed ++ sender.fragmentLayer.outgoingFragments, frame.Automatic ∨
        ∃ item ∈ trace.filterMap Call.accepted, frame.StemsFrom item ∨
          (item.opcode = .text ∨ item.opcode = .binary) ∧ frame.opcode.isControl = false) ∧
    (Drained (.new incoming replies clock) trace sender →
      ∃ groups replied,
        (Streaming.new flate (.new incoming replies clock) opts).sender.shares opts.fragmentSize
            (trace.filterMap Call.accepted) = some (groups, sender.streaming.sender) ∧
        Interleaved replied groups.flatten sender.handed ∧
        (∀ frame ∈ replied, frame.Automatic) ∧
        List.Forall₂
          (fun item group => item.fin → (Unsplit item group ↔ Spared opts.fragmentSize item))
          (trace.filterMap Call.accepted) groups) := by
  constructor
  · intro spared frame member
    have traced := (Traced.new flate incoming replies clock opts).run run
    rcases List.mem_append.mp member with handed | waiting
    · rcases traced.sends.handed frame handed with own | ⟨piece, given, stems⟩
      · exact .inl own
      · obtain ⟨item, accepted, rfl | ⟨message, data⟩⟩ := spared_pieces spared given
        · exact .inr ⟨piece, accepted, .inl stems⟩
        · exact .inr ⟨item, accepted, .inr ⟨message, by rw [stems.opcode, data]⟩⟩
    · obtain ⟨item, accepted, rfl | part⟩ := spared_pieces spared (traced.waits frame waiting)
      · exact .inr ⟨frame, accepted, .inl ⟨rfl, rfl, fun _ => rfl⟩⟩
      · exact .inr ⟨item, accepted, .inr part⟩
  · intro drained
    obtain ⟨done, sent, replied, progress, split, -⟩ :=
      (Conserved.new flate drained.healthy).run run drained.unclosed (.inr drained.unfailed)
    rw [List.nil_append, drained.empty, List.append_nil] at split
    have prepared := progress.prepared
    rw [← split] at prepared
    obtain ⟨groups, shared, rfl⟩ := Sender.shares_flatten prepared
    refine ⟨groups, replied, shared, progress.handed, ?_, shares_unsplit_iff shared⟩
    intro frame member
    exact progress.control frame (by simp [progress.owed, member])

/-- A Ping that fits, then a message that does not. -/
theorem handed_unsplit_iff_ping :
    ∃ trace sender,
      Trace.Run WebSocket.step (fun _ _ => True)
        (.new .stored (.new [] (List.replicate 9 (.ready (.ok ()))) 0)
          { Negotiation.plain with fragmentation := some ⟨none, some 2⟩ }) trace sender ∧
      trace.filterMap Call.accepted = [.ping [1, 2], .text [104, 101, 121]] ∧
      sender.handed =
        [.ping [1, 2], (Frame.text [104, 101]).withFin false, .continuation [121]] ∧
      ∀ frame ∈ sender.handed ++ sender.fragmentLayer.outgoingFragments, frame.Automatic ∨
        ∃ item ∈ trace.filterMap Call.accepted, frame.StemsFrom item ∨
          (item.opcode = .text ∨ item.opcode = .binary) ∧ frame.opcode.isControl = false := by
  obtain ⟨trace, sender, run, accepted, handed⟩ : ∃ trace sender,
      Trace.Run WebSocket.step (fun _ _ => True)
        (.new .stored (.new [] (List.replicate 9 (.ready (.ok ()))) 0)
          { Negotiation.plain with fragmentation := some ⟨none, some 2⟩ }) trace sender ∧
      trace.filterMap Call.accepted = [.ping [1, 2], .text [104, 101, 121]] ∧
      sender.handed =
        [.ping [1, 2], (Frame.text [104, 101]).withFin false, .continuation [121]] :=
    ⟨_, _, .of_exec [.startSend (.ping [1, 2]), .startSend (.text [104, 101, 121]), .pollFlush] rfl,
      rfl, by decide⟩
  refine ⟨trace, sender, run, accepted, handed, (handed_unsplit_iff run).1 ?_⟩
  rw [accepted]
  intro item member
  simp only [List.mem_cons, List.not_mem_nil, or_false] at member
  rcases member with rfl | rfl
  · right
    right
    simp [Negotiation.fragmentSize, Frame.ping, Frame.new]
  · exact .inl rfl

/-- A Ping of two bytes under a fragment size of 1 goes to the codec as two
frames, of which the peer's decoder refuses the first. -/
theorem ping_split :
    ∃ trace sender,
      Trace.Run WebSocket.step (fun _ _ => True)
        (.new .stored (.new [] (List.replicate 5 (.ready (.ok ()))) 0)
          { Negotiation.plain with fragmentation := some ⟨none, some 1⟩ }) trace sender ∧
      trace = [(.startSend (.ping [1, 2]), .sent (.ok ())), (.pollFlush, .reply (.ready (.ok ())))] ∧
      sender.handed = [(Frame.ping [1]).withFin false, .continuation [2]] ∧
      ((Decoder.new .client 1024).decode .scalar
        (Encoder.encode .scalar .server ((Frame.ping [1]).withFin false) ⟨0, 0, 0, 0⟩ [])).1 =
          .error .controlFrameFragmented :=
  ⟨_, _, .of_exec [.startSend (.ping [1, 2]), .pollFlush] rfl, rfl, by decide, by rfl⟩

end Whole

end Yawc
