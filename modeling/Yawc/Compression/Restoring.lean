import Yawc.Compression.Bounds

/-! What one end of a connection compresses, the other restores: in fragments and
with chunks of any size, with or without context takeover. -/

namespace Yawc.Pooling

variable {Compress Decompress : Type}

/-- What is assumed of deflate streams. A stream stands for a text, and more of it
only adds to the text. At the end of a block and of a byte an empty stored block
may be put in, and says nothing. -/
structure Format where
  text : Bytes → Bytes
  Valid : Bytes → Prop
  Aligned : Bytes → Prop
  text_grows : ∀ front back, text front <+: text (front ++ back)
  valid_front : ∀ {front back}, Valid (front ++ back) → Valid front
  text_void : ∀ {front} back, Aligned front →
    text (front ++ (emptyBlock ++ back)) = text (front ++ back)
  valid_void : ∀ {front back}, Aligned front → Valid (front ++ back) →
    Valid (front ++ (emptyBlock ++ back))
  aligned_void : ∀ {front back}, Aligned front → Aligned (front ++ back) →
    Aligned (front ++ (emptyBlock ++ back))

/-- A stream with empty stored blocks put in. -/
inductive Format.Padded (format : Format) (stream : Bytes) : Bytes → Prop where
  | same : Padded format stream stream
  | void {front back : Bytes} (pads : Padded format stream (front ++ back))
      (aligned : format.Aligned front) : Padded format stream (front ++ (emptyBlock ++ back))

namespace Format.Padded

variable {format : Format} {stream padded : Bytes}

theorem append (pads : Padded format stream padded) (more : Bytes) :
    Padded format (stream ++ more) (padded ++ more) := by
  induction pads with
  | same => exact .same
  | void _ aligned ih =>
    rw [List.append_assoc] at ih
    rw [List.append_assoc, List.append_assoc]
    exact .void ih aligned

private theorem text_eq (pads : Padded format stream padded) :
    format.text padded = format.text stream := by
  induction pads with
  | same => rfl
  | void _ aligned ih => rw [format.text_void _ aligned, ih]

private theorem valid (pads : Padded format stream padded) (whole : format.Valid stream) :
    format.Valid padded := by
  induction pads with
  | same => exact whole
  | void _ aligned ih => exact format.valid_void aligned ih

private theorem aligned (pads : Padded format stream padded) (ends : format.Aligned stream) :
    format.Aligned padded := by
  induction pads with
  | same => exact ends
  | void _ aligned ih => exact format.aligned_void aligned ih

/-- A block at the end of a stream. -/
theorem snoc (pads : Padded format stream padded) (ends : format.Aligned stream) :
    Padded format stream (padded ++ emptyBlock) := by
  have whole : Padded format stream (padded ++ []) := by simpa using pads
  simpa using Padded.void whole (pads.aligned ends)

end Format.Padded

namespace Codec

variable {Settings Flush Object : Type}

/-- An object with all that it took and wrote since it was built. -/
inductive Streams (codec : Codec Settings Flush Object) (settings : Settings) (window : UInt8) :
    Object → Bytes → Bytes → Prop where
  | built : Streams codec settings window (codec.newWithWindowBits settings window) [] []
  | called {object : Object} {taken written : Bytes}
      (streams : Streams codec settings window object taken written) (input : Bytes) (room : Nat)
      (flush : Flush) (succeeded : (codec.call object input room flush).status.isOk) :
      Streams codec settings window (codec.call object input room flush).next
        (taken ++ input.take (codec.call object input room flush).consumed)
        (written ++ (codec.call object input room flush).written)

private theorem Streams.used {codec : Codec Settings Flush Object} {settings : Settings}
    {window : UInt8}
    {object : Object} {taken written : Bytes}
    (streams : codec.Streams settings window object taken written) :
    codec.Used settings window object := by
  induction streams with
  | built => exact .built
  | called _ _ _ _ _ ih => exact ih.called _ _ _

/-- What is assumed of flate2's compressors: `queue` is what a sync flush would write.
Together with it the output is a stream for all the input. Behind a flush nothing is
queued, or another marker if the backend writes one for every flush. -/
structure Deflates (codec : Codec UInt32 FlushCompress Compress) (format : Format)
    (level : UInt32) (window : UInt8) (queue : Compress → Bytes) : Prop where
  fresh : queue (codec.newWithWindowBits level window) = [] ∨
    syncMarker <:+ queue (codec.newWithWindowBits level window)
  takes : ∀ {object taken written}, codec.Streams level window object taken written →
    ∀ {input room}, input ≠ [] → (codec.call object input room .partialFlush).status = .ok .ok →
      (codec.call object input room .partialFlush).consumed ≤ input.length ∧
      syncMarker <:+ queue (codec.call object input room .partialFlush).next
  flushes : ∀ {object taken written}, codec.Streams level window object taken written →
    ∀ {room}, 0 < room →
      (codec.call object [] room .syncFlush).status =
        .ok (if queue object = [] then .bufError else .ok) ∧
      (codec.call object [] room .syncFlush).written = (queue object).take room ∧
      if room < (queue object).length then
        queue (codec.call object [] room .syncFlush).next = (queue object).drop room
      else
        queue (codec.call object [] room .syncFlush).next = [] ∨
          syncMarker <:+ queue (codec.call object [] room .syncFlush).next
  restored : ∀ {object taken written}, codec.Streams level window object taken written →
    format.Valid (written ++ queue object) ∧ format.text (written ++ queue object) = taken
  aligned : ∀ {object taken written}, codec.Streams level window object taken written →
    queue object = [] → format.Aligned written

/-- What is assumed of flate2's decompressors: a call takes and writes as much as it
can, so it only stops where its chunk is full or all is taken and written. -/
structure Inflates (codec : Codec Unit FlushDecompress Decompress) (format : Format)
    (window : UInt8) : Prop where
  called : ∀ {object taken written}, codec.Streams () window object taken written →
    ∀ input room mode, format.Valid (taken ++ input) → 0 < room →
      ((codec.call object input room mode).status = .ok .ok ∨
        (codec.call object input room mode).status = .ok .bufError) ∧
      written ++ (codec.call object input room mode).written <+:
        format.text (taken ++ input.take (codec.call object input room mode).consumed) ∧
      ((codec.call object input room mode).written.length < room →
        input.length ≤ (codec.call object input room mode).consumed ∧
        format.text (taken ++ input) = written ++ (codec.call object input room mode).written)

end Codec

/-- The part of the stream that a frame stands for. -/
def fed (bytes : Bytes) (streamEnd : Bool) : Bytes :=
  if streamEnd then bytes ++ syncMarker else bytes

namespace Deflate

variable {flate : Codec UInt32 FlushCompress Compress} {format : Format} {level : UInt32}
  {window : UInt8} {queue : Compress → Bytes} {self next : Deflate Compress} {rooms : List Room}
  {input taken written : Bytes}

/-- No chunk of a flush but the last ends behind bytes that look like the marker. -/
def Honest : List Room → Bytes → Bytes → Prop
  | [], _, _ => True
  | room :: rooms, output, queue =>
    queue.length ≤ room.1 ∨
      ¬ syncMarker <:+ output ++ queue.take room.1 ∧
        Honest rooms (output ++ queue.take room.1) (queue.drop room.1)

/-- All of the input is taken, and what is written for it is in the output. -/
theorem writeAll_streams (deflates : flate.Deflates format level window queue) {left : List Room}
    (streams : flate.Streams level window self.compressor taken written)
    (done : self.writeAll flate rooms input = some (.ok left, next)) :
    ∃ more, next.output = self.output ++ more ∧
      flate.Streams level window next.compressor (taken ++ input) (written ++ more) ∧
      (input = [] ∧ next = self ∨ syncMarker <:+ queue next.compressor) := by
  induction rooms generalizing self input taken written with
  | nil =>
    cases input with
    | nil =>
      simp only [writeAll, Option.some.injEq, Prod.mk.injEq] at done
      obtain ⟨-, rfl⟩ := done
      exact ⟨[], by simp, by simpa using streams, .inl ⟨rfl, rfl⟩⟩
    | cons byte bytes => simp [writeAll] at done
  | cons room rooms ih =>
    cases input with
    | nil =>
      simp only [writeAll, Option.some.injEq, Prod.mk.injEq] at done
      obtain ⟨-, rfl⟩ := done
      exact ⟨[], by simp, by simpa using streams, .inl ⟨rfl, rfl⟩⟩
    | cons byte bytes =>
      simp only [writeAll, write] at done
      split at done
      · simp at done
      · rename_i consumed after first
        split at first
        · rename_i status
          simp only [Prod.mk.injEq, Except.ok.injEq] at first
          obtain ⟨rfl, rfl⟩ := first
          obtain ⟨within, marked⟩ := deflates.takes streams (by simp) status
          have called := streams.called (byte :: bytes) room .partialFlush (by rw [status]; rfl)
          obtain ⟨more, output, later, settled⟩ := ih called done
          refine ⟨_, by rw [output, List.append_assoc], ?_, ?_⟩
          · rw [← List.append_assoc]
            simpa [List.append_assoc, List.take_append_drop] using later
          · rcases settled with ⟨-, rfl⟩ | settled
            · exact .inr marked
            · exact .inr settled
        all_goals simp at first

/-- The queue is empty, or a flush has not begun. -/
def Settled (queue : Compress → Bytes) (self : Deflate Compress) : Prop :=
  queue self.compressor = [] ∨ syncMarker <:+ queue self.compressor

/-- A flush that meets no false marker writes all that was queued, and returns it
without the marker. -/
theorem flush_streams (deflates : flate.Deflates format level window queue)
    {result : Result Bytes} (streams : flate.Streams level window self.compressor taken written)
    (more : queue self.compressor ≠ [])
    (marked : syncMarker <:+ self.output ++ queue self.compressor)
    (honest : Honest rooms self.output (queue self.compressor))
    (done : self.flush flate rooms = some (result, next)) :
    ∃ bytes, result = .ok bytes ∧ bytes ++ syncMarker = self.output ++ queue self.compressor ∧
      next.output = [] ∧ next.Settled queue ∧
      flate.Streams level window next.compressor taken (written ++ queue self.compressor) := by
  induction rooms generalizing self written with
  | nil => simp [flush] at done
  | cons room rooms ih =>
    obtain ⟨status, wrote, left⟩ := deflates.flushes streams (Nat.lt_of_lt_of_le (by decide) room.2)
    rw [if_neg more] at status
    have called := streams.called [] room .syncFlush (by rw [status]; rfl)
    rw [List.take_nil, List.append_nil, wrote] at called
    have some : ((queue self.compressor).take room.1).isEmpty = false := by
      rw [List.isEmpty_eq_false_iff, ne_eq, List.take_eq_nil_iff, not_or]
      exact ⟨Nat.ne_of_gt (Nat.lt_of_lt_of_le (by decide) room.2), more⟩
    simp only [flush, status, wrote, some, Bool.false_eq_true, false_and, ↓reduceIte,
      List.isSuffixOf_iff_suffix] at done
    rcases honest with last | ⟨unmarked, honest⟩
    · rw [List.take_of_length_le last] at done called
      rw [if_pos marked] at done
      simp only [Option.some.injEq, Prod.mk.injEq] at done
      obtain ⟨rfl, rfl⟩ := done
      refine ⟨_, rfl, ?_, rfl, ?_, called⟩
      · obtain ⟨front, whole⟩ := marked
        have size : (front ++ syncMarker).length - 4 = front.length := by simp [syncMarker]
        rw [← whole, size, List.take_left]
      · rwa [if_neg (Nat.not_lt.mpr last)] at left
    · rw [if_neg unmarked] at done
      by_cases last : (queue self.compressor).length ≤ room.1
      · rw [List.take_of_length_le last] at unmarked
        exact absurd marked unmarked
      · rw [if_pos (Nat.not_le.mp last)] at left
        have behind := ih called (by rw [left]; simpa using last)
          (by rw [left, List.append_assoc, List.take_append_drop]; exact marked)
          (by rw [left]; exact honest) done
        simpa [left, List.append_assoc, List.take_append_drop] using behind

/-- With nothing queued the flush puts out the block it would have written. -/
theorem flush_idle (deflates : flate.Deflates format level window queue) {result : Result Bytes}
    (streams : flate.Streams level window self.compressor taken written)
    (nothing : queue self.compressor = []) (done : self.flush flate rooms = some (result, next)) :
    result = .ok (self.output ++ [0x0]) ∧ next.output = [] ∧ next.Settled queue ∧
      flate.Streams level window next.compressor taken written := by
  cases rooms with
  | nil => simp [flush] at done
  | cons room rooms =>
    obtain ⟨status, wrote, left⟩ := deflates.flushes streams (Nat.lt_of_lt_of_le (by decide) room.2)
    rw [if_pos nothing] at status
    rw [nothing, List.take_nil] at wrote
    rw [nothing, if_neg (by simp)] at left
    have called := streams.called [] room .syncFlush (by rw [status]; rfl)
    rw [List.take_nil, List.append_nil, wrote, List.append_nil] at called
    simp only [flush, status, wrote, List.isEmpty_nil, and_self, ↓reduceIte, List.append_nil,
      Option.some.injEq, Prod.mk.injEq] at done
    obtain ⟨rfl, rfl⟩ := done
    exact ⟨rfl, rfl, left, called⟩

/-- The flush of a call meets no false marker. -/
def Flushes (flate : Codec UInt32 FlushCompress Compress) (queue : Compress → Bytes)
    (self : Deflate Compress) (rooms : List Room) (input : Bytes) : Prop :=
  ∀ left next, self.writeAll flate rooms input = some (.ok left, next) →
    Honest left next.output (queue next.compressor)

/-- What the other end reads for a call continues what it has read before, however
padded that is. -/
theorem compress_streams (deflates : flate.Deflates format level window queue) {flushing : Bool}
    {bytes : Bytes} (empty : self.output = []) (settled : self.Settled queue)
    (streams : flate.Streams level window self.compressor taken written)
    (honest : flushing → self.Flushes flate queue rooms input)
    (done : self.compress flate rooms input flushing = some (.ok bytes, next)) :
    next.output = [] ∧ next.Settled queue ∧
      ∃ wire, flate.Streams level window next.compressor (taken ++ input) wire ∧
        (flushing → format.text wire = taken ++ input) ∧
        ∀ padded, format.Padded written padded →
          format.Padded wire (padded ++ fed bytes flushing) := by
  unfold compress at done
  split at done
  · simp at done
  · simp at done
  · rename_i left middle writing
    obtain ⟨more, output, later, marked⟩ := writeAll_streams deflates streams writing
    rw [empty, List.nil_append] at output
    cases flushing with
    | false =>
      simp only [Bool.false_eq_true, ↓reduceIte, takeOutput, Option.some.injEq, Prod.mk.injEq,
        Except.ok.injEq] at done
      obtain ⟨rfl, rfl⟩ := done
      refine ⟨rfl, ?_, _, later, by simp, fun padded pads => ?_⟩
      · rcases marked with ⟨-, rfl⟩ | marked
        · exact settled
        · exact .inr marked
      · rw [output]
        exact pads.append more
    | true =>
      simp only [↓reduceIte] at done
      by_cases nothing : queue middle.compressor = []
      · obtain ⟨result, drained, still, after⟩ := flush_idle deflates later nothing done
        rcases marked with ⟨rfl, rfl⟩ | marked
        · obtain rfl : more = [] := by rw [← output, empty]
          have restored := (deflates.restored later).2
          simp only [nothing, List.append_nil] at after later restored ⊢
          obtain rfl := Except.ok.inj result
          refine ⟨drained, still, _, after, fun _ => restored, fun padded pads => ?_⟩
          simpa [fed, empty, emptyBlock] using pads.snoc (deflates.aligned later nothing)
        · simp [nothing, syncMarker] at marked
      · have settled : syncMarker <:+ queue middle.compressor := by
          rcases marked with ⟨-, rfl⟩ | marked
          · exact settled.resolve_left nothing
          · exact marked
        obtain ⟨bytes', same, whole, drained, still, after⟩ := flush_streams deflates later nothing
          (settled.trans (List.suffix_append _ _)) (honest rfl left middle writing) done
        obtain rfl := Except.ok.inj same
        refine ⟨drained, still, _, after, fun _ => (deflates.restored later).2,
          fun padded pads => ?_⟩
        rw [fed, if_pos rfl, whole, output, List.append_assoc]
        exact pads.append _

end Deflate

namespace Inflate

variable {flate : Codec Unit FlushDecompress Decompress} {format : Format} {window : UInt8}
  {self next : Inflate Decompress} {rooms : List Room} {input taken shown : Bytes}
  {maxOutputSize : Nat}

/-- What is written is part of the text, so it stays below a limit that the text does
not reach. -/
structure Below (format : Format) (maxOutputSize : Nat) (inflate : Inflate Decompress)
    (stream shown : Bytes) : Prop where
  part : shown <+: format.text stream
  fits : inflate.output.length + (format.text stream).length < maxOutputSize + shown.length

theorem Below.room (below : self.Below format maxOutputSize taken shown) :
    self.output.length < maxOutputSize := by
  have size := below.part.length_le
  have fits := below.fits
  omega

private theorem writeRound_streams (bounded : flate.Bounded)
    (inflates : flate.Inflates format window)
    (streams : flate.Streams () window self.decompressor taken shown)
    (valid : format.Valid (taken ++ input))
    (below : self.Below format maxOutputSize (taken ++ input) shown) (more : input ≠ [])
    {room : Nat} (chunk : 0 < room) :
    ∃ consumed written object,
      self.writeRound flate input room maxOutputSize =
        (.ok (false, consumed),
          { self with output := self.output ++ written, decompressor := object }) ∧
      flate.Streams () window object (taken ++ input.take consumed) (shown ++ written) ∧
      shown ++ written <+: format.text (taken ++ input.take consumed) := by
  have roomy := below.room
  have left : 0 < min room (maxOutputSize - self.output.length) := by omega
  obtain ⟨status, part, whole⟩ := inflates.called streams input _ .noFlush valid left
  have called := streams.called input (min room (maxOutputSize - self.output.length)) .noFlush
    (by rcases status with status | status <;> rw [status] <;> rfl)
  have within := bounded.consumed self.decompressor input
    (min room (maxOutputSize - self.output.length)) .noFlush
  simp only [writeRound]
  generalize flate.call self.decompressor input (min room (maxOutputSize - self.output.length))
    .noFlush = call at status part whole called within ⊢
  obtain ⟨outcome, consumed, written, object⟩ := call
  simp only at status part whole called within ⊢
  refine ⟨consumed, written, object, ?_, called, part⟩
  have short : shown.length + written.length ≤ (format.text (taken ++ input)).length := by
    have grows := format.text_grows (taken ++ input.take consumed) (input.drop consumed)
    rw [List.append_assoc, List.take_append_drop] at grows
    simpa using (part.trans grows).length_le
  have fits := below.fits
  rw [if_neg (by rw [List.length_append]; omega)]
  -- A call that writes less than its chunk has taken all there is.
  have progress : ¬ (consumed = 0 ∧ written.isEmpty) := by
    rintro ⟨none, nothing⟩
    rw [List.isEmpty_iff] at nothing
    have all := (whole (by simpa [nothing] using left)).1
    exact more (List.eq_nil_of_length_eq_zero (by omega))
  rcases status with status | status <;> simp only [status, if_neg progress]

/-- The write loop takes all of its input. -/
theorem write_streams (bounded : flate.Bounded) (inflates : flate.Inflates format window)
    {result : Result (List Room)}
    (streams : flate.Streams () window self.decompressor taken shown)
    (valid : format.Valid (taken ++ input)) (part : shown <+: format.text taken)
    (fits : self.output.length + (format.text (taken ++ input)).length <
      maxOutputSize + shown.length)
    (done : self.write flate maxOutputSize rooms input = some (result, next)) :
    ∃ left more, result = .ok left ∧ next.output = self.output ++ more ∧
      next.streamEnded = self.streamEnded ∧
      flate.Streams () window next.decompressor (taken ++ input) (shown ++ more) ∧
      shown ++ more <+: format.text (taken ++ input) := by
  induction rooms generalizing self input taken shown with
  | nil =>
    cases input with
    | nil =>
      simp only [write, Option.some.injEq, Prod.mk.injEq] at done
      obtain ⟨rfl, rfl⟩ := done
      exact ⟨[], [], rfl, by simp, rfl, by simpa using streams, by simpa using part⟩
    | cons byte bytes =>
      have below : self.Below format maxOutputSize (taken ++ byte :: bytes) shown :=
        ⟨part.trans (format.text_grows _ _), fits⟩
      simp [write, Nat.not_le.mpr below.room] at done
  | cons room rooms ih =>
    cases input with
    | nil =>
      simp only [write, Option.some.injEq, Prod.mk.injEq] at done
      obtain ⟨rfl, rfl⟩ := done
      exact ⟨_, [], rfl, by simp, rfl, by simpa using streams, by simpa using part⟩
    | cons byte bytes =>
      have below : self.Below format maxOutputSize (taken ++ byte :: bytes) shown :=
        ⟨part.trans (format.text_grows _ _), fits⟩
      obtain ⟨consumed, written, object, round, called, part'⟩ :=
        writeRound_streams bounded inflates streams valid below (by simp)
          (Nat.lt_of_lt_of_le (by decide) room.2)
      have rest : taken ++ (byte :: bytes).take consumed ++ (byte :: bytes).drop consumed =
          taken ++ byte :: bytes := by
        rw [List.append_assoc, List.take_append_drop]
      simp only [write, if_neg (Nat.not_le.mpr below.room), round] at done
      obtain ⟨left, more, same, output, ended, later, part''⟩ := ih called (by rw [rest]; exact valid)
        part' (by rw [rest, List.length_append, List.length_append]; omega) done
      rw [rest] at later part''
      refine ⟨left, written ++ more, same, ?_, ended, ?_, ?_⟩
      · rw [output, List.append_assoc]
      · rw [← List.append_assoc]
        exact later
      · rw [← List.append_assoc]
        exact part''

/-- The flush loop writes all of the text. -/
theorem flush_streams (inflates : flate.Inflates format window) {mode : FlushDecompress}
    {result : Result Bytes}
    (streams : flate.Streams () window self.decompressor taken shown)
    (valid : format.Valid taken) (below : self.Below format maxOutputSize taken shown)
    (done : self.flush flate maxOutputSize mode rooms = some (result, next)) :
    ∃ more, result = .ok (self.output ++ more) ∧ next.output = [] ∧
      next.streamEnded = self.streamEnded ∧ shown ++ more = format.text taken ∧
      flate.Streams () window next.decompressor taken (shown ++ more) := by
  induction rooms generalizing self mode shown with
  | nil =>
    rw [flush, if_neg (Nat.not_le.mpr below.room)] at done
    simp at done
  | cons room rooms ih =>
    have roomy := below.room
    have chunk : 0 < room.1 := Nat.lt_of_lt_of_le (by decide) room.2
    have left : 0 < min room.1 (maxOutputSize - self.output.length) := by omega
    have valid' : format.Valid (taken ++ []) := by simpa using valid
    obtain ⟨status, part, whole⟩ := inflates.called streams [] _ mode valid' left
    have called := streams.called [] (min room.1 (maxOutputSize - self.output.length)) mode
      (by rcases status with status | status <;> rw [status] <;> rfl)
    rw [flush, if_neg (Nat.not_le.mpr roomy)] at done
    simp only at done
    generalize flate.call self.decompressor [] (min room.1 (maxOutputSize - self.output.length))
      mode = call at status part whole called done
    obtain ⟨outcome, consumed, written, object⟩ := call
    simp only [List.take_nil, List.append_nil] at status part whole called done
    have went : ∃ status, outcome = .ok status := by
      rcases status with status | status <;> exact ⟨_, status⟩
    obtain ⟨status', rfl⟩ := went
    simp only at done
    by_cases last : written.isEmpty ∧ mode = .noFlush
    · rw [if_pos last] at done
      simp only [Option.some.injEq, Prod.mk.injEq] at done
      obtain ⟨rfl, rfl⟩ := done
      have nothing : written = [] := List.isEmpty_iff.mp last.1
      subst nothing
      refine ⟨[], by simp, rfl, rfl, ?_, called⟩
      exact (whole (by simpa using left)).2.symm
    · rw [if_neg last] at done
      have short := part.length_le
      have fits := below.fits
      rw [List.length_append] at short
      obtain ⟨more, same, drained, ended, all, later⟩ := ih called
        ⟨part, by simp only [List.length_append]; omega⟩ done
      refine ⟨written ++ more, ?_, drained, ended, ?_, ?_⟩
      · rw [same, List.append_assoc]
      · rw [← List.append_assoc]
        exact all
      · rw [← List.append_assoc]
        exact later

/-- The end of a message writes all of the text. -/
theorem endMessage_streams (bounded : flate.Bounded) (inflates : flate.Inflates format window)
    {result : Result Bytes} (running : self.streamEnded = false)
    (streams : flate.Streams () window self.decompressor taken shown)
    (part : shown <+: format.text taken) (valid : format.Valid (taken ++ syncMarker))
    (fits : self.output.length + (format.text (taken ++ syncMarker)).length <
      maxOutputSize + shown.length)
    (done : self.endMessage flate rooms maxOutputSize = some (result, next)) :
    ∃ more, result = .ok (self.output ++ more) ∧ next.output = [] ∧ next.streamEnded = false ∧
      shown ++ more = format.text (taken ++ syncMarker) ∧
      flate.Streams () window next.decompressor (taken ++ syncMarker) (shown ++ more) := by
  simp only [endMessage, running, Bool.false_eq_true, ↓reduceIte] at done
  split at done
  · simp at done
  · rename_i error middle writing
    obtain ⟨_, _, failed, -⟩ := write_streams bounded inflates streams valid part fits writing
    simp at failed
  · rename_i rest middle writing
    obtain ⟨_, first, -, output, ended, after, part'⟩ :=
      write_streams bounded inflates streams valid part fits writing
    have below : middle.Below format maxOutputSize (taken ++ syncMarker) (shown ++ first) :=
      ⟨part', by rw [output, List.length_append, List.length_append]; omega⟩
    cases flushed : middle.flush flate maxOutputSize .syncFlush rest with
    | none => simp [flushed] at done
    | some returned =>
      obtain ⟨outcome, final⟩ := returned
      obtain ⟨second, rfl, drained, still, all, later⟩ :=
        flush_streams inflates after valid below flushed
      have usable : final.streamEnded = false := by rw [still, ended, running]
      simp only [flushed, usable, Bool.false_eq_true, ↓reduceIte, Option.some.injEq,
        Prod.mk.injEq] at done
      obtain ⟨rfl, rfl⟩ := done
      refine ⟨first ++ second, ?_, drained, usable, ?_, ?_⟩
      · rw [output, List.append_assoc]
      · rw [← List.append_assoc]
        exact all
      · rw [← List.append_assoc]
        exact later

/-- A call returns some of the text that was not returned before, and at the end of a
message all of it. -/
theorem decompress_streams (bounded : flate.Bounded) (inflates : flate.Inflates format window)
    {streamEnd : Bool} {result : Result Bytes} (empty : self.output = [])
    (running : self.streamEnded = false)
    (streams : flate.Streams () window self.decompressor taken shown)
    (part : shown <+: format.text taken) (valid : format.Valid (taken ++ fed input streamEnd))
    (fits : (format.text (taken ++ fed input streamEnd)).length < maxOutputSize + shown.length)
    (done : self.decompress flate rooms input streamEnd maxOutputSize = some (result, next)) :
    ∃ more, result = .ok more ∧ next.output = [] ∧ next.streamEnded = false ∧
      flate.Streams () window next.decompressor (taken ++ fed input streamEnd) (shown ++ more) ∧
      shown ++ more <+: format.text (taken ++ fed input streamEnd) ∧
      (streamEnd → shown ++ more = format.text (taken ++ fed input streamEnd)) := by
  have front : ∃ back, fed input streamEnd = input ++ back := by
    cases streamEnd with
    | false => exact ⟨[], by simp [fed]⟩
    | true => exact ⟨syncMarker, rfl⟩
  obtain ⟨back, split⟩ := front
  have grows := format.text_grows (taken ++ input) back
  rw [List.append_assoc, ← split] at grows
  have valid' : format.Valid (taken ++ input) := by
    rw [split, ← List.append_assoc] at valid
    exact format.valid_front valid
  have size := grows.length_le
  have least := (part.trans (format.text_grows taken input)).length_le
  unfold decompress at done
  rw [if_neg (by omega)] at done
  split at done
  · simp at done
  · rename_i error middle writing
    obtain ⟨_, _, failed, -⟩ := write_streams bounded inflates streams valid' part
      (by rw [empty, List.length_nil]; omega) writing
    simp at failed
  · rename_i middle writing
    obtain ⟨_, first, -, output, ended, after, part'⟩ :=
      write_streams bounded inflates streams valid' part
        (by rw [empty, List.length_nil]; omega) writing
    rw [empty, List.nil_append] at output
    cases streamEnd with
    | false =>
      simp only [Bool.false_eq_true, ↓reduceIte, takeOutput, Option.some.injEq,
        Prod.mk.injEq] at done
      obtain ⟨rfl, rfl⟩ := done
      exact ⟨first, by rw [output], rfl, by rw [ended, running], after, part', by simp⟩
    | true =>
      simp only [fed, ↓reduceIte, ← List.append_assoc] at valid fits done ⊢
      obtain ⟨second, rfl, drained, usable, all, later⟩ := endMessage_streams bounded inflates
        (ended.trans running) after part' valid
        (by rw [output, List.length_append]; omega) done
      refine ⟨first ++ second, by rw [output], drained, usable, ?_, ?_, fun _ => ?_⟩
      · rw [← List.append_assoc]
        exact later
      · rw [← List.append_assoc, all]
      · rw [← List.append_assoc]
        exact all

end Inflate

/-- The two ends of one direction, and what is assumed of the flate2 of each. -/
structure Ends (Compress Decompress : Type) where
  deflater : Codec UInt32 FlushCompress Compress
  inflater : Codec Unit FlushDecompress Decompress
  format : Format
  level : UInt32
  sending : UInt8
  receiving : UInt8
  queue : Compress → Bytes
  windows : (9 ≤ sending ∧ sending ≤ 15) ∧ 9 ≤ receiving ∧ receiving ≤ 15
  deflater_lawful : deflater.Lawful
  inflater_lawful : inflater.Lawful
  bounded : inflater.Bounded
  deflates : deflater.Deflates format level sending queue
  inflates : inflater.Inflates format receiving

namespace Ends

variable {ends : Ends Compress Decompress} {deflate : Deflate Compress}
  {inflate : Inflate Decompress} {behind : Bytes}

/-- Between two calls: what went in on one end came out on the other, but for what is
still behind. -/
structure Behind (ends : Ends Compress Decompress) (deflate : Deflate Compress)
    (inflate : Inflate Decompress) (behind : Bytes) : Prop where
  emptied : deflate.output = []
  settled : deflate.Settled ends.queue
  drained : inflate.output = []
  running : inflate.streamEnded = false
  streams : ∃ taken wire stream shown,
    ends.deflater.Streams ends.level ends.sending deflate.compressor taken wire ∧
    ends.format.Padded wire stream ∧
    ends.inflater.Streams () ends.receiving inflate.decompressor stream shown ∧
    shown <+: ends.format.text stream ∧ taken = shown ++ behind

/-- Nothing is behind where both streams start. -/
theorem Behind.fresh (emptied : deflate.output = []) (drained : inflate.output = [])
    (running : inflate.streamEnded = false)
    (deflating : deflate.compressor = ends.deflater.newWithWindowBits ends.level ends.sending)
    (inflating : inflate.decompressor = ends.inflater.newWithWindowBits () ends.receiving) :
    ends.Behind deflate inflate [] where
  emptied := emptied
  settled := by
    rw [Deflate.Settled, deflating]
    exact ends.deflates.fresh
  drained := drained
  running := running
  streams := by
    refine ⟨[], [], [], [], ?_, .same, ?_, List.nil_prefix, rfl⟩
    · rw [deflating]
      exact .built
    · rw [inflating]
      exact .built

/-- A frame of a message: the other end puts out more of what went in, and at the end
of the message all of it. -/
theorem Behind.step (lags : ends.Behind deflate inflate behind) {outgoing incoming : HalfConfig}
    (mirrored : outgoing.noContextTakeover = incoming.noContextTakeover)
    {rooms rooms' : List Room} {input bytes : Bytes} {flush : Bool} {maxOutputSize : Nat}
    {result : Result Bytes} {deflate' : Deflate Compress} {inflate' : Inflate Decompress}
    (honest : flush → deflate.Flushes ends.deflater ends.queue rooms input)
    (sent : deflate.serve ends.deflater outgoing rooms input flush = some (.ok bytes, deflate'))
    (small : (behind ++ input).length < maxOutputSize)
    (received : inflate.serve ends.inflater incoming rooms' bytes flush maxOutputSize =
      some (result, inflate')) :
    ∃ shown rest, result = .ok shown ∧ behind ++ input = shown ++ rest ∧ (flush → rest = []) ∧
      ends.Behind deflate' inflate' rest := by
  obtain ⟨taken, wire, stream, shown, deflating, pads, inflating, part, split⟩ := lags.streams
  obtain ⟨⟨outcome, compressed⟩, compressing, same⟩ := Option.map_eq_some_iff.mp sent
  simp only [Prod.mk.injEq] at same
  obtain ⟨rfl, rfl⟩ := same
  obtain ⟨emptied, settled, wire', deflating', synced, padding⟩ :=
    Deflate.compress_streams ends.deflates lags.emptied lags.settled deflating honest compressing
  have pads' := padding stream pads
  -- What is still queued completes the stream, so the text so far is part of the input.
  obtain ⟨whole, restored⟩ := ends.deflates.restored deflating'
  have valid := (pads'.append _).valid whole
  have grows := ends.format.text_grows (stream ++ fed bytes flush)
    (ends.queue compressed.compressor)
  rw [(pads'.append _).text_eq, restored] at grows
  have size := grows.length_le
  obtain ⟨⟨outcome, inflated⟩, decompressing, same⟩ := Option.map_eq_some_iff.mp received
  simp only [Prod.mk.injEq] at same
  obtain ⟨rfl, rfl⟩ := same
  obtain ⟨more, rfl, drained, running, inflating', part', all⟩ :=
    Inflate.decompress_streams ends.bounded ends.inflates lags.drained lags.running inflating part
      (ends.format.valid_front valid)
      (by simp only [split, List.length_append] at size small ⊢; omega) decompressing
  have within : more <+: behind ++ input := by
    have longer := part'.trans grows
    rw [split, List.append_assoc] at longer
    exact (List.prefix_append_right_inj _).mp longer
  obtain ⟨rest, complete⟩ := within
  have finished (ends' : flush) : rest = [] := by
    have text := all ends'
    rw [pads'.text_eq, synced ends', split, List.append_assoc] at text
    have same := List.append_cancel_left text
    rw [← complete] at same
    exact List.self_eq_append_right.mp same
  refine ⟨more, rest, rfl, complete.symm, finished, ?_⟩
  have okay : (Except.ok more : Result Bytes).isOk := rfl
  simp only [okay, ↓reduceIte]
  by_cases reset : (flush && outgoing.noContextTakeover) = true
  · rw [if_pos reset, if_pos (by rw [← mirrored]; exact reset),
      finished (Bool.and_eq_true_iff.mp reset).1]
    obtain ⟨⟨low, high⟩, low', high'⟩ := ends.windows
    exact .fresh emptied drained rfl
      (ends.deflater_lawful.reset_built low high deflating'.used)
      (ends.inflater_lawful.reset_built low' high' inflating'.used)
  · rw [if_neg reset, if_neg (by rw [← mirrored]; exact reset)]
    refine ⟨emptied, settled, drained, running, _, _, _, _, deflating', pads', inflating', part', ?_⟩
    rw [split, List.append_assoc, ← complete, List.append_assoc]

end Ends

end Yawc.Pooling
