import Yawc.Compression.Restoring

/-! Stored blocks have all that is assumed of flate2. -/

namespace Yawc.Pooling

def storedFormat : Format where
  text stream := (Scan.start.scan stream).1
  Valid _ := True
  Aligned stream := (Scan.start.scan stream).2 = .start
  text_grows front back := by
    rw [Scan.scan_append]
    exact List.prefix_append _ _
  valid_front _ := trivial
  text_void := by
    intro front back aligned
    simp [Scan.scan_append, aligned, scan_emptyBlock]
  valid_void _ _ := trivial
  aligned_void := by
    intro front back aligned ends
    simpa [Scan.scan_append, aligned, scan_emptyBlock] using ends

theorem Storing.queue_marked {self : Storing} (waits : self.synced = false) :
    syncMarker <:+ self.queue := by
  refine ⟨self.pending ++ [0x0], ?_⟩
  simp [queue, waits, emptyBlock]

theorem Storing.scan_queue {self : Storing} {taken written : Bytes}
    (scanned : Scan.start.scan (written ++ self.pending) = (taken, .start)) :
    Scan.start.scan (written ++ self.queue) = (taken, .start) := by
  rw [queue, ← List.append_assoc, Scan.scan_append, scanned]
  cases self.synced with
  | true => simp [Scan.scan]
  | false => simp [scan_emptyBlock]

theorem Storing.scan_take {self : Storing} {taken written : Bytes}
    (scanned : Scan.start.scan (written ++ self.pending) = (taken, .start)) (input : Bytes) :
    Scan.start.scan (written ++ (self.take input).pending) =
      (taken ++ input.take (min 65535 input.length), .start) := by
  rw [← List.take_eq_take_min, take]
  split
  · rename_i none
    rw [none, List.take_nil, List.append_nil, scanned]
  · have short : (input.take 65535).length < 65536 := by
      rw [List.length_take]
      omega
    rw [← List.append_assoc, Scan.scan_append, scanned, scan_storedBlock short]

theorem storing_scanned {level : UInt32} {window : UInt8} {object : Storing}
    {taken written : Bytes} (streams : storing.Streams level window object taken written) :
    Scan.start.scan (written ++ object.pending) = (taken, .start) := by
  induction streams with
  | built => rfl
  | called streams input room flush _ ih =>
    have held := Storing.scan_take ih input
    cases flush with
    | partialFlush =>
      simp only [storing, Storing.call, Storing.partialFlush]
      rw [List.append_assoc, List.take_append_drop, held]
    | syncFlush =>
      simp only [storing, Storing.call, Storing.syncFlush]
      rw [List.append_assoc, List.take_append_drop, Storing.scan_queue held]

theorem storing_deflates (level : UInt32) (window : UInt8) :
    storing.Deflates storedFormat level window Storing.queue where
  fresh := .inr ⟨[0x0], rfl⟩
  takes := by
    intro object taken written streams input room more _
    refine ⟨Nat.min_le_right _ _, Storing.queue_marked ?_⟩
    simp only [storing, Storing.call, Storing.partialFlush, Storing.take, if_neg more]
  flushes := by
    intro object taken written streams room chunk
    have idle : object.take [] = object := if_pos rfl
    simp only [storing, Storing.call, idle, Storing.syncFlush, true_and]
    split
    · rename_i more
      rw [Storing.queue, if_pos (decide_eq_true more), List.append_nil]
    · rename_i all
      exact .inr (Storing.queue_marked (decide_eq_false all))
  restored := by
    intro object taken written streams
    exact ⟨trivial, congrArg Prod.fst (Storing.scan_queue (storing_scanned streams))⟩
  aligned := by
    intro object taken written streams nothing
    have scanned := Storing.scan_queue (storing_scanned streams)
    rw [nothing, List.append_nil] at scanned
    exact congrArg Prod.snd scanned

theorem reading_scanned {window : UInt8} {object : Reading} {taken written : Bytes}
    (streams : reading.Streams () window object taken written) :
    Scan.start.scan taken = (written ++ object.pending, object.scan) := by
  induction streams with
  | built => rfl
  | called streams input room flush _ ih =>
    simp only [reading, List.take_length, Scan.scan_append, ih, List.append_assoc,
      List.take_append_drop]

theorem reading_inflates (window : UInt8) : reading.Inflates storedFormat window where
  called := by
    intro object taken written streams input room mode _ chunk
    have text : storedFormat.text (taken ++ input) =
        written ++ (object.pending ++ (object.scan.scan input).1) := by
      simp only [storedFormat, Scan.scan_append, reading_scanned streams, List.append_assoc]
    refine ⟨?_, ?_, ?_⟩
    · simp only [reading]
      split
      · exact .inr rfl
      · exact .inl rfl
    · simp only [reading, List.take_length, text]
      exact (List.prefix_append_right_inj _).mpr (List.take_prefix _ _)
    · intro short
      simp only [reading, List.length_take] at short
      refine ⟨Nat.le_refl _, ?_⟩
      rw [text]
      simp only [reading]
      rw [List.take_of_length_le (by omega)]

/-- Both ends with stored blocks. -/
def storedEnds : Ends Storing Reading where
  deflater := storing
  inflater := reading
  format := storedFormat
  level := 0
  sending := 15
  receiving := 15
  queue := Storing.queue
  windows := by decide
  deflater_lawful := storing_lawful
  inflater_lawful := reading_lawful
  bounded := reading_bounded
  deflates := storing_deflates 0 15
  inflates := reading_inflates 15

end Yawc.Pooling
