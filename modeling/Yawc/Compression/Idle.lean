import Yawc.Compression.Sharing

/-! Which connections hold deflate state, and how much of it their pool keeps. -/

namespace Yawc.Pooling

variable {Compress Decompress Party : Type} {backend : Backend}

/-- What happens to one direction of a connection: a call begins, perhaps the last of
its message, and returns. -/
inductive Turn where
  | begins (last : Bool)
  | returns (ok : Bool)
  deriving DecidableEq

def Action.outgoing : Action × Option (Result Bytes) → Option Turn
  | (.compress _ flush, _) => some (.begins flush)
  | (.compressed _, some result) => some (.returns result.isOk)
  | _ => none

def Action.incoming : Action × Option (Result Bytes) → Option Turn
  | (.decompress _ streamEnd _, _) => some (.begins streamEnd)
  | (.decompressed _, some result) => some (.returns result.isOk)
  | _ => none

/-- Whether the last call of a direction ends its message, and whether a message is
open: it has begun, and no call to end it was a success. -/
structure Standing where
  last : Bool
  opened : Bool
  deriving DecidableEq

def Standing.after (self : Standing) : Turn → Standing
  | .begins last => ⟨last, true⟩
  | .returns ok => { self with opened := !(self.last && ok) }

def standing (turns : List Turn) : Standing := turns.foldl .after ⟨false, false⟩

/-- A direction that returns its state has it while a message is open, any other from
its first call on. -/
def holds (returning : Bool) (turns : List Turn) : Bool :=
  if returning then (standing turns).opened else !turns.isEmpty

/-- Whether a direction has state, and the call it is in, as its turns say. -/
structure Tracks (returning : Bool) (turns : List Turn) (held : Bool) (calling : Option Bool) :
    Prop where
  held : held = holds returning turns
  calling : ∀ last, calling = some last → (standing turns).last = last

namespace Tracks

variable {returning held : Bool} {turns : List Turn} {calling : Option Bool}

private theorem start (returning : Bool) : Tracks returning [] false none where
  held := by cases returning <;> rfl
  calling := by simp

private theorem begins (last : Bool) : Tracks returning (turns ++ [.begins last]) true
    (some last) where
  held := by cases returning <;> simp [holds, standing, Standing.after]
  calling := by simp [standing, Standing.after]

private theorem returns {last : Bool} (tracks : Tracks returning turns held (some last))
    (ok : Bool) :
    Tracks returning (turns ++ [.returns ok]) (!(returning && last && ok)) none where
  held := by
    have same := tracks.calling last rfl
    unfold standing at same
    cases returning <;> simp [holds, standing, Standing.after, same]
  calling := by simp

end Tracks

/-- Both directions of a connection. -/
structure Connection.Tracked (config : CompressionConfig) (pooled : Bool) (sends receives : List Turn)
    (connection : Connection Compress Decompress) : Prop where
  compressing : connection.compressor.config = config.outgoing ∧
    connection.compressor.pooled = (pooled && config.outgoing.noContextTakeover)
  decompressing : connection.decompressor.config = config.incoming ∧
    connection.decompressor.pooled = (pooled && config.incoming.noContextTakeover)
  outgoing : Tracks (pooled && config.outgoing.noContextTakeover) sends
    connection.compressor.deflate.isSome (connection.compressing.map Prod.snd)
  incoming : Tracks (pooled && config.incoming.noContextTakeover) receives
    connection.decompressor.inflate.isSome (connection.decompressing.map (·.2.1))

/-- The queues of a pool have the capacity it was built with. -/
def DeflatePool.Sized (capacity : Nat) (pool : DeflatePool backend Compress Decompress) : Prop :=
  ∀ shared, pool.shared = some shared → 0 < capacity ∧
    ∀ slot, (shared.deflate slot).capacity = capacity ∧ (shared.inflate slot).capacity = capacity

namespace DeflatePool.Sized

open Lending

variable {pool : DeflatePool backend Compress Decompress} {capacity : Nat}

private theorem new (capacity : Nat) :
    (DeflatePool.new capacity : DeflatePool backend Compress Decompress).Sized capacity := by
  intro shared keeps
  simp only [DeflatePool.new] at keeps
  split at keeps
  · rename_i positive
    rw [← Option.some.inj keeps]
    exact ⟨positive, fun _ => ⟨rfl, rfl⟩⟩
  · simp at keeps

private theorem takeDeflate (sized : pool.Sized capacity) (level : UInt32)
    (windowBits : Option UInt8) :
    (pool.takeDeflate level windowBits).2.Sized capacity := by
  unfold DeflatePool.takeDeflate
  split
  · exact sized
  · rename_i shared keeps
    intro after same
    rw [← Option.some.inj same]
    obtain ⟨positive, sizes⟩ := sized shared keeps
    exact ⟨positive, fun slot => ⟨(Shelf.capacity_take _ _ _).trans (sizes slot).1, (sizes slot).2⟩⟩

private theorem takeInflate (sized : pool.Sized capacity) (windowBits : Option UInt8) :
    (pool.takeInflate windowBits).2.Sized capacity := by
  unfold DeflatePool.takeInflate
  split
  · exact sized
  · rename_i shared keeps
    intro after same
    rw [← Option.some.inj same]
    obtain ⟨positive, sizes⟩ := sized shared keeps
    exact ⟨positive, fun slot => ⟨(sizes slot).1, (Shelf.capacity_take _ _ _).trans (sizes slot).2⟩⟩

private theorem putDeflate (sized : pool.Sized capacity) (windowBits : Option UInt8)
    (deflate : Deflate Compress) : (pool.putDeflate windowBits deflate).Sized capacity := by
  intro after same
  obtain ⟨shared, keeps, rfl⟩ := Option.map_eq_some_iff.mp same
  obtain ⟨positive, sizes⟩ := sized shared keeps
  exact ⟨positive, fun slot => ⟨(Shelf.capacity_put _ _ _ _).trans (sizes slot).1, (sizes slot).2⟩⟩

private theorem putInflate (sized : pool.Sized capacity) (windowBits : Option UInt8)
    (inflate : Inflate Decompress) : (pool.putInflate windowBits inflate).Sized capacity := by
  intro after same
  obtain ⟨shared, keeps, rfl⟩ := Option.map_eq_some_iff.mp same
  obtain ⟨positive, sizes⟩ := sized shared keeps
  exact ⟨positive, fun slot => ⟨(sizes slot).1, (Shelf.capacity_put _ _ _ _).trans (sizes slot).2⟩⟩

/-- A pool keeps at most its capacity for each window size, and nothing if that is
none. -/
theorem within (sized : pool.Sized capacity) {shared : Shared backend Compress Decompress}
    (keeps : pool.shared = some shared) (slot : Fin (windowSizes backend)) :
    (shared.deflate slot).items.length ≤ capacity ∧
      (shared.inflate slot).items.length ≤ capacity := by
  obtain ⟨-, sizes⟩ := sized shared keeps
  rw [← (sizes slot).1]
  refine ⟨(shared.deflate slot).bounded, ?_⟩
  rw [(sizes slot).1, ← (sizes slot).2]
  exact (shared.inflate slot).bounded

end DeflatePool.Sized

section Calls

variable {capacity : Nat} {pool pool' : DeflatePool backend Compress Decompress}

private theorem Compressor.start_holds (flate : Codec UInt32 FlushCompress Compress)
    (self : Compressor Compress) (sized : pool.Sized capacity) :
    (self.start flate pool).1.deflate.isSome ∧ (self.start flate pool).1.config = self.config ∧
      (self.start flate pool).1.pooled = self.pooled ∧ (self.start flate pool).2.Sized capacity := by
  unfold start
  split
  · rename_i held
    exact ⟨by rw [held]; rfl, rfl, rfl, sized⟩
  · refine ⟨rfl, rfl, rfl, ?_⟩
    dsimp only
    split
    · exact sized.takeDeflate _ _
    · exact sized

private theorem Decompressor.start_holds (flate : Codec Unit FlushDecompress Decompress)
    (self : Decompressor Decompress) (sized : pool.Sized capacity) :
    (self.start flate pool).1.inflate.isSome ∧ (self.start flate pool).1.config = self.config ∧
      (self.start flate pool).1.pooled = self.pooled ∧ (self.start flate pool).2.Sized capacity := by
  unfold start
  split
  · rename_i held
    exact ⟨by rw [held]; rfl, rfl, rfl, sized⟩
  · refine ⟨rfl, rfl, rfl, ?_⟩
    dsimp only
    split
    · exact sized.takeInflate _
    · exact sized

/-- A call that ends its message keeps state it has nowhere to return, or that failed. -/
theorem held_of_kept {shared last ok : Bool} (kept : ¬(shared && ok) = true) :
    true = !(shared && last && ok) := by
  rw [Bool.not_eq_true] at kept
  rw [Bool.and_right_comm, kept]
  rfl

/-- A call keeps the state of a message it does not end, or of a context taken over. -/
theorem held_of_more {pooled unkept last ok : Bool} (more : ¬(last && unkept) = true) :
    true = !((pooled && unkept) && last && ok) := by
  cases last with
  | false => simp
  | true =>
    have kept : unkept = false := by simpa using more
    simp [kept]

/-- A call that ends a message returns the state if it is a success. -/
theorem Compressor.finish_holds {flate : Codec UInt32 FlushCompress Compress}
    {self next : Compressor Compress} {rooms : List Room} {input : Bytes} {flush pooled : Bool}
    {result : Result Bytes} (sized : pool.Sized capacity)
    (labelled : self.pooled = (pooled && self.config.noContextTakeover))
    (done : self.finish flate pool rooms input flush = some (result, next, pool')) :
    next.deflate.isSome = !(self.pooled && flush && result.isOk) ∧ next.config = self.config ∧
      next.pooled = self.pooled ∧ pool'.Sized capacity := by
  unfold finish at done
  split at done
  · simp at done
  · split at done
    · simp at done
    · rename_i result' after _
      split at done
      · rename_i ends
        obtain ⟨flushes, unkept⟩ := Bool.and_eq_true_iff.mp ends
        split at done
        · rename_i returned
          simp only [Option.some.injEq, Prod.mk.injEq] at done
          obtain ⟨rfl, rfl, rfl⟩ := done
          refine ⟨?_, rfl, rfl, sized.putDeflate _ _⟩
          obtain ⟨shared, succeeded⟩ := Bool.and_eq_true_iff.mp returned
          simp [shared, flushes, succeeded]
        · rename_i kept
          simp only [Option.some.injEq, Prod.mk.injEq] at done
          obtain ⟨rfl, rfl, rfl⟩ := done
          exact ⟨held_of_kept kept, rfl, rfl, sized⟩
      · rename_i more
        simp only [Option.some.injEq, Prod.mk.injEq] at done
        obtain ⟨rfl, rfl, rfl⟩ := done
        refine ⟨?_, rfl, rfl, sized⟩
        rw [labelled]
        exact held_of_more more

private theorem Decompressor.finish_holds {flate : Codec Unit FlushDecompress Decompress}
    {self next : Decompressor Decompress} {rooms : List Room} {input : Bytes}
    {streamEnd pooled : Bool} {maxOutputSize : Nat} {result : Result Bytes}
    (sized : pool.Sized capacity)
    (labelled : self.pooled = (pooled && self.config.noContextTakeover))
    (done : self.finish flate pool rooms input streamEnd maxOutputSize =
      some (result, next, pool')) :
    next.inflate.isSome = !(self.pooled && streamEnd && result.isOk) ∧
      next.config = self.config ∧ next.pooled = self.pooled ∧ pool'.Sized capacity := by
  unfold finish at done
  split at done
  · simp at done
  · split at done
    · simp at done
    · rename_i result' after _
      -- A failed call loses its output, which makes no difference here.
      generalize (if result'.isOk then after else { after with output := [] }) = left at done
      dsimp only at done
      split at done
      · rename_i ends
        obtain ⟨last, unkept⟩ := Bool.and_eq_true_iff.mp ends
        split at done
        · rename_i returned
          simp only [Option.some.injEq, Prod.mk.injEq] at done
          obtain ⟨rfl, rfl, rfl⟩ := done
          refine ⟨?_, rfl, rfl, sized.putInflate _ _⟩
          obtain ⟨shared, succeeded⟩ := Bool.and_eq_true_iff.mp returned
          simp [shared, last, succeeded]
        · rename_i kept
          simp only [Option.some.injEq, Prod.mk.injEq] at done
          obtain ⟨rfl, rfl, rfl⟩ := done
          exact ⟨held_of_kept kept, rfl, rfl, sized⟩
      · rename_i more
        simp only [Option.some.injEq, Prod.mk.injEq] at done
        obtain ⟨rfl, rfl, rfl⟩ := done
        refine ⟨?_, rfl, rfl, sized⟩
        rw [labelled]
        exact held_of_more more

variable {flate : Flate2 Compress Decompress} {config : CompressionConfig} {pooled : Bool}
  {sends receives : List Turn} {self next : Connection Compress Decompress}

/-- A step of a connection is a turn of one direction. -/
theorem Connection.step_tracked (tracked : self.Tracked config pooled sends receives)
    (sized : pool.Sized capacity) {action : Action} {output : Option (Result Bytes)}
    (taken : self.step flate pool action = some (output, next, pool')) :
    next.Tracked config pooled (sends ++ (Action.outgoing (action, output)).toList)
        (receives ++ (Action.incoming (action, output)).toList) ∧
      pool'.Sized capacity := by
  obtain ⟨⟨sending, sharing⟩, ⟨receiving, sharing'⟩, outgoing, incoming⟩ := tracked
  cases action with
  | compress input flush =>
    simp only [step] at taken
    split at taken
    · simp at taken
    · simp only [Option.some.injEq, Prod.mk.injEq] at taken
      obtain ⟨rfl, rfl, rfl⟩ := taken
      obtain ⟨held, same, label, sized'⟩ := self.compressor.start_holds flate.compress sized
      refine ⟨⟨⟨same.trans sending, label.trans sharing⟩, ⟨receiving, sharing'⟩, ?_, ?_⟩, sized'⟩
      · simp only [held]
        exact .begins flush
      · simpa [Action.incoming] using incoming
  | compressed rooms =>
    simp only [step] at taken
    split at taken
    · simp at taken
    · rename_i input flush calling
      obtain ⟨⟨result, compressor, after⟩, done, same⟩ := Option.map_eq_some_iff.mp taken
      simp only [Prod.mk.injEq] at same
      obtain ⟨rfl, rfl, rfl⟩ := same
      obtain ⟨held, same, label, sized'⟩ :=
        Compressor.finish_holds sized (sharing.trans (by rw [sending])) done
      rw [calling] at outgoing
      refine ⟨⟨⟨same.trans sending, label.trans sharing⟩, ⟨receiving, sharing'⟩, ?_, ?_⟩, sized'⟩
      · simp only [held, sharing]
        exact outgoing.returns result.isOk
      · simpa [Action.incoming] using incoming
  | decompress input streamEnd maxOutputSize =>
    simp only [step] at taken
    split at taken
    · simp at taken
    · simp only [Option.some.injEq, Prod.mk.injEq] at taken
      obtain ⟨rfl, rfl, rfl⟩ := taken
      obtain ⟨held, same, label, sized'⟩ := self.decompressor.start_holds flate.decompress sized
      refine ⟨⟨⟨sending, sharing⟩, ⟨same.trans receiving, label.trans sharing'⟩, ?_, ?_⟩, sized'⟩
      · simpa [Action.outgoing] using outgoing
      · simp only [held]
        exact .begins streamEnd
  | decompressed rooms =>
    simp only [step] at taken
    split at taken
    · simp at taken
    · rename_i input streamEnd maxOutputSize calling
      obtain ⟨⟨result, decompressor, after⟩, done, same⟩ := Option.map_eq_some_iff.mp taken
      simp only [Prod.mk.injEq] at same
      obtain ⟨rfl, rfl, rfl⟩ := same
      obtain ⟨held, same, label, sized'⟩ :=
        Decompressor.finish_holds sized (sharing'.trans (by rw [receiving])) done
      rw [calling] at incoming
      refine ⟨⟨⟨sending, sharing⟩, ⟨same.trans receiving, label.trans sharing'⟩, ?_, ?_⟩, sized'⟩
      · simpa [Action.outgoing] using outgoing
      · simp only [held, sharing']
        exact incoming.returns result.isOk

end Calls

namespace System

variable [DecidableEq Party] {configs : Party → CompressionConfig} {capacity : Nat} {pooled : Bool}
  {flate : Flate2 Compress Decompress}

/-- The turns of one direction of a connection in a run. -/
def turns (direction : Action × Option (Result Bytes) → Option Turn) (party : Party)
    (trace : List ((Party × Action) × Option (Result Bytes))) : List Turn :=
  trace.filterMap fun ((caller, action), output) =>
    if caller = party then direction (action, output) else none

private theorem turns_snoc (direction : Action × Option (Result Bytes) → Option Turn)
    (party caller : Party) (trace : List ((Party × Action) × Option (Result Bytes)))
    (action : Action) (output : Option (Result Bytes)) :
    turns direction party (trace ++ [((caller, action), output)]) =
      turns direction party trace ++
        (if caller = party then direction (action, output) else none).toList := by
  simp only [turns, List.filterMap_append, List.filterMap_cons, List.filterMap_nil]
  cases (if caller = party then direction (action, output) else none) with
  | none => rfl
  | some turn => rfl

/-- Every connection holds what its turns say, and the pool has the size it was given. -/
def Tracked (configs : Party → CompressionConfig) (capacity : Nat) (pooled : Bool)
    (trace : List ((Party × Action) × Option (Result Bytes)))
    (system : System Party backend Compress Decompress) : Prop :=
  system.pool.Sized capacity ∧ ∀ party, (system.connections party).Tracked (configs party) pooled
    (turns Action.outgoing party trace) (turns Action.incoming party trace)

private theorem new_tracked : Tracked configs capacity pooled []
    (.new configs capacity pooled : System Party backend Compress Decompress) := by
  refine ⟨.new capacity, fun party => ?_⟩
  exact ⟨⟨rfl, rfl⟩, ⟨rfl, rfl⟩, .start _, .start _⟩

private theorem step_tracked {trace : List ((Party × Action) × Option (Result Bytes))}
    {system next : System Party backend Compress Decompress} {called : Party × Action}
    {output : Option (Result Bytes)} (tracked : system.Tracked configs capacity pooled trace)
    (taken : System.step flate system called = some (output, next)) :
    next.Tracked configs capacity pooled (trace ++ [(called, output)]) := by
  obtain ⟨party, action⟩ := called
  simp only [System.step, Option.map_eq_some_iff, Prod.mk.injEq] at taken
  obtain ⟨⟨result, connection, pool⟩, done, rfl, rfl⟩ := taken
  obtain ⟨mine, sized⟩ := Connection.step_tracked (tracked.2 party) tracked.1 done
  refine ⟨sized, fun other => ?_⟩
  rw [turns_snoc, turns_snoc]
  by_cases same : other = party
  · subst same
    simpa only [Function.update_self, ↓reduceIte] using mine
  · rw [if_neg (Ne.symm same), if_neg (Ne.symm same)]
    simpa [Function.update_of_ne same] using tracked.2 other

/-- Over every run, a direction that uses the pool holds state exactly while a message of
its own is open, and any other from its first call on. The pool keeps at most its
capacity for each window size, and nothing if that is none. -/
theorem state_held_open {trace : List ((Party × Action) × Option (Result Bytes))}
    {final : System Party backend Compress Decompress}
    (run : Trace.Run (System.step flate) (fun _ _ => True) (.new configs capacity pooled) trace
      final) :
    (∀ party,
      (final.connections party).compressor.deflate.isSome =
          holds (pooled && (configs party).outgoing.noContextTakeover)
            (turns Action.outgoing party trace) ∧
      (final.connections party).decompressor.inflate.isSome =
          holds (pooled && (configs party).incoming.noContextTakeover)
            (turns Action.incoming party trace)) ∧
    ∀ shared, final.pool.shared = some shared → 0 < capacity ∧ ∀ slot,
      (shared.deflate slot).items.length ≤ capacity ∧
        (shared.inflate slot).items.length ≤ capacity := by
  have tracked : final.Tracked configs capacity pooled trace := by
    apply run.follows (motive := fun past state => state.Tracked configs capacity pooled past)
    · intro past state input output next _ taken before
      exact step_tracked before taken
    · exact new_tracked
  refine ⟨fun party => ?_, fun shared keeps => ⟨(tracked.1 shared keeps).1, fun slot => ?_⟩⟩
  · exact ⟨(tracked.2 party).outgoing.held, (tracked.2 party).incoming.held⟩
  · exact tracked.1.within keeps slot

end System

/-- The state of both connections is back on the shelf, but for what was dropped. -/
theorem state_held_crossed :
    ∃ trace, ∃ final : System Bool .zlib (UInt32 × UInt8 × Bool) (UInt8 × Nat),
      Trace.Run (System.step emptyBlocks) (fun _ _ => True) (.new twoLevels 1 true) trace final ∧
      (final.connections true).compressor.deflate.isSome = false ∧
      (final.connections false).compressor.deflate.isSome = false := by
  have returned : (Trace.exec (System.step emptyBlocks)
      (.new twoLevels 1 true : System Bool .zlib _ _) crossedCalls).map
        (fun (trace, _) => (holds true (System.turns Action.outgoing true trace),
          holds true (System.turns Action.outgoing false trace))) = some (false, false) := by
    decide +kernel
  obtain ⟨⟨trace, final⟩, done, standing⟩ := Option.map_eq_some_iff.mp returned
  simp only [Prod.mk.injEq] at standing
  have run := Trace.Run.of_exec crossedCalls done
  obtain ⟨held, -⟩ := System.state_held_open run
  refine ⟨trace, final, run, ?_, ?_⟩
  · rw [(held true).1]
    exact standing.1
  · rw [(held false).1]
    exact standing.2

end Yawc.Pooling
