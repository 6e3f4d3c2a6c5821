/-
  File:      Kalm/Pods/Streams.lean
  Subject:   THE STREAMS of the pods: `copyPodLogStreamToWS` and `TerminalSession` of
             api/handler/websocket.go, over the pool of api/utils/buf_pool.go.

  * `LogSession` -- a log that is copied: one goroutine reads into a buffer and hands slices of it over, the
    other sends them; the buffer goes back to the pool while the first may still read;
  * `stepStreams` -- any number of such sessions, in any order;
  * `Faithful` -- what was sent is the stream, `Unmixed` -- the condition on a step;
  * `streams_faithful` -- the runs of such steps are faithful; what is typed arrives where each message fits
    into the buffer it is read with;
  * `streams_fail` -- a last chunk that comes with the error is dropped.
-/
import Mathlib.Logic.Function.Basic
import Kalm.Go.Utf8
import Kalm.Lib.Runs

namespace Kalm

open Runs

/-! ## 1. The pool -/

/-- The size of a buffer. -/
def bufferSize : Nat := 32 * 1024

/-- `bufferPool`: the buffers that are free, and how many were made. -/
structure BufferPool where
  freeList : List Nat
  made : Nat

/-- `Get`: a free buffer, or a new one. -/
def BufferPool.get (pool : BufferPool) : Nat × BufferPool :=
  match pool.freeList with
  | buffer :: freeList => (buffer, { pool with freeList := freeList })
  | [] => (pool.made, { pool with made := pool.made + 1 })

/-- `Put`: the pool holds a hundred buffers. -/
def BufferPool.put (pool : BufferPool) (buffer : Nat) : BufferPool :=
  if pool.freeList.length < 100 then { pool with freeList := pool.freeList ++ [buffer] } else pool

/-! ## 2. Logs -/

/-- The goroutine that reads: it reads, it waits to hand over a slice of the buffer, it has closed the
    channel. -/
inductive Producer where
  | reading
  | sending (size : Nat)
  | closed

/-- The loop that sends: it is at its select, it has a slice, it has returned, its buffer is back. -/
inductive Consumer where
  | waiting
  | holding (size : Nat)
  | returned
  | done

/-- `copyPodLogStreamToWS`. `stream` is what `Read` delivers in all, `rest` what it has still to deliver,
    `sent` the data of the messages. It is `cancelled` where its context is done or its connection failed. -/
structure LogSession where
  stream : Str
  rest : Str
  buffer : Nat
  producer : Producer
  consumer : Consumer
  cancelled : Bool
  sent : Str

/-- The sessions, the pool they share, and what the buffers hold. -/
structure Streams where
  pool : BufferPool
  memory : Nat → Str
  started : Nat
  session : Nat → LogSession

/-- The process starts: no session, no buffer. -/
def Streams.init : Streams where
  pool := ⟨[], 0⟩
  memory := fun _ => List.replicate bufferSize 0
  started := 0
  session := fun _ => ⟨[], [], 0, .closed, .done, true, []⟩

/-- A session becomes another. -/
def Streams.set (s : Streams) (id : Nat) (session : LogSession) : Streams :=
  { s with session := Function.update s.session id session }

/-- What a buffer holds when `data` was read into it. -/
def Streams.fill (s : Streams) (buffer : Nat) (data : Str) : Nat → Str :=
  Function.update s.memory buffer (data ++ (s.memory buffer).drop data.length)

/-- A step: a session gets its buffer; its stream is read, to an error at its end; a slice is handed over,
    and converted and sent; the session is cancelled, returns, and puts its buffer back. -/
inductive StreamStep where
  | start (stream : Str)
  | read (id size : Nat) (failed : Bool)
  | handOver (id : Nat)
  | send (id : Nat) (written : Bool)
  | cancel (id : Nat)
  | leave (id : Nat)
  | put (id : Nat)

/-- The slice `buf[:size]`, as it is when it is converted. -/
def LogSession.slice (session : LogSession) (memory : Nat → Str) (size : Nat) : Str :=
  (memory session.buffer).take size

/-- One step, if it is possible. -/
def stepStreams (s : Streams) : StreamStep → Option Streams
  | .start stream =>
    let (buffer, pool) := s.pool.get
    some { s with
      pool := pool
      started := s.started + 1
      session := Function.update s.session s.started
        ⟨stream, stream, buffer, .reading, .waiting, false, []⟩ }
  | .read id size failed =>
    let session := s.session id
    match session.producer with
    | .reading =>
      if id < s.started ∧ size ≤ bufferSize ∧ size ≤ session.rest.length ∧
          (failed = true → size = session.rest.length) then
        some { s with
          memory := s.fill session.buffer (session.rest.take size)
          session := Function.update s.session id
            { session with
              rest := session.rest.drop size
              -- what comes with an error is not handed over
              producer := if failed then .closed else .sending size } }
      else none
    | _ => none
  | .handOver id =>
    match (s.session id).producer, (s.session id).consumer with
    | .sending size, .waiting =>
      some (s.set id { s.session id with producer := .reading, consumer := .holding size })
    | _, _ => none
  | .send id written =>
    match (s.session id).consumer with
    | .holding size =>
      if written then
        some (s.set id { s.session id with
          consumer := .waiting
          sent := (s.session id).sent ++ jsonString ((s.session id).slice s.memory size) })
      else some (s.set id { s.session id with consumer := .returned, cancelled := true })
    | _ => none
  | .cancel id => some (s.set id { s.session id with cancelled := true })
  | .leave id =>
    match (s.session id).consumer, (s.session id).producer with
    | .waiting, .closed => some (s.set id { s.session id with consumer := .returned })
    | .waiting, _ =>
      if (s.session id).cancelled then some (s.set id { s.session id with consumer := .returned }) else none
    | _, _ => none
  | .put id =>
    match (s.session id).consumer with
    | .returned =>
      some { s.set id { s.session id with consumer := .done } with pool := s.pool.put (s.session id).buffer }
    | _ => none

/-! ## 3. The property -/

/-- **What was sent is the stream**, as far as it got, and all of it where the loop has returned. -/
def Faithful (s : Streams) : Prop :=
  ∀ id < s.started, (s.session id).cancelled = false →
    (s.session id).sent <+: (s.session id).stream ∧
      ((s.session id).consumer = .returned ∨ (s.session id).consumer = .done →
        (s.session id).sent = (s.session id).stream)

/-- The bytes the loop has still to send. -/
def LogSession.held (session : LogSession) (memory : Nat → Str) : Str :=
  match session.consumer with
  | .holding size => session.slice memory size
  | _ => []

/-- The bytes that are still to be handed over. -/
def LogSession.offered (session : LogSession) (memory : Nat → Str) : Str :=
  match session.producer with
  | .sending size => session.slice memory size
  | _ => []

/-- The steps that meet the condition: no byte comes with the error, no byte that has still to be sent is
    overwritten, no character is cut. -/
def Unmixed (s : Streams) : StreamStep → Prop
  | .read id size failed =>
    (failed = true → (s.session id).cancelled = false → size = 0) ∧
      ∀ other < s.started, (s.session other).cancelled = false →
        let memory := s.fill (s.session id).buffer ((s.session id).rest.take size)
        (s.session other).held memory = (s.session other).held s.memory ∧
          (s.session other).offered memory = (s.session other).offered s.memory
  | .send id _ => (s.session id).cancelled = false → IsUtf8 ((s.session id).held s.memory)
  | _ => True

/-! ## 4. The invariant -/

/-- What was sent, what is on its way and what is left are the stream. -/
structure Carries (session : LogSession) (memory : Nat → Str) : Prop where
  whole : session.sent ++ session.held memory ++ session.offered memory ++ session.rest = session.stream
  closed : session.producer = .closed → session.rest = []
  ended : session.consumer = .returned ∨ session.consumer = .done → session.producer = .closed

/-- Every session that is not cancelled carries its stream. -/
def Carrying (s : Streams) : Prop :=
  ∀ id < s.started, (s.session id).cancelled = false → Carries (s.session id) s.memory

section Keep

variable {s s' : Streams}

/-- One session becomes another. -/
theorem Carrying.update (h : Carrying s) {id : Nat} {session : LogSession}
    (hsession : id < s.started → session.cancelled = false → Carries session s.memory) {pool : BufferPool} :
    Carrying { s.set id session with pool := pool } := by
  intro other hother hlive
  have hlive : (Function.update s.session id session other).cancelled = false := hlive
  show Carries (Function.update s.session id session other) s.memory
  by_cases he : other = id
  · subst he
    rw [Function.update_self] at hlive ⊢
    exact hsession hother hlive
  · rw [Function.update_of_ne he] at hlive ⊢
    exact h other hother hlive

/-- A session that reads has nothing to hand over. -/
theorem offered_of_reading {session : LogSession} {memory : Nat → Str}
    (h : session.producer = .reading) : session.offered memory = [] := by
  rw [LogSession.offered, h]

theorem held_of_waiting {session : LogSession} {memory : Nat → Str}
    (h : session.consumer = .waiting) : session.held memory = [] := by
  rw [LogSession.held, h]

/-- What was read stands in the slice. -/
theorem slice_fill (s : Streams) (session : LogSession) {data : Str} {size : Nat}
    (h : data.length = size) : session.slice (s.fill session.buffer data) size = data := by
  rw [LogSession.slice, Streams.fill, Function.update_self, List.take_append_of_le_length (by omega),
    ← h, List.take_length]

theorem Carrying.started (h : Carrying s) (stream : Str) (buffer : Nat) (pool : BufferPool) :
    Carrying { s with
      pool := pool
      started := s.started + 1
      session := Function.update s.session s.started
        ⟨stream, stream, buffer, .reading, .waiting, false, []⟩ } := by
  intro id hid hlive
  have hid : id < s.started + 1 := hid
  have hlive : (Function.update s.session s.started
    ⟨stream, stream, buffer, .reading, .waiting, false, []⟩ id).cancelled = false := hlive
  show Carries (Function.update s.session s.started
    ⟨stream, stream, buffer, .reading, .waiting, false, []⟩ id) s.memory
  by_cases he : id = s.started
  · subst he
    rw [Function.update_self]
    exact ⟨rfl, fun hc => Producer.noConfusion hc,
      fun hc => hc.elim (fun e => Consumer.noConfusion e) fun e => Consumer.noConfusion e⟩
  · rw [Function.update_of_ne he] at hlive ⊢
    exact h id (by omega) hlive

/-- **A read**: what was read is to be handed over, what is under way stays. -/
theorem Carrying.read (h : Carrying s) {id size : Nat} {failed : Bool}
    (hunmixed : Unmixed s (.read id size failed)) (hreading : (s.session id).producer = .reading)
    (hsize : size ≤ (s.session id).rest.length)
    (hend : failed = true → size = (s.session id).rest.length) :
    Carrying { s with
      memory := s.fill (s.session id).buffer ((s.session id).rest.take size)
      session := Function.update s.session id
        { s.session id with
          rest := (s.session id).rest.drop size
          producer := if failed then .closed else .sending size } } := by
  intro other hother hlive
  obtain ⟨hempty, hkept⟩ := hunmixed
  generalize hmemory : s.fill (s.session id).buffer ((s.session id).rest.take size) = memory at hkept
  have hlive : (Function.update s.session id { s.session id with
    rest := (s.session id).rest.drop size
    producer := if failed then .closed else .sending size } other).cancelled = false := hlive
  show Carries (Function.update s.session id { s.session id with
    rest := (s.session id).rest.drop size
    producer := if failed then .closed else .sending size } other) memory
  by_cases he : other = id
  · subst he
    rw [Function.update_self] at hlive ⊢
    have hlive : (s.session other).cancelled = false := hlive
    obtain ⟨whole, closed, ended⟩ := h other hother hlive
    have hheld := (hkept other hother hlive).1
    rw [offered_of_reading hreading, List.append_nil] at whole
    have hstay : (s.session other).consumer ≠ .returned ∧ (s.session other).consumer ≠ .done := by
      refine ⟨fun e => ?_, fun e => ?_⟩
      · have hc := ended (.inl e)
        rw [hreading] at hc
        cases hc
      · have hc := ended (.inr e)
        rw [hreading] at hc
        cases hc
    cases failed with
    | true =>
        -- nothing was left
        have hzero : size = 0 := hempty rfl hlive
        have hrest : (s.session other).rest = [] := by
          refine List.length_eq_zero_iff.mp ?_
          rw [← hend rfl]
          exact hzero
        have hleft : (s.session other).rest.drop size = [] := by rw [hrest, List.drop_nil]
        refine ⟨?_, fun _ => hleft, fun _ => rfl⟩
        show (s.session other).sent ++ (s.session other).held memory ++ [] ++
          (s.session other).rest.drop size = _
        rw [hleft, List.append_nil, List.append_nil, hheld]
        rw [hrest, List.append_nil] at whole
        exact whole
    | false =>
        have hslice : (s.session other).slice memory size = (s.session other).rest.take size := by
          rw [← hmemory]
          exact slice_fill s _ (by rw [List.length_take]; omega)
        refine ⟨?_, fun hc => Producer.noConfusion hc,
          fun hc => hc.elim (fun e => absurd e hstay.1) fun e => absurd e hstay.2⟩
        show (s.session other).sent ++ (s.session other).held memory ++
          (s.session other).slice memory size ++ (s.session other).rest.drop size = _
        rw [hheld, hslice, List.append_assoc, List.take_append_drop]
        exact whole
  · rw [Function.update_of_ne he] at hlive ⊢
    obtain ⟨whole, closed, ended⟩ := h other hother hlive
    obtain ⟨hheld, hoffered⟩ := hkept other hother hlive
    exact ⟨by rw [hheld, hoffered]; exact whole, closed, ended⟩

theorem Carrying.step {i : StreamStep} (h : Carrying s) (hunmixed : Unmixed s i)
    (taken : stepStreams s i = some s') : Carrying s' := by
  cases i with
  | start stream =>
      obtain rfl := Option.some.inj taken
      exact h.started stream _ _
  | read id size failed =>
      simp only [stepStreams] at taken
      split at taken
      · rename_i hreading
        obtain ⟨⟨-, -, hsize, hend⟩, taken⟩ := Option.ite_none_right_eq_some.mp taken
        obtain rfl := Option.some.inj taken
        exact h.read hunmixed hreading hsize hend
      · cases taken
  | handOver id =>
      simp only [stepStreams] at taken
      split at taken
      · rename_i size hproducer hconsumer
        obtain rfl := Option.some.inj taken
        refine h.update fun hid hlive => ?_
        obtain ⟨whole, closed, ended⟩ := h id hid hlive
        rw [held_of_waiting hconsumer, LogSession.offered, hproducer, List.append_nil] at whole
        refine ⟨?_, fun hc => Producer.noConfusion hc,
          fun hc => hc.elim (fun e => Consumer.noConfusion e) fun e => Consumer.noConfusion e⟩
        rw [offered_of_reading rfl, List.append_nil]
        exact whole
      · cases taken
  | send id written =>
      simp only [stepStreams] at taken
      split at taken
      · rename_i size hconsumer
        have hheld : (s.session id).held s.memory = (s.session id).slice s.memory size := by
          rw [LogSession.held, hconsumer]
        cases written with
        | true =>
            obtain rfl := Option.some.inj taken
            refine h.update fun hid hlive => ?_
            obtain ⟨whole, closed, ended⟩ := h id hid hlive
            have htext : jsonString ((s.session id).slice s.memory size) =
                (s.session id).slice s.memory size := by
              rw [← hheld]
              exact jsonString_eq_self.mpr (hunmixed hlive)
            refine ⟨?_, closed, fun hc => hc.elim (fun e => Consumer.noConfusion e) fun e =>
              Consumer.noConfusion e⟩
            rw [held_of_waiting rfl, List.append_nil]
            show (s.session id).sent ++ jsonString ((s.session id).slice s.memory size) ++
              (s.session id).offered s.memory ++ (s.session id).rest = _
            rw [htext, ← hheld]
            exact whole
        | false =>
            obtain rfl := Option.some.inj taken
            exact h.update fun _ hlive => Bool.noConfusion hlive
      · cases taken
  | cancel id =>
      obtain rfl := Option.some.inj taken
      exact h.update fun _ hlive => Bool.noConfusion hlive
  | leave id =>
      simp only [stepStreams] at taken
      split at taken
      · rename_i hconsumer hproducer
        obtain rfl := Option.some.inj taken
        refine h.update fun hid hlive => ?_
        obtain ⟨whole, closed, ended⟩ := h id hid hlive
        rw [held_of_waiting hconsumer] at whole
        exact ⟨whole, closed, fun _ => hproducer⟩
      · obtain ⟨hcancelled, taken⟩ := Option.ite_none_right_eq_some.mp taken
        obtain rfl := Option.some.inj taken
        refine h.update fun _ hlive => ?_
        have hlive : (s.session id).cancelled = false := hlive
        rw [hcancelled] at hlive
        cases hlive
      · cases taken
  | put id =>
      simp only [stepStreams] at taken
      split at taken
      · rename_i hconsumer
        obtain rfl := Option.some.inj taken
        refine h.update fun hid hlive => ?_
        obtain ⟨whole, closed, ended⟩ := h id hid hlive
        rw [LogSession.held, hconsumer] at whole
        exact ⟨whole, closed, fun _ => ended (.inl hconsumer)⟩
      · cases taken

theorem Carrying.faithful (h : Carrying s) : Faithful s := by
  intro id hid hlive
  obtain ⟨whole, closed, ended⟩ := h id hid hlive
  refine ⟨?_, fun hc => ?_⟩
  · rw [← whole, List.append_assoc, List.append_assoc]
    exact List.prefix_append _ _
  · have hclosed := ended hc
    have hheld : (s.session id).held s.memory = [] := by
      rw [LogSession.held]
      obtain e | e := hc <;> rw [e]
    have hoffered : (s.session id).offered s.memory = [] := by rw [LogSession.offered, hclosed]
    rw [hheld, hoffered, closed hclosed, List.append_nil, List.append_nil, List.append_nil] at whole
    exact whole

end Keep

/-! ## 5. What is typed -/

/-- `TerminalSession.Read` into a buffer of a size: a message, or the end of the transmission where the
    context is done. What does not fit is dropped. -/
def terminalRead (message : Option Str) (size : Nat) : Str :=
  match message with
  | some data => data.take size
  | none => (str "\x04").take size

/-- What successive reads deliver. -/
def delivered (reads : List (Str × Nat)) : Str := reads.flatMap fun read => terminalRead (some read.1) read.2

/-- **What is typed is delivered where each message fits into the buffer it is read with.** -/
theorem delivered_iff (reads : List (Str × Nat)) :
    delivered reads = reads.flatMap Prod.fst ↔ ∀ read ∈ reads, read.1.length ≤ read.2 := by
  have hlength : ∀ reads : List (Str × Nat),
      (delivered reads).length ≤ (reads.flatMap Prod.fst).length := by
    intro reads
    induction reads with
    | nil => exact Nat.le_refl _
    | cons read reads ih =>
        rw [delivered, List.flatMap_cons, List.flatMap_cons, List.length_append, List.length_append]
        have hhead : (terminalRead (some read.1) read.2).length ≤ read.1.length := by
          rw [terminalRead, List.length_take]
          omega
        exact Nat.add_le_add hhead ih
  induction reads with
  | nil => exact iff_of_true rfl fun _ h => absurd h List.not_mem_nil
  | cons read reads ih =>
      refine Iff.trans ?_ (Iff.trans (and_congr_right fun _ => ih) List.forall_mem_cons.symm)
      rw [List.flatMap_cons]
      show read.1.take read.2 ++ delivered reads = _ ↔ _
      constructor
      · intro h
        have hlen := congrArg List.length h
        rw [List.length_append, List.length_append, List.length_take] at hlen
        have htail := hlength reads
        have hfits : read.1.length ≤ read.2 := by omega
        rw [List.take_of_length_le hfits] at h
        exact ⟨hfits, List.append_cancel_left h⟩
      · rintro ⟨hfits, h⟩
        rw [List.take_of_length_le hfits, h]

/-! ## 6. Runs -/

/-- **Streams are faithful** in a run whose steps meet the condition: for any streams, any chunks, any number
    of sessions over one pool and any order of their steps. What is typed is delivered where it fits. -/
theorem streams_faithful (s : Streams)
    (h : Reaches (fun s => s = Streams.init) Unmixed stepStreams s) (reads : List (Str × Nat)) :
    Faithful s ∧
      (delivered reads = reads.flatMap Prod.fst ↔ ∀ read ∈ reads, read.1.length ≤ read.2) := by
  refine ⟨?_, delivered_iff reads⟩
  have hcarrying : Carrying s := by
    refine h.invariant (I := Carrying) ?_ fun s i s' hs hunmixed taken => hs.step hunmixed taken
    intro s hs
    rw [hs]
    exact fun id hid => absurd hid (Nat.not_lt_zero id)
  exact hcarrying.faithful

/-- A log of one chunk. -/
theorem streams_faithful_abc : ∃ s : Streams, s.started = 1 ∧ Faithful s ∧
    delivered [(str "ls", 2)] = str "ls" := by
  have hinit : Reaches (fun s => s = Streams.init) Unmixed stepStreams Streams.init := .start rfl
  have hstarted := Reaches.step (i := StreamStep.start (str "abc")) hinit trivial rfl
  have hunmixed : ∀ s : Streams, s.started = 1 → (s.session 0).consumer = .waiting →
      (s.session 0).producer = .reading → Unmixed s (.read 0 3 false) := by
    intro s hone hwaiting hreading
    refine ⟨fun h => Bool.noConfusion h, fun other hother _ => ?_⟩
    rw [hone] at hother
    obtain rfl : other = 0 := by omega
    dsimp only
    rw [held_of_waiting hwaiting, held_of_waiting hwaiting, offered_of_reading hreading,
      offered_of_reading hreading]
    exact ⟨rfl, rfl⟩
  have hread := Reaches.step (i := StreamStep.read 0 3 false) hstarted (hunmixed _ rfl rfl rfl) rfl
  have hheld := Reaches.step (i := StreamStep.handOver 0) hread trivial rfl
  have hsent := Reaches.step (i := StreamStep.send 0 true) hheld (fun _ => isUtf8_str "abc") rfl
  obtain ⟨hfaithful, hreads⟩ := streams_faithful _ hsent [(str "ls", 2)]
  exact ⟨_, rfl, hfaithful, hreads.mpr (by decide)⟩

/-- **A chunk that is read together with the error is lost.** -/
theorem streams_fail :
    ¬ ∀ s, Reaches (fun s => s = Streams.init) anyStep stepStreams s → ∀ reads : List (Str × Nat),
        Faithful s ∧ delivered reads = reads.flatMap Prod.fst := by
  intro h
  have hinit : Reaches (fun s => s = Streams.init) anyStep stepStreams Streams.init := .start rfl
  have hstarted := Reaches.step (i := StreamStep.start (str "abc")) hinit trivial rfl
  have hread := Reaches.step (i := StreamStep.read 0 3 true) hstarted trivial rfl
  have hleft := Reaches.step (i := StreamStep.leave 0) hread trivial rfl
  have hall := ((h _ hleft []).1 0 (Nat.lt_succ_self 0) rfl).2 (.inl rfl)
  exact absurd hall (by decide)

end Kalm
