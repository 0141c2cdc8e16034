import ListInvocation.Proofs.Wire.Device

/-!
Contract: a library that fills buffers byte by byte, and sinks with limited room as a
device that accepts a few bytes at a time.

Owns: the laws of both, and the fact that every library writes to such a sink in the same
way.

Does not own: the session on a device.
-/

namespace ListInvocation.Wire

/-! ## Filling a buffer byte by byte -/

/-- One read of a single byte takes the first event, wherever the borders of chunks are. -/
theorem readSome_one (chunks : List Chunk) :
    match eventsOf chunks with
    | [] => readSome 1 chunks = (.ok [], [])
    | .byte byte :: events =>
        ∃ rest, readSome 1 chunks = (.ok [byte], rest) ∧ eventsOf rest = events
    | .failure cause :: events =>
        ∃ rest, readSome 1 chunks = (.error cause, rest) ∧ eventsOf rest = events := by
  fun_induction readSome 1 chunks with
  | case1 => rfl
  | case2 chunks inductionHypothesis => exact inductionHypothesis
  | case3 byte bytes chunks => exact ⟨.bytes bytes :: chunks, rfl, rfl⟩
  | case4 cause chunks => exact ⟨chunks, rfl, rfl⟩

/-- Fills a buffer one byte after another, with some words for a missing one. -/
def fill (missing : String) :
    Nat → List Chunk → Except ReadFailure (List UInt8) × List Chunk
  | 0, chunks => (.ok [], chunks)
  | count + 1, chunks =>
      match readSome 1 chunks with
      | (.ok bytes, rest) =>
          if bytes.isEmpty then (.error ⟨.unexpectedEnd, missing⟩, rest)
          else
            let (result, rest) := fill missing count rest
            (result.map (bytes ++ ·), rest)
      | (.error cause, rest) => (.error cause, rest)

theorem fill_suffix (missing : String) (count : Nat) (chunks : List Chunk) :
    eventsOf (fill missing count chunks).2 <:+ eventsOf chunks := by
  induction count generalizing chunks with
  | zero => exact List.suffix_refl _
  | succ count inductionHypothesis =>
      have suffix := readSome_suffix 1 chunks
      rw [fill]
      cases read : readSome 1 chunks with
      | mk result rest =>
          rw [read] at suffix
          cases result with
          | error cause => exact suffix
          | ok bytes =>
              by_cases none : bytes.isEmpty = true
              · simp only [if_pos none]
                exact suffix
              · simp only [if_neg none]
                exact (inductionHypothesis rest).trans suffix

theorem fill_filled (missing : String) (chunks : List Chunk) (bytes : List UInt8)
    (events : List StreamEvent)
    (split : eventsOf chunks = bytes.map StreamEvent.byte ++ events) :
    ∃ rest, fill missing bytes.length chunks = (.ok bytes, rest) ∧ eventsOf rest = events := by
  induction bytes generalizing chunks with
  | nil => exact ⟨chunks, rfl, split⟩
  | cons byte bytes inductionHypothesis =>
      have one := readSome_one chunks
      rw [split] at one
      obtain ⟨next, read, behind⟩ := one
      obtain ⟨rest, filled, last⟩ := inductionHypothesis next behind
      refine ⟨rest, ?_, last⟩
      simp [fill, read, filled, Except.map]

theorem fill_ended (missing : String) (chunks : List Chunk) (bytes : List UInt8) (count : Nat)
    (split : eventsOf chunks = bytes.map StreamEvent.byte) (fewer : bytes.length < count) :
    ∃ rest, fill missing count chunks = (.error ⟨.unexpectedEnd, missing⟩, rest) := by
  induction bytes generalizing chunks count with
  | nil =>
      obtain ⟨count, rfl⟩ := Nat.exists_eq_add_one.mpr fewer
      have one := readSome_one chunks
      rw [split, List.map_nil] at one
      exact ⟨[], by simp [fill, one]⟩
  | cons byte bytes inductionHypothesis =>
      obtain ⟨count, rfl⟩ := Nat.exists_eq_add_one.mpr (Nat.zero_lt_of_lt fewer)
      have one := readSome_one chunks
      rw [split] at one
      obtain ⟨next, read, behind⟩ := one
      obtain ⟨rest, ended⟩ := inductionHypothesis next count behind (Nat.lt_of_succ_lt_succ fewer)
      exact ⟨rest, by simp [fill, read, ended, Except.map]⟩

theorem fill_failed (missing : String) (chunks : List Chunk) (bytes : List UInt8)
    (cause : ReadFailure) (events : List StreamEvent) (count : Nat)
    (split : eventsOf chunks = bytes.map StreamEvent.byte ++ .failure cause :: events)
    (fewer : bytes.length < count) :
    ∃ rest, fill missing count chunks = (.error cause, rest) := by
  induction bytes generalizing chunks count with
  | nil =>
      obtain ⟨count, rfl⟩ := Nat.exists_eq_add_one.mpr fewer
      have one := readSome_one chunks
      rw [split] at one
      obtain ⟨rest, failed, _⟩ := one
      exact ⟨rest, by simp [fill, failed]⟩
  | cons byte bytes inductionHypothesis =>
      obtain ⟨count, rfl⟩ := Nat.exists_eq_add_one.mpr (Nat.zero_lt_of_lt fewer)
      have one := readSome_one chunks
      rw [split] at one
      obtain ⟨next, read, behind⟩ := one
      obtain ⟨rest, failed⟩ := inductionHypothesis next count behind (Nat.lt_of_succ_lt_succ fewer)
      exact ⟨rest, by simp [fill, read, failed, Except.map]⟩

/-- The library that fills buffers byte by byte. -/
def byteReader (missing : String) : BufferReader where
  readExact := fill missing
  forward := fill_suffix missing
  filled := fill_filled missing
  ended := by
    intro chunks bytes count split fewer
    obtain ⟨rest, ended⟩ := fill_ended missing chunks bytes count split fewer
    exact ⟨_, rest, ended, rfl⟩
  failed := fun chunks bytes cause events count split fewer _ =>
    fill_failed missing chunks bytes cause events count split fewer

/-! ## Sinks with limited room -/

namespace BoundedSink

/-- The number of bytes that a write accepts, of some at most. -/
def accepts (most : Nat) (bytes : List UInt8) (sink : BoundedSink) : Nat :=
  min bytes.length ((sink.room.map (min most)).getD most)

/-- Sinks with limited room as a device that accepts some bytes at most in one write, and
nothing once they are full. -/
def device (most : Nat) : Device BoundedSink where
  writeSome bytes sink :=
    if sink.room = some 0 then (.error ⟨false, "sink is full"⟩, sink)
    else
      let count := sink.accepts most bytes
      ( .ok count,
        { sink with
          accepted := sink.accepted ++ bytes.take count
          room := sink.room.map (· - count) })
  flush := flush

theorem device_steady {most : Nat} (positive : 0 < most) : (device most).Steady where
  accepts {bytes sink count next} nonempty wrote := by
    have bytesPositive := List.length_pos_iff.mpr nonempty
    simp only [device] at wrote
    split at wrote
    next => cases wrote
    next room =>
      cases wrote
      cases sink with
      | mk accepted sinkRoom flushFails =>
          cases sinkRoom with
          | none => simp only [BoundedSink.accepts, Option.map, Option.getD]; omega
          | some space =>
              have spacePositive : space ≠ 0 := fun none => room (by rw [none])
              simp only [BoundedSink.accepts, Option.map, Option.getD]
              omega
  uninterrupted {bytes sink failure next} _ wrote := by
    simp only [device] at wrote
    split at wrote
    next =>
      cases wrote
      rfl
    next => cases wrote

/-- A text can be written in two parts, of which the first has room. -/
theorem write_take_drop {count room : Nat} {bytes : List UInt8} (part : count ≤ bytes.length)
    (space : count ≤ room) (accepted : List UInt8) (flushFails : Bool) :
    write bytes ⟨accepted, some room, flushFails⟩ =
      write (bytes.drop count) ⟨accepted ++ bytes.take count, some (room - count), flushFails⟩ := by
  have enough : (bytes.length - count ≤ room - count) = (bytes.length ≤ room) := by
    simp only [eq_iff_iff]
    omega
  have taken : bytes.take count ++ (bytes.drop count).take (room - count) = bytes.take room := by
    rw [← List.take_add, Nat.add_sub_cancel' space]
  have left : room - count - (bytes.length - count) = room - bytes.length := by omega
  simp only [write, List.length_drop, enough, left, List.append_assoc, taken]

/-- Writing a whole text to such a sink is writing it part by part. -/
def bufferWriter (most : Nat) : BufferWriter (device most) where
  writeAll := write
  written sink := by
    cases sink with
    | mk accepted room flushFails => cases room <;> simp [write]
  accepted := by
    intro bytes sink count next _ _ wrote
    simp only [device] at wrote
    split at wrote
    next => cases wrote
    next =>
      cases wrote
      cases sink with
      | mk accepted room flushFails =>
          cases room with
          | none => simp [write]
          | some room =>
              refine write_take_drop ?_ ?_ accepted flushFails
              · exact Nat.min_le_left _ _
              · exact Nat.le_trans (Nat.min_le_right _ _) (Nat.min_le_right most room)
  refused := by
    intro bytes sink failure next nonempty _ wrote
    simp only [device] at wrote
    split at wrote
    next full =>
      cases wrote
      cases sink with
      | mk accepted room flushFails =>
          cases full
          simp [write, nonempty]
    next => cases wrote

/-- Every library writes to such a sink as the writer of whole texts does. -/
theorem writer_eq {most : Nat} (positive : 0 < most) (buffer : BufferWriter (device most)) :
    buffer.writer = writer :=
  BufferWriter.writer_unique (device_steady positive) buffer (bufferWriter most)

end BoundedSink

end ListInvocation.Wire
