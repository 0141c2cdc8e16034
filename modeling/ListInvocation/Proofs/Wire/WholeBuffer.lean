import ListInvocation.Proofs.Wire.Device

/-!
Contract: what reading asks of a library that fills buffers, and a library that gives it.

The library reads again and again, each time for as many bytes as are still missing. It may
try interrupted reads again, or report them.

Owns: the laws of such a library under both ways to treat an interruption, and its reading
told by events.

Does not own: frames.
-/

namespace ListInvocation.Wire

/-! ## Laws -/

namespace BufferReader

/-- What is asked of a library that treats interrupted reads in some way: it fills a buffer
with the visible bytes and takes nothing behind them, and it has taken everything when it
reports an early end. -/
structure Follows (reader : BufferReader) (interruption : Interruption) : Prop where
  filled : ∀ (chunks : List Chunk) (bytes : List UInt8) (events : List StreamEvent),
    visible interruption (eventsOf chunks) = bytes.map StreamEvent.byte ++ events →
      ∃ rest, reader.readExact bytes.length chunks = (.ok bytes, rest) ∧
        visible interruption (eventsOf rest) = events
  ended : ∀ (chunks : List Chunk) (bytes : List UInt8) (count : Nat),
    visible interruption (eventsOf chunks) = bytes.map StreamEvent.byte → bytes.length < count →
      ∃ failure rest, reader.readExact count chunks = (.error failure, rest) ∧
        failure.kind = .unexpectedEnd ∧ visible interruption (eventsOf rest) = []

end BufferReader

/-! ## Bytes taken from events -/

/-- Takes some bytes from events, with some words for a missing one. -/
def takeBytes (interruption : Interruption) (missing : String) :
    Nat → List StreamEvent → Except ReadFailure (List UInt8) × List StreamEvent
  | 0, events => (.ok [], events)
  | _ + 1, [] => (.error ⟨.unexpectedEnd, missing⟩, [])
  | count + 1, .byte byte :: events =>
      let (result, rest) := takeBytes interruption missing count events
      (result.map (byte :: ·), rest)
  | count + 1, .failure cause :: events =>
      if cause.kind = .interrupted ∧ interruption = .retried then
        takeBytes interruption missing (count + 1) events
      else (.error cause, events)

section TakeBytes

variable (interruption : Interruption) (missing : String)

theorem takeBytes_zero (events : List StreamEvent) :
    takeBytes interruption missing 0 events = (.ok [], events) := by
  cases events <;> rfl

theorem takeBytes_suffix (count : Nat) (events : List StreamEvent) :
    (takeBytes interruption missing count events).2 <:+ events := by
  fun_induction takeBytes interruption missing count events with
  | case1 | case2 => exact List.suffix_refl _
  | case3 count byte events result rest taken inductionHypothesis =>
      rw [taken] at inductionHypothesis
      exact inductionHypothesis.trans (List.suffix_cons _ events)
  | case4 count cause events _ inductionHypothesis =>
      exact inductionHypothesis.trans (List.suffix_cons _ events)
  | case5 count cause events => exact List.suffix_cons _ events

theorem takeBytes_bytes {bytes : List UInt8} {count : Nat} (within : bytes.length ≤ count)
    (events : List StreamEvent) :
    takeBytes interruption missing count (bytes.map StreamEvent.byte ++ events) =
      ((takeBytes interruption missing (count - bytes.length) events).1.map (bytes ++ ·),
        (takeBytes interruption missing (count - bytes.length) events).2) := by
  induction bytes generalizing count with
  | nil =>
      cases taken : takeBytes interruption missing count events with
      | mk result rest => cases result <;> simp [taken, Except.map]
  | cons byte bytes inductionHypothesis =>
      obtain ⟨count, rfl⟩ := Nat.exists_eq_add_one.mpr (Nat.lt_of_lt_of_le (Nat.succ_pos _) within)
      have fewer := Nat.le_of_succ_le_succ within
      simp only [List.map_cons, List.cons_append, takeBytes, inductionHypothesis fewer,
        List.length_cons, Nat.add_sub_add_right]
      cases (takeBytes interruption missing (count - bytes.length) events).1 <;> rfl

theorem takeBytes_enough (bytes : List UInt8) (events : List StreamEvent) :
    takeBytes interruption missing bytes.length (bytes.map StreamEvent.byte ++ events) =
      (.ok bytes, events) := by
  rw [takeBytes_bytes interruption missing (Nat.le_refl _), Nat.sub_self, takeBytes_zero]
  simp [Except.map]

theorem takeBytes_fewer {bytes : List UInt8} {count : Nat} (fewer : bytes.length < count) :
    takeBytes interruption missing count (bytes.map StreamEvent.byte) =
      (.error ⟨.unexpectedEnd, missing⟩, []) := by
  obtain ⟨left, counted⟩ := Nat.exists_eq_add_one.mpr (Nat.sub_pos_of_lt fewer)
  have taken := takeBytes_bytes interruption missing (Nat.le_of_lt fewer) []
  rw [List.append_nil, counted] at taken
  exact taken

theorem takeBytes_failed {bytes : List UInt8} {count : Nat} (fewer : bytes.length < count)
    {cause : ReadFailure} (lasting : cause.kind ≠ .interrupted) (events : List StreamEvent) :
    takeBytes interruption missing count
        (bytes.map StreamEvent.byte ++ .failure cause :: events) = (.error cause, events) := by
  obtain ⟨left, counted⟩ := Nat.exists_eq_add_one.mpr (Nat.sub_pos_of_lt fewer)
  rw [takeBytes_bytes interruption missing (Nat.le_of_lt fewer), counted, takeBytes,
    if_neg fun both => lasting both.1]
  rfl

/-- Interrupted reads that are tried again play no part. -/
theorem takeBytes_visible (count : Nat) (events : List StreamEvent) :
    takeBytes interruption missing count (visible interruption events) =
      ((takeBytes interruption missing count events).1,
        visible interruption (takeBytes interruption missing count events).2) := by
  fun_induction takeBytes interruption missing count events with
  | case1 => rw [takeBytes_zero]
  | case2 => simp [takeBytes]
  | case3 count byte events result rest taken inductionHypothesis =>
      rw [taken] at inductionHypothesis
      simp only [visible_byte, takeBytes, inductionHypothesis]
  | case4 count cause events retried inductionHypothesis =>
      rw [visible_failure, if_pos retried]
      exact inductionHypothesis
  | case5 count cause events lasting => simp [visible_failure, takeBytes, lasting]

end TakeBytes

/-! ## Filling a whole buffer -/

/-- Fills a buffer, each time by a read for all that is missing, with some words for a
missing byte. -/
def fillWhole (interruption : Interruption) (missing : String) (count : Nat)
    (chunks : List Chunk) : Except ReadFailure (List UInt8) × List Chunk :=
  if _ : count = 0 then (.ok [], chunks)
  else
    match _ : readSome count chunks with
    | (.ok bytes, rest) =>
        if _ : bytes = [] then (.error ⟨.unexpectedEnd, missing⟩, rest)
        else
          let (result, rest) := fillWhole interruption missing (count - bytes.length) rest
          (result.map (bytes ++ ·), rest)
    | (.error cause, rest) =>
        if cause.kind = .interrupted ∧ interruption = .retried then
          fillWhole interruption missing count rest
        else (.error cause, rest)
termination_by (count, chunks.length)
decreasing_by
  · have positive := List.length_pos_iff.mpr ‹¬ bytes = []›
    exact Prod.Lex.left _ _ (by omega)
  · exact Prod.Lex.right _ (length_lt_of_readSome ‹_›)

section FillWhole

variable (interruption : Interruption) (missing : String)

/-- Borders of chunks play no part in the filling of a buffer. -/
theorem takeBytes_eventsOf (count : Nat) (chunks : List Chunk) :
    takeBytes interruption missing count (eventsOf chunks) =
      ((fillWhole interruption missing count chunks).1,
        eventsOf (fillWhole interruption missing count chunks).2) := by
  fun_induction fillWhole interruption missing count chunks with
  | case1 chunks => rw [takeBytes_zero]
  | case2 count chunks positive rest read =>
      obtain ⟨split, _, ended⟩ := eventsOf_readSome count chunks
      rw [read] at split ended
      obtain ⟨left, counted⟩ := Nat.exists_eq_add_one.mpr (Nat.pos_of_ne_zero positive)
      have nothing := ended (Nat.pos_of_ne_zero positive) rfl
      have behind : eventsOf rest = [] := split.symm.trans nothing
      rw [nothing, behind, counted]
      rfl
  | case3 count chunks positive bytes rest read nonempty result last filled inductionHypothesis =>
      obtain ⟨split, within, _⟩ := eventsOf_readSome count chunks
      rw [read] at split within
      rw [filled] at inductionHypothesis
      rw [split]
      simp only [takenBy]
      rw [takeBytes_bytes interruption missing (within bytes rfl), inductionHypothesis]
  | case4 count chunks positive cause rest read retried inductionHypothesis =>
      obtain ⟨split, _, _⟩ := eventsOf_readSome count chunks
      rw [read] at split
      obtain ⟨left, counted⟩ := Nat.exists_eq_add_one.mpr (Nat.pos_of_ne_zero positive)
      rw [split, ← inductionHypothesis, counted]
      exact if_pos retried
  | case5 count chunks positive cause rest read lasting =>
      obtain ⟨split, _, _⟩ := eventsOf_readSome count chunks
      rw [read] at split
      obtain ⟨left, counted⟩ := Nat.exists_eq_add_one.mpr (Nat.pos_of_ne_zero positive)
      rw [split, counted]
      exact if_neg lasting

theorem fillWhole_of_takeBytes {interruption : Interruption} {missing : String} {count : Nat}
    {chunks : List Chunk} {result : Except ReadFailure (List UInt8)} {events : List StreamEvent}
    (taken : takeBytes interruption missing count (eventsOf chunks) = (result, events)) :
    ∃ rest, fillWhole interruption missing count chunks = (result, rest) ∧
      eventsOf rest = events := by
  rw [takeBytes_eventsOf] at taken
  obtain ⟨sameResult, sameRest⟩ := Prod.ext_iff.mp taken
  exact ⟨_, Prod.ext sameResult rfl, sameRest⟩

theorem fillWhole_of_visible {interruption : Interruption} {missing : String} {count : Nat}
    {chunks : List Chunk} {result : Except ReadFailure (List UInt8)} {events : List StreamEvent}
    (taken : takeBytes interruption missing count (visible interruption (eventsOf chunks)) =
      (result, events)) :
    ∃ rest, fillWhole interruption missing count chunks = (result, rest) ∧
      visible interruption (eventsOf rest) = events := by
  rw [takeBytes_visible, takeBytes_eventsOf] at taken
  obtain ⟨sameResult, sameRest⟩ := Prod.ext_iff.mp taken
  exact ⟨_, Prod.ext sameResult rfl, sameRest⟩

/-- The library that reads until a buffer is full. -/
def wholeReader : BufferReader where
  readExact := fillWhole interruption missing
  forward := by
    intro count chunks
    have suffix := takeBytes_suffix interruption missing count (eventsOf chunks)
    rwa [takeBytes_eventsOf] at suffix
  filled := by
    intro chunks bytes events split
    apply fillWhole_of_takeBytes
    rw [split, takeBytes_enough]
  ended := by
    intro chunks bytes count split fewer
    have taken := takeBytes_fewer interruption missing fewer
    rw [← split] at taken
    obtain ⟨rest, ended, _⟩ := fillWhole_of_takeBytes taken
    exact ⟨_, rest, ended, rfl⟩
  failed := by
    intro chunks bytes cause events count split fewer lasting
    have taken := takeBytes_failed interruption missing fewer lasting events
    rw [← split] at taken
    obtain ⟨rest, failed, _⟩ := fillWhole_of_takeBytes taken
    exact ⟨rest, failed⟩

/-- It gives what is asked, under both ways to treat an interruption. -/
theorem wholeReader_follows : (wholeReader interruption missing).Follows interruption where
  filled := by
    intro chunks bytes events split
    apply fillWhole_of_visible
    rw [split, takeBytes_enough]
  ended := by
    intro chunks bytes count split fewer
    have taken := takeBytes_fewer interruption missing fewer
    rw [← split] at taken
    obtain ⟨rest, ended, behind⟩ := fillWhole_of_visible taken
    exact ⟨_, rest, ended, rfl, behind⟩

end FillWhole

end ListInvocation.Wire
