import ListInvocation.Wire.Stream

/-!
Contract: laws of byte streams.

Owns: the bytes of a text and the text that bytes spell, streams without interrupted reads,
and the events that a reader has to deal with.

Does not own: frames, or sinks.
-/

namespace ListInvocation.Wire

/-! ## Bytes of texts -/

theorem bytesOf_append (left right : String) :
    bytesOf (left ++ right) = bytesOf left ++ bytesOf right := by
  simp [bytesOf]

theorem length_bytesOf (text : String) : (bytesOf text).length = text.utf8ByteSize := by
  rw [← String.size_toByteArray]
  rfl

theorem textOf?_eq_some_iff {bytes : List UInt8} {text : String} :
    textOf? bytes = some text ↔ bytes = bytesOf text := by
  unfold textOf? String.fromUTF8?
  constructor
  · intro read
    split at read
    next =>
      rw [← Option.some.inj read]
      rfl
    next => contradiction
  · intro spelled
    subst spelled
    exact dif_pos text.isValidUTF8

/-! ## Interrupted reads -/

def StreamEvent.isLasting : StreamEvent → Bool
  | .byte _ => true
  | .failure cause => decide (cause.kind ≠ .interrupted)

/-- A stream without its interrupted reads. -/
def undisturbed (events : List StreamEvent) : List StreamEvent :=
  events.filter StreamEvent.isLasting

/-- No read of a stream is interrupted. -/
def Uninterrupted (events : List StreamEvent) : Prop :=
  ∀ event ∈ events, event.isLasting = true

theorem undisturbed_bytes (bytes : List UInt8) :
    undisturbed (bytes.map StreamEvent.byte) = bytes.map StreamEvent.byte := by
  induction bytes with
  | nil => rfl
  | cons byte bytes inductionHypothesis =>
      exact congrArg (StreamEvent.byte byte :: ·) inductionHypothesis

theorem uninterrupted_undisturbed (events : List StreamEvent) :
    Uninterrupted (undisturbed events) :=
  fun _ member => (List.mem_filter.mp member).2

theorem Uninterrupted.head {event : StreamEvent} {events : List StreamEvent}
    (uninterrupted : Uninterrupted (event :: events)) : event.isLasting = true :=
  uninterrupted event List.mem_cons_self

theorem Uninterrupted.tail {event : StreamEvent} {events : List StreamEvent}
    (uninterrupted : Uninterrupted (event :: events)) : Uninterrupted events :=
  fun other member => uninterrupted other (List.mem_cons_of_mem event member)

theorem Uninterrupted.of_suffix {rest events : List StreamEvent}
    (uninterrupted : Uninterrupted events) (suffix : rest <:+ events) : Uninterrupted rest :=
  fun event member => uninterrupted event (suffix.subset member)

theorem Uninterrupted.of_append {front events : List StreamEvent}
    (uninterrupted : Uninterrupted (front ++ events)) : Uninterrupted events :=
  fun event member => uninterrupted event (List.mem_append_right front member)

/-! ## Visible events -/

/-- The events that a reader has to deal with: all, but for the interrupted reads that are
tried again. -/
def visible : Interruption → List StreamEvent → List StreamEvent
  | .retried, events => undisturbed events
  | .reported, events => events

section Visible

variable (interruption : Interruption)

@[simp] theorem visible_nil : visible interruption [] = [] := by
  cases interruption <;> rfl

theorem visible_append (front back : List StreamEvent) :
    visible interruption (front ++ back) =
      visible interruption front ++ visible interruption back := by
  cases interruption with
  | retried => exact List.filter_append front back
  | reported => rfl

@[simp] theorem visible_byte (byte : UInt8) (events : List StreamEvent) :
    visible interruption (.byte byte :: events) = .byte byte :: visible interruption events := by
  cases interruption <;> rfl

/-- A failed read is visible unless it is tried again. -/
theorem visible_failure (cause : ReadFailure) (events : List StreamEvent) :
    visible interruption (.failure cause :: events) =
      if cause.kind = .interrupted ∧ interruption = .retried then visible interruption events
      else .failure cause :: visible interruption events := by
  cases interruption with
  | reported => exact (if_neg fun both => nomatch both.2).symm
  | retried =>
      by_cases interrupted : cause.kind = .interrupted <;>
        simp [visible, undisturbed, StreamEvent.isLasting, interrupted]

theorem visible_suffix {rest events : List StreamEvent} (suffix : rest <:+ events) :
    visible interruption rest <:+ visible interruption events := by
  obtain ⟨front, split⟩ := suffix
  exact ⟨visible interruption front, by rw [← visible_append, split]⟩

end Visible

end ListInvocation.Wire
