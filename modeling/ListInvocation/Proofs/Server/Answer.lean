import ListInvocation.Fixture.Sample
import ListInvocation.Server.Conversation
import ListInvocation.Proofs.Session.Batch
import ListInvocation.Proofs.Wire.Decoded
import ListInvocation.Platform

/-!
Contract: every message but the closing one is answered, entry by entry.

Owns: the answer to a batch with its entries as a caller reads them, the answer to a
message that is no list, and what is recorded about failures.

Does not own: frames, or the end of a session.
-/

namespace ListInvocation

open ListInvocation.Wire ListInvocation.Text
open ListInvocation.Instruction (peekId)

/-! ## Identifiers on the wire -/

/-- The identifier of an instruction that was read is no list, so it stays a text when it
is read again at the same depth. -/
theorem decode_peekId {text : String} {batch : Tree String} (decoded : decode text = .ok batch)
    {tree : Tree String} (member : tree ∈ batch.branches) :
    ∃ error, decode (peekId tree) = .error error := by
  obtain ⟨texts, _, shape⟩ := list_of_decode decoded
  rw [shape, Tree.branches_list] at member
  obtain ⟨instructionText, _, read⟩ := List.mem_map.mp member
  unfold peekId
  split
  next id rest first =>
    have isElement : Tree.leaf id ∈ tree.branches := by
      rw [first]
      exact List.mem_cons_self
    rw [← read] at isElement
    unfold maxNesting decodeElement at isElement
    split at isElement
    next elements _ =>
      rw [Tree.branches_list] at isElement
      obtain ⟨elementText, _, idRead⟩ := List.mem_map.mp isElement
      exact leaf_of_decodeElement idRead
    next => exact absurd isElement List.not_mem_nil
  next => exact ⟨_, decode_empty⟩

/-- An entry is read as a list of two, whatever its result spells, because its identifier
was classified as text before. -/
theorem decodeElement_entry {outcome : Outcome}
    (plain : ∃ error, decode outcome.id = .error error)
    (small : byteSize (elementText outcome.entry) < 1000000000) :
    ∃ result, decodeElement maxNesting (elementText outcome.entry) =
      .list [.text outcome.id, result] := by
  obtain ⟨error, undecodable⟩ := plain
  have shape : elementText outcome.entry =
      encodeElements [outcome.id.toList, elementText outcome.result] := rfl
  rw [shape] at small ⊢
  unfold maxNesting
  rw [decodeElement, splitList_encodeElements small]
  refine ⟨decodeElement 63 (elementText outcome.result), ?_⟩
  simp only [List.map_cons, List.map_nil]
  rw [decodeElement, decode_eq_error_iff.mp undecodable, String.ofList_toList]

/-- The entries of an answer that is read back: as many as instructions, in their order,
each with the identifier of its instruction. -/
theorem entries_of_decode {trees : List (Tree String)} {outcomes : List Outcome}
    (ids : List.Forall₂ (fun tree outcome => outcome.id = peekId tree) trees outcomes)
    (plain : ∀ tree ∈ trees, ∃ error, decode (peekId tree) = .error error)
    (small : ∀ outcome ∈ outcomes, byteSize (elementText outcome.entry) < 1000000000) :
    List.Forall₂ (fun tree entry => ∃ result, entry = .list [.text (peekId tree), result])
      trees
      (outcomes.map fun outcome => decodeElement maxNesting (elementText outcome.entry)) := by
  induction ids with
  | nil => exact .nil
  | @cons tree outcome trees outcomes sameId ids inductionHypothesis =>
      refine .cons ?_ ?_
      · rw [← sameId]
        apply decodeElement_entry
        · rw [sameId]
          exact plain tree List.mem_cons_self
        · exact small outcome List.mem_cons_self
      · apply inductionHypothesis
        · intro other member
          exact plain other (List.mem_cons_of_mem tree member)
        · intro other member
          exact small other (List.mem_cons_of_mem outcome member)

/-! ## Answers to batches -/

/-- The outcomes of a batch in a conversation, one for each instruction. -/
def Conversation.outcomes [Text.Alphabet] (conversation : Conversation) (batch : Tree String) :
    List Outcome :=
  (conversation.session.executeAll batch.branches).1

/-- How a message that is a list is answered. -/
structure AnswersBatch [Text.Alphabet] (conversation : Conversation) (batch : Tree String)
    (response : String) (records : List AuditRecord) (next : Conversation) : Prop where
  session : next.session = (conversation.session.executeAll batch.branches).2
  written : response =
    encode (.list ((conversation.outcomes batch).map Outcome.entry))
  identified : List.Forall₂ (fun instruction outcome => outcome.id = peekId instruction)
    batch.branches (conversation.outcomes batch)
  /-- The failures that are recorded are the outcomes with a failure. -/
  recorded : ∃ stats : MessageStats,
    records = [conversation.record (.messageProcessed stats)] ∧
      stats.failures =
        (conversation.outcomes batch).countP fun outcome => outcome.failure?.isSome
  /-- The entry of a failed instruction holds its exception text. -/
  failed : ∀ outcome ∈ conversation.outcomes batch, ∀ failure,
    outcome.failure? = some failure → outcome.result = .text failure.exceptionText
  /-- The entries that a caller reads stand for the instructions one by one. -/
  entries : response.utf8ByteSize < 1000000000 →
    ∃ entries, decode response = .ok (.list entries) ∧
      List.Forall₂
        (fun instruction entry =>
          ∃ result, entry = .list [.text (peekId instruction), result])
        batch.branches entries

theorem instructionsOf_of_decode {text : String} {batch : Tree String}
    (decoded : decode text = .ok batch) : Session.instructionsOf batch = batch.branches := by
  obtain ⟨texts, _, shape⟩ := list_of_decode decoded
  rw [shape]
  rfl

/-- What is answered to a batch, with the records and the conversation afterwards. -/
theorem handle_of_ok [Text.Alphabet] (conversation : Conversation) {payload : String}
    {batch : Tree String} (notClosing : payload ≠ Conversation.closingMessage)
    (decoded : decode payload = .ok batch) :
    ∃ stats : MessageStats,
      stats.failures =
        ((conversation.outcomes batch).countP fun outcome => outcome.failure?.isSome) ∧
      conversation.handle payload =
        (.respond (encode (.list ((conversation.outcomes batch).map Outcome.entry))),
          [conversation.record (.messageProcessed stats)],
          { conversation with
            session := (conversation.session.executeAll batch.branches).2
            messages := conversation.messages + 1 }) := by
  unfold Conversation.handle
  rw [if_neg notClosing, decoded]
  simp only [Session.execute, instructionsOf_of_decode decoded]
  exact ⟨_, rfl, rfl⟩

theorem answersBatch [Text.Alphabet] [Pattern.Library] {conversation : Conversation}
    {format : NumberFormat}
    (standard : conversation.session.dialect = Dialect.standard.withFormat format)
    {payload : String} {batch : Tree String}
    (notClosing : payload ≠ Conversation.closingMessage)
    (decoded : decode payload = .ok batch) :
    ∃ response records next,
      conversation.handle payload = (.respond response, records, next) ∧
        AnswersBatch conversation batch response records next := by
  obtain ⟨stats, failures, handled⟩ := handle_of_ok conversation notClosing decoded
  have identified := conversation.session.executeAll_ids batch.branches
  refine ⟨_, _, _, handled, rfl, rfl, identified, ⟨stats, rfl, failures⟩, ?_,
    fun small => ?_⟩
  · exact Session.executeAll_results standard batch.branches
  · refine ⟨_, decode_encode_eq small, ?_⟩
    rw [Tree.branches_list, List.map_map]
    apply entries_of_decode identified
    · exact fun tree member => decode_peekId decoded member
    · intro outcome member
      rw [utf8ByteSize_encode] at small
      exact Nat.lt_of_le_of_lt (byteSize_elementText_le (List.mem_map_of_mem member)) small

/-! ## Messages that are no list -/

/-- The exception text of a message that is no list. -/
theorem exceptionText_malformed (message : String) :
    (Failure.malformedInstruction [message]).exceptionText =
      "__EXCEPTION__:message:<<MALFORMED_INSTRUCTION " ++ message ++
        ">> malformed instruction [" ++ message ++ "]" := by
  have front : "__EXCEPTION__:message:<<MALFORMED_INSTRUCTION " =
      "__EXCEPTION__:" ++ ("message:<<" ++ ("MALFORMED_INSTRUCTION" ++ " ")) := by decide
  have middle : ">> malformed instruction [" = ">> " ++ "malformed instruction [" := by decide
  change "__EXCEPTION__:" ++
      ("message:<<" ++ String.intercalate " " ["MALFORMED_INSTRUCTION",
        String.intercalate "," [message]] ++ ">> ") ++
      ("malformed instruction [" ++ String.intercalate "," [message] ++ "]") = _
  rw [front, middle]
  simp only [String.intercalate_cons_cons, String.intercalate_singleton,
    String.append_assoc]

/-- The answer to a message that is no list. -/
def malformedAnswer (message : String) : Tree String :=
  .list [.list [.text "",
    .text ("__EXCEPTION__:message:<<MALFORMED_INSTRUCTION " ++ message ++
      ">> malformed instruction [" ++ message ++ "]")]]

/-- How a message that is no list is answered. -/
structure AnswersRejection (conversation : Conversation) (error : WireError)
    (response : String) (next : Conversation) : Prop where
  session : next.session = conversation.session
  written : response = encode (malformedAnswer error.message)
  /-- The one entry that a caller reads. -/
  entry : response.utf8ByteSize < 1000000000 →
    decode response = .ok (malformedAnswer error.message)

/-- The answer to a message that is no list is read back as it was: neither of its texts
begins like a list. -/
theorem carriable_malformedAnswer {message : String}
    (short : (encode (malformedAnswer message)).utf8ByteSize < 1000000000) :
    Carriable (malformedAnswer message) := by
  apply carriable_list _ short
  intro branch member
  rw [List.mem_singleton.mp member]
  refine ⟨rfl, fun leaf leafMember => ?_⟩
  simp only [List.mem_cons, List.not_mem_nil, or_false] at leafMember
  rcases leafMember with same | same
  · rw [same]
    exact ⟨_, decode_empty⟩
  · rw [same]
    have head : ("__EXCEPTION__:message:<<MALFORMED_INSTRUCTION " ++ message ++
        ">> malformed instruction [" ++ message ++ "]").toList.head? = some '_' := by
      simp only [String.toList_append]
      rfl
    exact ⟨_, decode_of_head head (by decide)⟩

variable [Pattern.Library]

theorem rejection_eq {session : Session} {format : NumberFormat}
    (standard : session.dialect = Dialect.standard.withFormat format) (error : WireError) :
    Conversation.rejection session error = malformedAnswer error.message := by
  unfold Conversation.rejection
  simp only [Session.composeFailure_standard standard, exceptionText_malformed]
  rfl

variable [Text.Alphabet]

theorem answersRejection {conversation : Conversation} {format : NumberFormat}
    (standard : conversation.session.dialect = Dialect.standard.withFormat format)
    {payload : String} {error : WireError}
    (notClosing : payload ≠ Conversation.closingMessage)
    (undecodable : decode payload = .error error) :
    ∃ response records next,
      conversation.handle payload = (.respond response, records, next) ∧
        AnswersRejection conversation error response next := by
  unfold Conversation.handle
  rw [if_neg notClosing, undecodable]
  simp only [rejection_eq standard]
  refine ⟨_, _, _, rfl, rfl, rfl, fun short => ?_⟩
  exact (carriable_malformedAnswer short).comesBack

/-! ## All messages -/

/-- Every message but the closing one has exactly one answer. A batch is answered entry by
entry under the identifiers of its instructions, whatever the results spell, and any other
message by one entry that says so and leaves the session alone. -/
theorem handle_answers (conversation : Conversation) (format : NumberFormat)
    (standard : conversation.session.dialect = Dialect.standard.withFormat format)
    (payload : String) (notClosing : payload ≠ Conversation.closingMessage) :
    ∃ response records next,
      conversation.handle payload = (.respond response, records, next) ∧
      (response.utf8ByteSize < 1000000000 → ∃ answer, decode response = .ok answer) ∧
      (∀ batch, decode payload = .ok batch →
        AnswersBatch conversation batch response records next) ∧
      (∀ error, decode payload = .error error →
        AnswersRejection conversation error response next) := by
  cases decoded : decode payload with
  | ok batch =>
      obtain ⟨response, records, next, handled, answers⟩ :=
        answersBatch standard notClosing decoded
      refine ⟨response, records, next, handled, fun short => ?_, ?_, ?_⟩
      · obtain ⟨entries, read, _⟩ := answers.entries short
        exact ⟨_, read⟩
      · intro other same
        rw [← Except.ok.inj same]
        exact answers
      · intro error impossible
        contradiction
  | error error =>
      obtain ⟨response, records, next, handled, answers⟩ :=
        answersRejection standard notClosing decoded
      refine ⟨response, records, next, handled, fun short => ?_, ?_, ?_⟩
      · exact ⟨_, answers.entry short⟩
      · intro batch impossible
        contradiction
      · intro other same
        rw [← Except.error.inj same]
        exact answers

end ListInvocation

namespace ListInvocation

open ListInvocation.Wire ListInvocation.Text
open ListInvocation.Instruction (peekId)

/-- A conversation on the sample classes, before its first message. -/
def sampleConversation : Conversation :=
  ⟨.start Sample.registry .standard, ⟨1, .stdio, none⟩, 0⟩

/-- A construction, an instruction that is a text, and one whose identifier is a list. -/
def mixedBatch : Tree String :=
  .list [.list [.text "[1", .text "make", .text "c", .text "demo.Calculator"], .text "[]",
    .list [.list [.text "2"], .text "call"]]

theorem handle_answers_mixedBatch :
    ∃ response records next,
      sampleConversation.handle (encode mixedBatch) = (.respond response, records, next) ∧
        AnswersBatch sampleConversation mixedBatch response records next := by
  have decoded : decode (encode mixedBatch) = .ok mixedBatch :=
    decode_of_toOption (by decide +kernel)
  obtain ⟨response, records, next, handled, _, answers, _⟩ :=
    handle_answers sampleConversation .invariant rfl (encode mixedBatch) (by decide +kernel)
  exact ⟨response, records, next, handled, answers mixedBatch decoded⟩

end ListInvocation
