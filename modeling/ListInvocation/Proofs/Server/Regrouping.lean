import Mathlib.Algebra.GroupWithZero.Nat
import ListInvocation.Proofs.Server.Answer
import ListInvocation.Platform

/-!
Contract: instructions may be spread over messages in any way.

A batch that is cut into several messages, some of them perhaps empty, leaves the session
as the whole batch does; the entries of the answers follow one another as in the one answer,
and the counts that are recorded add up.

Owns: what becomes of a message that is a batch, batches in a row, and their regrouping.

Does not own: messages that are no list, or frames.
-/

namespace ListInvocation

open ListInvocation.Wire

/-! ## Messages that are batches -/

/-- The closing message does not begin like a list. -/
theorem encode_ne_closing (tree : Tree String) : encode tree ≠ Conversation.closingMessage := by
  intro same
  have chars := congrArg String.toList same
  rw [encode, String.toList_ofList, encodeChars, encodeElements] at chars
  exact absurd (List.cons.inj chars).1 (by decide)

variable [Text.Alphabet]

/-- What becomes of a message that is a batch: it is carried out in the session, answered with
its results, and recorded with its counts. -/
structure Processes (conversation : Conversation) (payload : String) (outcome : BatchOutcome)
    (next : Conversation) : Prop where
  executed : ∃ batch, decode payload = .ok batch ∧
    conversation.session.execute batch = (outcome, next.session)
  handled : ∃ stats : MessageStats,
    conversation.handle payload = (.respond (encode outcome.results),
      [conversation.record (.messageProcessed stats)], next) ∧
    stats.instructions = outcome.executed ∧ stats.failures = outcome.failures

/-- Messages in a row, each processed in the state that those before it left. -/
inductive ProcessesAll :
    Conversation → List String → List BatchOutcome → Conversation → Prop where
  | nil {conversation : Conversation} : ProcessesAll conversation [] [] conversation
  | cons {conversation next last : Conversation} {payload : String} {payloads : List String}
      {outcome : BatchOutcome} {outcomes : List BatchOutcome} :
      Processes conversation payload outcome next →
      ProcessesAll next payloads outcomes last →
      ProcessesAll conversation (payload :: payloads) (outcome :: outcomes) last

theorem processes_of_decode (conversation : Conversation) {payload : String}
    {trees : List (Tree String)} (notClosing : payload ≠ Conversation.closingMessage)
    (decoded : decode payload = .ok (.list trees)) :
    ∃ next, Processes conversation payload ⟨(conversation.session.executeAll trees).1⟩ next ∧
      next.session = (conversation.session.executeAll trees).2 := by
  let outcome : BatchOutcome := ⟨(conversation.session.executeAll trees).1⟩
  let next : Conversation :=
    { conversation with
      session := (conversation.session.executeAll trees).2
      messages := conversation.messages + 1 }
  let stats : MessageStats :=
    { messageIndex := conversation.messages + 1
      instructions := outcome.executed
      failures := outcome.failures
      requestBytes := payload.utf8ByteSize
      responseBytes := (encode outcome.results).utf8ByteSize }
  have handled : conversation.handle payload =
      (.respond (encode outcome.results), [conversation.record (.messageProcessed stats)],
        next) := by
    unfold Conversation.handle
    rw [if_neg notClosing, decoded]
    rfl
  exact ⟨next, ⟨⟨.list trees, decoded, rfl⟩, stats, handled, rfl, rfl⟩, rfl⟩

/-! ## Regrouping -/

/-- Parts of a batch in a row do what the whole batch does. The induction is on the parts. -/
theorem processesAll_parts (conversation : Conversation) (parts : List (List (Tree String)))
    (carriable : ∀ part ∈ parts, Carriable (.list part)) :
    ∃ outcomes last,
      ProcessesAll conversation (parts.map fun part => encode (.list part)) outcomes last ∧
      last.session = (conversation.session.executeAll parts.flatten).2 ∧
      outcomes.flatMap BatchOutcome.outcomes =
        (conversation.session.executeAll parts.flatten).1 := by
  induction parts generalizing conversation with
  | nil => exact ⟨[], conversation, .nil, rfl, rfl⟩
  | cons part parts inductionHypothesis =>
      obtain ⟨next, processes, left⟩ := processes_of_decode conversation
        (encode_ne_closing (.list part)) (carriable part List.mem_cons_self).comesBack
      obtain ⟨outcomes, last, processesAll, lastSession, later⟩ := inductionHypothesis next
        fun other member => carriable other (List.mem_cons_of_mem part member)
      refine ⟨_, last, .cons processes processesAll, ?_, ?_⟩
      · rw [lastSession, left, List.flatten_cons, Session.executeAll_append]
      · rw [List.flatMap_cons, later, left, List.flatten_cons, Session.executeAll_append]

/-- A batch sent as one message, and the same instructions in any number of consecutive
messages, leave the same session; the entries of the answers are the same one after another,
and the counts of instructions and of failures add up to those of the whole. -/
theorem processesAll_regroup (conversation : Conversation) (parts : List (List (Tree String)))
    (carriable : Carriable (.list parts.flatten)) :
    ∃ whole afterWhole outcomes afterParts,
      Processes conversation (encode (.list parts.flatten)) whole afterWhole ∧
      ProcessesAll conversation (parts.map fun part => encode (.list part)) outcomes afterParts ∧
      afterParts.session = afterWhole.session ∧
      outcomes.flatMap (fun outcome => outcome.results.branches) = whole.results.branches ∧
      (outcomes.map BatchOutcome.executed).sum = whole.executed ∧
      (outcomes.map BatchOutcome.failures).sum = whole.failures := by
  obtain ⟨afterWhole, processes, wholeSession⟩ := processes_of_decode conversation
    (encode_ne_closing (.list parts.flatten)) carriable.comesBack
  obtain ⟨outcomes, afterParts, processesAll, partsSession, inOrder⟩ :=
    processesAll_parts conversation parts fun part member =>
      carriable.of_sublist (List.sublist_flatten_of_mem member)
  refine ⟨_, afterWhole, outcomes, afterParts, processes, processesAll,
    partsSession.trans wholeSession.symm, ?_, ?_, ?_⟩
  · simp only [BatchOutcome.results, Tree.branches_list]
    rw [← List.map_flatMap, inOrder]
  · simp only [BatchOutcome.executed]
    rw [← inOrder, List.length_flatMap]
    rfl
  · simp only [BatchOutcome.failures]
    rw [← inOrder, List.countP_flatMap]
    rfl

end ListInvocation

namespace ListInvocation

open ListInvocation.Wire

/-- A construction, an empty message, and a call with a malformed instruction behind it. -/
def cutBatch : List (List (Tree String)) :=
  [[Tree.textList ["1", "make", "c", "demo.Calculator"]], [],
    [Tree.textList ["2", "call", "c", "add", "2"], Tree.textList ["3", "forget", "c"]]]

theorem carriable_cutBatch : Carriable (.list cutBatch.flatten) := by
  refine carriable_list (fun branch member => ?_) (by decide +kernel)
  have plain : ∀ text ∈ ["1", "make", "c", "demo.Calculator", "2", "call", "add", "3", "forget"],
      ∃ error, decode text = .error error := by
    simp only [List.forall_mem_cons]
    exact ⟨⟨_, rfl⟩, ⟨_, rfl⟩, ⟨_, rfl⟩, ⟨_, rfl⟩, ⟨_, rfl⟩, ⟨_, rfl⟩, ⟨_, rfl⟩, ⟨_, rfl⟩,
      ⟨_, rfl⟩, nofun⟩
  have texts : ∀ tree ∈ cutBatch.flatten, ∃ texts, tree = Tree.textList texts ∧
      ∀ text ∈ texts, text ∈
        ["1", "make", "c", "demo.Calculator", "2", "call", "add", "3", "forget"] := by
    simp only [cutBatch, List.flatten_cons, List.flatten_nil, List.append_nil, List.nil_append,
      List.cons_append, List.forall_mem_cons]
    exact ⟨⟨_, rfl, by decide⟩, ⟨_, rfl, by decide⟩, ⟨_, rfl, by decide⟩, nofun⟩
  obtain ⟨words, same, known⟩ := texts branch member
  subst same
  exact carried_textList fun text inWords => plain text (known text inWords)

/-- The three messages leave the session that one message would leave, and record its two
instructions that succeed and the one that fails. -/
theorem processesAll_regroup_cutBatch :
    ∃ whole afterWhole outcomes afterParts,
      Processes sampleConversation (encode (.list cutBatch.flatten)) whole afterWhole ∧
      ProcessesAll sampleConversation (cutBatch.map fun part => encode (.list part)) outcomes
        afterParts ∧
      afterParts.session = afterWhole.session ∧
      (outcomes.map BatchOutcome.executed).sum = 3 ∧
      (outcomes.map BatchOutcome.failures).sum = 1 := by
  obtain ⟨whole, afterWhole, outcomes, afterParts, processes, processesAll, session, _, executed,
    failures⟩ := processesAll_regroup sampleConversation cutBatch carriable_cutBatch
  obtain ⟨batch, decoded, execution⟩ := processes.executed
  rw [carriable_cutBatch.comesBack] at decoded
  cases decoded
  have outcome : (sampleConversation.session.execute (.list cutBatch.flatten)).1 = whole :=
    congrArg Prod.fst execution
  refine ⟨whole, afterWhole, outcomes, afterParts, processes, processesAll, session, ?_, ?_⟩
  · rw [executed, ← outcome]
    decide +kernel
  · rw [failures, ← outcome]
    decide +kernel

end ListInvocation
