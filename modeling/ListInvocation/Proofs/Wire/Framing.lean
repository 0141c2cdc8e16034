import ListInvocation.Proofs.Wire.Frame

/-!
Contract: what every read of a stream of bytes yields, told by its bytes alone.

A stream begins with a header, with the unfinished beginning of one, or with bytes that no
header begins with. The first decides on the payload by its length; the two others end a read.

Owns: the three beginnings, the result of one read with the bytes behind it, and the same of
several reads.

Does not own: interrupted reads, chunks, and devices.
-/

namespace ListInvocation.Wire

open ListInvocation.Decimal

/-! ## Beginnings -/

/-- Some bytes are a header but for further bytes. -/
def IsUnfinishedHeader (bytes : List UInt8) : Prop :=
  ∃ length more, more ≠ [] ∧ IsHeader length (bytes ++ more)

/-- A stream begins with a header, ends within one, or has a byte with which no header
goes on. -/
inductive Beginning : List UInt8 → Prop where
  | header {length : Nat} {header : List UInt8} (rest : List UInt8) :
      IsHeader length header → Beginning (header ++ rest)
  | unfinished {bytes : List UInt8} : IsUnfinishedHeader bytes → Beginning bytes
  | malformed {front : List UInt8} {byte : UInt8} (rest : List UInt8) :
      IsUnfinishedHeader front → (∀ length, ¬ IsHeader length (front ++ [byte])) →
      ¬ IsUnfinishedHeader (front ++ [byte]) → Beginning (front ++ byte :: rest)

theorem isUnfinishedHeader_nil : IsUnfinishedHeader [] :=
  ⟨0, [48, 58], List.cons_ne_nil _ _, ['0'],
    ⟨by decide, by decide, List.all_eq_true.mp rfl⟩, rfl, by decide⟩

theorem beginning_append {front : List UInt8} (unfinished : IsUnfinishedHeader front)
    (bytes : List UInt8) : Beginning (front ++ bytes) := by
  -- The bytes that are left go over to the unfinished header one by one.
  induction bytes generalizing front with
  | nil =>
      rw [List.append_nil]
      exact .unfinished unfinished
  | cons byte bytes inductionHypothesis =>
      have split : front ++ byte :: bytes = (front ++ [byte]) ++ bytes := by simp
      by_cases header : ∃ length, IsHeader length (front ++ [byte])
      · obtain ⟨length, header⟩ := header
        rw [split]
        exact .header bytes header
      · by_cases further : IsUnfinishedHeader (front ++ [byte])
        · rw [split]
          exact inductionHypothesis further
        · exact .malformed bytes unfinished (not_exists.mp header) further

theorem beginning (bytes : List UInt8) : Beginning bytes :=
  beginning_append isUnfinishedHeader_nil bytes

/-! ## Digits of a header -/

theorem bytesOf_digits {run : List Char} (digits : ∀ character ∈ run, isDigit character = true) :
    bytesOf (String.ofList run) = run.map asciiByte := by
  induction run with
  | nil => rfl
  | cons character run inductionHypothesis =>
      rw [bytesOf_cons_digit (digits character List.mem_cons_self),
        inductionHypothesis fun other member => digits other (List.mem_cons_of_mem _ member)]
      rfl

/-- An unfinished header is a run of digits that is not too long. -/
theorem IsUnfinishedHeader.exists_digits {bytes : List UInt8}
    (unfinished : IsUnfinishedHeader bytes) :
    ∃ run, (∀ character ∈ run, isDigit character = true) ∧ run.length ≤ maxLengthDigits ∧
      run.length = bytes.length ∧ bytes = bytesOf (String.ofList run) := by
  obtain ⟨length, more, nonempty, run, numeral, _, spelled⟩ := unfinished
  -- The last byte of a header is its colon, and all before it are digits.
  obtain ⟨between, last, split⟩ := List.eq_nil_or_concat more |>.resolve_left nonempty
  rw [split, List.concat_eq_append, ← List.append_assoc] at spelled
  have digitBytes := (List.append_inj' spelled rfl).1
  rw [bytesOf_digits numeral.digits] at digitBytes
  obtain ⟨front, back, parts, frontBytes, _⟩ := List.map_eq_append_iff.mp digitBytes.symm
  have digits : ∀ character ∈ front, isDigit character = true := by
    intro character member
    exact numeral.digits character (parts ▸ List.mem_append_left back member)
  refine ⟨front, digits, ?_, ?_, ?_⟩
  · have short := numeral.short
    rw [parts, List.length_append] at short
    omega
  · rw [← frontBytes, List.length_map]
  · rw [bytesOf_digits digits, frontBytes]

theorem isUnfinishedHeader_digits {run : List Char}
    (digits : ∀ character ∈ run, isDigit character = true)
    (short : run.length ≤ maxLengthDigits) :
    IsUnfinishedHeader (bytesOf (String.ofList run)) := by
  by_cases empty : run = []
  · rw [empty]
    exact isUnfinishedHeader_nil
  · exact ⟨ofDigits run, [58], List.cons_ne_nil _ _, run,
      ⟨List.length_pos_iff.mpr empty, short, digits⟩, rfl, rfl⟩

/-- A further digit leaves the header unfinished while there is room. -/
theorem isUnfinishedHeader_concat {run : List Char} {byte : UInt8} {value : Nat}
    (digits : ∀ character ∈ run, isDigit character = true) (room : run.length < maxLengthDigits)
    (isValue : FrameReader.digitOf? byte = some value) :
    IsUnfinishedHeader (bytesOf (String.ofList run) ++ [byte]) := by
  obtain ⟨character, isDigit, sameByte, _⟩ := asciiByte_of_digitOf? isValue
  have longer : bytesOf (String.ofList run) ++ [byte] =
      bytesOf (String.ofList (run ++ [character])) := by
    rw [String.ofList_append, bytesOf_append, bytesOf_cons_digit isDigit [], sameByte]
    rfl
  rw [longer]
  apply isUnfinishedHeader_digits
  · intro other member
    rcases List.mem_append.mp member with inRun | last
    · exact digits other inRun
    · rwa [List.mem_singleton.mp last]
  · rw [List.length_append, List.length_singleton]
    exact room

/-- A byte with which no header goes on is refused at its place. -/
theorem takeByte_malformed {run : List Char} {byte : UInt8}
    (digits : ∀ character ∈ run, isDigit character = true)
    (short : run.length ≤ maxLengthDigits)
    (noHeader : ∀ length, ¬ IsHeader length (bytesOf (String.ofList run) ++ [byte]))
    (noBeginning : ¬ IsUnfinishedHeader (bytesOf (String.ofList run) ++ [byte]))
    (limit value : Nat) :
    (FrameReader.header value run.length).takeByte limit byte =
      (.start, some (.error (.invalidLength run.length))) := by
  have notColon : ¬ (byte = 58 ∧ 0 < run.length) := by
    rintro ⟨colon, positive⟩
    exact noHeader (ofDigits run) ⟨run, ⟨positive, short, digits⟩, rfl, by rw [colon]⟩
  rw [FrameReader.takeByte, if_neg notColon]
  cases isDigit? : FrameReader.digitOf? byte with
  | none => rfl
  | some value =>
      have full : ¬ run.length < maxLengthDigits := by
        intro room
        exact noBeginning (isUnfinishedHeader_concat digits room isDigit?)
      exact if_neg full

/-! ## One read -/

/-- The result of one read, by the bytes of the stream, with the bytes behind it. -/
inductive ReadOf (limit : Nat) :
    List UInt8 → Except WireError (Option String) → List UInt8 → Prop where
  /-- There is no frame at the end of the stream only. -/
  | ended : ReadOf limit [] (.ok none) []
  /-- A frame is read, and no byte behind it. -/
  | payload {payload : String} {front : List UInt8} (behind : List UInt8) :
      IsFrame limit payload front → ReadOf limit (front ++ behind) (.ok (some payload)) behind
  /-- The first byte with which no header goes on is the last one that is read. -/
  | malformed {front : List UInt8} {byte : UInt8} (behind : List UInt8) :
      IsUnfinishedHeader front → (∀ length, ¬ IsHeader length (front ++ [byte])) →
      ¬ IsUnfinishedHeader (front ++ [byte]) →
      ReadOf limit (front ++ byte :: behind) (.error (.invalidLength front.length)) behind
  /-- The stream ends within a header. -/
  | unfinishedHeader {front : List UInt8} :
      front ≠ [] → IsUnfinishedHeader front →
      ReadOf limit front (.error (.truncated front.length)) []
  /-- No byte of a payload beyond the limit is read. -/
  | tooLarge {length : Nat} {header : List UInt8} (behind : List UInt8) :
      IsHeader length header → limit < length →
      ReadOf limit (header ++ behind) (.error (.tooLarge length limit)) behind
  /-- The stream ends within a payload. -/
  | unfinishedPayload {length : Nat} {header part : List UInt8} :
      IsHeader length header → length ≤ limit → part.length < length →
      ReadOf limit (header ++ part) (.error (.truncated length)) []
  /-- The payload is read, and is not text. -/
  | notText {length : Nat} {header part : List UInt8} (behind : List UInt8) :
      IsHeader length header → length ≤ limit → part.length = length → textOf? part = none →
      ReadOf limit (header ++ (part ++ behind)) (.error .invalidUtf8) behind

theorem exists_readOf (limit : Nat) (bytes : List UInt8) :
    ∃ result behind, ReadOf limit bytes result behind := by
  cases beginning bytes with
  | unfinished unfinished =>
      by_cases empty : bytes = []
      · rw [empty]
        exact ⟨_, _, .ended⟩
      · exact ⟨_, _, .unfinishedHeader empty unfinished⟩
  | malformed rest unfinished noHeader noBeginning =>
      exact ⟨_, _, .malformed rest unfinished noHeader noBeginning⟩
  | @header length header rest isHeader =>
      by_cases tooLarge : limit < length
      · exact ⟨_, _, .tooLarge rest isHeader tooLarge⟩
      have allowed := Nat.le_of_not_lt tooLarge
      by_cases fewer : rest.length < length
      · exact ⟨_, _, .unfinishedPayload isHeader allowed fewer⟩
      have counted : (rest.take length).length = length := by
        rw [List.length_take]
        omega
      have split : rest = rest.take length ++ rest.drop length :=
        (List.take_append_drop length rest).symm
      rw [split]
      cases read : textOf? (rest.take length) with
      | none => exact ⟨_, _, .notText _ isHeader allowed counted read⟩
      | some payload =>
          have spelled := textOf?_eq_some_iff.mp read
          have size : payload.utf8ByteSize = length := by
            rw [← length_bytesOf, ← spelled, counted]
          rw [spelled, ← List.append_assoc]
          rw [← size] at isHeader allowed
          exact ⟨_, _, .payload _ (isFrame_iff_header.mpr ⟨header, isHeader, allowed, rfl⟩)⟩

theorem payloadOf_reverse_of_none {bytes : List UInt8} (notText : textOf? bytes = none) :
    FrameReader.payloadOf bytes.reverse = .error .invalidUtf8 := by
  rw [FrameReader.payloadOf, List.reverse_reverse, notText]

/-- A read yields what its bytes tell. -/
theorem ReadOf.readFrame_eq {limit : Nat} {bytes behind : List UInt8}
    {result : Except WireError (Option String)} (readOf : ReadOf limit bytes result behind)
    (interruption : Interruption) :
    readFrame interruption limit (bytes.map StreamEvent.byte) =
      (result, behind.map StreamEvent.byte) := by
  cases readOf with
  | ended => rfl
  | payload behind framed =>
      rw [List.map_append]
      exact readFrame_of_isFrame interruption framed _
  | @malformed front byte behind unfinished noHeader noBeginning =>
      obtain ⟨run, digits, short, length, spelled⟩ := unfinished.exists_digits
      rw [spelled] at noHeader noBeginning
      rw [← length, spelled, List.map_append, readFrame_digits interruption limit digits short]
      exact FrameReader.read_lastByte
        (takeByte_malformed digits short noHeader noBeginning limit (ofDigits run)) _
  | unfinishedHeader nonempty unfinished =>
      obtain ⟨run, digits, short, length, spelled⟩ := unfinished.exists_digits
      have read := readFrame_digits interruption limit digits short []
      have positive : 0 < run.length := length ▸ List.length_pos_iff.mpr nonempty
      obtain ⟨count, counted⟩ := Nat.exists_eq_add_one.mpr positive
      rw [List.append_nil, ← spelled, counted] at read
      rw [read, ← length, counted]
      rfl
  | tooLarge behind isHeader tooLarge =>
      rw [List.map_append, readFrame_header interruption limit isHeader, readAnnounced,
        FrameReader.announce, if_pos tooLarge]
      rfl
  | @unfinishedPayload length header part isHeader allowed fewer =>
      have read := readAnnounced_unfinished interruption allowed fewer []
      rw [List.append_nil] at read
      rw [List.map_append, readFrame_header interruption limit isHeader, read]
      rfl
  | @notText length header part behind isHeader allowed counted notText =>
      rw [← counted] at isHeader allowed
      rw [List.map_append, List.map_append, readFrame_header interruption limit isHeader,
        readAnnounced_whole interruption allowed, payloadOf_reverse_of_none notText]
      rfl

theorem map_byte_inj {left right : List UInt8} :
    left.map StreamEvent.byte = right.map StreamEvent.byte ↔ left = right :=
  List.map_inj_right fun _ _ same => StreamEvent.byte.inj same

/-- The bytes of a stream and nothing else decide on its first read. -/
theorem readFrame_eq_iff (interruption : Interruption) {limit : Nat}
    {bytes behind : List UInt8} {result : Except WireError (Option String)} :
    readFrame interruption limit (bytes.map StreamEvent.byte) =
        (result, behind.map StreamEvent.byte) ↔
      ReadOf limit bytes result behind := by
  refine ⟨fun read => ?_, fun readOf => readOf.readFrame_eq interruption⟩
  obtain ⟨other, between, readOf⟩ := exists_readOf limit bytes
  rw [readOf.readFrame_eq interruption] at read
  have sameResult : other = result := congrArg Prod.fst read
  have sameBytes : between = behind := map_byte_inj.mp (congrArg Prod.snd read)
  rwa [sameResult, sameBytes] at readOf

/-! ## Several reads -/

/-- The results of several reads, each behind the one before, with the bytes behind them. -/
inductive ReadsOf (limit : Nat) :
    List UInt8 → List (Except WireError (Option String)) → List UInt8 → Prop where
  | nil (bytes : List UInt8) : ReadsOf limit bytes [] bytes
  | cons {bytes between behind : List UInt8} {result : Except WireError (Option String)}
      {results : List (Except WireError (Option String))} :
      ReadOf limit bytes result between → ReadsOf limit between results behind →
      ReadsOf limit bytes (result :: results) behind

theorem exists_readsOf (limit count : Nat) (bytes : List UInt8) :
    ∃ results behind, results.length = count ∧ ReadsOf limit bytes results behind := by
  induction count generalizing bytes with
  | zero => exact ⟨[], bytes, rfl, .nil bytes⟩
  | succ count inductionHypothesis =>
      obtain ⟨result, between, first⟩ := exists_readOf limit bytes
      obtain ⟨results, behind, counted, others⟩ := inductionHypothesis between
      exact ⟨result :: results, behind, congrArg (· + 1) counted, .cons first others⟩

theorem ReadsOf.append {limit : Nat} {bytes between behind : List UInt8}
    {results more : List (Except WireError (Option String))}
    (front : ReadsOf limit bytes results between) (back : ReadsOf limit between more behind) :
    ReadsOf limit bytes (results ++ more) behind := by
  induction front with
  | nil => exact back
  | cons first _ inductionHypothesis => exact .cons first (inductionHypothesis back)

/-- The bytes of the frames of some texts, one after another. -/
def framesOf (texts : List String) : List UInt8 :=
  texts.flatMap fun text => bytesOf (frame text)

/-- Texts that fit are read in order, and no byte behind their frames. -/
theorem readsOf_framesOf {limit : Nat} {texts : List String}
    (fit : ∀ text ∈ texts, text.utf8ByteSize ≤ limit ∧ text.utf8ByteSize < 1000000000)
    (behind : List UInt8) :
    ReadsOf limit (framesOf texts ++ behind) (texts.map fun text => .ok (some text)) behind := by
  induction texts with
  | nil => exact .nil behind
  | cons text texts inductionHypothesis =>
      obtain ⟨allowed, small⟩ := fit text List.mem_cons_self
      have split : framesOf (text :: texts) ++ behind =
          bytesOf (frame text) ++ (framesOf texts ++ behind) := by
        rw [framesOf, List.flatMap_cons, List.append_assoc]
        rfl
      rw [split]
      exact .cons (.payload _ (isFrame_frame allowed small))
        (inductionHypothesis fun other member => fit other (List.mem_cons_of_mem text member))

theorem readsOf_nil (limit count : Nat) :
    ReadsOf limit [] (List.replicate count (.ok none)) [] := by
  induction count with
  | zero => exact .nil []
  | succ count inductionHypothesis => exact .cons .ended inductionHypothesis

end ListInvocation.Wire
