import ListInvocation.CommandLine.Outcome
import ListInvocation.Proofs.CommandLine
import ListInvocation.Proofs.Config.Validation
import ListInvocation.Proofs.Server.Startup
import ListInvocation.Proofs.Wire.Frame
import ListInvocation.Platform

/-!
Contract: what the later uses of a configuration rely on when it has passed its checks.

Owns: the address that a server listens on, also where the caller gives another one, the
compiled exclusions, the audit sink, the greeting, and the payloads that can be received.

Does not own: the checks themselves, or a host's reasons to refuse an address.
-/

namespace ListInvocation

open Wire (StreamEvent bytesOf)

/-! ## Greetings -/

/-- A character of a version is neither a control character nor beyond ASCII. -/
theorem ServerConfig.code_of_isVersionCharacter {character : Char}
    (permitted : isVersionCharacter character = true) :
    32 < character.toNat ∧ character.toNat < 128 := by
  have code : character.toNat = character.val.toNat := rfl
  delta isVersionCharacter Char.isAlphanum Char.isAlpha Char.isUpper Char.isLower
    Char.isDigit at permitted
  simp only [Bool.or_eq_true, Bool.and_eq_true, decide_eq_true_eq, beq_iff_eq,
    UInt32.le_iff_toNat_le, ge_iff_le, Char.reduceVal, UInt32.reduceToNat] at permitted
  rcases permitted with letterOrDigit | point
  · omega
  · subst point
    decide

/-- A version that passes its check stands in one line of ASCII characters. -/
theorem ServerConfig.VersionFits.greeting {version : String} (fits : VersionFits version) :
    (∀ character ∈ (Wire.greeting version).toList, character.toNat < 128) ∧
      ∃ line, Wire.greeting version = line ++ "\n" ∧ '\n' ∉ line.toList := by
  have line : ∀ character ∈ (Wire.greetingStart ++ version).toList,
      31 < character.toNat ∧ character.toNat < 128 := by
    intro character member
    rw [String.toList_append, List.mem_append] at member
    rcases member with start | inVersion
    · have opening : Wire.greetingStart.toList.all
          (fun character => 31 < character.toNat && character.toNat < 128) = true := by
        decide +kernel
      simpa using List.all_eq_true.mp opening character start
    · have code := code_of_isVersionCharacter (fits.characters character inVersion)
      omega
  refine ⟨fun character member => ?_, Wire.greetingStart ++ version, rfl, fun newline => ?_⟩
  · rw [Wire.greeting, String.toList_append, List.mem_append] at member
    rcases member with inLine | last
    · exact (line character inLine).2
    · rw [List.mem_singleton.mp last]
      decide
  · exact absurd (line '\n' newline).1 (by decide)

/-! ## Listening -/

/-- An address from the caller changes nothing about which addresses are permitted. -/
theorem permits_overrideBind {config : Config} {bind? : Option String}
    {socket : Network.SocketAddress} :
    (CommandLine.overrideBind config bind?).server.Permits socket ↔
      config.server.Permits socket := by
  cases bind? <;> exact Iff.rfl

variable [Pattern.Library]

theorem Server.sound_of_ofConfig {config : Config} {registry : Registry}
    {store files : FileStore} {server : Server}
    (made : ofConfig config registry store = .ok (server, files)) :
    config.Sound ∧ server.config = config := by
  obtain ⟨valid, sink, -, same⟩ := eq_of_ofConfig made
  exact ⟨Config.validate_eq_ok_iff.mp valid, by rw [same]⟩

/-- The program goes on serving only behind an address that is permitted and that its host
does not refuse. -/
theorem CommandLine.bindAddress_of_serve [Text.Alphabet]
    {refusal? : Network.SocketAddress → Option String} {config : Config}
    {surroundings : Surroundings}
    (goesOn : (serve refusal? config surroundings).code? = none) :
    ∃ socket, config.server.bindAddress = .ok socket ∧ config.server.Permits socket ∧
      refusal? socket = none := by
  obtain ⟨_, server, _, address, made, tcp, listens, accepted⟩ := System.listens_of_serve goesOn
  obtain ⟨valid, sink, -, same⟩ := Server.eq_of_openWith made
  have sound := Config.validate_eq_ok_iff.mp valid
  obtain ⟨socket, found, permitted⟩ := sound.server.reachable tcp
  rw [Server.listenAddress, same, found] at listens
  cases listens
  exact ⟨address, found, permitted, accepted⟩

/-! ## Exclusions -/

theorem Exclusions.source_of_compileOne {source : String} {pattern : Pattern}
    (compiled : compileOne source = .ok pattern) : pattern.source = source := by
  unfold compileOne at compiled
  split at compiled
  next same =>
    cases compiled
    exact Pattern.Library.source_of_compile same
  next => contradiction

/-- Compiled exclusions are those of the configuration, in their order. -/
theorem Exclusions.sources_of_compile {sources : List String} {exclusions : Exclusions}
    (compiled : compile sources = .ok exclusions) :
    exclusions.patterns.map Pattern.source = sources := by
  induction sources generalizing exclusions with
  | nil =>
      cases compiled
      rfl
  | cons source sources inductionHypothesis =>
      obtain ⟨pattern, first, compiled⟩ := steps_of_bind_eq_ok compiled
      obtain ⟨others, later, compiled⟩ := steps_of_bind_eq_ok compiled
      cases compiled
      rw [List.map_cons, source_of_compileOne first, inductionHypothesis later]

/-! ## The promises -/

variable [Text.Alphabet]

/-- What the uses of a configuration rely on. -/
structure Config.Dependable (config : Config) : Prop where
  /-- On the network there is an address, one of the own host unless others are allowed. -/
  address : config.server.transport = .tcp →
    ∃ socket, config.server.bindAddress = .ok socket ∧ config.server.Permits socket
  /-- Neither with its own address nor with one from the caller does a server come to listen
  on an address that is not permitted, and only the host keeps it from listening. -/
  listener : ∀ bind? registry store server files,
    Server.ofConfig (CommandLine.overrideBind config bind?) registry store =
        .ok (server, files) →
      server.config.server.transport = .tcp →
      ∃ socket, server.listenAddress = .ok socket ∧ config.server.Permits socket ∧
        ∀ refusal? : Network.SocketAddress → Option String,
          server.listenOn refusal? =
            match refusal? socket with
            | none => .ok ()
            | some description => .error (Server.listenFailure description)
  /-- The same of the whole program on any host, which goes on only when it listens. -/
  program : ∀ refusal? bind? surroundings,
    (CommandLine.serve refusal? (CommandLine.overrideBind config bind?) surroundings).code? =
        none →
      ∃ socket, (CommandLine.overrideBind config bind?).server.bindAddress = .ok socket ∧
        config.server.Permits socket ∧ refusal? socket = none
  /-- There are as many exclusions as patterns, in their order. -/
  exclusions : ∃ exclusions, config.compiledExclusions = .ok exclusions ∧
    exclusions.patterns.map Pattern.source = config.exclusions
  /-- No audit file is asked for without a path. -/
  sink : ∀ store, AuditSink.ofConfig config.audit store ≠ .error AuditConfig.pathMissing
  /-- The greeting is one line of ASCII characters. -/
  greeting : (∀ character ∈ (Wire.greeting config.server.protocolVersion).toList,
      character.toNat < 128) ∧
    ∃ line, Wire.greeting config.server.protocolVersion = line ++ "\n" ∧ '\n' ∉ line.toList
  /-- A payload within the limit is read from its frame, and nothing behind it is. -/
  payloads : ∀ interruption payload events,
    payload.utf8ByteSize ≤ config.server.maxMessageBytes →
      Wire.readFrame interruption config.server.maxMessageBytes
          ((bytesOf (Wire.frame payload)).map StreamEvent.byte ++ events) =
        (.ok (some payload), events)

/-- A configuration that passes its checks keeps what they promise. -/
theorem Config.dependable_of_validate {config : Config} (valid : config.validate = .ok ()) :
    config.Dependable := by
  have sound := validate_eq_ok_iff.mp valid
  constructor
  case address => exact sound.server.reachable
  case listener =>
    intro bind? registry store server files made tcp
    obtain ⟨madeSound, same⟩ := Server.sound_of_ofConfig made
    obtain ⟨socket, found, permitted⟩ := madeSound.server.reachable (same ▸ tcp)
    rw [← same] at found
    refine ⟨socket, ?_, permits_overrideBind.mp permitted,
      Server.listenOn_of_bindAddress found⟩
    rw [Server.listenAddress, found]
  case program =>
    intro refusal? bind? surroundings goesOn
    obtain ⟨socket, found, permitted, accepted⟩ := CommandLine.bindAddress_of_serve goesOn
    exact ⟨socket, found, permits_overrideBind.mp permitted, accepted⟩
  case exclusions =>
    obtain ⟨exclusions, compiled⟩ := sound.exclusions.compile
    exact ⟨exclusions, compiled, Exclusions.sources_of_compile compiled⟩
  case sink =>
    intro store missing
    obtain ⟨file, noPath⟩ := AuditSink.ofConfig_eq_pathMissing_iff.mp missing
    obtain ⟨path, given⟩ := sound.audit.named file
    rw [noPath] at given
    contradiction
  case greeting => exact sound.server.version.greeting
  case payloads =>
    intro interruption payload events allowed
    have small : payload.utf8ByteSize < 1000000000 :=
      Nat.lt_of_le_of_lt (Nat.le_trans allowed sound.server.bounded) (by decide)
    exact Wire.readFrame_of_isFrame interruption (Wire.isFrame_frame allowed small) events

end ListInvocation

namespace ListInvocation

open Wire (StreamEvent bytesOf)

/-- A server on the own host, with all of its settings in use. -/
def Config.guarded : Config where
  server := ⟨.tcp, some " [::1]:9000", false, Limits.messageBytes, "0.3.a"⟩
  audit := ⟨.file, some "logs/audit.log"⟩
  exclusions := ["^Draft", "a+"]

theorem Config.dependable_of_validate_guarded :
    Config.guarded.validate = .ok () ∧ Config.guarded.Dependable := by
  have valid : Config.guarded.validate = .ok () := eq_ok_of_toOption (by decide +kernel)
  exact ⟨valid, Config.dependable_of_validate valid⟩

end ListInvocation
