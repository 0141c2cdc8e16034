import ListInvocation.Config.Validation
import ListInvocation.Proofs.Steps

/-!
Contract: the settings that pass the checks.

Owns: for each check the condition on the settings that it reads, and from these the
condition on a whole configuration.

Does not own: what is done with a configuration afterwards.
-/

namespace ListInvocation

theorem ConfigError.unless_eq_ok_iff {holds : Bool} {description : String} :
    ConfigError.unless holds description = .ok () ↔ holds = true := by
  cases holds <;> simp [ConfigError.unless]

open ConfigError (unless_eq_ok_iff)

/-! ## Paths -/

/-- A path that keeps the limits on its length and on that of its components. -/
structure PathFits (path : String) : Prop where
  total : path.utf8ByteSize ≤ Limits.pathBytes
  components : ∀ component ∈ FileStore.components path,
    component.utf8ByteSize ≤ Limits.pathComponentBytes

theorem foldl_max_le_iff {numbers : List Nat} {initial bound : Nat} :
    numbers.foldl max initial ≤ bound ↔ initial ≤ bound ∧ ∀ number ∈ numbers, number ≤ bound := by
  induction numbers generalizing initial with
  | nil => simp
  | cons number numbers inductionHypothesis =>
      rw [List.foldl_cons, inductionHypothesis, Nat.max_le, List.forall_mem_cons, and_assoc]

theorem checkPathLimits_eq_ok_iff {label path : String} :
    checkPathLimits label path = .ok () ↔ PathFits path := by
  simp only [checkPathLimits, andThen_eq_ok_iff, unless_eq_ok_iff, decide_eq_true_eq,
    foldl_max_le_iff, Nat.zero_le, true_and, List.forall_mem_map]
  exact ⟨fun ⟨total, components⟩ => ⟨total, components⟩,
    fun fits => ⟨fits.total, fits.components⟩⟩

/-! ## The server -/

namespace ServerConfig

/-- A version of permitted length that consists of permitted characters. -/
structure VersionFits (version : String) : Prop where
  nonempty : 0 < version.utf8ByteSize
  short : version.utf8ByteSize ≤ Limits.protocolVersionBytes
  characters : ∀ character ∈ version.toList, isVersionCharacter character = true

/-- Whether a server may listen on an address: one that other hosts reach must be allowed. -/
def Permits (config : ServerConfig) (socket : Network.SocketAddress) : Prop :=
  socket.address.isLoopback = true ∨ config.allowNonLoopback = true

/-- Server settings that can be used. -/
structure Sound (config : ServerConfig) : Prop where
  receives : 0 < config.maxMessageBytes
  bounded : config.maxMessageBytes ≤ Limits.messageBytes
  version : VersionFits config.protocolVersion
  reachable : config.transport = .tcp →
    ∃ socket, config.bindAddress = .ok socket ∧ config.Permits socket

theorem checkProtocolVersion_eq_ok_iff {version : String} :
    checkProtocolVersion version = .ok () ↔ VersionFits version := by
  simp only [checkProtocolVersion, andThen_eq_ok_iff, unless_eq_ok_iff, Bool.and_eq_true,
    decide_eq_true_eq, List.all_eq_true]
  exact ⟨fun ⟨⟨nonempty, short⟩, characters⟩ => ⟨nonempty, short, characters⟩,
    fun fits => ⟨⟨fits.nonempty, fits.short⟩, fits.characters⟩⟩

/-- The address is checked on the network only. -/
theorem validate_eq_ok_iff {config : ServerConfig} : config.validate = .ok () ↔ config.Sound := by
  unfold validate
  rw [andThen_eq_ok_iff, andThen_eq_ok_iff, andThen_eq_ok_iff, unless_eq_ok_iff,
    unless_eq_ok_iff, checkProtocolVersion_eq_ok_iff, decide_eq_true_eq, decide_eq_true_eq]
  constructor
  · rintro ⟨receives, bounded, version, reached⟩
    refine ⟨receives, bounded, version, fun tcp => ?_⟩
    rw [tcp] at reached
    obtain ⟨socket, found, permitted⟩ := steps_of_bind_eq_ok reached
    rw [unless_eq_ok_iff, Bool.or_eq_true] at permitted
    exact ⟨socket, found, permitted⟩
  · rintro ⟨receives, bounded, version, reachable⟩
    refine ⟨receives, bounded, version, ?_⟩
    cases transport : config.transport with
    | stdio => rfl
    | tcp =>
        obtain ⟨socket, found, permitted⟩ := reachable transport
        rw [found]
        exact unless_eq_ok_iff.mpr ((Bool.or_eq_true _ _).mpr permitted)

end ServerConfig

/-! ## The audit trail -/

namespace AuditConfig

/-- Audit settings that can be used. Limits are those of the path without the blanks around
it, also where no file is asked for. -/
structure Sound (config : AuditConfig) : Prop where
  path : ∀ path, config.path? = some path →
    Text.trimmed path ≠ "" ∧ PathFits (Text.trimmed path)
  named : config.target = .file → ∃ path, config.path? = some path

theorem checkPath_eq_ok_iff {path : String} :
    checkPath path = .ok () ↔ Text.trimmed path ≠ "" ∧ PathFits (Text.trimmed path) := by
  unfold checkPath
  rw [andThen_eq_ok_iff, unless_eq_ok_iff, checkPathLimits_eq_ok_iff]
  simp

theorem validate_eq_ok_iff {config : AuditConfig} : config.validate = .ok () ↔ config.Sound := by
  unfold validate
  cases given : config.path? with
  | none =>
      rw [unless_eq_ok_iff, bne_iff_ne]
      constructor
      · intro noFile
        exact ⟨fun path found => by rw [given] at found; contradiction,
          fun file => absurd file noFile⟩
      · intro sound file
        obtain ⟨path, found⟩ := sound.named file
        rw [given] at found
        contradiction
  | some path =>
      rw [checkPath_eq_ok_iff]
      constructor
      · intro fits
        refine ⟨fun other found => ?_, fun _ => ⟨path, given⟩⟩
        rw [given] at found
        exact Option.some.inj found ▸ fits
      · intro sound
        exact sound.path path given

end AuditConfig

/-! ## The whole configuration -/

namespace Config

theorem checkExclusionLength_eq_ok_iff {pattern : String} :
    checkExclusionLength pattern = .ok () ↔
      pattern ≠ "" ∧ pattern.utf8ByteSize ≤ Limits.exclusionPatternBytes := by
  unfold checkExclusionLength
  rw [andThen_eq_ok_iff, unless_eq_ok_iff, unless_eq_ok_iff, decide_eq_true_eq]
  simp

variable [Pattern.Library]

/-- Exclusion patterns within their limits, all of which compile. -/
structure ExclusionsFit (patterns : List String) : Prop where
  few : patterns.length ≤ Limits.exclusionPatterns
  lengths : ∀ pattern ∈ patterns,
    pattern ≠ "" ∧ pattern.utf8ByteSize ≤ Limits.exclusionPatternBytes
  compile : ∃ exclusions, Exclusions.compile patterns = .ok exclusions

/-- A configuration that can be used. -/
structure Sound (config : Config) : Prop where
  server : config.server.Sound
  audit : config.audit.Sound
  exclusions : ExclusionsFit config.exclusions

theorem validateExclusions_eq_ok_iff {patterns : List String} :
    validateExclusions patterns = .ok () ↔ ExclusionsFit patterns := by
  unfold validateExclusions
  rw [andThen_eq_ok_iff, andThen_eq_ok_iff, unless_eq_ok_iff, forM_eq_ok_iff,
    decide_eq_true_eq]
  simp only [checkExclusionLength_eq_ok_iff]
  constructor
  · rintro ⟨few, lengths, compiled⟩
    obtain ⟨exclusions, compiled, -⟩ := steps_of_bind_eq_ok compiled
    exact ⟨few, lengths, exclusions, compiled⟩
  · rintro ⟨few, lengths, exclusions, compiled⟩
    refine ⟨few, lengths, ?_⟩
    rw [compiled]
    rfl

/-- A configuration passes its checks exactly when it can be used. -/
theorem validate_eq_ok_iff {config : Config} : config.validate = .ok () ↔ config.Sound := by
  unfold validate
  rw [andThen_eq_ok_iff, andThen_eq_ok_iff, ServerConfig.validate_eq_ok_iff,
    AuditConfig.validate_eq_ok_iff, validateExclusions_eq_ok_iff]
  exact ⟨fun ⟨server, audit, exclusions⟩ => ⟨server, audit, exclusions⟩,
    fun sound => ⟨sound.server, sound.audit, sound.exclusions⟩⟩

end Config

end ListInvocation
