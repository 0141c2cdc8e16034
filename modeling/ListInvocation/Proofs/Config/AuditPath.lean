import ListInvocation.Proofs.Config.Validation
import ListInvocation.Proofs.Server.Startup
import ListInvocation.Proofs.Text.Blank
import ListInvocation.Proofs.Text.Bytes

/-!
Contract: the path of an audit file, as it is checked and as it is opened.

The check looks at the path without the blanks around it. The file is opened at the path with
them, so that they escape the limits and become part of its name.

Owns: when the two paths are the same, which blanks a checked path may carry, and the names
that pass and that no store opens.

Does not own: the limits, or what stands in an audit file.
-/

namespace ListInvocation

/-! ## Single names -/

namespace FileStore

/-- A path of one component, which names an entry of the working directory. -/
structure IsName (path : String) : Prop where
  noSlash : '/' ∉ path.toList
  noZero : ∀ character ∈ path.toList, character.toNat ≠ 0
  notHere : ¬(path = "" ∨ path = ".")
  notAbove : path ≠ ".."

variable {path : String}

/-- Longer than the names of the directories themselves, a path is a name without slashes and
zeros. -/
theorem IsName.of_characters
    (characters : ∀ character ∈ path.toList, character ≠ '/' ∧ character.toNat ≠ 0)
    (long : 2 < path.utf8ByteSize) : IsName path where
  noSlash member := (characters '/' member).1 rfl
  noZero character member := (characters character member).2
  notHere := by rintro (rfl | rfl) <;> exact absurd long (by decide +kernel)
  notAbove := by
    rintro rfl
    exact absurd long (by decide +kernel)

/-- A blank is neither a slash nor a zero. -/
theorem isNameCharacter_of_isBlank {character : Char}
    (blank : Text.isBlank character = true) : character ≠ '/' ∧ character.toNat ≠ 0 := by
  constructor
  · rintro rfl
    contradiction
  · intro zero
    rw [Text.isBlank, zero] at blank
    contradiction

/-- Blanks around a name are part of a longer name. -/
theorem IsName.surround {before after : String} (isName : IsName path)
    (beforeBlank : Text.Blank before.toList) (afterBlank : Text.Blank after.toList)
    (long : 2 < (before ++ path ++ after).utf8ByteSize) : IsName (before ++ path ++ after) := by
  refine .of_characters (fun character member => ?_) long
  rw [String.toList_append, String.toList_append, List.mem_append, List.mem_append] at member
  rcases member with (inFront | inName) | inBack
  · exact isNameCharacter_of_isBlank (beforeBlank character inFront)
  · refine ⟨?_, isName.noZero character inName⟩
    rintro rfl
    exact isName.noSlash inName
  · exact isNameCharacter_of_isBlank (afterBlank character inBack)

theorem IsName.components (isName : IsName path) : components path = [path] := by
  rw [FileStore.components, List.splitOn_eq_singleton isName.noSlash, List.map_singleton,
    String.ofList_toList]

theorem IsName.startOf (isName : IsName path) : startOf path = .below [] := by
  have noRoot : path.toList.head? ≠ some '/' :=
    fun slash => isName.noSlash (List.mem_of_mem_head? slash)
  exact if_neg noRoot

/-- A name is looked for where it stands, unless the path is too long as a whole. -/
theorem IsName.resolve (isName : IsName path) (store : FileStore) :
    store.resolve path =
      if pathLimit ≤ path.utf8ByteSize then .error .nameTooLong
      else store.walk (.below []) [path] := by
  have noZero : path.toList.any (·.toNat = 0) = false := by
    rw [List.any_eq_false]
    intro character member
    rw [decide_eq_true_eq]
    exact isName.noZero character member
  rw [FileStore.resolve, noZero, if_neg Bool.false_ne_true,
    if_neg fun empty => isName.notHere (.inl empty), isName.components, isName.startOf]

/-- No store opens a name that is too long. -/
theorem IsName.openAppend_of_long (isName : IsName path)
    (long : componentLimit < path.utf8ByteSize) (store : FileStore) :
    store.openAppend path = .error .nameTooLong := by
  have walked : store.walk (.below []) [path] = .error .nameTooLong := by
    unfold walk
    rw [if_neg isName.notHere, if_neg isName.notAbove, if_pos long]
  rw [openAppend, isName.resolve, walked, ite_self]

/-- Without any files, a name that is not too long is that of a new file. -/
theorem IsName.openAppend_new (isName : IsName path)
    (short : path.utf8ByteSize ≤ componentLimit) :
    (⟨[]⟩ : FileStore).openAppend path = .ok ([path], ⟨[([path], [])]⟩) := by
  have withinLimit : ¬pathLimit ≤ path.utf8ByteSize :=
    Nat.not_le.mpr (Nat.lt_of_le_of_lt short (by decide))
  have walked : (⟨[]⟩ : FileStore).walk (.below []) [path] =
      .ok (.absent (.below [path]) false) := by
    unfold walk
    rw [if_neg isName.notHere, if_neg isName.notAbove, if_neg (Nat.not_lt.mpr short)]
    rfl
  rw [openAppend, isName.resolve, if_neg withinLimit, walked]
  rfl

end FileStore

theorem pathFits_of_isName {path : String} (isName : FileStore.IsName path) :
    PathFits path ↔ path.utf8ByteSize ≤ Limits.pathComponentBytes := by
  constructor
  · intro fits
    exact fits.components path (by rw [isName.components]; exact List.mem_singleton_self path)
  · intro short
    refine ⟨Nat.le_trans short (by decide), ?_⟩
    rw [isName.components]
    exact List.forall_mem_singleton.mpr short

/-! ## The two paths -/

namespace AuditConfig

/-- The path of an audit file in its parts: the path that is checked and the blanks around
it. -/
structure OpenedAround (config : AuditConfig) (front checked back : String) : Prop where
  given : config.path? = some (front ++ checked ++ back)
  frontBlank : Text.Blank front.toList
  backBlank : Text.Blank back.toList
  /-- The middle part is what the check reads, and it keeps the limits. -/
  trimmed : Text.trimmed (front ++ checked ++ back) = checked
  nonempty : checked ≠ ""
  fits : PathFits checked
  /-- The file is opened at all three parts. -/
  opened : ∀ store, AuditSink.ofConfig config store =
    AuditSink.openFile store (front ++ checked ++ back)
  /-- Only without blanks the file is opened at the path that was checked. -/
  same_iff : front ++ checked ++ back = checked ↔ front = "" ∧ back = ""
  /-- Any other blanks pass as well, however many they are. -/
  unlimited : ∀ before after, Text.Blank before.toList → Text.Blank after.toList →
    { config with path? := some (before ++ checked ++ after) }.validate = .ok ()

theorem surround_eq_self_iff {front checked back : String} :
    front ++ checked ++ back = checked ↔ front = "" ∧ back = "" := by
  constructor
  · intro same
    have lengths := congrArg String.length same
    rw [String.length_append, String.length_append] at lengths
    exact ⟨String.length_eq_zero_iff.mp (by omega), String.length_eq_zero_iff.mp (by omega)⟩
  · rintro ⟨rfl, rfl⟩
    rw [String.empty_append, String.append_empty]

/-- A path that keeps the limits passes with any blanks around it. -/
theorem validate_surround {target : AuditTarget} {before checked after : String}
    (beforeBlank : Text.Blank before.toList) (afterBlank : Text.Blank after.toList)
    (clean : Text.trimmed checked = checked) (nonempty : checked ≠ "")
    (fits : PathFits checked) :
    validate ⟨target, some (before ++ checked ++ after)⟩ = .ok () := by
  refine validate_eq_ok_iff.mpr ⟨fun path given => ?_, fun _ => ⟨_, rfl⟩⟩
  rw [← Option.some.inj given, Text.trimmed_blank_append beforeBlank afterBlank, clean]
  exact ⟨nonempty, fits⟩

/-- The file of an audit trail that passes its checks is opened at the checked path with the
blanks that stand around it in the configuration. -/
theorem exists_openedAround {config : AuditConfig} (file : config.target = .file)
    (valid : config.validate = .ok ()) :
    ∃ front checked back, config.OpenedAround front checked back := by
  have sound := validate_eq_ok_iff.mp valid
  obtain ⟨path, given⟩ := sound.named file
  obtain ⟨nonempty, fits⟩ := sound.path path given
  obtain ⟨front, back, frontBlank, backBlank, parts⟩ := Text.exists_blank_trimmed path
  refine ⟨front, Text.trimmed path, back, ?_⟩
  constructor
  case given => rw [← parts, given]
  case frontBlank => exact frontBlank
  case backBlank => exact backBlank
  case trimmed => rw [← parts]
  case nonempty => exact nonempty
  case fits => exact fits
  case opened =>
    intro store
    rw [← parts]
    exact AuditSink.ofConfig_file file given store
  case same_iff => exact surround_eq_self_iff
  case unlimited =>
    intro before after beforeBlank afterBlank
    exact validate_surround beforeBlank afterBlank (Text.trimmed_trimmed path) nonempty fits

/-! ## Names that pass and cannot be opened -/

/-- A name that keeps the limits passes with any blanks around it. When these make it too
long, no store opens it. -/
theorem refused_of_long {before name after : String} (isName : FileStore.IsName name)
    (clean : Text.trimmed name = name) (short : name.utf8ByteSize ≤ Limits.pathComponentBytes)
    (beforeBlank : Text.Blank before.toList) (afterBlank : Text.Blank after.toList)
    (long : Limits.pathComponentBytes < (before ++ name ++ after).utf8ByteSize) :
    validate ⟨.file, some (before ++ name ++ after)⟩ = .ok () ∧
      ¬PathFits (before ++ name ++ after) ∧
      ∀ store, AuditSink.ofConfig ⟨.file, some (before ++ name ++ after)⟩ store =
        .error FileFault.nameTooLong.message := by
  have isLongName := isName.surround beforeBlank afterBlank (Nat.lt_trans (by decide) long)
  have nonempty : name ≠ "" := fun empty => isName.notHere (.inl empty)
  have fits : PathFits name := (pathFits_of_isName isName).mpr short
  refine ⟨validate_surround beforeBlank afterBlank clean nonempty fits, ?_, ?_⟩
  · rw [pathFits_of_isName isLongName]
    exact Nat.not_le.mpr long
  · intro store
    rw [AuditSink.ofConfig_file rfl rfl, AuditSink.openFile,
      isLongName.openAppend_of_long long]

/-- A name of the greatest length. -/
def longestName : String :=
  String.ofList (List.replicate Limits.pathComponentBytes 'a')

/-- That name between two blanks. -/
def crowdedPath : String := " " ++ longestName ++ " "

/-- The settings of an audit trail at that path. -/
def crowded : AuditConfig := ⟨.file, some crowdedPath⟩

theorem eq_of_mem_longestName {character : Char} (member : character ∈ longestName.toList) :
    character = 'a' := by
  rw [longestName, String.toList_ofList] at member
  exact List.eq_of_mem_replicate member

theorem utf8ByteSize_longestName : longestName.utf8ByteSize = Limits.pathComponentBytes := by
  rw [longestName, Text.utf8ByteSize_ofList]
  decide +kernel

theorem isName_longestName : FileStore.IsName longestName := by
  refine .of_characters (fun character member => ?_) (by rw [utf8ByteSize_longestName]; decide)
  rw [eq_of_mem_longestName member]
  decide

theorem trimmed_longestName : Text.trimmed longestName = longestName := by
  rw [Text.trimmed, Text.trim_of_clean, String.ofList_toList]
  intro character member
  rw [eq_of_mem_longestName member]
  rfl

theorem blank_space : Text.Blank " ".toList :=
  List.all_eq_true.mp rfl

theorem trimmed_crowdedPath : Text.trimmed crowdedPath = longestName := by
  rw [crowdedPath, Text.trimmed_blank_append blank_space blank_space, trimmed_longestName]

theorem crowded_refused :
    crowded.validate = .ok () ∧ ¬PathFits crowdedPath ∧
      ∀ store, AuditSink.ofConfig crowded store = .error FileFault.nameTooLong.message := by
  refine refused_of_long isName_longestName trimmed_longestName
    (Nat.le_of_eq utf8ByteSize_longestName) blank_space blank_space ?_
  rw [String.utf8ByteSize_append, String.utf8ByteSize_append, utf8ByteSize_longestName]
  decide +kernel

theorem exists_openedAround_crowded :
    crowded.target = .file ∧ crowded.validate = .ok () ∧
      ∃ front checked back, crowded.OpenedAround front checked back :=
  ⟨rfl, crowded_refused.1, exists_openedAround rfl crowded_refused.1⟩

/-- Two blanks make the name too long: the settings pass and no store opens their file, while
the path that was checked can be opened. -/
theorem ofConfig_crowded :
    crowded.validate = .ok () ∧ Text.trimmed crowdedPath ≠ crowdedPath ∧
      PathFits (Text.trimmed crowdedPath) ∧ ¬PathFits crowdedPath ∧
      (∀ store, AuditSink.ofConfig crowded store = .error FileFault.nameTooLong.message) ∧
      AuditSink.openFile ⟨[]⟩ (Text.trimmed crowdedPath) =
        .ok (.file [longestName], ⟨[([longestName], [])]⟩) := by
  obtain ⟨valid, tooLong, refused⟩ := crowded_refused
  have fits : PathFits longestName :=
    (pathFits_of_isName isName_longestName).mpr (Nat.le_of_eq utf8ByteSize_longestName)
  have opened := isName_longestName.openAppend_new (Nat.le_of_eq utf8ByteSize_longestName)
  rw [trimmed_crowdedPath]
  refine ⟨valid, ?_, fits, tooLong, refused, ?_⟩
  · intro same
    exact tooLong (same ▸ fits)
  · rw [AuditSink.openFile, opened]

end AuditConfig
end ListInvocation
