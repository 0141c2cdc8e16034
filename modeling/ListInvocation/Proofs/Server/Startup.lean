import ListInvocation.Proofs.Steps
import ListInvocation.Server.Host

/-!
Contract: the start of a server, from its configuration to its listener.

Owns: what a server that was made tells of its configuration, the path that is handed over
to open an audit file, and the only failure to listen when there is an address.

Does not own: the checks of a configuration.
-/

namespace ListInvocation

namespace FileStore

variable {ε α : Type}

/-- An attempt keeps its result, and its files where it succeeds. -/
theorem resultOf_attempt (step : FileStore → Except ε (α × FileStore)) (store : FileStore) :
    resultOf (attempt step) store = step store := by
  unfold resultOf attempt
  cases step store <;> rfl

theorem resultOf_pure (result : Except ε α) (store : FileStore) :
    resultOf (pure result) store = result.map fun value => (value, store) := by
  cases result <;> rfl

/-- What an action that succeeds has made, and of which files. -/
theorem eq_of_resultOf {action : StateM FileStore (Except ε α)} {store files : FileStore}
    {value : α} (made : resultOf action store = .ok (value, files)) :
    action store = (.ok value, files) := by
  unfold resultOf at made
  split at made
  next same =>
    cases made
    exact same
  next => contradiction

end FileStore

namespace AuditSink

/-- A sink in a file is opened at the path of the configuration as it stands there. -/
theorem ofConfig_file {config : AuditConfig} {path : String} (file : config.target = .file)
    (given : config.path? = some path) (store : FileStore) :
    ofConfig config store = openFile store path := by
  rw [ofConfig, openWith, file, given]
  exact FileStore.resultOf_attempt (fun store => openFile store path) store

theorem openFile_ne_pathMissing (store : FileStore) (path : String) :
    openFile store path ≠ .error AuditConfig.pathMissing := by
  unfold openFile
  cases store.openAppend path with
  | ok opened => exact nofun
  | error fault => cases fault <;> simp [FileFault.message, AuditConfig.pathMissing]

/-- A path is missed only where a file is asked for without one. -/
theorem ofConfig_eq_pathMissing_iff {config : AuditConfig} {store : FileStore} :
    ofConfig config store = .error AuditConfig.pathMissing ↔
      config.target = .file ∧ config.path? = Option.none := by
  cases target : config.target with
  | stderr => simp [ofConfig, openWith, target, FileStore.resultOf_pure, Except.map]
  | none => simp [ofConfig, openWith, target, FileStore.resultOf_pure, Except.map]
  | file =>
      cases given : config.path? with
      | none => simp [ofConfig, openWith, target, given, FileStore.resultOf_pure, Except.map]
      | some path =>
          rw [ofConfig_file target given]
          simp [openFile_ne_pathMissing]

end AuditSink

namespace Server

/-- With an address in its configuration, a server fails to listen only when the host refuses
that address. -/
theorem listenOn_of_bindAddress {server : Server} {socket : Network.SocketAddress}
    (found : server.config.server.bindAddress = .ok socket)
    (refusal? : Network.SocketAddress → Option String) :
    server.listenOn refusal? =
      match refusal? socket with
      | none => .ok ()
      | some description => .error (listenFailure description) := by
  unfold listenOn listenAddress
  rw [found]
  cases refused : refusal? socket <;> simp only [bind, Except.bind, refused, listened]

variable [Pattern.Library]

/-- A server is made from a configuration that passes its checks, with the sink that it asks
for, and starts to count its sessions at one. -/
theorem eq_of_openWith {σ : Type} {openFile : String → StateM σ (Except String AuditSink)}
    {config : Config} {registry : Registry} {state next : σ} {server : Server}
    (made : openWith openFile config registry state = (.ok server, next)) :
    config.validate = .ok () ∧
      ∃ sink, AuditSink.openWith openFile config.audit state = (.ok sink, next) ∧
        server = ⟨config, registry, .standard, sink, 1⟩ := by
  unfold openWith at made
  cases valid : config.validate with
  | error error =>
      rw [valid] at made
      cases made
  | ok passed =>
      rw [valid] at made
      simp only [bind_apply] at made
      cases opened : AuditSink.openWith openFile config.audit state with
      | mk result behind =>
          rw [opened] at made
          cases result with
          | error description => cases made
          | ok sink =>
              cases made
              exact ⟨rfl, sink, rfl, rfl⟩

theorem eq_of_ofConfig {config : Config} {registry : Registry} {store files : FileStore}
    {server : Server} (made : ofConfig config registry store = .ok (server, files)) :
    config.validate = .ok () ∧ ∃ sink, AuditSink.ofConfig config.audit store = .ok (sink, files) ∧
      server = ⟨config, registry, .standard, sink, 1⟩ := by
  obtain ⟨valid, sink, opened, same⟩ := eq_of_openWith (FileStore.eq_of_resultOf made)
  refine ⟨valid, sink, ?_, same⟩
  rw [AuditSink.ofConfig, FileStore.resultOf, opened]

end Server

end ListInvocation
