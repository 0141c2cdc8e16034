import ListInvocation.CommandLine.Program
import ListInvocation.Proofs.Steps

/-!
Contract: what has happened when the program goes on serving.

Owns: the steps of such a run, on a system that keeps a state.

Does not own: the checks of the configuration, or any system.
-/

namespace ListInvocation.CommandLine.System

variable {σ : Type} {system : System (StateM σ)} {state : σ}

/-- The system listens where a server's configuration says, unless it refuses. -/
theorem accepted_of_listen {server : Server}
    (listens : (system.listen server state).1 = .ok ()) :
    ∃ address, server.listenAddress = .ok address ∧ (system.refusal? address state).1 = none := by
  cases found : server.listenAddress with
  | error error =>
      simp only [listen, found] at listens
      contradiction
  | ok address =>
      simp only [listen, found, bind_apply] at listens
      cases refused : (system.refusal? address state).1 with
      | none => exact ⟨address, rfl, refused⟩
      | some description =>
          rw [refused] at listens
          contradiction

variable [Pattern.Library]

/-- The program goes on serving only with a server that its system made, on the network, behind
an address that the system did not refuse. -/
theorem listens_of_serve {config : Config} (goesOn : (system.serve config state).1 = none) :
    ∃ before server behind address,
      Server.openWith system.openFile config Demo.registry before = (.ok server, behind) ∧
        config.server.transport = .tcp ∧ server.listenAddress = .ok address ∧
        (system.refusal? address behind).1 = none := by
  rw [serve, bind_apply, bind_apply] at goesOn
  generalize (system.warn (announcement config) state).2 = before at goesOn
  cases opened : Server.openWith system.openFile config Demo.registry before with
  | mk made behind =>
      rw [opened] at goesOn
      cases made with
      | error error => contradiction
      | ok server =>
          cases transport : config.server.transport with
          | stdio =>
              simp only [transport, bind_apply] at goesOn
              cases conversed : (system.converse server behind).1 with
              | error error =>
                  rw [conversed] at goesOn
                  contradiction
              | ok done =>
                  rw [conversed] at goesOn
                  contradiction
          | tcp =>
              simp only [transport, bind_apply] at goesOn
              cases listened : (system.listen server behind).1 with
              | error error =>
                  rw [listened] at goesOn
                  contradiction
              | ok listens =>
                  obtain ⟨address, found, accepted⟩ := accepted_of_listen listened
                  exact ⟨before, server, behind, address, opened, rfl, found, accepted⟩

end ListInvocation.CommandLine.System
