import ListInvocation.Server.Host

/-!
Contract: the sessions of one server, side by side.

Every session has a driver, and calls on the drivers come in any order. They share the
server, which numbers the sessions, and one log of records.

Owns: drivers and the calls on them, a server with its drivers and their log, the actions
on it, and the part of some actions that concerns one driver.

Does not own: what the sessions have to do with each other.
-/

namespace ListInvocation.Server

/-! ## Drivers -/

inductive DriverCall where
  | message (payload : String)
  | rejectFrame (error : Wire.WireError)
  | finish (reason : String) (error? : Option String)

/-- The driver of a session, with the replies that it gave. -/
structure Driver where
  conversation : Conversation
  replies : List Reply
  finished : Bool

variable [Text.Alphabet]

namespace Driver

/-- The driver of a session that was just opened. -/
def opened (server : Server) (context : AuditContext) : Driver :=
  ⟨(Conversation.start (.start server.registry server.dialect) context).1, [], false⟩

/-- Carries out a call, with the records that this causes. A finished driver takes none. -/
def take (driver : Driver) (call : DriverCall) : Option (List AuditRecord × Driver) :=
  if driver.finished then none
  else
    match call with
    | .message payload =>
        let (reply, records, conversation) := driver.conversation.handle payload
        some (records,
          { driver with conversation := conversation, replies := driver.replies ++ [reply] })
    | .rejectFrame error => some ([driver.conversation.rejectFrame error], driver)
    | .finish reason error? =>
        let (record, conversation) := driver.conversation.finish reason error?
        some ([record], { driver with conversation := conversation, finished := true })

/-- Carries out calls in order, with all records that they cause. -/
def drive (driver : Driver) : List DriverCall → Option (List AuditRecord × Driver)
  | [] => some ([], driver)
  | call :: calls =>
      match driver.take call with
      | none => none
      | some (records, next) =>
          (next.drive calls).map fun driven => (records ++ driven.1, driven.2)

/-- Every call is carried out but those on a finished driver. -/
theorem isSome_take (driver : Driver) (call : DriverCall) :
    (driver.take call).isSome = !driver.finished := by
  unfold take
  cases driver.finished with
  | true => rfl
  | false => cases call <;> rfl

section Drive

variable {driver next last : Driver} {call : DriverCall} {calls : List DriverCall}
  {records more : List AuditRecord}

theorem drive_cons (taken : driver.take call = some (records, next))
    (driven : next.drive calls = some (more, last)) :
    driver.drive (call :: calls) = some (records ++ more, last) := by
  rw [drive, taken]
  simp only [driven, Option.map_some]

theorem exists_take_of_drive (driven : driver.drive (call :: calls) = some (records, last)) :
    ∃ now middle later, driver.take call = some (now, middle) ∧
      middle.drive calls = some (later, last) ∧ records = now ++ later := by
  rw [drive] at driven
  cases taken : driver.take call with
  | none =>
      rw [taken] at driven
      contradiction
  | some after =>
      obtain ⟨now, middle⟩ := after
      rw [taken] at driven
      obtain ⟨⟨later, final⟩, drivenOn, same⟩ := Option.map_eq_some_iff.mp driven
      cases same
      exact ⟨now, middle, later, rfl, drivenOn, rfl⟩

theorem drive_snoc (driven : driver.drive calls = some (records, last))
    (taken : last.take call = some (more, next)) :
    driver.drive (calls ++ [call]) = some (records ++ more, next) := by
  induction calls generalizing driver records with
  | nil =>
      cases driven
      have nothingMore : next.drive [] = some ([], next) := rfl
      have only := drive_cons taken nothingMore
      rw [List.append_nil] at only
      exact only
  | cons first calls inductionHypothesis =>
      obtain ⟨now, middle, later, firstTaken, drivenOn, rfl⟩ := exists_take_of_drive driven
      rw [List.cons_append, List.append_assoc]
      exact drive_cons firstTaken (inductionHypothesis drivenOn)

end Drive

end Driver

/-! ## Hubs -/

/-- A server with the drivers of its sessions, the oldest session first, and the log of all
records. -/
structure Hub where
  server : Server
  drivers : List Driver
  log : List AuditRecord

/-- Something done on a server: a session is opened, or a driver is called. -/
inductive Action where
  | openSession (transport : Transport) (peer? : Option String)
  /-- A call on the driver of the session that was opened as the given one, from zero. -/
  | call (number : Nat) (call : DriverCall)

namespace Hub

def start (server : Server) : Hub :=
  ⟨server, [], []⟩

/-- Carries out an action. There is no call on a driver that is not there or finished. -/
def step (hub : Hub) : Action → Option Hub
  | .openSession transport peer? =>
      let (conversation, opened, server) := hub.server.openSession transport peer?
      some ⟨server, hub.drivers ++ [⟨conversation, [], false⟩], hub.log ++ [opened]⟩
  | .call number call =>
      match hub.drivers[number]? with
      | none => none
      | some driver =>
          (driver.take call).map fun taken =>
            { hub with
              drivers := hub.drivers.set number taken.2
              log := hub.log ++ taken.1 }

def run (hub : Hub) : List Action → Option Hub
  | [] => some hub
  | action :: actions =>
      match hub.step action with
      | none => none
      | some next => next.run actions

/-- Every action is carried out but calls on drivers that are not there or finished. -/
theorem isSome_step_call_iff (hub : Hub) (number : Nat) (call : DriverCall) :
    (hub.step (.call number call)).isSome = true ↔
      ∃ driver, hub.drivers[number]? = some driver ∧ driver.finished = false := by
  rw [step]
  cases hub.drivers[number]? with
  | none => exact iff_of_false nofun nofun
  | some driver =>
      simp only [Option.isSome_map, Driver.isSome_take, Bool.not_eq_true', Option.some.injEq,
        exists_eq_left']

/-- A run takes its first step, and then the others. -/
theorem exists_step_of_run {hub last : Hub} {action : Action} {actions : List Action}
    (ran : hub.run (action :: actions) = some last) :
    ∃ next, hub.step action = some next ∧ next.run actions = some last := by
  rw [run] at ran
  cases stepped : hub.step action with
  | none =>
      rw [stepped] at ran
      contradiction
  | some next =>
      rw [stepped] at ran
      exact ⟨next, rfl, ran⟩

def sessionIds (hub : Hub) : List Nat :=
  hub.drivers.map fun driver => driver.conversation.context.sessionId

def recordsOf (hub : Hub) (sessionId : Nat) : List AuditRecord :=
  hub.log.filter fun record => record.context.sessionId == sessionId

end Hub

/-! ## The part of one driver -/

namespace Action

def opening? : Action → Option (Transport × Option String)
  | .openSession transport peer? => some (transport, peer?)
  | .call _ _ => none

def callOn? (number : Nat) : Action → Option DriverCall
  | .openSession _ _ => none
  | .call other called => if other = number then some called else none

end Action

/-- How the sessions were opened, the oldest session first. -/
def openings (actions : List Action) : List (Transport × Option String) :=
  actions.filterMap Action.opening?

def callsOn (number : Nat) (actions : List Action) : List DriverCall :=
  actions.filterMap (Action.callOn? number)

/-- What was done about one session: its opening and the calls on its driver. -/
def alone (number : Nat) (actions : List Action) : List Action :=
  ((openings actions)[number]?.map fun opening => .openSession opening.1 opening.2).toList ++
    (callsOn number actions).map (.call 0)

end ListInvocation.Server
