import Mathlib.Data.List.Nodup
import ListInvocation.Fixture.Sample
import ListInvocation.Proofs.Server.Interleaving
import ListInvocation.Proofs.Server.Startup
import ListInvocation.Platform

/-!
Contract: sessions on one server do not meet.

Owns: what a driver does in another context, the account of every driver in a run, the
numbers of the sessions, and the equality of each session with the same session alone.

Does not own: objects that share a state outside the server.
-/

namespace ListInvocation

/-! ## Contexts -/

/-- The same event in another session. -/
def AuditRecord.inContext (context : AuditContext) (record : AuditRecord) : AuditRecord :=
  { record with context := context }

def Conversation.inContext (context : AuditContext) (conversation : Conversation) :
    Conversation :=
  { conversation with context := context }

/-- A context shows in the records only. -/
theorem Conversation.handle_inContext [Text.Alphabet] (context : AuditContext)
    (conversation : Conversation) (payload : String) :
    (conversation.inContext context).handle payload =
      ((conversation.handle payload).1,
        (conversation.handle payload).2.1.map (AuditRecord.inContext context),
        (conversation.handle payload).2.2.inContext context) := by
  unfold handle
  split
  next => rfl
  next =>
    cases Wire.decode payload with
    | ok batch => rfl
    | error error => rfl

namespace Server

namespace Driver

def inContext (context : AuditContext) (driver : Driver) : Driver :=
  { driver with conversation := driver.conversation.inContext context }

variable [Text.Alphabet]

theorem take_inContext (context : AuditContext) (driver : Driver) (call : DriverCall) :
    (driver.inContext context).take call =
      (driver.take call).map fun taken =>
        (taken.1.map (AuditRecord.inContext context), taken.2.inContext context) := by
  have sameEnd : (driver.inContext context).finished = driver.finished := rfl
  unfold take
  rw [sameEnd]
  split
  next => rfl
  next =>
    cases call with
    | message payload =>
        have handled := driver.conversation.handle_inContext context payload
        simp only [inContext, handled]
        rfl
    | rejectFrame error => rfl
    | finish reason error? => rfl

theorem drive_inContext (context : AuditContext) (driver : Driver) (calls : List DriverCall) :
    (driver.inContext context).drive calls =
      (driver.drive calls).map fun driven =>
        (driven.1.map (AuditRecord.inContext context), driven.2.inContext context) := by
  induction calls generalizing driver with
  | nil => rfl
  | cons call calls inductionHypothesis =>
      rw [drive, drive, take_inContext]
      cases driver.take call with
      | none => rfl
      | some taken =>
          simp only [Option.map_some, inductionHypothesis, Option.map_map]
          congr 1
          funext driven
          simp only [Function.comp_apply, List.map_append]

variable {driver next : Driver} {records : List AuditRecord}

omit [Text.Alphabet] in
/-- What is the same in a context as it is belongs to that context. -/
private theorem context_of_inContext {context : AuditContext}
    (same : some (records, next) = some (records.map (AuditRecord.inContext context),
      next.inContext context)) :
    next.conversation.context = context ∧ ∀ record ∈ records, record.context = context := by
  obtain ⟨sameRecords, sameNext⟩ := Prod.mk.inj (Option.some.inj same)
  constructor
  · rw [sameNext]
    rfl
  · intro record member
    rw [sameRecords] at member
    obtain ⟨recordThere, _, here⟩ := List.mem_map.mp member
    rw [← here]
    rfl

/-- A call leaves a driver in its context, and its records belong there. -/
theorem context_of_take {call : DriverCall} (taken : driver.take call = some (records, next)) :
    next.conversation.context = driver.conversation.context ∧
      ∀ record ∈ records, record.context = driver.conversation.context := by
  have inOwn := driver.take_inContext driver.conversation.context call
  have same : driver.inContext driver.conversation.context = driver := rfl
  rw [same, taken] at inOwn
  exact context_of_inContext inOwn

theorem context_of_drive {calls : List DriverCall}
    (driven : driver.drive calls = some (records, next)) :
    next.conversation.context = driver.conversation.context ∧
      ∀ record ∈ records, record.context = driver.conversation.context := by
  have inOwn := driver.drive_inContext driver.conversation.context calls
  have same : driver.inContext driver.conversation.context = driver := rfl
  rw [same, driven] at inOwn
  exact context_of_inContext inOwn

end Driver

/-! ## Sessions alone -/

/-- Calls on the only driver of a server. -/
theorem Hub.run_calls [Text.Alphabet] {server : Server} {driver last : Driver}
    {log records : List AuditRecord}
    {calls : List DriverCall} (driven : driver.drive calls = some (records, last)) :
    Hub.run ⟨server, [driver], log⟩ (calls.map (.call 0)) =
      some ⟨server, [last], log ++ records⟩ := by
  induction calls generalizing driver log records with
  | nil =>
      cases driven
      rw [List.append_nil]
      rfl
  | cons call calls inductionHypothesis =>
      obtain ⟨now, middle, later, taken, drivenOn, rfl⟩ := Driver.exists_take_of_drive driven
      have stepped : Hub.step ⟨server, [driver], log⟩ (.call 0 call) =
          some ⟨server, [middle], log ++ now⟩ := by
        simp only [step, List.getElem?_cons_zero, taken, Option.map_some, List.set_cons_zero]
      rw [List.map_cons, run, stepped]
      simp only
      rw [inductionHypothesis drivenOn, List.append_assoc]

/-! ## Sessions among others -/

section Parts

variable (past : List Action) (number : Nat)

theorem openings_open (transport : Transport) (peer? : Option String) :
    openings (past ++ [.openSession transport peer?]) = openings past ++ [(transport, peer?)] :=
  List.filterMap_append

theorem openings_call (call : DriverCall) :
    openings (past ++ [.call number call]) = openings past :=
  List.filterMap_append.trans (List.append_nil _)

theorem callsOn_open (transport : Transport) (peer? : Option String) :
    callsOn number (past ++ [.openSession transport peer?]) = callsOn number past :=
  List.filterMap_append.trans (List.append_nil _)

theorem callsOn_call_self (call : DriverCall) :
    callsOn number (past ++ [.call number call]) = callsOn number past ++ [call] := by
  have own : Action.callOn? number (.call number call) = some call := if_pos rfl
  rw [callsOn, List.filterMap_append, List.filterMap_cons_some own]
  rfl

theorem callsOn_call_of_ne {other : Nat} (different : other ≠ number) (call : DriverCall) :
    callsOn number (past ++ [.call other call]) = callsOn number past := by
  have foreign : Action.callOn? number (.call other call) = none := if_neg different
  rw [callsOn, List.filterMap_append, List.filterMap_cons_none foreign]
  exact List.append_nil _

end Parts

/-- The context of the session that was opened as the given one, from zero. -/
def contextOf (number : Nat) (opening : Transport × Option String) : AuditContext :=
  ⟨number + 1, opening.1, opening.2⟩

namespace Hub

variable [Text.Alphabet] {server : Server} {past : List Action} {hub next : Hub}

/-- A driver is where its own calls have brought it, and the log holds its records in
their order, its opening first. -/
structure Tracks (server : Server) (past : List Action) (hub : Hub) (number : Nat)
    (driver : Driver) (opening : Transport × Option String) (records : List AuditRecord) :
    Prop where
  opened : (openings past)[number]? = some opening
  driven : (Driver.opened server (contextOf number opening)).drive (callsOn number past) =
    some (records, driver)
  recorded : hub.recordsOf (number + 1) =
    ⟨contextOf number opening, .sessionStarted⟩ :: records

theorem Tracks.context {number : Nat} {driver : Driver} {opening : Transport × Option String}
    {records : List AuditRecord}
    (tracks : Tracks server past hub number driver opening records) :
    driver.conversation.context = contextOf number opening :=
  (Driver.context_of_drive tracks.driven).1

/-- What a server with its drivers has come to after some actions. -/
structure Accounts (server : Server) (past : List Action) (hub : Hub) : Prop where
  shared : hub.server = { server with nextSession := UInt64.ofNat (hub.drivers.length + 1) }
  opened : hub.drivers.length = (openings past).length
  /-- There are no records of sessions to come. -/
  recorded : ∀ record ∈ hub.log, record.context.sessionId ≤ hub.drivers.length
  /-- There are no calls in sessions to come. -/
  awaited : ∀ number, hub.drivers.length ≤ number → callsOn number past = []
  tracked : ∀ number driver, hub.drivers[number]? = some driver →
    ∃ opening records, Tracks server past hub number driver opening records

/-! ### Records -/

omit [Text.Alphabet] in
theorem recordsOf_of_mem_log_le {sessionId : Nat}
    (recorded : ∀ record ∈ hub.log, record.context.sessionId < sessionId) :
    hub.recordsOf sessionId = [] := by
  refine List.filter_eq_nil_iff.mpr fun record member => ?_
  rw [beq_iff_eq]
  exact Nat.ne_of_lt (recorded record member)

omit [Text.Alphabet] in
/-- Records of one session go to that session. -/
theorem recordsOf_append {server : Server} {drivers : List Driver} {log more : List AuditRecord}
    {sessionId : Nat} (own : ∀ record ∈ more, record.context.sessionId = sessionId)
    (asked : Nat) :
    recordsOf ⟨server, drivers, log ++ more⟩ asked =
      log.filter (fun record => record.context.sessionId == asked) ++
        if sessionId = asked then more else [] := by
  rw [recordsOf, List.filter_append]
  congr 1
  split
  next same =>
    refine List.filter_eq_self.mpr fun record member => ?_
    rw [beq_iff_eq, own record member, same]
  next different =>
    refine List.filter_eq_nil_iff.mpr fun record member => ?_
    rw [beq_iff_eq, own record member]
    exact different

/-! ### Steps -/

theorem accounts_start (fresh : server.nextSession = 1) : (start server).Accounts server [] where
  shared := by
    obtain ⟨config, registry, dialect, sink, nextSession⟩ := server
    cases fresh
    rfl
  opened := rfl
  recorded := nofun
  awaited _ _ := rfl
  tracked := nofun

/-- An opened session has the next number, as long as numbers do not run out. -/
theorem Accounts.step_open (accounts : hub.Accounts server past)
    (few : hub.drivers.length + 1 < UInt64.size) (opening : Transport × Option String) :
    hub.step (.openSession opening.1 opening.2) =
      some ⟨{ server with nextSession := UInt64.ofNat (hub.drivers.length + 1 + 1) },
        hub.drivers ++ [Driver.opened server (contextOf hub.drivers.length opening)],
        hub.log ++ [⟨contextOf hub.drivers.length opening, .sessionStarted⟩]⟩ := by
  have sessionId : hub.server.nextSession.toNat = hub.drivers.length + 1 := by
    rw [accounts.shared]
    exact UInt64.toNat_ofNat_of_lt few
  have nextSession : hub.server.nextSession + 1 =
      UInt64.ofNat (hub.drivers.length + 1 + 1) := by
    rw [accounts.shared, UInt64.ofNat_add (hub.drivers.length + 1)]
    rfl
  unfold step openSession
  simp only
  rw [sessionId, nextSession, accounts.shared]
  rfl

theorem Accounts.open (accounts : hub.Accounts server past) (opening : Transport × Option String)
    (few : hub.drivers.length + 1 < UInt64.size)
    (opened : hub.step (.openSession opening.1 opening.2) = some next) :
    next.Accounts server (past ++ [.openSession opening.1 opening.2]) := by
  rw [accounts.step_open few, Option.some.injEq] at opened
  rw [← opened]
  have own : ∀ record ∈ [(⟨contextOf hub.drivers.length opening, .sessionStarted⟩ : AuditRecord)],
      record.context.sessionId = hub.drivers.length + 1 := by
    intro record member
    rw [List.mem_singleton.mp member]
    rfl
  constructor
  case shared => rw [List.length_append, List.length_singleton]
  case opened => rw [List.length_append, openings_open, List.length_append, accounts.opened]; rfl
  case recorded =>
    intro record member
    rw [List.length_append, List.length_singleton]
    rcases List.mem_append.mp member with earlier | now
    · exact Nat.le_succ_of_le (accounts.recorded record earlier)
    · exact Nat.le_of_eq (own record now)
  case awaited =>
    intro number later
    rw [List.length_append] at later
    rw [callsOn_open, accounts.awaited number (Nat.le_of_add_right_le later)]
  case tracked =>
    intro number driver found
    -- The number of the new session is beyond those of all records so far.
    by_cases earlier : number < hub.drivers.length
    · rw [List.getElem?_append_left earlier] at found
      obtain ⟨earlierOpening, records, tracks⟩ := accounts.tracked number driver found
      refine ⟨earlierOpening, records, ?_, ?_, ?_⟩
      · rw [openings_open, List.getElem?_append_left (accounts.opened ▸ earlier), tracks.opened]
      · rw [callsOn_open, tracks.driven]
      · have foreign : hub.drivers.length + 1 ≠ number + 1 := by omega
        rw [recordsOf_append own, if_neg foreign, List.append_nil]
        exact tracks.recorded
    · have isNew : number = hub.drivers.length := by
        have inRange := (List.getElem?_eq_some_iff.mp found).1
        rw [List.length_append, List.length_singleton] at inRange
        omega
      rw [isNew, List.getElem?_concat_length, Option.some.injEq] at found
      rw [isNew, ← found]
      refine ⟨opening, [], ?_, ?_, ?_⟩
      · rw [openings_open, accounts.opened, List.getElem?_concat_length]
      · rw [callsOn_open, accounts.awaited hub.drivers.length (Nat.le_refl _)]
        rfl
      · have nothingYet : hub.recordsOf (hub.drivers.length + 1) = [] :=
          recordsOf_of_mem_log_le fun record member =>
            Nat.lt_succ_of_le (accounts.recorded record member)
        rw [recordsOf_append own, if_pos rfl]
        exact congrArg (· ++ _) nothingYet

theorem exists_take_of_step {number : Nat} {call : DriverCall}
    (called : hub.step (.call number call) = some next) :
    ∃ driver records last, hub.drivers[number]? = some driver ∧
      driver.take call = some (records, last) ∧
      next = ⟨hub.server, hub.drivers.set number last, hub.log ++ records⟩ := by
  rw [step] at called
  cases found : hub.drivers[number]? with
  | none =>
      rw [found] at called
      contradiction
  | some driver =>
      rw [found] at called
      obtain ⟨⟨records, last⟩, taken, same⟩ := Option.map_eq_some_iff.mp called
      exact ⟨driver, records, last, rfl, taken, same.symm⟩

theorem Accounts.call (accounts : hub.Accounts server past) {number : Nat} {call : DriverCall}
    (called : hub.step (.call number call) = some next) :
    next.Accounts server (past ++ [.call number call]) := by
  obtain ⟨driver, records, last, found, taken, rfl⟩ := exists_take_of_step called
  obtain ⟨opening, before, tracks⟩ := accounts.tracked number driver found
  have inRange : number < hub.drivers.length := (List.getElem?_eq_some_iff.mp found).1
  have own : ∀ record ∈ records, record.context.sessionId = number + 1 := by
    intro record member
    rw [(Driver.context_of_take taken).2 record member, tracks.context]
    rfl
  constructor
  case shared => rw [List.length_set, accounts.shared]
  case opened => rw [List.length_set, openings_call, accounts.opened]
  case recorded =>
    intro record member
    rw [List.length_set]
    rcases List.mem_append.mp member with earlier | now
    · exact accounts.recorded record earlier
    · rw [own record now]
      exact inRange
  case awaited =>
    intro other later
    rw [List.length_set] at later
    have different : number ≠ other := by omega
    rw [callsOn_call_of_ne past other different, accounts.awaited other later]
  case tracked =>
    intro other otherDriver otherFound
    -- The called driver goes on by this call; all others and their records stay.
    by_cases same : number = other
    · cases same
      rw [List.getElem?_set_self inRange] at otherFound
      cases otherFound
      refine ⟨opening, before ++ records, ?_, ?_, ?_⟩
      · rw [openings_call, tracks.opened]
      · rw [callsOn_call_self]
        exact Driver.drive_snoc tracks.driven taken
      · rw [recordsOf_append own, if_pos rfl]
        exact congrArg (· ++ records) tracks.recorded
    · rw [List.getElem?_set_ne same] at otherFound
      obtain ⟨otherOpening, otherRecords, otherTracks⟩ :=
        accounts.tracked other otherDriver otherFound
      refine ⟨otherOpening, otherRecords, ?_, ?_, ?_⟩
      · rw [openings_call, otherTracks.opened]
      · rw [callsOn_call_of_ne past other same, otherTracks.driven]
      · have foreign : number + 1 ≠ other + 1 := by omega
        rw [recordsOf_append own, if_neg foreign, List.append_nil]
        exact otherTracks.recorded

/-! ### Runs -/

/-- Drivers stay where they are. -/
theorem length_le_of_step {action : Action} (stepped : hub.step action = some next) :
    hub.drivers.length ≤ next.drivers.length := by
  cases action with
  | openSession transport peer? =>
      rw [← Option.some.inj stepped]
      exact List.length_append ▸ Nat.le_add_right _ _
  | call number call =>
      obtain ⟨driver, records, last, _, _, rfl⟩ := exists_take_of_step stepped
      exact Nat.le_of_eq List.length_set.symm

theorem length_le_of_run {actions : List Action} (ran : hub.run actions = some next) :
    hub.drivers.length ≤ next.drivers.length := by
  induction actions generalizing hub with
  | nil =>
      cases ran
      exact Nat.le_refl _
  | cons action actions inductionHypothesis =>
      obtain ⟨middle, stepped, ranOn⟩ := exists_step_of_run ran
      exact Nat.le_trans (length_le_of_step stepped) (inductionHypothesis ranOn)

theorem Accounts.step (accounts : hub.Accounts server past) {action : Action}
    (stepped : hub.step action = some next) (few : next.drivers.length < UInt64.size) :
    next.Accounts server (past ++ [action]) := by
  cases action with
  | openSession transport peer? =>
      have one : next.drivers.length = hub.drivers.length + 1 := by
        rw [← Option.some.inj stepped]
        exact List.length_append
      exact accounts.open (transport, peer?) (one ▸ few) stepped
  | call number call => exact accounts.call stepped

/-- A run adds its actions to the account, as long as numbers do not run out. -/
theorem Accounts.run (accounts : hub.Accounts server past) {actions : List Action}
    (ran : hub.run actions = some next) (few : next.drivers.length < UInt64.size) :
    next.Accounts server (past ++ actions) := by
  induction actions generalizing hub past with
  | nil =>
      cases ran
      rw [List.append_nil]
      exact accounts
  | cons action actions inductionHypothesis =>
      obtain ⟨middle, stepped, ranOn⟩ := exists_step_of_run ran
      have fewer := Nat.lt_of_le_of_lt (length_le_of_run ranOn) few
      rw [List.append_cons]
      exact inductionHypothesis (accounts.step stepped fewer) ranOn

/-! ## Isolation -/

/-- A session is as it would be alone: on the same server, with no calls but its own. -/
structure IsAlone (server : Server) (actions : List Action) (hub : Hub) (number : Nat)
    (driver sole : Driver) (soleHub : Hub) : Prop where
  ran : (start server).run (alone number actions) = some soleHub
  drivers : soleHub.drivers = [sole]
  replies : driver.replies = sole.replies
  session : driver.conversation.session = sole.conversation.session
  messages : driver.conversation.messages = sole.conversation.messages
  finished : driver.finished = sole.finished
  /-- Only the number tells the two apart. -/
  context : driver.conversation.context =
    { sole.conversation.context with sessionId := driver.conversation.context.sessionId }
  /-- The records of the session are the log of its own calls, under its own number. -/
  records : hub.recordsOf driver.conversation.context.sessionId =
    soleHub.log.map (AuditRecord.inContext driver.conversation.context)

/-- A driver that is tracked in a run is as it would be alone. -/
theorem Tracks.isAlone {number : Nat} {driver : Driver} {opening : Transport × Option String}
    {records : List AuditRecord} (fresh : server.nextSession = 1)
    (tracks : Tracks server past hub number driver opening records) :
    ∃ sole soleHub, hub.IsAlone server past number driver sole soleHub := by
  -- Alone, the same calls run on a driver that differs in the number of its session only.
  have atStart : (Driver.opened server (contextOf number opening)).inContext
      (contextOf 0 opening) = Driver.opened server (contextOf 0 opening) := rfl
  have drivenAlone := Driver.drive_inContext (contextOf 0 opening)
    (Driver.opened server (contextOf number opening)) (callsOn number past)
  rw [atStart, tracks.driven, Option.map_some] at drivenAlone
  have actions : alone number past =
      .openSession opening.1 opening.2 :: (callsOn number past).map (.call 0) := by
    rw [alone, tracks.opened]
    rfl
  have one : (start server).drivers.length + 1 < UInt64.size := by
    change 1 < UInt64.size
    decide
  have ran : (start server).run (alone number past) = some
      ⟨{ server with nextSession := 2 }, [driver.inContext (contextOf 0 opening)],
        ⟨contextOf 0 opening, .sessionStarted⟩ ::
          records.map (AuditRecord.inContext (contextOf 0 opening))⟩ := by
    rw [actions, run, (accounts_start fresh).step_open one opening]
    exact run_calls drivenAlone
  have own : records.map (AuditRecord.inContext (contextOf number opening)) = records := by
    refine (List.map_congr_left fun record member => ?_).trans (List.map_id records)
    have here : record.context = contextOf number opening :=
      (Driver.context_of_drive tracks.driven).2 record member
    rw [← here]
    rfl
  refine ⟨_, _, ran, rfl, rfl, rfl, rfl, rfl, ?_, ?_⟩
  · rw [tracks.context]
    rfl
  · rw [tracks.context, List.map_cons, List.map_map]
    exact tracks.recorded.trans (congrArg _ own.symm)

/-- The sessions are numbered from one. -/
theorem Accounts.sessionIds_eq (accounts : hub.Accounts server past) :
    hub.sessionIds = (List.range hub.drivers.length).map (· + 1) := by
  apply List.ext_getElem
  · rw [sessionIds, List.length_map, List.length_map, List.length_range]
  · intro number inDrivers _
    rw [sessionIds, List.length_map] at inDrivers
    obtain ⟨opening, records, tracks⟩ :=
      accounts.tracked number hub.drivers[number] (List.getElem?_eq_getElem inDrivers)
    simp only [sessionIds, List.getElem_map, List.getElem_range, tracks.context]
    rfl

end Hub

variable [Pattern.Library]

/-- Every made server numbers its sessions from one. -/
theorem nextSession_of_ofConfig {config : Config} {registry : Registry}
    {files opened : FileStore} {made : Server}
    (construction : Server.ofConfig config registry files = .ok (made, opened)) :
    made.nextSession = 1 := by
  obtain ⟨-, sink, -, same⟩ := eq_of_ofConfig construction
  rw [same]

variable [Text.Alphabet]

/-- Sessions on one server have different numbers, none of which is the listener's, and each
of them is as it would be alone: in its replies, its state and its records. -/
theorem run_isolated {config : Config} {registry : Registry} {files opened : FileStore}
    {made : Server} (construction : Server.ofConfig config registry files = .ok (made, opened))
    (dialect : Dialect) {actions : List Action} {hub : Hub}
    (ran : (Hub.start (made.withDialect dialect)).run actions = some hub)
    (few : hub.drivers.length < UInt64.size - 1) :
    hub.sessionIds.Nodup ∧ listenerSession ∉ hub.sessionIds ∧
      ∀ number driver, hub.drivers[number]? = some driver →
        ∃ sole soleHub,
          hub.IsAlone (made.withDialect dialect) actions number driver sole soleHub := by
  have one := nextSession_of_ofConfig construction
  have fresh : (made.withDialect dialect).nextSession = 1 := one
  have accounts := (Hub.accounts_start fresh).run ran (Nat.lt_of_lt_of_le few (Nat.sub_le _ _))
  rw [List.nil_append] at accounts
  refine ⟨?_, ?_, ?_⟩
  · rw [accounts.sessionIds_eq]
    exact List.nodup_range.map fun _ _ same => Nat.succ.inj same
  · rw [accounts.sessionIds_eq]
    intro member
    obtain ⟨number, _, isZero⟩ := List.mem_map.mp member
    contradiction
  · intro number driver found
    obtain ⟨opening, records, tracks⟩ := accounts.tracked number driver found
    exact tracks.isAlone fresh

end Server

end ListInvocation

namespace ListInvocation.Server

/-- Settings of a server that keeps no records in files. -/
def quietConfig : Config :=
  { Config.standard with audit := ⟨.none, none⟩ }

/-- One caller makes an instance and takes its leave; between its messages another one sends
what is no list, and breaks off. -/
def twoCallers : List Action := [
  .openSession .tcp (some "127.0.0.1:40001"),
  .openSession .tcp (some "127.0.0.1:40002"),
  .call 1 (.message (Wire.encode (.list [.textList ["1", "make", "c", "demo.Calculator"]]))),
  .call 0 (.message "make"),
  .call 0 (.rejectFrame (.truncated 3)),
  .call 0 (.finish "transport_error" none),
  .call 1 (.message "bye"),
  .call 1 (.finish "bye" none)]

theorem run_isolated_twoCallers :
    ∃ made files hub, Server.ofConfig quietConfig Sample.registry ⟨[]⟩ = .ok (made, files) ∧
      (Hub.start (made.withDialect .standard)).run twoCallers = some hub ∧
      hub.drivers.length < UInt64.size - 1 ∧
      hub.sessionIds.Nodup ∧ listenerSession ∉ hub.sessionIds ∧
      ∀ number driver, hub.drivers[number]? = some driver →
        ∃ sole soleHub,
          hub.IsAlone (made.withDialect .standard) twoCallers number driver sole soleHub := by
  have construction : Server.ofConfig quietConfig Sample.registry ⟨[]⟩ =
      .ok (⟨quietConfig, Sample.registry, .standard, .none, 1⟩, ⟨[]⟩) := rfl
  have drivers : ((Hub.start ⟨quietConfig, Sample.registry, .standard, .none, 1⟩).run
      twoCallers).map (fun hub => hub.drivers.length) = some 2 := by decide +kernel
  obtain ⟨hub, ran, two⟩ := Option.map_eq_some_iff.mp drivers
  have few : hub.drivers.length < UInt64.size - 1 := by
    rw [two]
    decide
  exact ⟨_, _, hub, construction, ran, few, run_isolated construction .standard ran few⟩

end ListInvocation.Server
