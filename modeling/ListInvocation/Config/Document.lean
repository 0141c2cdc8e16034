import ListInvocation.Config.Basic
import ListInvocation.Toml.Document

/-!
Contract: the settings in a TOML document.

Settings that are missing keep their defaults, unknown keys are passed over, and a value
of the wrong kind is an error. A group of settings may be written as a table, or as an
array of its values in order; a date or a time is a group without known settings. A
choice may be written as its name, or as a table with that name over something empty.

Owns: the reading of settings from the table of a document.

Does not own: the syntax of documents, or the checks on settings.
-/

namespace ListInvocation

namespace Setting

open Toml

def find? (group : Item) (name : String) (position : Nat) : Option (Option Item) :=
  match group with
  | .table _ entries => some (entries.lookup name)
  | .array items => some items[position]?
  | .tables elements => some (elements[position]?.map (Item.table .header))
  | .scalar (.moment _) => some none
  | .text _ | .scalar _ => none

/-- A setting read from its group, or its default if it is missing. -/
def readOr {α : Type} (group : Item) (name : String) (position : Nat) (default : α)
    (read? : Item → Option α) : Option α :=
  match find? group name position with
  | none => none
  | some none => some default
  | some (some item) => read? item

def text? : Item → Option String
  | .text value => some value
  | _ => none

def boolean? : Item → Option Bool
  | .scalar (.boolean value) => some value
  | _ => none

/-- The numbers of bytes that can be written lie below this one. -/
def sizeBound : Int := Int.ofNat (Nat.pow 2 64)

def size? : Item → Option Nat
  | .scalar (.integer value) =>
      if 0 ≤ value ∧ value < sizeBound then some value.toNat else none
  | _ => none

def texts? : Item → Option (List String)
  | .array items => items.mapM text?
  | .tables [] => some []
  | _ => none

def isEmpty : Item → Bool
  | .table _ entries => entries.isEmpty
  | .array items => items.isEmpty
  | _ => false

def choiceName? : Item → Option String
  | .text name => some name
  | .table _ [(name, content)] => if isEmpty content then some name else none
  | _ => none

def choice? {α : Type} (name : α → String) (values : List α) (item : Item) : Option α := do
  let chosen ← choiceName? item
  values.find? fun value => name value == chosen

end Setting

open Setting in
def ServerConfig.read? (group : Toml.Item) : Option ServerConfig := do
  let standard := ServerConfig.standard
  return {
    transport := ← readOr group "transport" 0 standard.transport
      (choice? Transport.name [.tcp, .stdio])
    bind? := ← readOr group "bind" 1 standard.bind? (fun item => (text? item).map some)
    allowNonLoopback := ← readOr group "allow_non_loopback" 2 standard.allowNonLoopback boolean?
    maxMessageBytes := ← readOr group "max_message_bytes" 3 standard.maxMessageBytes size?
    protocolVersion := ← readOr group "protocol_version" 4 standard.protocolVersion text? }

open Setting in
def AuditConfig.read? (group : Toml.Item) : Option AuditConfig := do
  let standard := AuditConfig.standard
  return {
    target := ← readOr group "sink" 0 standard.target
      (choice? AuditTarget.name [.stderr, .file, .none])
    path? := ← readOr group "path" 1 standard.path? (fun item => (text? item).map some) }

open Setting in
def Config.readExclusions? (group : Toml.Item) : Option (List String) :=
  readOr group "patterns" 0 Config.standard.exclusions texts?

open Setting in
def Config.ofEntries? (entries : Toml.Entries) : Option Config := do
  let document := Toml.Item.table .header entries
  let standard := Config.standard
  return {
    server := ← readOr document "server" 0 standard.server ServerConfig.read?
    audit := ← readOr document "audit" 1 standard.audit AuditConfig.read?
    exclusions := ← readOr document "exclusions" 2 standard.exclusions Config.readExclusions? }

def Config.ofText (text : String) : Except ConfigError Config :=
  match Toml.readDocument text with
  | none => .error (.parse "the document is not well-formed")
  | some entries =>
      match Config.ofEntries? entries with
      | none => .error (.parse "a setting has the wrong type")
      | some config => .ok config

end ListInvocation
