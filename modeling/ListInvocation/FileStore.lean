import ListInvocation.Wire.Stream

/-!
Contract: the files that a server reads and appends to.

Files are found by their path from the working directory; a directory exists exactly
when a file lies below it. Paths are walked component by component, also through dots.

Owns: the components of a path, the store, reading, opening for appending, actions that can
fail, and the system's wording of failures.

Does not own: files outside the working directory, of which it knows the directories
above and nothing else.
-/

namespace ListInvocation

inductive FileFault where
  | notFound
  | notDirectory
  | isDirectory
  | nameTooLong
  | embeddedZero
deriving Repr, DecidableEq

def FileFault.message : FileFault → String
  | .notFound => "No such file or directory (os error 2)"
  | .notDirectory => "Not a directory (os error 20)"
  | .isDirectory => "Is a directory (os error 21)"
  | .nameTooLong => "File name too long (os error 36)"
  | .embeddedZero => "file name contained an unexpected NUL byte"

/-- Files by their path from the working directory, as components. -/
structure FileStore where
  files : List (List String × List UInt8)

namespace FileStore

/-- The length from which on a path is too long. -/
def pathLimit : Nat := 4096

/-- The greatest length of a component. -/
def componentLimit : Nat := 255

/-- The components of a path, empty ones included. -/
def components (path : String) : List String :=
  (path.toList.splitOn '/').map String.ofList

/-- A place in the tree of directories: above the working directory by some levels, or
below it. -/
inductive Place where
  | above (levels : Nat)
  | below (path : List String)
deriving Repr, DecidableEq

def Place.parent : Place → Place
  | .above levels => .above (levels + 1)
  | .below [] => .above 0
  | .below path => .below path.dropLast

def ofFiles (files : List (String × List UInt8)) : FileStore :=
  ⟨files.map fun file => ((components file.1).filter (· ≠ ""), file.2)⟩

def contentAt? (store : FileStore) : Place → Option (List UInt8)
  | .above _ => none
  | .below path => store.files.lookup path

def isDirectory (store : FileStore) : Place → Bool
  | .above _ => true
  | .below [] => true
  | .below path =>
      store.files.any fun file => path.isPrefixOf file.1 && path.length < file.1.length

/-- What a path leads to. `asDirectory` tells whether the path ends in a slash, and so
asks for a directory. -/
inductive Target where
  | file (place : Place) (asDirectory : Bool)
  | directory
  /-- Nothing yet, in a directory that exists. -/
  | absent (place : Place) (asDirectory : Bool)
deriving Repr, DecidableEq

def walk (store : FileStore) (here : Place) : List String → Except FileFault Target
  | [] => .ok .directory
  | name :: rest =>
      if name = "" ∨ name = "." then store.walk here rest
      else if name = ".." then store.walk here.parent rest
      else if componentLimit < name.utf8ByteSize then .error .nameTooLong
      else
        let next :=
          match here with
          | .above levels => Place.above levels
          | .below path => .below (path ++ [name])
        let onlySlashes := rest.all (· = "")
        match here with
        | .above _ => if onlySlashes then .ok (.absent next false) else .error .notFound
        | .below _ =>
            if store.isDirectory next then store.walk next rest
            else if (store.contentAt? next).isSome then
              if onlySlashes then .ok (.file next (!rest.isEmpty)) else .error .notDirectory
            else if onlySlashes then .ok (.absent next (!rest.isEmpty))
            else .error .notFound

/-- Where the walk of a path starts: at the working directory, or above all of it. -/
def startOf (path : String) : Place :=
  if path.toList.head? = some '/' then .above 0 else .below []

def resolve (store : FileStore) (path : String) : Except FileFault Target :=
  if path.toList.any (·.toNat = 0) then .error .embeddedZero
  else if path = "" then .error .notFound
  else if pathLimit ≤ path.utf8ByteSize then .error .nameTooLong
  else store.walk (startOf path) (components path)

def read (store : FileStore) (path : String) : Except FileFault (List UInt8) :=
  match store.resolve path with
  | .error fault => .error fault
  | .ok .directory => .error .isDirectory
  | .ok (.absent _ _) => .error .notFound
  | .ok (.file _ true) => .error .notDirectory
  | .ok (.file place false) => .ok ((store.contentAt? place).getD [])

def appendAt (store : FileStore) (path : List String) (bytes : List UInt8) : FileStore :=
  ⟨store.files.map fun file => if file.1 = path then (file.1, file.2 ++ bytes) else file⟩

/-- Opens a file for appending and creates it if its directory exists; yields the
components under which it is found. -/
def openAppend (store : FileStore) (path : String) :
    Except FileFault (List String × FileStore) :=
  match store.resolve path with
  | .error fault => .error fault
  | .ok .directory => .error .isDirectory
  | .ok (.absent _ true) | .ok (.file _ true) => .error .isDirectory
  | .ok (.absent (.above _) false) => .error .notFound
  | .ok (.absent (.below file) false) => .ok (file, ⟨store.files ++ [(file, [])]⟩)
  | .ok (.file (.above _) false) => .error .notFound
  | .ok (.file (.below file) false) => .ok (file, store)

variable {ε α : Type}

/-- An attempt as an action on the files, which a failure leaves as they were. -/
def attempt (step : FileStore → Except ε (α × FileStore)) : StateM FileStore (Except ε α) :=
  fun store =>
    match step store with
    | .ok (value, store) => (.ok value, store)
    | .error error => (.error error, store)

/-- An action on the files as an attempt, whose files count only if it succeeds. -/
def resultOf (action : StateM FileStore (Except ε α)) (store : FileStore) :
    Except ε (α × FileStore) :=
  match action store with
  | (.ok value, store) => .ok (value, store)
  | (.error error, _) => .error error

end FileStore

end ListInvocation
