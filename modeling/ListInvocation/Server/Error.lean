import ListInvocation.Wire.Error

/-!
Contract: what keeps a server from starting or ends a session early.

Owns: the three causes and their wording.

Does not own: failures of single instructions.
-/

namespace ListInvocation

/-- The cause of a server's failure, with a description. -/
inductive ServerError where
  | config (description : String)
  | init (description : String)
  | transport (description : String)
deriving Repr, DecidableEq

namespace ServerError

def message : ServerError → String
  | .config description => "config error: " ++ description
  | .init description => "init error: " ++ description
  | .transport description => "transport error: " ++ description

def ofWire (error : Wire.WireError) : ServerError :=
  .transport error.message

end ServerError

end ListInvocation
