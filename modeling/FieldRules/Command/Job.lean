import FieldRules.Command.Failure
import FieldRules.Disk.Plan

/-!
Jobs: plans that can fail.
-/

namespace FieldRules.Command

/-- A plan that ends in a result or a failure. -/
abbrev Job := ExceptT Failure Plan

namespace Job

/-- What was printed and written before a failure stays. -/
def run {α : Type} (job : Job α) (world : Plan.World) : Except Failure α × Plan.World :=
  Plan.run (ExceptT.run job) world

def ofExcept {ε α : Type} (fail : ε → Failure) : Except ε α → Job α
  | .ok result => return result
  | .error fault => throw (fail fault)

def isThere (path : String) : Job Bool := ExceptT.lift (.probe path .done)

def read (path : String) : Job String :=
  ExceptT.mk (.read path fun text => .done (text.mapError .disk))

def input : Job String := ExceptT.mk (.input fun text => .done (text.mapError .disk))

def save (path text : String) : Job Unit :=
  ExceptT.mk (.save path text fun saved => .done (saved.mapError .disk))

def print (text : String) : Job Unit := ExceptT.lift (.print text (.done ()))

/-- Refuses a path that leads nowhere. -/
def require (path : String) : Job Unit := do
  unless ← isThere path do throw (.notFound path)

end Job

end FieldRules.Command
