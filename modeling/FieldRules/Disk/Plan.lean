import FieldRules.Disk.Basic

/-!
Plans: what a command does with files and its output, as a tree of steps.

A plan says what is asked for and how it goes on with each answer. It can be run on a disk, which
gives a value that statements can be made about, and it can be carried out by a program.
-/

namespace FieldRules

/-- Steps that end in a result. -/
inductive Plan (α : Type) where
  | done (result : α)
  /-- Asks whether a path leads somewhere. -/
  | probe (path : String) (next : Bool → Plan α)
  /-- Asks for the text of a file. -/
  | read (path : String) (next : Except DiskFault String → Plan α)
  /-- Asks for the text of the standard input. -/
  | input (next : Except DiskFault String → Plan α)
  /-- Writes a file, with the directories that lead to it. -/
  | save (path text : String) (next : Except DiskFault Unit → Plan α)
  /-- Writes to the standard output. -/
  | print (text : String) (next : Plan α)

namespace Plan

variable {α β : Type}

/-- Goes on with a second plan from the result of the first. -/
def bind (plan : Plan α) (next : α → Plan β) : Plan β :=
  match plan with
  | .done result => next result
  | .probe path answer => .probe path fun found => (answer found).bind next
  | .read path answer => .read path fun text => (answer text).bind next
  | .input answer => .input fun text => (answer text).bind next
  | .save path text answer => .save path text fun saved => (answer saved).bind next
  | .print text rest => .print text (rest.bind next)

instance : Monad Plan where
  pure := .done
  bind := bind

/-- What plans are run on. -/
structure World where
  disk : Disk := {}
  input : List UInt8 := []
  /-- What has been written to the standard output. -/
  printed : String := ""

/-- The result of a plan, and the world that it leaves behind. -/
def run (plan : Plan α) (world : World) : α × World :=
  match plan with
  | .done result => (result, world)
  | .probe path next => (next (world.disk.contains path)).run world
  | .read path next => (next (world.disk.read path)).run world
  | .input next => (next (Text.ofBytes world.input)).run { world with input := [] }
  | .save path text next =>
    match world.disk.write path text with
    | .ok disk => (next (.ok ())).run { world with disk := disk }
    | .error fault => (next (.error fault)).run world
  | .print text rest => rest.run { world with printed := world.printed ++ text }

/-- The second plan runs in the world that the first one leaves. -/
theorem run_bind (plan : Plan α) (next : α → Plan β) (world : World) :
    (plan.bind next).run world = (next (plan.run world).1).run (plan.run world).2 := by
  induction plan generalizing world with
  | done result => rfl
  | probe path answer ih => exact ih _ _
  | read path answer ih => exact ih _ _
  | input answer ih => exact ih _ _
  | save path text answer ih =>
    simp only [bind, run]
    split <;> exact ih _ _
  | print text rest ih => exact ih _

end Plan

end FieldRules
