import FieldRules.Command.Run

/-!
Jobs that only gather what an action needs. Whatever they are answered, they write nothing, neither to a file
nor to the output, and they never refuse data.
-/

namespace FieldRules

variable {α β : Type}

/-- Whatever a plan is answered, it writes nothing, and its result has a property. -/
inductive Plan.Reads (good : α → Prop) : Plan α → Prop
  | done {result : α} (h : good result) : Reads good (.done result)
  | probe {path : String} {next : Bool → Plan α} (h : ∀ found, Reads good (next found)) :
      Reads good (.probe path next)
  | read {path : String} {next : Except DiskFault String → Plan α} (h : ∀ text, Reads good (next text)) :
      Reads good (.read path next)
  | input {next : Except DiskFault String → Plan α} (h : ∀ text, Reads good (next text)) :
      Reads good (.input next)

namespace Plan.Reads

variable {good : α → Prop} {plan : Plan α}

theorem bind {better : β → Prop} {next : α → Plan β} (h : plan.Reads good)
    (hnext : ∀ result, good result → (next result).Reads better) : (plan.bind next).Reads better := by
  induction h with
  | done hresult => exact hnext _ hresult
  | probe _ ih => exact .probe ih
  | read _ ih => exact .read ih
  | input _ ih => exact .input ih

/-- A run ends well, and of the world it changes at most what is left of the input. -/
theorem run (h : plan.Reads good) (world : World) :
    good (plan.run world).1 ∧ (plan.run world).2 = { world with input := (plan.run world).2.input } := by
  induction h generalizing world with
  | done hresult => exact ⟨hresult, rfl⟩
  | probe _ ih => exact ih _ world
  | read _ ih => exact ih _ world
  | input _ ih => exact ih _ { world with input := [] }

end Plan.Reads

namespace Document

theorem reads_readFile (path : String) : (readFile path).Reads fun _ => True := by
  rw [readFile]
  split
  · exact .done trivial
  · refine .read fun text => ?_
    cases text <;> exact .done trivial

theorem Loader.reads_loadFile (loader : Loader) (path : String) : (loader.loadFile path).Reads fun _ => True :=
  (reads_readFile path).bind fun _ _ => .done trivial

end Document

namespace Command

/-- A failure refuses data exactly if it ends the program with this code. -/
theorem Failure.exitCode_eq_iff {failure : Failure} : failure.exitCode = 20 ↔ ∃ count, failure = .refused count := by
  cases failure <;> simp [exitCode]

theorem Failure.exitCode_ne_zero (failure : Failure) : failure.exitCode ≠ 0 := by
  cases failure <;> simp [exitCode]

namespace Job

/-- The second job runs in the world that the first one leaves, if that one gives a result. -/
theorem run_bind (job : Job α) (next : α → Job β) (world : Plan.World) :
    (job >>= next).run world =
      match job.run world with
      | (.ok result, after) => (next result).run after
      | (.error failure, after) => (.error failure, after) := by
  have hrun : (job >>= next).run world =
      (ExceptT.bindCont next (job.run world).1 : Plan _).run (job.run world).2 :=
    Plan.run_bind _ _ world
  rw [hrun]
  rcases job.run world with ⟨failure | result, after⟩ <;> rfl

theorem run_pure (result : α) (world : Plan.World) : (pure result : Job α).run world = (.ok result, world) := rfl

theorem run_throw (failure : Failure) (world : Plan.World) :
    (throw failure : Job α).run world = (.error failure, world) := rfl

theorem run_print (text : String) (world : Plan.World) :
    (print text).run world = (.ok (), { world with printed := world.printed ++ text }) := rfl

theorem run_bind_eq_ok_iff {job : Job α} {next : α → Job β} {world after : Plan.World} {result : β} :
    (job >>= next).run world = (.ok result, after) ↔
      ∃ first between, job.run world = (.ok first, between) ∧ (next first).run between = (.ok result, after) := by
  rw [run_bind]
  rcases job.run world with ⟨failure | first, between⟩
  · exact ⟨nofun, nofun⟩
  · exact ⟨fun h => ⟨first, between, rfl, h⟩, by rintro ⟨_, _, ⟨⟩, h⟩; exact h⟩

theorem run_ofExcept_eq_ok_iff {ε : Type} {fail : ε → Failure} {outcome : Except ε α} {result : α}
    {world after : Plan.World} :
    (ofExcept fail outcome).run world = (.ok result, after) ↔ outcome = .ok result ∧ world = after := by
  cases outcome with
  | ok first =>
    have hrun : (ofExcept fail (.ok first)).run world = (.ok first, world) := rfl
    rw [hrun, Prod.mk.injEq, Except.ok.injEq, Except.ok.injEq]
  | error fault => exact ⟨nofun, nofun⟩

/-- The job only gathers what an action needs: it writes nothing and does not refuse data. -/
def Gathers (job : Job α) : Prop :=
  Plan.Reads (fun result => ∀ count, result ≠ .error (.refused count)) (ExceptT.run job)

namespace Gathers

theorem pure (result : α) : (Pure.pure result : Job α).Gathers := .done nofun

theorem throw {failure : Failure} (h : ∀ count, failure ≠ .refused count) :
    (MonadExcept.throw failure : Job α).Gathers :=
  .done fun count hrefused => h count (Except.error.inj hrefused)

theorem bind {job : Job α} {next : α → Job β} (h : job.Gathers) (hnext : ∀ result, (next result).Gathers) :
    (job >>= next).Gathers :=
  Plan.Reads.bind h fun
    | .ok result, _ => hnext result
    | .error _, hfailure => .done fun count hrefused => hfailure count (by rw [Except.error.inj hrefused])

/-- A run leaves files and output as they are, and the data is not refused. -/
theorem run {job : Job α} (h : job.Gathers) (world : Plan.World) :
    (∀ count, (job.run world).1 ≠ .error (.refused count)) ∧
      (job.run world).2 = { world with input := (job.run world).2.input } :=
  Plan.Reads.run h world

end Gathers

theorem gathers_ofExcept {ε : Type} {fail : ε → Failure} {result : Except ε α}
    (h : ∀ fault, result = .error fault → ∀ count, fail fault ≠ .refused count) :
    (ofExcept fail result).Gathers := by
  cases result with
  | ok result => exact .pure result
  | error fault => exact .throw (h fault rfl)

theorem gathers_ofExcept_load (result : Except Document.LoadError α) : (ofExcept .load result).Gathers :=
  gathers_ofExcept fun _ _ _ hrefused => by cases hrefused

theorem gathers_lift {plan : Plan α} (h : plan.Reads fun _ => True) : Gathers (ExceptT.lift plan) :=
  Plan.Reads.bind h fun _ _ => .done nofun

theorem gathers_require (path : String) : (require path).Gathers := by
  refine .bind (gathers_lift (.probe fun _ => .done trivial)) fun found => ?_
  cases found
  · exact .throw nofun
  · exact .pure ()

theorem gathers_read (path : String) : (read path).Gathers := by
  refine Plan.Reads.read fun text => ?_
  cases text <;> exact .done nofun

theorem gathers_input : input.Gathers := by
  refine Plan.Reads.input fun text => ?_
  cases text <;> exact .done nofun

end Job

theorem gathers_readDocument (path : String) : (readDocument path).Gathers := by
  rw [readDocument]
  split
  · exact .bind Job.gathers_input fun _ => .bind (Job.gathers_ofExcept_load _) fun _ => .pure _
  · refine .bind (Job.gathers_require path) fun _ => ?_
    split
    · exact .bind (Job.gathers_lift (Document.reads_readFile path)) fun _ => Job.gathers_ofExcept_load _
    · exact .bind (Job.gathers_read path) fun _ => .bind (Job.gathers_ofExcept_load _) fun _ => .pure _

theorem gathers_ofExcept_loader (tag : Option String) : (Job.ofExcept id (loader tag)).Gathers := by
  refine Job.gathers_ofExcept fun failure hfailure count hrefused => ?_
  unfold loader at hfailure
  split at hfailure
  · cases hfailure
  · split at hfailure <;> cases hfailure
    cases hrefused

theorem gathers_readSchema (options : EngineOptions) : (readSchema options).Gathers := by
  rw [readSchema]
  exact .bind (Job.gathers_require options.schema) fun _ => .bind (gathers_ofExcept_loader _) fun loader =>
    .bind (Job.gathers_lift (loader.reads_loadFile options.schema)) fun _ => Job.gathers_ofExcept_load _

end Command

end FieldRules
