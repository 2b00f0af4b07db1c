import FieldRules.Proofs.Command.Job
import FieldRules.Proofs.Engine.Messages

/-!
What checking data comes to in the formats for programs: one report or none, and a code that agrees with it.
-/

namespace FieldRules

theorem Json.ofCount_eq_ofNat {n : Nat} (h : n < 0x10000000000000000) : ofCount n = ofNat n h := by
  have hmin : min n (0x10000000000000000 - 1) = n := by omega
  simp only [ofCount, hmin]

namespace Command

open Engine (Traced)

/-- How a call ends whose action has a result. -/
def Outcome.ofResult (color : Bool) : Except Failure Unit → Outcome
  | .ok () => ⟨none, color⟩
  | .error failure => ⟨some failure, color⟩

/-- A call whose configuration can be read ends as its action does. -/
theorem Invocation.run_plan {invocation : Invocation} {surroundings : Surroundings} {world between : Plan.World}
    {configuration : Configuration}
    (hload : (Configuration.load invocation.configuration surroundings.home).run world = (.ok configuration, between)) :
    let color := invocation.usesColor surroundings.color && configuration.display.color
    let context : Context := {
      style := { format := invocation.output, color, quiet := invocation.quiet }
      configuration
      now := surroundings.now }
    let ended := (context.perform invocation.action).run between
    (invocation.plan surroundings).run world = (.ofResult context.style.color ended.1, ended.2) := by
  intro color context ended
  have hplan : (invocation.plan surroundings).run world = _ := Plan.run_bind _ _ world
  have hload : Plan.run (ExceptT.run _) world = _ := hload
  rw [hplan, hload]
  refine (Plan.run_bind (ExceptT.run (context.perform invocation.action)) _ between).trans ?_
  have hended : Plan.run (ExceptT.run (context.perform invocation.action)) between = ended := rfl
  rw [hended]
  rcases ended with ⟨failure | ⟨⟩, after⟩ <;> rfl

/-- A document for programs on so many faults: it has an entry and a line for each of them, and calls the data
valid if there are none. -/
inductive ReportsOn (count : Nat) : (valid : Bool) → Json → Prop
  | intro {valid : Bool} {errors : List Json} {lines : List String} (hvalid : valid = true ↔ count = 0)
      (herrors : errors.length = count) (hlines : lines.length = count) :
      ReportsOn count valid (.object [
        ("valid", .bool valid),
        ("error_count", .ofCount count),
        ("errors", .array errors),
        ("messages", .array (lines.map .string))])

section ReportsOn

variable {count : Nat} {valid : Bool} {document : Json}

theorem ReportsOn.valid_iff (h : ReportsOn count valid document) : valid = true ↔ count = 0 := by
  obtain ⟨hvalid, -, -⟩ := h
  exact hvalid

theorem ReportsOn.member?_errorCount (h : ReportsOn count valid document) (hfits : count < 0x10000000000000000) :
    document.member? "error_count" = some (.ofNat count hfits) := by
  obtain ⟨-, -, -⟩ := h
  rw [← Json.ofCount_eq_ofNat]
  rfl

end ReportsOn

/-- The document on a report is right about its size if there is something to say about every record. -/
theorem reportsOn_reportDocument {words : ReportStyle} {report : Report}
    (h : ∀ r ∈ report.records.toList, r.HasMessage words.locale) :
    ReportsOn report.size report.isEmpty (reportDocument words report) := by
  have hlines := (Report.forall₂_render_of_hasMessage h words.template).length_eq
  refine .intro ?_ ?_ ?_
  · simp [Report.isEmpty, Report.size]
  · simp [Report.size]
  · simpa [Report.size] using hlines.symm

namespace OutputStyle

variable {style : OutputStyle}

/-! Programs are told nothing but the report. -/

theorem info_eq_pure (h : style.format ≠ .human) (message : String) : style.info message = pure () := by
  simp [info, h]

theorem success_eq_pure (h : style.format ≠ .human) (message : String) : style.success message = pure () := by
  simp [success, h]

theorem error_eq_pure (h : style.format ≠ .human) (message : String) : style.error message = pure () := by
  simp [error, h]

theorem reportText_eq (h : style.format ≠ .human) (words : ReportStyle) (report : Report) :
    style.reportText words report = style.format.close (style.format.text (reportDocument words report)) := by
  rw [reportText]
  split
  · exact absurd ‹_› h
  · rfl

end OutputStyle

namespace Context

/-- Data can be checked: schema and data can be read, an engine can be built from the schema, and it comes to a
report on the data. What is read may be taken from the input. -/
inductive Checks (context : Context) (data : String) (options : EngineOptions) (world : Plan.World) :
    Report → Plan.World → Prop
  | intro {schema : Schema} {between after : Plan.World} {v : Json} {engine : Engine.Validation}
      {found : Traced Report}
      (hschema : (readSchema options).run world = (.ok schema, between))
      (hdata : (readDocument data).run between = (.ok v, after))
      (hengine : Engine.Validation.ofSchema schema (Validator.builtin context.now)
        (context.configuration.settings options.overrides) = .ok engine)
      (hfound : engine.validate v = .ok found) :
      Checks context data options world found.result after

variable {context : Context} {data : String} {options : EngineOptions} {world after : Plan.World} {report : Report}

theorem gathers_check (context : Context) (data : String) (options : EngineOptions) :
    (context.check data options).Gathers := by
  have hengine {α : Type} (result : Except Error α) : (Job.ofExcept .engine result).Gathers :=
    Job.gathers_ofExcept fun _ _ _ hrefused => by cases hrefused
  exact .bind (gathers_readSchema options) fun _ => .bind (gathers_readDocument data) fun _ =>
    .bind (hengine _) fun _ => hengine _

theorem run_check_eq_ok_iff :
    (context.check data options).run world = (.ok report, after) ↔ context.Checks data options world report after := by
  simp only [check, Job.run_bind_eq_ok_iff, Job.run_ofExcept_eq_ok_iff, Engine.Traced.result_eq_ok_iff]
  constructor
  · rintro ⟨schema, between, hschema, v, _, hdata, engine, _, ⟨hengine, rfl⟩, ⟨found, hfound, rfl⟩, rfl⟩
    exact .intro hschema hdata hengine hfound
  · rintro ⟨hschema, hdata, hengine, hfound⟩
    exact ⟨_, _, hschema, _, _, hdata, _, _, ⟨hengine, rfl⟩, ⟨_, hfound, rfl⟩, rfl⟩

theorem Checks.hasMessage (h : context.Checks data options world report after) :
    ∀ r ∈ report.records.toList, r.HasMessage (context.configuration.settings options.overrides).locale := by
  obtain ⟨-, -, hengine, hfound⟩ := h
  obtain ⟨hsettings, -⟩ := Engine.Validation.ofSchema_spec hengine
  rw [← hsettings]
  exact fun _ hr => Engine.Validation.hasMessage_of_mem_validate hfound hr

/-- In the formats for programs nothing is written before there is a report, and the result goes by it. -/
theorem run_validate (hformat : context.style.format ≠ .human) (template join : Option String) :
    let words := context.reportStyle (context.configuration.settings options.overrides) template join
    (context.validate data options template join).run world =
      match (context.check data options).run world with
      | (.ok report, after) =>
        (if report.isEmpty then .ok () else .error (.refused report.size),
          { after with
            printed := after.printed ++
              context.style.format.close (context.style.format.text (reportDocument words report)) })
      | (.error failure, after) => (.error failure, after) := by
  intro words
  have hreport (report : Report) (after : Plan.World) : (context.style.report words report).run after =
      (.ok (), { after with
        printed := after.printed ++
          context.style.format.close (context.style.format.text (reportDocument words report)) }) := by
    rw [OutputStyle.report, Job.run_print, OutputStyle.reportText_eq hformat]
  rw [validate, OutputStyle.info_eq_pure hformat]
  simp only [Job.run_bind, Job.run_pure]
  rcases (context.check data options).run world with ⟨failure | report, after⟩
  · rfl
  · cases hempty : report.isEmpty with
    | true => simp [hempty, hformat, OutputStyle.success_eq_pure, Job.run_bind, Job.run_pure, hreport, words]
    | false =>
      simp [hempty, hformat, OutputStyle.error_eq_pure, Job.run_bind, Job.run_pure, Job.run_throw, hreport, words]

/-- What a check finds is printed, and nothing else happens. -/
theorem Checks.run_validate (h : context.Checks data options world report after)
    (hformat : context.style.format ≠ .human) (template join : Option String) :
    let words := context.reportStyle (context.configuration.settings options.overrides) template join
    (context.validate data options template join).run world =
      (if report.isEmpty then .ok () else .error (.refused report.size),
        { world with
          input := after.input
          printed := world.printed ++
            context.style.format.close (context.style.format.text (reportDocument words report)) }) := by
  have hcheck := run_check_eq_ok_iff.2 h
  have hworld : after = { world with input := after.input } := by
    simpa only [hcheck] using ((gathers_check context data options).run world).2
  simp only [Context.run_validate hformat, hcheck]
  rw [hworld]

/-- Without a check the call fails, for another reason than the data, and nothing happens but that input may be
read. -/
theorem run_validate_of_not_checks (h : ∀ report after, ¬ context.Checks data options world report after)
    (hformat : context.style.format ≠ .human) (template join : Option String) :
    ∃ failure input, (context.validate data options template join).run world =
        (.error failure, { world with input := input }) ∧
      ∀ count, failure ≠ .refused count := by
  obtain ⟨hrefused, hworld⟩ := (gathers_check context data options).run world
  rcases hcheck : (context.check data options).run world with ⟨failure | report, after⟩
  · rw [hcheck] at hrefused hworld
    refine ⟨failure, after.input, ?_, fun count hfailure => hrefused count (by rw [hfailure])⟩
    simp only [Context.run_validate hformat, hcheck]
    rw [← hworld]
  · exact absurd (run_check_eq_ok_iff.1 hcheck) (h report after)

/-- In the formats for programs, what is printed, the result and the code always agree. If the data can be checked,
the report is printed and nothing else, and the result goes by the number of its records; if not, nothing is
printed, and the code is neither that of valid data nor that of refused data. No file is written. -/
theorem validate_spec (context : Context) (hformat : context.style.format ≠ .human) (data : String)
    (options : EngineOptions) (template join : Option String) (world : Plan.World) :
    let format := context.style.format
    let words := context.reportStyle (context.configuration.settings options.overrides) template join
    let ended := (context.validate data options template join).run world
    let code := (Outcome.ofResult context.style.color ended.1).exitCode
    (∀ report after, context.Checks data options world report after →
      ∃ valid, ReportsOn report.size valid (reportDocument words report) ∧
        (∀ hfits : report.size < 0x10000000000000000,
          (reportDocument words report).member? "error_count" = some (.ofNat report.size hfits)) ∧
        ended.2 = { world with
          input := after.input
          printed := world.printed ++ format.close (format.text (reportDocument words report)) } ∧
        (valid = true ∧ ended.1 = .ok () ∧ code = 0 ∨
          valid = false ∧ ended.1 = .error (.refused report.size) ∧ code = 20)) ∧
    ((∀ report after, ¬ context.Checks data options world report after) →
      ended.2 = { world with input := ended.2.input } ∧
      ∃ failure, ended.1 = .error failure ∧ code = failure.exitCode ∧ code ≠ 0 ∧ code ≠ 20) := by
  intro format words ended code
  constructor
  · intro report after hchecks
    have hended : ended = _ := hchecks.run_validate hformat template join
    have hdocument : ReportsOn report.size report.isEmpty (reportDocument words report) :=
      reportsOn_reportDocument hchecks.hasMessage
    refine ⟨report.isEmpty, hdocument, hdocument.member?_errorCount, by rw [hended], ?_⟩
    cases hempty : report.isEmpty with
    | true =>
      have hresult : ended.1 = .ok () := by rw [hended, hempty, if_pos rfl]
      exact .inl ⟨rfl, hresult, by simp only [code, hresult]; rfl⟩
    | false =>
      have hresult : ended.1 = .error (.refused report.size) := by rw [hended, hempty, if_neg Bool.false_ne_true]
      exact .inr ⟨rfl, hresult, by simp only [code, hresult]; rfl⟩
  · intro hnone
    obtain ⟨failure, input, hrun, hrefused⟩ := run_validate_of_not_checks hnone hformat template join
    have hended : ended = _ := hrun
    have hcode : code = failure.exitCode := by
      simp only [code, hended]
      rfl
    refine ⟨by rw [hended], failure, by rw [hended], hcode, ?_, ?_⟩
    · rw [hcode]
      exact failure.exitCode_ne_zero
    · rw [hcode, ne_eq, Failure.exitCode_eq_iff]
      exact fun ⟨count, hcount⟩ => hrefused count hcount

/-- Data that lacks a required field is refused with a report on it, and data that is not there with none. -/
theorem validate_spec_required :
    let file (text : String) : Disk.Entry := .file (Text.Utf8.encode text.toList)
    let rules := "version: v2\nfields:\n- target_key: a\n  required: true\n"
    let world : Plan.World := { disk := ⟨[(["s.yaml"], file rules), (["d.yaml"], file "b: 1")]⟩ }
    let options : EngineOptions := { schema := "s.yaml" }
    let context : Context := { style := ⟨.yaml, false, true⟩, now := ⟨0, 0⟩ }
    let run (data : String) := (context.validate data options (some "%message") none).run world
    context.style.format ≠ .human ∧
    (∃ report after, context.Checks "d.yaml" options world report after ∧ report.size = 1) ∧
    (run "d.yaml").1 = .error (.refused 1) ∧
    (run "d.yaml").2.printed = Json.toYaml (.object [
      ("valid", .bool false),
      ("error_count", .ofNat 1),
      ("errors", .array [.object [
        ("target", .string "a"),
        ("validator", .string "is-required"),
        ("messages", .object [("en", .string "this field is required")]),
        ("value", .null)]]),
      ("messages", .array [.string "this field is required"])]) ∧
    (∀ report after, ¬ context.Checks "e.yaml" options world report after) ∧
    (∃ failure, (run "e.yaml").1 = .error failure ∧ failure.exitCode ≠ 0 ∧ failure.exitCode ≠ 20) ∧
    (run "e.yaml").2.printed = "" := by
  intro file rules world options context run
  let schema : Schema := { version := "v2", rules := [{ target := "a", required := true }] }
  let between := ((readSchema options).run world).2
  let data : Json := .object [("b", .ofNat 1)]
  obtain ⟨hschema, hdata, habsent⟩ :
      ((readSchema options).run world).1 = .ok schema ∧
      ((readDocument "d.yaml").run between).1 = .ok data ∧
      ((readDocument "e.yaml").run between).1 = .error (.notFound "e.yaml") := by
    decide +kernel +revert
  have hformat : context.style.format ≠ .human := nofun
  obtain ⟨engine, hengine⟩ : ∃ engine, Engine.Validation.ofSchema schema (Validator.builtin context.now) {} =
    .ok engine := ⟨_, rfl⟩
  obtain ⟨found, hfound⟩ : ∃ found, engine.validate data = .ok found := by
    cases hengine
    exact ⟨_, rfl⟩
  have hchecks : context.Checks "d.yaml" options world found.result _ :=
    .intro (Prod.ext hschema rfl) (Prod.ext hdata rfl) hengine hfound
  have hsize : found.result.size = 1 := by
    cases hengine
    obtain rfl := Engine.Traced.ok_inj.1 hfound
    rfl
  have hnone : ∀ report after, ¬ context.Checks "e.yaml" options world report after := by
    rintro _ _ ⟨hschema, hdata, -, -⟩
    simp only [between, hschema, hdata] at habsent
    cases habsent
  obtain ⟨valid, hdocument, -, hprinted, hverdict⟩ :=
    (validate_spec context hformat "d.yaml" options (some "%message") none world).1 _ _ hchecks
  obtain ⟨hworld, failure, hfailure, hcode, hsuccess, hrefusal⟩ :=
    (validate_spec context hformat "e.yaml" options (some "%message") none world).2 hnone
  refine ⟨hformat, ⟨found.result, _, hchecks, hsize⟩, ?_, ?_, hnone, ⟨failure, hfailure, ?_, ?_⟩, by rw [hworld]⟩
  · rw [hsize] at hverdict hdocument
    rcases hverdict with ⟨rfl, -, -⟩ | ⟨-, hrefused, -⟩
    · cases hdocument.valid_iff.1 rfl
    · exact hrefused
  · have hnothing : world.printed = "" := rfl
    rw [hprinted, hnothing, String.empty_append]
    cases hengine
    obtain rfl := Engine.Traced.ok_inj.1 hfound
    refine congrArg Json.toYaml ?_
    clear * -
    decide +kernel +revert
  · rwa [← hcode]
  · rwa [← hcode]

end Context

end Command

end FieldRules
