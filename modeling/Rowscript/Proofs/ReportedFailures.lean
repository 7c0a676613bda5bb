import Rowscript.CommandLine.Program
import Rowscript.Proofs.JobRequests

/-!
# Failures that commands report

The commands that carry out a job print what has come of it: lines for its result, or its failure
as an error with an exit status. Only two failures are left to the caller, that the scratch cell
has no address and that there are no credentials. Both are known from the settings and the access
alone, before anything is sent. Past them every refused request, every missing sheet and every rule
that cannot be read is reported.
-/

namespace Rowscript

/-- With credentials, a computation that is one request fails only when the service refuses it. -/
theorem Client.satisfies_granted {α : Type} {x : Client α} {action : Action} {request : Request}
    {value : Connection → α}
    (hx : ∀ s, outcome x s = (s.answer .granted action (value s), s.serve .granted request)) :
    Satisfies (fun _ => True) (fun _ => True) (fun e _ => e.kind = .service) x := by
  intro s _
  rw [hx]
  cases hanswer : s.book.refusal? with
  | some refusal =>
    rw [Connection.answer_of_refused hanswer]
    exact ⟨trivial, rfl⟩
  | none =>
    rw [Connection.answer_of_granted hanswer]
    exact ⟨trivial, trivial⟩

/-- With credentials, a formula cannot be computed only when the service refuses a request. -/
theorem ScratchCell.kind_of_evaluate {scratch : ScratchCell} {formula : Text} {s s' : Connection}
    {e : ClientError} (h : outcome (scratch.evaluate .granted formula) s = (.error e, s')) :
    e.kind = .service := by
  obtain ⟨transcript, result, t, hout, hcall, -⟩ := scratch.call_evaluate .granted formula s
  rw [h] at hout
  obtain ⟨rfl, rfl⟩ := Prod.mk.inj hout
  cases hcall with
  | noCredentials hnone => simp at hnone
  | notPrepared hprepared => cases hprepared <;> rfl
  | prepared _ hcomputed => cases hcomputed <;> rfl

namespace Job

variable {settings : Settings} {job : Job}

/-- A computation of a job gives values of a kind, and fails only in ways that are reported. -/
def Reported {α : Type} (post : α → Prop) (x : JobM α) : Prop :=
  Satisfies (fun _ => True) post (fun e _ => e.kind ≠ .unexpected) x

/-- What the service refuses to the client of a job is reported. -/
theorem reported_viaClient {α : Type} {x : Client α}
    (h : Satisfies (fun _ => True) (fun _ => True) (fun e _ => e.kind = .service) x) :
    Reported (fun _ => True) (viaClient x) := by
  refine h.adapt fun e _ he => ?_
  rw [JobError.kind, he]
  decide

/-- A sheet that is missing is reported. -/
theorem reported_checkSheets : Reported (fun _ => True) (job.checkSheets .granted settings) := by
  refine .of_get_bind fun s => ?_
  split
  · exact .pure trivial
  · refine (reported_viaClient (Client.satisfies_granted Client.outcome_sheetTitles)).bind
      fun titles _ => ?_
    split
    · exact .of_throw fun _ => nofun
    · exact .of_modify (fun _ _ => trivial) trivial

/-- A sheet that cannot be read is reported. -/
theorem reported_readSheet (spreadsheet sheet : Text) :
    Reported (fun _ => True) (viaClient (Client.readSheet .granted spreadsheet sheet)) :=
  reported_viaClient
    (Client.satisfies_granted (Client.outcome_read (sheetRange sheet []) formattedRendering))

/-- A job that cannot be loaded is reported. -/
theorem reported_load :
    Reported (fun loaded : Source × RuleSet =>
      ∃ mapping, RuleSet.load loaded.1.headers mapping = .ok loaded.2)
      (job.load .granted settings) := by
  have hsource : Reported (fun _ => True) (job.readSource .granted settings) :=
    reported_checkSheets.bind fun _ _ => (reported_readSheet _ _).bind fun _ _ => .pure trivial
  have hmapping : Reported (fun _ => True) (job.readMapping .granted settings) :=
    reported_checkSheets.bind fun _ _ => (reported_readSheet _ _).bind fun _ _ => .pure trivial
  refine hsource.bind fun source _ => hmapping.bind fun mapping _ => ?_
  split
  · next rules hload => exact .pure ⟨mapping, hload⟩
  · exact .of_throw fun _ => nofun

/-- Output that cannot be written is reported. -/
theorem reported_writeOutput {values : List (List Text)} (hrows : values ≠ []) :
    Reported (fun _ => True) (viaClient (job.writeOutput .granted settings values)) := by
  apply reported_viaClient
  refine (Client.satisfies_granted (Client.outcome_clear settings.outputRange)).bind fun _ _ => ?_
  exact Client.satisfies_granted (Client.outcome_writeOrFail .writeOutput settings.outputStart
    (by simpa using hrows))

/-- A formula that cannot be computed is reported. -/
theorem reported_compute {source : Source} {rules : RuleSet} {mapping : List (Text × Text)}
    (hload : RuleSet.load source.headers mapping = .ok rules) :
    Reported (fun _ => True) (ExceptT.adapt JobError.evaluation
      (rules.run (job.scratch.evaluate .granted) source)) := by
  refine (RuleSet.satisfies_run_of_load hload _ source).adapt ?_
  rintro _ s ⟨cause, rfl, formula, before, hfails⟩
  have hkind : (JobError.evaluation (.sandbox cause)).kind = .service :=
    ScratchCell.kind_of_evaluate hfails
  rw [hkind]
  decide

/-- With credentials, every failure of a run is reported. -/
theorem reported_run (settings : Settings) (job : Job) (dryRun : Bool) :
    Reported (fun _ => True) (job.run .granted settings dryRun) := by
  refine reported_load.bind ?_
  rintro ⟨source, rules⟩ ⟨mapping, hload⟩
  refine (reported_compute hload).bind fun result _ => ?_
  cases dryRun with
  | true => exact .pure trivial
  | false =>
    have hrows : result.values ≠ [] := by simp [Transformed.values]
    exact (reported_writeOutput hrows).bind fun _ _ => .pure trivial

/-- With credentials, every failure of checking a mapping is reported. -/
theorem reported_validate (settings : Settings) (job : Job) :
    Reported (fun _ => True) (job.validate .granted settings) :=
  reported_load.bind fun _ _ => .pure trivial

/-- Without credentials a mapping is not checked, and nothing is sent. -/
theorem outcome_validate_noCredentials (path : Text) (settings : Settings) (job : Job)
    (s : Connection) :
    outcome (job.validate (.noCredentials path) settings) s =
      (.error (.client (.noCredentials path)), s) := by
  rw [validate, outcome_bind, outcome_load_noCredentials]

/-- Settings that are refused describe no job. -/
theorem ofSettings_of_error {override : Option Text} {cause : ConfigError}
    (h : settings.requireSheets override = .error cause) :
    ofSettings settings override = .error (.config cause) := by
  rw [ofSettings, h]
  rfl

/-- Settings that are accepted describe a job, if the scratch cell has an address. -/
theorem ofSettings_of_ok {override : Option Text} {spreadsheet : Text}
    (h : settings.requireSheets override = .ok spreadsheet) :
    ofSettings settings override =
      match readAddress settings.sandboxCell with
      | .error cause => .error (.address cause)
      | .ok _ => .ok ⟨spreadsheet, ⟨spreadsheet, settings.sandboxSheet, settings.sandboxCell⟩⟩ := by
  have hat : ScratchCell.at? spreadsheet settings.sandboxSheet settings.sandboxCell =
      (readAddress settings.sandboxCell >>= fun _ =>
        return ⟨spreadsheet, settings.sandboxSheet, settings.sandboxCell⟩) := rfl
  rw [ofSettings, h]
  change (ScratchCell.at? spreadsheet _ _).mapError JobError.address >>= _ = _
  rw [hat]
  cases readAddress settings.sandboxCell <;> rfl

end Job

namespace CommandLine

variable {α : Type}

/-- How a command ends that reports what has come of its job: normally with some lines, or with the
error of the job, and then with status two for a failure of the configuration and one for any
other. -/
def Exit.reporting (lines : α → List Text) : Except JobError α → Exit
  | .ok result => .done (lines result)
  | .error e => .failed (if e.kind = .configuration then 2 else 1) e.message

/-- The failure that a command with a job leaves to the caller, if there is one. The settings as
such are right then, but the scratch cell has no address, or it has one and there are no
credentials. -/
def unreported? (access : Access) (settings : Settings) (spreadsheet : Option Text) :
    Option JobError :=
  match settings.requireSheets spreadsheet with
  | .error _ => none
  | .ok _ =>
    match readAddress settings.sandboxCell, access with
    | .error cause, _ => some (.address cause)
    | .ok _, .noCredentials path => some (.client (.noCredentials path))
    | .ok _, .granted => none

/-- A failure that is expected is reported like any result. -/
theorem conclude_eq_reporting (lines : α → List Text) {outcome : Except JobError α}
    (h : ∀ e, outcome = .error e → e.kind ≠ .unexpected) :
    conclude lines outcome = .ok (.reporting lines outcome) := by
  cases outcome with
  | ok result => rfl
  | error e =>
    have hkind := h e rfl
    rw [conclude, Exit.reporting]
    cases hcase : e.kind with
    | unexpected => exact absurd hcase hkind
    | _ => rfl

section Work

variable {settings : Settings} {spreadsheet : Option Text}

/-- Without a job the book stays as it is. -/
theorem runJob_of_error {e : JobError} (h : Job.ofSettings settings spreadsheet = .error e)
    (book : Book) (work : Job → JobM α) :
    runJob settings spreadsheet book work = (.error e, book) := by
  rw [runJob, h]

/-- A job works over a new connection. -/
theorem runJob_of_ok {job : Job} (h : Job.ofSettings settings spreadsheet = .ok job) (book : Book)
    (work : Job → JobM α) :
    runJob settings spreadsheet book work =
      ((outcome (work job) (.fresh book)).1, (outcome (work job) (.fresh book)).2.book) := by
  rw [runJob, h]
  rfl

/-- A command reports what has come of its work, unless there is a failure that is left to the
caller. It is enough that the work fails as expected with credentials, and at once without. -/
theorem conclude_runJob (lines : α → List Text) (work : Access → Job → JobM α)
    (hgranted : ∀ job, Job.Reported (fun _ => True) (work .granted job))
    (hnone : ∀ path job s, outcome (work (.noCredentials path) job) s =
      (.error (.client (.noCredentials path)), s))
    (access : Access) (settings : Settings) (spreadsheet : Option Text) (book : Book) :
    let done := runJob settings spreadsheet book (work access)
    (conclude lines done.1, done.2) =
      match unreported? access settings spreadsheet with
      | none => (.ok (.reporting lines done.1), done.2)
      | some e => (.error e, book) := by
  intro done
  unfold unreported?
  cases hsheets : settings.requireSheets spreadsheet with
  | error cause =>
    have hdone : done = (.error (.config cause), book) :=
      runJob_of_error (Job.ofSettings_of_error hsheets) book (work access)
    rw [hdone]
    rfl
  | ok id =>
    have hjob := Job.ofSettings_of_ok hsheets
    cases haddress : readAddress settings.sandboxCell with
    | error cause =>
      rw [haddress] at hjob
      have hdone : done = (.error (.address cause), book) :=
        runJob_of_error hjob book (work access)
      rw [hdone]
      rfl
    | ok address =>
      rw [haddress] at hjob
      let job : Job := ⟨id, ⟨id, settings.sandboxSheet, settings.sandboxCell⟩⟩
      have hdone : done = ((outcome (work access job) (.fresh book)).1,
          (outcome (work access job) (.fresh book)).2.book) :=
        runJob_of_ok hjob book (work access)
      rw [hdone]
      cases access with
      | noCredentials path =>
        rw [hnone]
        rfl
      | granted =>
        rw [conclude_eq_reporting]
        intro e he
        exact (hgranted job).failure_of_error trivial (Prod.ext he rfl)

end Work

/-- The commands to run a transformation and to check a mapping report every failure of their job
but those that are left to the caller: that the scratch cell has no address, and that there are no
credentials. With such a failure nothing is sent, so the book stays as it is. -/
theorem execute_reports (access : Access) (settings : Settings) (book : Book)
    (spreadsheet : Option Text) (dryRun : Bool) :
    let ran := runJob settings spreadsheet book fun job => job.run access settings dryRun
    let checked := runJob settings spreadsheet book fun job => job.validate access settings
    match unreported? access settings spreadsheet with
    | none =>
      execute access settings book (.run spreadsheet dryRun) =
          (.ok (.reporting (fun result => [transformedLine dryRun result]) ran.1), ran.2) ∧
        execute access settings book (.check spreadsheet) =
          (.ok (.reporting ruleSetLines checked.1), checked.2)
    | some e =>
      execute access settings book (.run spreadsheet dryRun) = (.error e, book) ∧
        execute access settings book (.check spreadsheet) = (.error e, book) := by
  intro ran checked
  have hrun := conclude_runJob (fun result => [transformedLine dryRun result])
    (fun access job => job.run access settings dryRun)
    (fun job => job.reported_run settings dryRun)
    (fun path job => Job.outcome_run_noCredentials path settings job dryRun)
    access settings spreadsheet book
  have hcheck := conclude_runJob ruleSetLines (fun access job => job.validate access settings)
    (fun job => job.reported_validate settings)
    (fun path job => Job.outcome_validate_noCredentials path settings job)
    access settings spreadsheet book
  cases hunreported : unreported? access settings spreadsheet with
  | none =>
    rw [hunreported] at hrun hcheck
    exact ⟨hrun, hcheck⟩
  | some e =>
    rw [hunreported] at hrun hcheck
    exact ⟨hrun, hcheck⟩

/-- A refused request is reported. -/
example : (execute .granted .defaults (Job.bookWithOutput [(1, ⟨503, "busy".toList⟩)])
    (.check (some "book".toList))).1 =
      .ok (.failed 1 "Failed to get spreadsheet info: <HttpError 503 \"busy\">".toList) := by
  decide +kernel

/-- Missing credentials and a scratch cell without an address are left to the caller. -/
theorem execute_leaves_failures :
    (execute (.noCredentials "credentials.json".toList) .defaults (Job.bookWithOutput [])
      (.run (some "book".toList) false)).1 =
        .error (.client (.noCredentials "credentials.json".toList)) ∧
    (execute .granted { Settings.defaults with sandboxCell := "1A".toList } (Job.bookWithOutput [])
      (.check (some "book".toList))).1 = .error (.address (.malformed "1A".toList)) := by
  constructor
  · decide +kernel
  · decide +kernel

end CommandLine

end Rowscript
