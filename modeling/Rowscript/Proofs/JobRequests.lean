import Rowscript.Book.Job
import Rowscript.Proofs.Failures
import Rowscript.Proofs.Ranges
import Rowscript.Proofs.ScratchCell

/-!
# What a job sends

A job lists titles and reads sheets, computes its result with the help of the scratch cell, and
only then clears and writes the output sheet. This file names the requests of these stages and
proves that a job sends no others, whatever is refused. So the other sheets keep their content,
and so does the output sheet until the whole output has been computed.
-/

namespace Rowscript

/-- The range of the whole output sheet. -/
def Settings.outputRange (settings : Settings) : Text := sheetRange settings.outputSheet []

/-- The settings that are read when no variable is set. -/
def Settings.defaults : Settings :=
  ⟨"credentials.json".toList, "token.json".toList, none, "Source".toList, "Mapping".toList,
    "Output".toList, true, "_sandbox".toList, "A1".toList, "127.0.0.1".toList, 8000, false, [['*']],
    "INFO".toList⟩

example : Settings.ofVariables (fun _ => none) = .ok Settings.defaults := by decide +kernel

/-- The range at which the output is written. -/
def Settings.outputStart (settings : Settings) : Text :=
  sheetRange settings.outputSheet "A1".toList

namespace Job

/-- The requests of a job that look at the book. -/
inductive Looks (job : Job) : Request → Prop where
  | listing : Looks job (.listTitles job.spreadsheet)
  | reading (range rendering : Text) : Looks job (.read job.spreadsheet range rendering)

/-- The requests of a job that change its scratch sheet. -/
inductive Scratches (job : Job) : Request → Prop where
  | adding : Scratches job (.addSheet job.spreadsheet job.scratch.sheet)
  | writing (values : Grid) : Scratches job (.write job.spreadsheet job.scratch.range values)
  | clearing : Scratches job (.clear job.spreadsheet job.scratch.range)

/-- The request to clear the output sheet. -/
def clearing (settings : Settings) (job : Job) : Request :=
  .clear job.spreadsheet settings.outputRange

/-- The request to write the output. -/
def writing (settings : Settings) (job : Job) (values : List (List Text)) : Request :=
  .write job.spreadsheet settings.outputStart (values.map (List.map Cell.text))

/-- The requests of a job that replace the output. -/
inductive Replaces (settings : Settings) (job : Job) : Request → Prop where
  | clearing : Replaces settings job (job.clearing settings)
  | writing (values : List (List Text)) : Replaces settings job (job.writing settings values)

/-- The requests of a job before its output. -/
def Prepares (job : Job) (request : Request) : Prop := job.Looks request ∨ job.Scratches request

/-- All requests of a job. -/
def Sends (settings : Settings) (job : Job) (request : Request) : Prop :=
  job.Prepares request ∨ job.Replaces settings request

/-- A job has its scratch cell on a sheet of its own, and no sheet serves two ends. -/
structure Fits (settings : Settings) (job : Job) : Prop where
  scratch_eq : job.scratch = ⟨job.spreadsheet, settings.sandboxSheet, settings.sandboxCell⟩
  distinct : (settings.dataSheets ++ [settings.sandboxSheet]).Nodup

/-- The job that settings describe has separate sheets. -/
theorem fits_of_ofSettings {settings : Settings} {override : Option Text} {job : Job}
    (h : ofSettings settings override = .ok job) : job.Fits settings := by
  obtain ⟨spreadsheet, hspreadsheet, h⟩ := bind_eq_ok_iff.mp h
  obtain ⟨scratch, hscratch, h⟩ := bind_eq_ok_iff.mp h
  obtain rfl := Except.ok.inj h
  obtain ⟨id, -, hchecks⟩ := bind_eq_ok_iff.mp (mapError_eq_ok_iff.mp hspreadsheet)
  obtain ⟨_, -, hchecks⟩ := bind_eq_ok_iff.mp hchecks
  obtain ⟨_, hdistinct, -⟩ := bind_eq_ok_iff.mp hchecks
  obtain ⟨_, -, hat⟩ := bind_eq_ok_iff.mp (mapError_eq_ok_iff.mp hscratch)
  refine ⟨(Except.ok.inj hat).symm, ?_⟩
  simp only [Settings.checkDistinctSheets] at hdistinct
  split at hdistinct
  · assumption
  · simp at hdistinct

namespace Fits

variable {settings : Settings} {job : Job}

/-- The scratch cell is on the scratch sheet. -/
theorem range_eq (h : job.Fits settings) :
    job.scratch.range = sheetRange settings.sandboxSheet settings.sandboxCell := by
  rw [h.scratch_eq]
  rfl

/-- The scratch sheet is none of the others. -/
theorem sandboxSheet_not_mem (h : job.Fits settings) :
    settings.sandboxSheet ∉ settings.dataSheets := by
  have hdistinct := h.distinct
  rw [List.nodup_append] at hdistinct
  exact fun hmem => hdistinct.2.2 _ hmem _ (by simp) rfl

/-- The ranges of a sheet other than the scratch sheet are not the scratch cell. -/
theorem range_ne_scratch (h : job.Fits settings) {sheet : Text}
    (hsheet : sheet ∈ settings.dataSheets) (cells : Text) :
    sheetRange sheet cells ≠ job.scratch.range := by
  rw [h.range_eq]
  intro heq
  obtain ⟨rfl, -⟩ := sheetRange_inj.mp heq
  exact h.sandboxSheet_not_mem hsheet

/-- The source sheet and the mapping sheet are not the output sheet. -/
theorem ne_output (h : job.Fits settings) :
    settings.sourceSheet ≠ settings.outputSheet ∧ settings.mappingSheet ≠ settings.outputSheet := by
  have hdistinct := h.distinct
  simp only [Settings.dataSheets, List.cons_append, List.nil_append, List.nodup_cons,
    List.mem_cons, not_or] at hdistinct
  exact ⟨hdistinct.1.2.1, hdistinct.2.1.1⟩

end Fits

/-- An error of writing the output. -/
def WriteError (e : JobError) : Prop := ∃ refusal, e = .client (.refused .writeOutput refusal)

section Stages

variable {access : Access} {settings : Settings} {job : Job} {allowed : Request → Prop}
  {before : Book}

/-- A request that a job sends for another end than its output. -/
theorem satisfies_viaClient {α : Type} {x : Client α} {action : Action} {request : Request}
    {value : Connection → α}
    (hx : ∀ s, outcome x s = (s.answer access action (value s), s.serve access request))
    (hallowed : allowed request) (haction : action ≠ .writeOutput) :
    Satisfies (fun s => before.Served allowed s.book) (fun _ => True) (fun e _ => ¬ WriteError e)
      (viaClient x) := by
  have hrequest : Satisfies (fun s => before.Served allowed s.book) (fun _ => True)
      (fun e _ => ∀ refusal, e ≠ .refused .writeOutput refusal) x := by
    refine .of_request hx hallowed ?_
    rintro _ - hother refusal rfl
    exact haction (hother _ _ rfl).symm
  refine hrequest.adapt ?_
  rintro e - hne ⟨refusal, he⟩
  exact hne refusal (JobError.client.inj he)

/-- Checking the sheets of a job only looks at the book. -/
theorem satisfies_checkSheets (hlooks : ∀ request, job.Looks request → allowed request) :
    Satisfies (fun s => before.Served allowed s.book) (fun _ => True) (fun e _ => ¬ WriteError e)
      (job.checkSheets access settings) := by
  refine .of_get_bind fun s => ?_
  split
  · exact .pure trivial
  · refine (satisfies_viaClient Client.outcome_sheetTitles (hlooks _ .listing) nofun).bind
      fun titles _ => ?_
    split
    · exact .of_throw fun _ => nofun
    · exact .of_modify (fun _ hs => hs) trivial

/-- Reading a sheet only looks at the book. -/
theorem satisfies_readSheet (hlooks : ∀ request, job.Looks request → allowed request)
    (sheet : Text) :
    Satisfies (fun s => before.Served allowed s.book) (fun _ => True) (fun e _ => ¬ WriteError e)
      (viaClient (Client.readSheet access job.spreadsheet sheet)) :=
  satisfies_viaClient (Client.outcome_read (sheetRange sheet []) formattedRendering)
    (hlooks _ (.reading _ _)) nofun

/-- Loading a job only looks at the book. -/
theorem satisfies_load (hlooks : ∀ request, job.Looks request → allowed request) :
    Satisfies (fun s => before.Served allowed s.book)
      (fun loaded : Source × RuleSet => ∃ mapping, RuleSet.load loaded.1.headers mapping =
        .ok loaded.2)
      (fun e _ => ¬ WriteError e) (job.load access settings) := by
  have hsource : Satisfies (fun s => before.Served allowed s.book) (fun _ => True)
      (fun e _ => ¬ WriteError e) (job.readSource access settings) :=
    (satisfies_checkSheets hlooks).bind fun _ _ => (satisfies_readSheet hlooks _).bind
      fun _ _ => .pure trivial
  have hmapping : Satisfies (fun s => before.Served allowed s.book) (fun _ => True)
      (fun e _ => ¬ WriteError e) (job.readMapping access settings) :=
    (satisfies_checkSheets hlooks).bind fun _ _ => (satisfies_readSheet hlooks _).bind
      fun _ _ => .pure trivial
  refine hsource.bind fun source _ => hmapping.bind fun mapping _ => ?_
  split
  · next rules hload => exact .pure ⟨mapping, hload⟩
  · exact .of_throw fun _ => nofun

/-- What a call of the scratch cell sends prepares the output. -/
theorem Fits.prepares_of_sends (h : job.Fits settings) {formula : Text} {request : Request}
    (hsends : job.scratch.Sends formula request) : job.Prepares request := by
  have hspreadsheet : job.scratch.spreadsheet = job.spreadsheet := by rw [h.scratch_eq]
  cases hsends with
  | listing =>
    rw [ScratchCell.listing, hspreadsheet]
    exact .inl .listing
  | reading =>
    rw [ScratchCell.reading, hspreadsheet]
    exact .inl (.reading _ _)
  | adding =>
    rw [ScratchCell.adding, hspreadsheet]
    exact .inr .adding
  | writing =>
    rw [ScratchCell.writing, hspreadsheet]
    exact .inr (.writing _)
  | clearing =>
    rw [ScratchCell.clearing, hspreadsheet]
    exact .inr .clearing

/-- Computing a formula in the scratch cell of a job prepares its output. -/
theorem Fits.satisfies_evaluate (h : job.Fits settings)
    (hprepares : ∀ request, job.Prepares request → allowed request) (formula : Text) :
    Satisfies (fun s => before.Served allowed s.book) (fun _ => True) (fun _ _ => True)
      (job.scratch.evaluate access formula) :=
  ScratchCell.satisfies_evaluate fun request hsends =>
    hprepares request (h.prepares_of_sends hsends)

/-- A dry run sends the requests that prepare the output, and does not fail to write it. -/
theorem Fits.satisfies_dryRun (h : job.Fits settings)
    (hprepares : ∀ request, job.Prepares request → allowed request) :
    Satisfies (fun s => before.Served allowed s.book) (fun _ => True) (fun e _ => ¬ WriteError e)
      (job.run access settings true) := by
  refine (satisfies_load fun request hlooks => hprepares request (.inl hlooks)).bind
    fun loaded hloaded => ?_
  obtain ⟨source, rules⟩ := loaded
  obtain ⟨mapping, hload⟩ := hloaded
  have hrun : Satisfies (fun s => before.Served allowed s.book) (fun _ => True) (fun _ _ => True)
      (rules.run (job.scratch.evaluate access) source) :=
    RuleSet.satisfies_run (RuleSet.hasOperators_of_load hload) (fun submission _ ctx =>
      (h.satisfies_evaluate hprepares _).adapt fun _ _ _ => trivial) source
  have hresult : Satisfies (fun s => before.Served allowed s.book) (fun _ => True)
      (fun e _ => ¬ WriteError e)
      (ExceptT.adapt JobError.evaluation (rules.run (job.scratch.evaluate access) source)) :=
    hrun.adapt fun _ _ _ => by simp [WriteError]
  exact hresult.bind fun _ _ => .pure trivial

end Stages

section Output

variable {access : Access} {settings : Settings} {job : Job} {s s' : Connection}

/-- Without credentials nothing is loaded. -/
theorem outcome_load_noCredentials (path : Text) (settings : Settings) (job : Job)
    (s : Connection) :
    outcome (job.load (.noCredentials path) settings) s =
      (.error (.client (.noCredentials path)), s) := by
  rw [load, readSource, bind_assoc, outcome_bind, checkSheets, outcome_get_bind]
  cases hfound : s.sheetsFound <;> rfl

/-- Without credentials a run fails and sends nothing. -/
theorem outcome_run_noCredentials (path : Text) (settings : Settings) (job : Job) (dryRun : Bool)
    (s : Connection) :
    outcome (job.run (.noCredentials path) settings dryRun) s =
      (.error (.client (.noCredentials path)), s) := by
  rw [run, outcome_bind, outcome_load_noCredentials]

/-- A run is a dry run, and then the output is written. -/
theorem run_eq (access : Access) (settings : Settings) (job : Job) :
    job.run access settings false = (do
      let t ← job.run access settings true
      viaClient (job.writeOutput access settings t.values)
      return t) := by
  simp [run, bind_assoc]

/-- A run whose dry run fails ends where that does. -/
theorem outcome_run_of_error {e : JobError}
    (h : outcome (job.run access settings true) s = (.error e, s')) :
    outcome (job.run access settings false) s = (.error e, s') := by
  rw [run_eq, outcome_bind, h]

/-- The transcripts of writing the output, with the results of the run: the output sheet is
cleared, and if that succeeds the output is written. -/
inductive Ending (settings : Settings) (job : Job) (t : Transformed) :
    List Exchange → Except JobError Transformed → Prop where
  | notCleared (refusal : Refusal) :
      Ending settings job t [(job.clearing settings, some refusal)]
        (.error (.client (.refused .clear refusal)))
  | notWritten (refusal : Refusal) :
      Ending settings job t
        [(job.clearing settings, none), (job.writing settings t.values, some refusal)]
        (.error (.client (.refused .writeOutput refusal)))
  | written :
      Ending settings job t
        [(job.clearing settings, none), (job.writing settings t.values, none)] (.ok t)

/-- A run whose dry run gives a result ends with one of the transcripts. -/
theorem ending_run {t : Transformed}
    (h : outcome (job.run access settings true) s = (.ok t, s')) :
    ∃ transcript result s'', outcome (job.run access settings false) s = (result, s'') ∧
      Ending settings job t transcript result ∧ s'.Exchanged transcript s'' := by
  cases access with
  | noCredentials path => simp [outcome_run_noCredentials] at h
  | granted =>
    have hclear : outcome (Client.clear .granted job.spreadsheet settings.outputRange) s' =
        (s'.answer .granted .clear (), s'.serve .granted (job.clearing settings)) :=
      Client.outcome_clear settings.outputRange s'
    have hwrite : ∀ s, outcome (Client.writeOrFail .granted .writeOutput job.spreadsheet
        settings.outputStart (t.values.map (List.map Cell.text))) s =
          (s.answer .granted .writeOutput (), s.serve .granted (job.writing settings t.values)) :=
      Client.outcome_writeOrFail .writeOutput settings.outputStart (by simp [Transformed.values])
    have houtput : job.writeOutput .granted settings t.values =
        Client.clear .granted job.spreadsheet settings.outputRange >>= fun _ =>
          Client.writeOrFail .granted .writeOutput job.spreadsheet settings.outputStart
            (t.values.map (List.map Cell.text)) := rfl
    rw [run_eq, outcome_bind, h]
    simp only [outcome_bind, viaClient, outcome_adapt, houtput, hclear]
    cases hcleared : s'.book.refusal? with
    | some refusal =>
      rw [Connection.answer_of_refused hcleared]
      exact ⟨_, _, _, rfl, .notCleared refusal, .cons hcleared (.refl rfl)⟩
    | none =>
      simp only [Connection.answer_of_granted hcleared, hwrite]
      cases hwritten : (s'.serve .granted (job.clearing settings)).book.refusal? with
      | some refusal =>
        rw [Connection.answer_of_refused hwritten]
        exact ⟨_, _, _, rfl, .notWritten refusal, .cons hcleared (.cons hwritten (.refl rfl))⟩
      | none =>
        rw [Connection.answer_of_granted hwritten]
        exact ⟨_, _, _, rfl, .written, .cons hcleared (.cons hwritten (.refl rfl))⟩

end Output

section Failure

variable {access : Access} {settings : Settings} {job : Job} {s s' : Connection}

/-- What prepares the output replaces nothing but the scratch cell. -/
theorem Prepares.eq_of_replaced? {request : Request} {range : Text} (h : job.Prepares request)
    (hrange : request.replaced? = some range) : range = job.scratch.range := by
  rcases h with hlooks | hscratches
  · cases hlooks <;> simp [Request.replaced?] at hrange
  · cases hscratches with
    | adding => simp [Request.replaced?] at hrange
    | writing _ => exact (Option.some.inj hrange).symm
    | clearing => exact (Option.some.inj hrange).symm

/-- The output sheet keeps its content as long as the output is prepared. -/
theorem Fits.lookup_output_of_served (h : job.Fits settings) {before after : Book}
    (hserved : before.Served job.Prepares after) (cells : Text) :
    after.store.lookup (sheetRange settings.outputSheet cells) =
      before.store.lookup (sheetRange settings.outputSheet cells) :=
  hserved.lookup_eq fun _ hprepares hreplaced =>
    h.range_ne_scratch (by simp [Settings.dataSheets]) cells (hprepares.eq_of_replaced? hreplaced)

/-- A dry run sends requests that prepare the output. -/
theorem Fits.served_dryRun (h : job.Fits settings) (access : Access) (s : Connection) :
    s.book.Served job.Prepares (outcome (job.run access settings true) s).2.book ∧
      ∀ e, (outcome (job.run access settings true) s).1 = .error e → ¬ WriteError e := by
  have hdry : Satisfies (fun t => s.book.Served job.Prepares t.book) (fun _ => True)
      (fun e _ => ¬ WriteError e) (job.run access settings true) :=
    h.satisfies_dryRun fun _ hrequest => hrequest
  have hbefore : s.book.Served job.Prepares s.book := .refl s.book
  exact ⟨hdry.keeps hbefore, fun _ he => hdry.failure_of_error hbefore (Prod.ext he rfl)⟩

/-- A run sends requests of its job only. -/
theorem Fits.served_run (h : job.Fits settings) (access : Access) (dryRun : Bool)
    (s : Connection) :
    s.book.Served (job.Sends settings) (outcome (job.run access settings dryRun) s).2.book := by
  have hserved : s.book.Served (job.Sends settings)
      (outcome (job.run access settings true) s).2.book :=
    (h.served_dryRun access s).1.mono fun _ hprepares => .inl hprepares
  cases dryRun with
  | true => exact hserved
  | false =>
    rcases hdry : outcome (job.run access settings true) s with ⟨e | t, mid⟩
    · rw [hdry] at hserved
      rw [outcome_run_of_error hdry]
      exact hserved
    · rw [hdry] at hserved
      obtain ⟨transcript, result, s', hfull, hending, hsent⟩ := ending_run hdry
      have hreplaces : ∀ e ∈ transcript, job.Replaces settings e.1 := by
        intro e he
        cases hending with
        | notCleared _ =>
          obtain rfl := List.mem_singleton.mp he
          exact .clearing
        | notWritten _ | written =>
          rcases List.mem_cons.mp he with rfl | he
          · exact .clearing
          · obtain rfl := List.mem_singleton.mp he
            exact .writing _
      rw [hfull]
      exact hserved.trans (hsent.served fun e he => .inr (hreplaces e he))

/-- The ranges that a job replaces are the scratch cell and those of its output. -/
theorem Sends.mem_of_replaced? {request : Request} {range : Text}
    (h : job.Sends settings request) (hrange : request.replaced? = some range) :
    range ∈ [job.scratch.range, settings.outputRange, settings.outputStart] := by
  rcases h with hprepares | hreplaces
  · exact hprepares.eq_of_replaced? hrange ▸ List.mem_cons_self
  · cases hreplaces with
    | clearing => simp [← Option.some.inj hrange]
    | writing _ => simp [← Option.some.inj hrange]

/-- The ranges of the source sheet and the mapping sheet are none of those that a job replaces. -/
theorem Fits.sheetRange_not_mem (hfits : job.Fits settings) (cells : Text) {sheet : Text}
    (hsheet : sheet ∈ [settings.sourceSheet, settings.mappingSheet]) :
    sheetRange sheet cells ∉
      [job.scratch.range, settings.outputRange, settings.outputStart] := by
  have hdata : sheet ∈ settings.dataSheets ∧ sheet ≠ settings.outputSheet := by
    rcases List.mem_cons.mp hsheet with rfl | hsheet
    · exact ⟨by simp [Settings.dataSheets], hfits.ne_output.1⟩
    · obtain rfl := List.mem_singleton.mp hsheet
      exact ⟨by simp [Settings.dataSheets], hfits.ne_output.2⟩
  simp only [List.mem_cons, List.not_mem_nil, or_false, not_or]
  exact ⟨hfits.range_ne_scratch hdata.1 cells, fun heq => hdata.2 (sheetRange_inj.mp heq).1,
    fun heq => hdata.2 (sheetRange_inj.mp heq).1⟩

/-- A job adds none of its other sheets. -/
theorem Fits.not_sends_addSheet (hfits : job.Fits settings) {sheet : Text}
    (hsheet : sheet ∈ settings.dataSheets) (spreadsheet : Text) :
    ¬ job.Sends settings (.addSheet spreadsheet sheet) := by
  rintro ((hlooks | hscratches) | hreplaces)
  · cases hlooks
  · generalize hrequest : Request.addSheet spreadsheet sheet = request at hscratches
    cases hscratches with
    | adding =>
      obtain ⟨-, rfl⟩ := Request.addSheet.inj hrequest
      rw [hfits.scratch_eq] at hsheet
      exact hfits.sandboxSheet_not_mem hsheet
    | _ => simp at hrequest
  · generalize hrequest : Request.addSheet spreadsheet sheet = request at hreplaces
    cases hreplaces <;> simp [clearing, writing] at hrequest

/-- Of a run that fails, the output sheet keeps what it holds, unless the output is refused. Then
the result had been computed, the output sheet had been cleared as the last request before, and
its range is empty. -/
theorem output_of_failed {override : Option Text} {e : JobError}
    (hjob : ofSettings settings override = .ok job)
    (hrun : outcome (job.run access settings false) s = (.error e, s')) :
    (¬ WriteError e → ∀ cells, s'.book.store.lookup (sheetRange settings.outputSheet cells) =
      s.book.store.lookup (sheetRange settings.outputSheet cells)) ∧
    (WriteError e →
      (∃ t mid refusal, outcome (job.run access settings true) s = (.ok t, mid) ∧
        mid.Exchanged
          [(job.clearing settings, none), (job.writing settings t.values, some refusal)] s') ∧
      s'.book.store.lookup settings.outputRange = none) := by
  have hfits := fits_of_ofSettings hjob
  obtain ⟨hserved, hfailure⟩ := hfits.served_dryRun access s
  rcases hdry : outcome (job.run access settings true) s with ⟨other | t, mid⟩
  · rw [hdry] at hserved hfailure
    rw [outcome_run_of_error hdry] at hrun
    obtain ⟨herror, rfl⟩ := Prod.mk.inj hrun
    obtain rfl := Except.error.inj herror
    exact ⟨fun _ => hfits.lookup_output_of_served hserved,
      fun hwrite => absurd hwrite (hfailure _ rfl)⟩
  · rw [hdry] at hserved
    obtain ⟨transcript, result, s'', hfull, hending, hsent⟩ := ending_run hdry
    rw [hrun] at hfull
    obtain ⟨rfl, rfl⟩ := Prod.mk.inj hfull
    cases hending with
    | notCleared refusal =>
      refine ⟨fun _ cells => ?_, fun ⟨_, hwrite⟩ => by simp at hwrite⟩
      exact (hsent.lookup_eq (by simp)).trans (hfits.lookup_output_of_served hserved cells)
    | notWritten refusal =>
      refine ⟨fun hwrite => absurd ⟨refusal, rfl⟩ hwrite, fun _ => ?_⟩
      exact ⟨⟨t, mid, refusal, rfl, hsent⟩,
        Connection.Exchanged.lookup_eq_none [] hsent (by simp)⟩

/-- A book for the default settings, with a row of the source, a rule with a formula and an old
output. -/
def bookWithOutput (refusals : List (Nat × Refusal)) : Book where
  titles := some ["Source".toList, "Mapping".toList, "Output".toList]
  store := [("'Source'".toList, [[.text "Name".toList], [.text "Ann".toList]]),
    ("'Mapping'".toList, [[.text "Column".toList, .text "Rule".toList],
      [.text "Loud".toList, .text "formula:=UPPER(src[Name])".toList]]),
    ("'Output'".toList, [[.text "old".toList]])]
  formulas := [("=UPPER(\"Ann\")".toList, .text "ANN".toList)]
  refusals := refusals
  log := []

/-- A run whose last request is refused loses the old output. -/
theorem run_loses_output :
    ∃ job e s', ofSettings .defaults (some "book".toList) = .ok job ∧
      outcome (job.run .granted .defaults false)
          (.fresh (bookWithOutput [(11, ⟨503, "busy".toList⟩)])) = (.error e, s') ∧
      (bookWithOutput [(11, ⟨503, "busy".toList⟩)]).store.lookup Settings.defaults.outputRange =
        some [[.text "old".toList]] ∧
      s'.book.store.lookup Settings.defaults.outputRange = none := by
  let s : Connection := .fresh (bookWithOutput [(11, ⟨503, "busy".toList⟩)])
  let job : Job := ⟨"book".toList, ⟨"book".toList, "_sandbox".toList, "A1".toList⟩⟩
  have herror : (outcome (job.run .granted .defaults false) s).1 =
      .error (.client (.refused .writeOutput ⟨503, "busy".toList⟩)) := by
    decide +kernel
  exact ⟨job, _, (outcome (job.run .granted .defaults false) s).2, by decide +kernel,
    by rw [← herror], by decide +kernel, by decide +kernel⟩

/-- With the request before the last refused the old output is kept, and with the last request
refused it is lost. -/
theorem output_of_refused_ending :
    ∃ job kept lost, ofSettings .defaults (some "book".toList) = .ok job ∧
      outcome (job.run .granted .defaults false)
          (.fresh (bookWithOutput [(10, ⟨503, "busy".toList⟩)])) =
        (.error (.client (.refused .clear ⟨503, "busy".toList⟩)), kept) ∧
      kept.book.store.lookup Settings.defaults.outputRange = some [[.text "old".toList]] ∧
      outcome (job.run .granted .defaults false)
          (.fresh (bookWithOutput [(11, ⟨503, "busy".toList⟩)])) =
        (.error (.client (.refused .writeOutput ⟨503, "busy".toList⟩)), lost) ∧
      lost.book.store.lookup Settings.defaults.outputRange = none := by
  let job : Job := ⟨"book".toList, ⟨"book".toList, "_sandbox".toList, "A1".toList⟩⟩
  have hjob : ofSettings .defaults (some "book".toList) = .ok job := by decide +kernel
  let early : Connection := .fresh (bookWithOutput [(10, ⟨503, "busy".toList⟩)])
  have hcleared : (outcome (job.run .granted .defaults false) early).1 =
      .error (.client (.refused .clear ⟨503, "busy".toList⟩)) := by
    decide +kernel
  let late : Connection := .fresh (bookWithOutput [(11, ⟨503, "busy".toList⟩)])
  have hwritten : (outcome (job.run .granted .defaults false) late).1 =
      .error (.client (.refused .writeOutput ⟨503, "busy".toList⟩)) := by
    decide +kernel
  have hkept := (output_of_failed hjob (s := early) (Prod.ext hcleared rfl)).1
    (by simp [WriteError]) []
  have hlost := (output_of_failed hjob (s := late) (Prod.ext hwritten rfl)).2 ⟨_, rfl⟩
  exact ⟨job, _, _, hjob, Prod.ext hcleared rfl, hkept.trans (by decide +kernel),
    Prod.ext hwritten rfl, hlost.2⟩

end Failure

end Job

end Rowscript
