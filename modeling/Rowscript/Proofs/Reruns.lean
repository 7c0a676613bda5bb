import Rowscript.Proofs.JobRequests

/-!
# Where a job writes, and running it again

A job changes its scratch sheet and its output only. A book that refuses nothing answers it from
a few other parts: the sheets that it has, the source and mapping sheets and the values of
formulas. The job therefore has the same result when it runs again, and what it stores it stores
again under the same ranges.
-/

namespace Rowscript

/-- What computations give ranges in the place of their content. -/
abbrev Overwrite := Text → Option (Option Grid)

/-- What a granted request gives ranges: a range that is cleared has no content. -/
def Request.overwrite : Request → Overwrite
  | .write _ range values => fun other => if other = range then some (some values) else none
  | .clear _ range => fun other => if other = range then some none else none
  | _ => fun _ => none

/-- A granted request gives the ranges their new content, and leaves that of the others. -/
theorem Book.lookup_serve_of_granted {book : Book} (h : book.refusal? = none) (request : Request)
    (range : Text) :
    (book.serve request).store.lookup range =
      (request.overwrite range).getD (book.store.lookup range) := by
  rw [serve_of_granted h]
  cases request with
  | write _ other values =>
    by_cases hrange : range = other
    · simp only [Request.overwrite, if_pos hrange, Option.getD_some]
      exact hrange ▸ (book.noted _).lookup_put_self range values
    · simp only [Request.overwrite, if_neg hrange, Option.getD_none]
      exact (book.noted _).lookup_put values hrange
  | clear _ other =>
    by_cases hrange : range = other
    · simp only [Request.overwrite, if_pos hrange, Option.getD_some]
      exact hrange ▸ (book.noted _).lookup_erase_self range
    · simp only [Request.overwrite, if_neg hrange, Option.getD_none]
      exact (book.noted _).lookup_erase hrange
  | _ => rfl

variable {ε ε' α β : Type}

/-- From every connection with the invariant, a computation has the given result, keeps the
invariant, and gives ranges the given content. -/
def Replays (invariant : Connection → Prop) (x : ExceptT ε (StateM Connection) α)
    (result : Except ε α) (overwrite : Overwrite) : Prop :=
  ∀ s, invariant s → (outcome x s).1 = result ∧ invariant (outcome x s).2 ∧
    ∀ range, (outcome x s).2.book.store.lookup range =
      (overwrite range).getD (s.book.store.lookup range)

/-- A computation does the same from every connection with the invariant, and a value that it
gives is of the given kind. -/
def Repeatable (invariant : Connection → Prop) (post : α → Prop)
    (x : ExceptT ε (StateM Connection) α) : Prop :=
  ∃ result overwrite, (∀ a, result = .ok a → post a) ∧ Replays invariant x result overwrite

namespace Repeatable

variable {invariant : Connection → Prop} {post : α → Prop} {next : β → Prop}

/-- A value by itself stores nothing. -/
theorem pure {a : α} (h : post a) :
    Repeatable invariant post (pure a : ExceptT ε (StateM Connection) α) :=
  ⟨.ok a, fun _ => none, fun _ hb => Except.ok.inj hb ▸ h, fun _ hs => ⟨rfl, hs, fun _ => rfl⟩⟩

/-- An error by itself stores nothing. -/
theorem of_throw (e : ε) :
    Repeatable invariant post (throw e : ExceptT ε (StateM Connection) α) :=
  ⟨.error e, fun _ => none, nofun, fun _ hs => ⟨rfl, hs, fun _ => rfl⟩⟩

/-- Of steps one after the other, the last one that gives a range new content counts. -/
theorem bind {x : ExceptT ε (StateM Connection) α} {f : α → ExceptT ε (StateM Connection) β}
    (hx : Repeatable invariant post x) (hf : ∀ a, post a → Repeatable invariant next (f a)) :
    Repeatable invariant next (x >>= f) := by
  obtain ⟨result, overwrite, hpost, hreplays⟩ := hx
  cases result with
  | error e =>
    refine ⟨.error e, overwrite, nofun, fun s hs => ?_⟩
    obtain ⟨hresult, hkept, hstore⟩ := hreplays s hs
    rw [outcome_bind]
    rcases hout : outcome x s with ⟨r, t⟩
    rw [hout] at hresult hkept hstore
    obtain rfl : r = .error e := hresult
    exact ⟨rfl, hkept, hstore⟩
  | ok a =>
    obtain ⟨result, later, hnext, hlater⟩ := hf a (hpost a rfl)
    refine ⟨result, fun range => (later range).or (overwrite range), hnext, fun s hs => ?_⟩
    obtain ⟨hresult, hkept, hstore⟩ := hreplays s hs
    rw [outcome_bind]
    rcases hout : outcome x s with ⟨r, t⟩
    rw [hout] at hresult hkept hstore
    obtain rfl : r = .ok a := hresult
    obtain ⟨hresult', hkept', hstore'⟩ := hlater t hkept
    refine ⟨hresult', hkept', fun range => ?_⟩
    rw [hstore', hstore]
    dsimp only
    cases later range <;> rfl

/-- Renaming errors changes nothing else. -/
theorem adapt {x : ExceptT ε (StateM Connection) α} (f : ε → ε')
    (hx : Repeatable invariant post x) : Repeatable invariant post (ExceptT.adapt f x) := by
  obtain ⟨result, overwrite, hpost, hreplays⟩ := hx
  refine ⟨result.mapError f, overwrite, fun a ha => hpost a (mapError_eq_ok_iff.mp ha),
    fun s hs => ?_⟩
  obtain ⟨hresult, hkept, hstore⟩ := hreplays s hs
  exact ⟨congrArg (Except.mapError f) hresult, hkept, hstore⟩

/-- Doing it again, from a connection that stores the same, has the same result and stores the
same. -/
theorem again {x : ExceptT ε (StateM Connection) α} {s t : Connection}
    (hx : Repeatable invariant post x) (hs : invariant s) (ht : invariant t)
    (hstore : ∀ range, t.book.store.lookup range =
      (outcome x s).2.book.store.lookup range) :
    (outcome x t).1 = (outcome x s).1 ∧ ∀ range, (outcome x t).2.book.store.lookup range =
      (outcome x s).2.book.store.lookup range := by
  obtain ⟨result, overwrite, -, hreplays⟩ := hx
  obtain ⟨hresult, -, hfirst⟩ := hreplays s hs
  obtain ⟨hresult', -, hsecond⟩ := hreplays t ht
  refine ⟨hresult'.trans hresult.symm, fun range => ?_⟩
  rw [hsecond, hstore, hfirst]
  cases overwrite range <;> rfl

/-- A computation keeps the invariant. -/
theorem keeps {x : ExceptT ε (StateM Connection) α} {s : Connection}
    (hx : Repeatable invariant post x) (hs : invariant s) : invariant (outcome x s).2 := by
  obtain ⟨result, overwrite, -, hreplays⟩ := hx
  exact (hreplays s hs).2.1

end Repeatable

/-- Doing the same from every connection with an invariant. -/
def EvaluationLogic.repeating (invariant : Connection → Prop) : EvaluationLogic Connection ε where
  Holds post x := Repeatable invariant post x
  pure h := .pure h
  bind hx hf := hx.bind hf

namespace Job

/-- The first sheet of a job that is not known to exist and has no title. -/
def missing? (settings : Settings) (s : Connection) : Option Text :=
  if s.sheetsFound then none
  else settings.dataSheets.find? fun sheet => !s.book.sheetTitles.contains sheet

/-- Two connections are alike for a job: the book of the second one refuses nothing, and it has
the same sheets, source, mapping and values of formulas. -/
structure Alike (settings : Settings) (before s : Connection) : Prop where
  refusals_eq : s.book.refusals = []
  formulas_eq : s.book.formulas = before.book.formulas
  missing_eq : missing? settings s = missing? settings before
  source_eq : s.book.store.lookup (sheetRange settings.sourceSheet []) =
    before.book.store.lookup (sheetRange settings.sourceSheet [])
  mapping_eq : s.book.store.lookup (sheetRange settings.mappingSheet []) =
    before.book.store.lookup (sheetRange settings.mappingSheet [])

section Alike

variable {settings : Settings} {job : Job} {before s s' : Connection}

/-- The next request is not refused. -/
theorem Alike.refusal?_eq (h : Alike settings before s) : s.book.refusal? = none := by
  rw [Book.refusal?, h.refusals_eq]
  rfl

/-- The same titles of data sheets leave the same sheet missing. -/
theorem missing?_congr (hfound : s'.sheetsFound = s.sheetsFound)
    (htitles : ∀ sheet ∈ settings.dataSheets,
      sheet ∈ s'.book.sheetTitles ↔ sheet ∈ s.book.sheetTitles) :
    missing? settings s' = missing? settings s := by
  have hfind : settings.dataSheets.find? (fun sheet => !s'.book.sheetTitles.contains sheet) =
      settings.dataSheets.find? fun sheet => !s.book.sheetTitles.contains sheet := by
    rw [← List.head?_filter, ← List.head?_filter]
    refine congrArg List.head? (List.filter_congr fun sheet hsheet => ?_)
    simp only [List.contains_eq_mem, htitles sheet hsheet]
  rw [missing?, missing?, hfound, hfind]

/-- Requests of a job keep connections alike. -/
theorem Alike.of_served (h : Alike settings before s) (hfits : job.Fits settings)
    (hserved : s.book.Served (job.Sends settings) s'.book)
    (hfound : s'.sheetsFound = s.sheetsFound) : Alike settings before s' := by
  have hlookup : ∀ sheet ∈ [settings.sourceSheet, settings.mappingSheet],
      s'.book.store.lookup (sheetRange sheet []) = s.book.store.lookup (sheetRange sheet []) :=
    fun sheet hsheet => hserved.lookup_eq fun _ hsends hrange =>
      hfits.sheetRange_not_mem [] hsheet (hsends.mem_of_replaced? hrange)
  have htitles : ∀ sheet ∈ settings.dataSheets,
      sheet ∈ s'.book.sheetTitles ↔ sheet ∈ s.book.sheetTitles :=
    fun sheet hsheet => hserved.mem_sheetTitles_iff (hfits.not_sends_addSheet hsheet)
  exact ⟨hserved.refusals_eq.trans h.refusals_eq, hserved.formulas_eq.trans h.formulas_eq,
    (missing?_congr hfound htitles).trans h.missing_eq,
    (hlookup _ (by simp)).trans h.source_eq, (hlookup _ (by simp)).trans h.mapping_eq⟩

/-- A request that is sent and always granted is repeatable, if its value depends on nothing but
what connections are alike in. -/
theorem repeatable_of_request {x : Client α} {action : Action} {request : Request}
    {value : Connection → α} {a : α} (hfits : job.Fits settings)
    (hx : ∀ s, outcome x s = (s.answer .granted action (value s), s.serve .granted request))
    (hsends : job.Sends settings request)
    (hvalue : ∀ s, Alike settings before s → value s = a) :
    Repeatable (Alike settings before) (fun _ => True) x := by
  refine ⟨.ok a, request.overwrite, fun _ _ => trivial, fun s hs => ?_⟩
  rw [hx, Connection.answer_of_granted hs.refusal?_eq, hvalue s hs]
  have hserved : s.book.Served (job.Sends settings) (s.serve .granted request).book :=
    .serve (.refl s.book) hsends
  exact ⟨rfl, hs.of_served hfits hserved rfl,
    fun range => Book.lookup_serve_of_granted hs.refusal?_eq request range⟩

/-- A book that refuses nothing computes every formula in the scratch cell, and the cell is left
empty. -/
theorem repeatable_evaluate (hfits : job.Fits settings) (formula : Text) :
    Repeatable (Alike settings before) (fun _ => True)
      (job.scratch.evaluate .granted formula) := by
  refine ⟨.ok (before.book.cellValue (.text formula)),
    fun range => if range = job.scratch.range then some none else none, fun _ _ => trivial,
    fun s hs => ?_⟩
  obtain ⟨transcript, result, s', hout, hcall, hsent, -, hfound⟩ :=
    job.scratch.call_evaluate .granted formula s
  have hgranted : ∀ e ∈ transcript, e.2 = none := hsent.granted hs.refusals_eq
  have hcontained := hcall.contained hsent hs.formulas_eq
  have hserved : s.book.Served (job.Sends settings) s'.book :=
    hsent.served fun e he => .inl (hfits.prepares_of_sends (hcall.sends e he))
  have hvalue : s.book.cellValue (.text formula) = before.book.cellValue (.text formula) := by
    simp only [Book.cellValue, hs.formulas_eq]
  obtain ⟨hresult, hused⟩ := hcall.of_granted hgranted
  rw [hout]
  refine ⟨hvalue ▸ hresult, hs.of_served hfits hserved hfound, fun range => ?_⟩
  by_cases hrange : range = job.scratch.range
  · simp only [if_pos hrange, Option.getD_some]
    rw [hrange]
    exact hcontained.emptied hused fun refusal hmem => by simpa using hgranted _ hmem
  · simp only [if_neg hrange, Option.getD_none]
    exact hcontained.elsewhere range hrange

/-- Checking the sheets of a job can be repeated: a sheet that is missing is missing again. -/
theorem repeatable_checkSheets (hfits : job.Fits settings) :
    Repeatable (Alike settings before) (fun _ => True) (job.checkSheets .granted settings) := by
  refine ⟨(missing? settings before).elim (.ok ()) fun sheet =>
      .error (.config (.sheetMissing sheet job.spreadsheet)),
    fun _ => none, fun _ _ => trivial, fun s hs => ?_⟩
  rw [checkSheets, outcome_get_bind, ← hs.missing_eq, missing?]
  cases hfound : s.sheetsFound with
  | true => exact ⟨rfl, hs, fun _ => rfl⟩
  | false =>
    have hlooks : job.Sends settings (.listTitles job.spreadsheet) := .inl (.inl .listing)
    have hlisted : Alike settings before (s.serve .granted (.listTitles job.spreadsheet)) :=
      hs.of_served hfits (.serve (.refl s.book) hlooks) rfl
    have hstore : ∀ range, (s.book.serve (.listTitles job.spreadsheet)).store.lookup range =
        s.book.store.lookup range :=
      fun range => s.book.lookup_serve (by simp [Request.replaced?])
    have hmissing := hs.missing_eq
    rw [missing?, hfound, if_neg (by simp)] at hmissing
    simp only [Bool.false_eq_true, if_false, outcome_bind, viaClient, outcome_adapt,
      Client.outcome_sheetTitles, Connection.answer_of_granted hs.refusal?_eq, Except.mapError]
    cases hfind : settings.dataSheets.find? fun sheet => !s.book.sheetTitles.contains sheet with
    | some sheet => exact ⟨rfl, hlisted, hstore⟩
    | none =>
      rw [hfind] at hmissing
      exact ⟨rfl, ⟨hlisted.refusals_eq, hlisted.formulas_eq, hmissing, hlisted.source_eq,
        hlisted.mapping_eq⟩, hstore⟩

/-- Reading a sheet that connections are alike in can be repeated. -/
theorem repeatable_readSheet (hfits : job.Fits settings) {sheet : Text}
    (hsheet : ∀ s, Alike settings before s → s.book.store.lookup (sheetRange sheet []) =
      before.book.store.lookup (sheetRange sheet [])) :
    Repeatable (Alike settings before) (fun _ => True)
      (viaClient (Client.readSheet .granted job.spreadsheet sheet)) := by
  have hgrid : ∀ s, Alike settings before s →
      s.book.rendered (sheetRange sheet []) formattedRendering =
        before.book.grid (sheetRange sheet []) := by
    intro s hs
    rw [Book.rendered, if_neg (by decide), Book.grid, hsheet s hs, Book.grid]
  have hread : Repeatable (Alike settings before) (fun _ => True)
      (Client.readSheet .granted job.spreadsheet sheet) :=
    repeatable_of_request hfits (Client.outcome_read _ _) (.inl (.inl (.reading _ _))) hgrid
  exact hread.adapt JobError.client

/-- Loading a job can be repeated. -/
theorem repeatable_load (hfits : job.Fits settings) :
    Repeatable (Alike settings before)
      (fun loaded : Source × RuleSet => ∃ mapping, RuleSet.load loaded.1.headers mapping =
        .ok loaded.2)
      (job.load .granted settings) := by
  have hsource : Repeatable (Alike settings before) (fun _ => True)
      (job.readSource .granted settings) :=
    (repeatable_checkSheets hfits).bind fun _ _ =>
      (repeatable_readSheet hfits fun _ hs => hs.source_eq).bind fun _ _ => .pure trivial
  have hmapping : Repeatable (Alike settings before) (fun _ => True)
      (job.readMapping .granted settings) :=
    (repeatable_checkSheets hfits).bind fun _ _ =>
      (repeatable_readSheet hfits fun _ hs => hs.mapping_eq).bind fun _ _ => .pure trivial
  refine hsource.bind fun source _ => hmapping.bind fun mapping _ => ?_
  split
  · next rules hload => exact .pure ⟨mapping, hload⟩
  · exact .of_throw _

/-- Writing the output can be repeated. -/
theorem repeatable_writeOutput (hfits : job.Fits settings) (t : Transformed) :
    Repeatable (Alike settings before) (fun _ => True)
      (viaClient (job.writeOutput .granted settings t.values)) := by
  have hclear : Repeatable (Alike settings before) (fun _ => True)
      (Client.clear .granted job.spreadsheet settings.outputRange) :=
    repeatable_of_request hfits (Client.outcome_clear _) (.inr .clearing) fun _ _ => rfl
  have hwrite : Repeatable (Alike settings before) (fun _ => True)
      (Client.writeOrFail .granted .writeOutput job.spreadsheet settings.outputStart
        (t.values.map (List.map Cell.text))) :=
    repeatable_of_request hfits
      (Client.outcome_writeOrFail _ _ (by simp [Transformed.values])) (.inr (.writing t.values))
      fun _ _ => rfl
  exact (hclear.bind fun _ _ => hwrite).adapt JobError.client

/-- A run can be repeated. -/
theorem repeatable_run (hfits : job.Fits settings) (dryRun : Bool) :
    Repeatable (Alike settings before) (fun _ => True) (job.run .granted settings dryRun) := by
  have hdry : Repeatable (Alike settings before) (fun _ => True)
      (job.run .granted settings true) := by
    refine (repeatable_load hfits).bind fun loaded hloaded => ?_
    obtain ⟨source, rules⟩ := loaded
    obtain ⟨mapping, hload⟩ := hloaded
    have hrun : Repeatable (Alike settings before) (fun _ => True)
        (rules.run (job.scratch.evaluate .granted) source) :=
      (EvaluationLogic.repeating _).run (RuleSet.hasOperators_of_load hload)
        (fun _ _ _ => (repeatable_evaluate hfits _).adapt EvaluationError.sandbox) source
    exact (hrun.adapt JobError.evaluation).bind fun _ _ => .pure trivial
  cases dryRun with
  | true => exact hdry
  | false =>
    rw [run_eq]
    exact hdry.bind fun t _ => (repeatable_writeOutput hfits t).bind fun _ _ => .pure trivial

end Alike

/-- What a job keeps to, from a connection to a book. -/
structure Confined (access : Access) (settings : Settings) (job : Job) (s : Connection) :
    Prop where
  /-- Validation changes nothing. -/
  validated : Book.Confined (fun _ => False) [] s.book
    (outcome (job.validate access settings) s).2.book
  /-- A dry run adds the scratch sheet and uses the scratch cell. -/
  dryRun : Book.Confined job.Scratches [job.scratch.range] s.book
    (outcome (job.run access settings true) s).2.book
  /-- A run whose dry run fails is the same. -/
  failed : ∀ e s', outcome (job.run access settings true) s = (.error e, s') →
    outcome (job.run access settings false) s = (.error e, s')
  /-- A run whose dry run has a result ends with requests for the output. -/
  finished : ∀ t s', outcome (job.run access settings true) s = (.ok t, s') →
    ∃ transcript result s'', outcome (job.run access settings false) s = (result, s'') ∧
      Ending settings job t transcript result ∧ s'.Exchanged transcript s''
  /-- A run changes no other range than a dry run but those of the output. -/
  run : Book.Confined (fun request => job.Scratches request ∨ job.Replaces settings request)
    [job.scratch.range, settings.outputRange, settings.outputStart] s.book
    (outcome (job.run access settings false) s).2.book
  /-- None of these ranges is one of the source sheet or the mapping sheet. -/
  inputs : ∀ cells, ∀ sheet ∈ [settings.sourceSheet, settings.mappingSheet],
    sheetRange sheet cells ∉ [job.scratch.range, settings.outputRange, settings.outputStart]
  /-- In a book that refuses nothing, running again has the same result and leaves the same
  store, over the same connection or over a new one after a new one. -/
  repeated : s.book.refusals = [] → ∀ dryRun next,
    (next = (outcome (job.run access settings dryRun) s).2 ∨ s = .fresh s.book ∧
      next = .fresh (outcome (job.run access settings dryRun) s).2.book) →
    (outcome (job.run access settings dryRun) next).1 =
        (outcome (job.run access settings dryRun) s).1 ∧
      ∀ range, (outcome (job.run access settings dryRun) next).2.book.store.lookup range =
        (outcome (job.run access settings dryRun) s).2.book.store.lookup range

section Confinement

variable {access : Access} {settings : Settings} {job : Job} {s : Connection}

/-- A request that looks at a book does not change it. -/
theorem Looks.not_mutates {request : Request} (h : job.Looks request) : ¬ request.Mutates := by
  cases h <;> exact id

/-- Validation sends requests that look at the book. -/
theorem served_validate (access : Access) (settings : Settings) (job : Job) (s : Connection) :
    s.book.Served job.Looks (outcome (job.validate access settings) s).2.book := by
  have hload : Satisfies (fun t => s.book.Served job.Looks t.book) _ (fun e _ => ¬ WriteError e)
      (job.load access settings) := satisfies_load fun _ hlooks => hlooks
  have hvalidate : Satisfies (fun t => s.book.Served job.Looks t.book) (fun _ => True)
      (fun e _ => ¬ WriteError e) (job.validate access settings) :=
    hload.bind fun _ _ => .pure trivial
  exact hvalidate.keeps (.refl s.book)

/-- In a book that refuses nothing, running again over the same connection, or over a new one
after a new one, has the same result and leaves the same store. -/
theorem Fits.run_again (hfits : job.Fits settings) (hrefusals : s.book.refusals = [])
    (dryRun : Bool) {next : Connection}
    (hnext : next = (outcome (job.run access settings dryRun) s).2 ∨ s = .fresh s.book ∧
      next = .fresh (outcome (job.run access settings dryRun) s).2.book) :
    (outcome (job.run access settings dryRun) next).1 =
        (outcome (job.run access settings dryRun) s).1 ∧
      ∀ range, (outcome (job.run access settings dryRun) next).2.book.store.lookup range =
        (outcome (job.run access settings dryRun) s).2.book.store.lookup range := by
  cases access with
  | noCredentials path =>
    rcases hnext with rfl | ⟨-, rfl⟩ <;> simp [outcome_run_noCredentials, Connection.fresh]
  | granted =>
    have hself : Alike settings s s := ⟨hrefusals, rfl, rfl, rfl, rfl⟩
    have hrun : Repeatable (Alike settings s) (fun _ => True)
        (job.run .granted settings dryRun) := repeatable_run hfits dryRun
    rcases hnext with rfl | ⟨hfresh, rfl⟩
    · exact hrun.again hself (hrun.keeps hself) fun _ => rfl
    · have hserved := hfits.served_run .granted dryRun s
      have hfound : s.sheetsFound = false := by rw [hfresh]; rfl
      exact hrun.again hself (hself.of_served hfits hserved hfound.symm) fun _ => rfl

/-- From any connection, with and without credentials, and whatever the book refuses, a job is
confined to its scratch sheet and its output. -/
theorem confined_of_settings {override : Option Text}
    (hjob : ofSettings settings override = .ok job) (access : Access) (s : Connection) :
    job.Confined access settings s := by
  have hfits := fits_of_ofSettings hjob
  refine ⟨?_, ?_, fun _ _ => outcome_run_of_error, fun _ _ => ending_run, ?_,
    fun cells _ => hfits.sheetRange_not_mem cells,
    fun hrefusals dryRun _ => hfits.run_again hrefusals dryRun⟩
  · exact (served_validate access settings job s).confined
      (fun _ hlooks hmutates => hlooks.not_mutates hmutates) (fun _ _ hfalse => hfalse.elim)
  · refine (hfits.served_dryRun access s).1.confined (fun _ hprepares hmutates => ?_)
      fun _ _ hscratches hrange => ?_
    · exact hprepares.resolve_left fun hlooks => hlooks.not_mutates hmutates
    · exact List.mem_singleton.mpr (Prepares.eq_of_replaced? (.inr hscratches) hrange)
  · refine (hfits.served_run access false s).confined (fun _ hsends hmutates => ?_)
      fun _ _ hkind => Sends.mem_of_replaced? (hkind.imp_left .inr)
    exact hsends.imp_left fun hprepares =>
      hprepares.resolve_left fun hlooks => hlooks.not_mutates hmutates

/-- A run with a formula is confined: eleven requests replace the old output. -/
theorem confined_bookWithOutput :
    ∃ job s', ofSettings .defaults (some "book".toList) = .ok job ∧
      job.Confined .granted .defaults (.fresh (bookWithOutput [])) ∧
      outcome (job.run .granted .defaults false) (.fresh (bookWithOutput [])) =
        (.ok ⟨["Loud".toList], [["=UPPER(\"Ann\")".toList]], 1, 0⟩, s') ∧
      s'.book.log.length = 11 ∧
      s'.book.store = [("'Output'!A1".toList,
          [[.text "Loud".toList], [.text "=UPPER(\"Ann\")".toList]]),
        ("'Source'".toList, [[.text "Name".toList], [.text "Ann".toList]]),
        ("'Mapping'".toList, [[.text "Column".toList, .text "Rule".toList],
          [.text "Loud".toList, .text "formula:=UPPER(src[Name])".toList]])] := by
  let s : Connection := .fresh (bookWithOutput [])
  let job : Job := ⟨"book".toList, ⟨"book".toList, "_sandbox".toList, "A1".toList⟩⟩
  have hjob : ofSettings .defaults (some "book".toList) = .ok job := by decide +kernel
  have hresult : (outcome (job.run .granted .defaults false) s).1 =
      .ok ⟨["Loud".toList], [["=UPPER(\"Ann\")".toList]], 1, 0⟩ := by
    decide +kernel
  exact ⟨job, (outcome (job.run .granted .defaults false) s).2, hjob,
    confined_of_settings hjob .granted s, by rw [← hresult], by decide +kernel, by decide +kernel⟩

end Confinement

end Job

end Rowscript
