import Rowscript.Proofs.JobRequests
import Rowscript.Web.Server

/-!
# What a request to transform rows sends

Rows that come with a request are transformed without looking at any sheet, and their formulas are
computed in the scratch cell of the spreadsheet that the request names. So nothing but the scratch
cell is changed. That cell may be one of a data sheet: a job asks for a scratch sheet of its own,
a request to transform rows does not.
-/

namespace Rowscript

/-- A request that a book has received since it was in an earlier state. -/
def Book.Received (before after : Book) (request : Request) : Prop :=
  ∃ requests, after.log = requests ++ before.log ∧ request ∈ requests

/-- If a book has received requests of one kind only, each of them is of the kind. -/
theorem Book.Served.of_received {allowed : Request → Prop} {before after : Book} {request : Request}
    (h : before.Served allowed after) (hreceived : before.Received after request) :
    allowed request := by
  obtain ⟨requests, hlog, hallowed⟩ := h.log_eq
  obtain ⟨others, hothers, hrequest⟩ := hreceived
  rw [hlog] at hothers
  obtain rfl := List.append_cancel_right hothers
  exact hallowed request hrequest

/-- A request replaces cells of a data sheet. -/
def Settings.Touches (settings : Settings) (request : Request) : Prop :=
  ∃ sheet ∈ settings.dataSheets, ∃ cells, request.replaced? = some (sheetRange sheet cells)

/-- The scratch cell of the settings in a spreadsheet. -/
def Settings.scratchCell (settings : Settings) (spreadsheet : Text) : ScratchCell :=
  ⟨spreadsheet, settings.sandboxSheet, settings.sandboxCell⟩

/-- The requests of calls of the scratch cell, which is at an address. -/
def Settings.Calls (settings : Settings) (spreadsheet : Text) (request : Request) : Prop :=
  (∃ address, readAddress settings.sandboxCell = .ok address) ∧
    ∃ formula, (settings.scratchCell spreadsheet).Sends formula request

/-- Such a request replaces nothing but the scratch cell. -/
theorem Settings.Calls.eq_of_replaced? {settings : Settings} {spreadsheet range : Text}
    {request : Request} (h : settings.Calls spreadsheet request)
    (hrange : request.replaced? = some range) :
    range = (settings.scratchCell spreadsheet).range := by
  obtain ⟨-, formula, hsends⟩ := h
  exact hsends.eq_of_replaced? hrange

/-- A request about the scratch cell touches a data sheet if the scratch sheet is one. -/
theorem Settings.touches_iff {settings : Settings} {request : Request} {spreadsheet : Text}
    (hrequest : request.replaced? = some (settings.scratchCell spreadsheet).range) :
    settings.Touches request ↔ settings.sandboxSheet ∈ settings.dataSheets := by
  constructor
  · rintro ⟨sheet, hsheet, cells, hreplaced⟩
    rw [hrequest] at hreplaced
    obtain ⟨rfl, -⟩ := sheetRange_inj.mp (Option.some.inj hreplaced)
    exact hsheet
  · exact fun hsheet => ⟨_, hsheet, _, hrequest⟩

namespace Web

section Sent

variable (access : Access) (settings : Settings) (book : Book) (spreadsheet : Text)

/-- Rows are transformed over a new connection, if the scratch cell is at an address. -/
theorem transformRows_eq {address : Text × Nat}
    (haddress : readAddress settings.sandboxCell = .ok address) (source : Source)
    (mapping : List (Text × Text)) :
    transformRows access settings book spreadsheet source mapping =
      let x := Rowscript.transform ((settings.scratchCell spreadsheet).evaluate access) source
        mapping
      ((outcome x (.fresh book)).1.mapError JobError.ofTransform,
        (outcome x (.fresh book)).2.book) := by
  have hat : ScratchCell.at? spreadsheet settings.sandboxSheet settings.sandboxCell =
      .ok (settings.scratchCell spreadsheet) := by
    rw [ScratchCell.at?, haddress]
    rfl
  simp only [transformRows, hat]
  rfl

/-- Otherwise nothing is sent. -/
theorem transformRows_of_error {e : AddressError}
    (haddress : readAddress settings.sandboxCell = .error e) (source : Source)
    (mapping : List (Text × Text)) :
    transformRows access settings book spreadsheet source mapping =
      (.error (.address e), book) := by
  have hat : ScratchCell.at? spreadsheet settings.sandboxSheet settings.sandboxCell = .error e := by
    rw [ScratchCell.at?, haddress]
    rfl
  simp only [transformRows, hat]

/-- Transforming rows sends the requests of calls of the scratch cell. -/
theorem served_transformRows (source : Source) (mapping : List (Text × Text)) :
    book.Served (settings.Calls spreadsheet)
      (transformRows access settings book spreadsheet source mapping).2 := by
  cases haddress : readAddress settings.sandboxCell with
  | error e =>
    rw [transformRows_of_error access settings book spreadsheet haddress]
    exact .refl book
  | ok address =>
    rw [transformRows_eq access settings book spreadsheet haddress]
    have hcall : ∀ formula, Satisfies
        (fun s : Connection => book.Served (settings.Calls spreadsheet) s.book)
        (fun _ => True) (fun _ _ => True)
        (submit ((settings.scratchCell spreadsheet).evaluate access) formula) := fun formula =>
      (ScratchCell.satisfies_evaluate fun request hsends =>
        ⟨⟨address, haddress⟩, formula, hsends⟩).adapt fun _ _ _ => trivial
    have htransform : Satisfies
        (fun s : Connection => book.Served (settings.Calls spreadsheet) s.book)
        (fun _ => True) (fun _ _ => True)
        (Rowscript.transform ((settings.scratchCell spreadsheet).evaluate access) source
          mapping) := by
      rw [Rowscript.transform]
      split
      · exact .of_throw fun _ => trivial
      · next rules hload =>
        exact (RuleSet.satisfies_run (RuleSet.hasOperators_of_load hload)
          (fun _ _ _ => hcall _) source).adapt fun _ _ _ => trivial
    exact htransform.keeps (.refl book)

/-- A request to transform rows sends the requests of calls of the scratch cell in the spreadsheet
that it names. -/
theorem Route.served_transform (hasCredentials : Bool) {body : Option Json} {source : Source}
    {mapping : List (Text × Text)}
    (hbody : readTransform body = .ok (spreadsheet, source, mapping)) :
    book.Served (settings.Calls spreadsheet)
      (transform.answer access hasCredentials settings book body).2 := by
  have hbook : (transform.answer access hasCredentials settings book body).2 =
      (transformRows access settings book spreadsheet source mapping).2 := by
    rw [answer, hbody]
  rw [hbook]
  exact served_transformRows access settings book spreadsheet source mapping

/-- A request to transform rows whose body is rejected sends nothing. -/
theorem Route.transform_of_error (hasCredentials : Bool) {body : Option Json}
    {problems : List Problem} (hbody : readTransform body = .error problems) :
    (transform.answer access hasCredentials settings book body).2 = book := by
  rw [answer, hbody]

end Sent

/-- A body that asks to compute one formula in a spreadsheet. -/
def formulaBody (spreadsheet : Text) : Json :=
  jsonObject [("spreadsheet_id", .string spreadsheet),
    ("source", jsonObject [("headers", .array []), ("rows", .array [.array []])]),
    ("rules", .array [jsonObject [("header", .string "A".toList),
      ("instruction", .string "formula:=1".toList)]])]

/-- Such a body is read as a row without cells and a rule with the formula. -/
theorem readTransform_formulaBody (spreadsheet : Text) :
    readTransform (some (formulaBody spreadsheet)) =
      .ok (spreadsheet, ⟨[], [[]]⟩, [("A".toList, "formula:=1".toList)]) := by
  rfl

/-- Its transformation computes the formula once. -/
theorem transform_formula {σ ε : Type} (sandbox : Sandbox σ ε) :
    Rowscript.transform sandbox ⟨[], [[]]⟩ [("A".toList, "formula:=1".toList)] =
      (ExceptT.adapt .evaluation (submit sandbox "=1".toList) >>= fun _ =>
        pure ⟨["A".toList], [["=1".toList]], 1, 0⟩) := by
  have hload : RuleSet.load [] [("A".toList, "formula:=1".toList)] =
      .ok ⟨[⟨"A".toList, .formula "=1".toList⟩], []⟩ := by
    decide +kernel
  have hpieces : pieces "=1".toList = [.char '=', .char '1'] := by decide +kernel
  have hresolve : ∀ (ctx : Context) (live : Bool), ctx.resolve live "=1".toList = "=1".toList := by
    intro ctx live
    rw [Context.resolve_eq_flatMap, hpieces]
    rfl
  have hrow : ∀ ctx : Context, evaluateRow sandbox ⟨[⟨"A".toList, .formula "=1".toList⟩], []⟩ ctx =
      submit sandbox "=1".toList >>= fun _ => pure (some ["=1".toList]) := by
    intro ctx
    simp only [evaluateRow, evaluateOutputs, Output.resolve, resolveFormula_eq, evaluateFormula_eq,
      hresolve, passesAll, bind_assoc, pure_bind]
    rfl
  simp only [Rowscript.transform, hload]
  rw [RuleSet.run, processRows_cons, hrow, bind_assoc, bind_assoc, adapt_bind]
  rfl

/-- A book without sheets, that refuses nothing. -/
def emptyBook : Book := ⟨none, [], [], [], []⟩

/-- If the scratch cell has an address, a book receives a request to clear it. -/
theorem received_clearing (settings : Settings) (spreadsheet : Text) {address : Text × Nat}
    (haddress : readAddress settings.sandboxCell = .ok address) :
    emptyBook.Received (Route.transform.answer .granted true settings emptyBook
      (some (formulaBody spreadsheet))).2 (settings.scratchCell spreadsheet).clearing := by
  obtain ⟨transcript, result, s', hout, hcall, hsent, -⟩ :=
    (settings.scratchCell spreadsheet).call_evaluate .granted "=1".toList (.fresh emptyBook)
  obtain ⟨rfl, -⟩ := hcall.of_granted (hsent.granted rfl)
  have hbook : (Route.transform.answer .granted true settings emptyBook
      (some (formulaBody spreadsheet))).2 = s'.book := by
    simp only [Route.answer, readTransform_formulaBody,
      transformRows_eq .granted settings emptyBook spreadsheet haddress, transform_formula,
      outcome_bind, outcome_adapt, submit, hout]
    rfl
  rw [hbook]
  refine ⟨_, hsent.log_eq, List.mem_reverse.mpr ?_⟩
  exact List.mem_map_of_mem hcall.clearing_mem

/-- A request to transform rows changes the book by calls of the scratch cell only, and not at all
if its body is rejected. It touches a data sheet for some rows and rules exactly if the scratch
cell is one of a data sheet. -/
theorem Route.transform_touches_iff (settings : Settings) :
    (∀ access hasCredentials (book : Book) body,
      match readTransform body with
      | .error _ => (transform.answer access hasCredentials settings book body).2 = book
      | .ok (spreadsheet, _) =>
        book.Confined (settings.Calls spreadsheet) [(settings.scratchCell spreadsheet).range]
          (transform.answer access hasCredentials settings book body).2) ∧
    ∀ spreadsheet, ((∃ access hasCredentials, ∃ book : Book, ∃ body source mapping request,
      readTransform body = .ok (spreadsheet, source, mapping) ∧
        book.Received (transform.answer access hasCredentials settings book body).2 request ∧
          settings.Touches request) ↔
      settings.sandboxSheet ∈ settings.dataSheets ∧
        ∃ address, readAddress settings.sandboxCell = .ok address) := by
  refine ⟨fun access hasCredentials book body => ?_, fun spreadsheet => ⟨?_, ?_⟩⟩
  · split
    · next hbody => exact transform_of_error access settings book hasCredentials hbody
    · next spreadsheet _ hbody =>
      exact (served_transform access settings book spreadsheet hasCredentials hbody).confined
        (fun _ hcalls _ => hcalls) fun _ _ hcalls hrange =>
          List.mem_singleton.mpr (hcalls.eq_of_replaced? hrange)
  · rintro ⟨access, hasCredentials, book, body, source, mapping, request, hbody, hreceived,
      htouches⟩
    have hcalls := (served_transform access settings book spreadsheet hasCredentials
      hbody).of_received hreceived
    obtain ⟨sheet, -, cells, hreplaced⟩ := id htouches
    rw [hcalls.eq_of_replaced? hreplaced] at hreplaced
    exact ⟨(Settings.touches_iff hreplaced).mp htouches, hcalls.1⟩
  · rintro ⟨hsheet, address, haddress⟩
    exact ⟨_, _, _, _, _, _, _, readTransform_formulaBody spreadsheet,
      received_clearing settings spreadsheet haddress, (Settings.touches_iff rfl).mpr hsheet⟩

/-- With the scratch cell on the source sheet, a request to transform rows clears a cell of the
source. -/
theorem answer_clears_source :
    let settings : Settings := { Settings.defaults with sandboxSheet := "Source".toList }
    let clearing : Rowscript.Request := .clear "book".toList "'Source'!A1".toList
    settings.Touches clearing ∧
      emptyBook.Received (answer .granted true settings emptyBook
        ⟨"POST".toList, "/api/transform".toList, some (formulaBody "book".toList)⟩).2 clearing :=
  ⟨⟨"Source".toList, by decide, "A1".toList, by decide⟩, _, (List.append_nil _).symm,
    by decide +kernel⟩

end Web

end Rowscript
