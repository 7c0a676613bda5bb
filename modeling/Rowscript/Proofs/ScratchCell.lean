import Rowscript.Book.Scratch
import Rowscript.Proofs.Requests

/-!
# What a call of the scratch cell does

Computing a formula takes up to six requests, and each of them may be refused. This file lists
the transcripts that a call can have, with the result of each, and proves that a call has one of
them. What a call changes, what it gives and what it leaves behind is read off the transcripts,
so it does not depend on the calls before.
-/

namespace Rowscript

namespace ScratchCell

/-- The request for the titles of the sheets. -/
def listing (scratch : ScratchCell) : Request := .listTitles scratch.spreadsheet

/-- The request to add the scratch sheet. -/
def adding (scratch : ScratchCell) : Request := .addSheet scratch.spreadsheet scratch.sheet

/-- The request to clear the scratch cell. -/
def clearing (scratch : ScratchCell) : Request := .clear scratch.spreadsheet scratch.range

/-- The request to write a formula to the scratch cell. -/
def writing (scratch : ScratchCell) (formula : Text) : Request :=
  .write scratch.spreadsheet scratch.range [[.text formula]]

/-- The request to read the scratch cell. -/
def reading (scratch : ScratchCell) : Request :=
  .read scratch.spreadsheet scratch.range unformattedRendering

/-- The transcripts of looking for the scratch sheet, with their results. The sheet is looked for
unless that is done, and added if it has no title in the book. -/
inductive Preparation (scratch : ScratchCell) (ready : Bool) (titles : List Text) :
    List Exchange → Except ClientError Unit → Prop where
  | done (h : ready = true) : Preparation scratch ready titles [] (.ok ())
  | notListed (h : ready = false) (refusal : Refusal) :
      Preparation scratch ready titles [(scratch.listing, some refusal)]
        (.error (.refused .listTitles refusal))
  | found (h : ready = false) (hsheet : scratch.sheet ∈ titles) :
      Preparation scratch ready titles [(scratch.listing, none)] (.ok ())
  | notAdded (h : ready = false) (hsheet : scratch.sheet ∉ titles) (refusal : Refusal) :
      Preparation scratch ready titles [(scratch.listing, none), (scratch.adding, some refusal)]
        (.error (.refused (.addSheet scratch.sheet) refusal))
  | added (h : ready = false) (hsheet : scratch.sheet ∉ titles) :
      Preparation scratch ready titles [(scratch.listing, none), (scratch.adding, none)] (.ok ())

/-- The transcripts of computing a formula in the scratch cell, with their results. After a
formula that is not written or read the cell is cleared all the same, and the error is that of
the write or the read. -/
inductive Computation (scratch : ScratchCell) (formula : Text) (value : Cell) :
    List Exchange → Except ClientError Cell → Prop where
  | notCleared (refusal : Refusal) :
      Computation scratch formula value [(scratch.clearing, some refusal)]
        (.error (.refused .clear refusal))
  | notWritten (refusal : Refusal) (last : Option Refusal) :
      Computation scratch formula value
        [(scratch.clearing, none), (scratch.writing formula, some refusal),
          (scratch.clearing, last)]
        (.error (.refused .writeFormula refusal))
  | notRead (refusal : Refusal) (last : Option Refusal) :
      Computation scratch formula value
        [(scratch.clearing, none), (scratch.writing formula, none),
          (scratch.reading, some refusal), (scratch.clearing, last)]
        (.error (.refused .read refusal))
  | notEmptied (refusal : Refusal) :
      Computation scratch formula value
        [(scratch.clearing, none), (scratch.writing formula, none), (scratch.reading, none),
          (scratch.clearing, some refusal)]
        (.error (.refused .clear refusal))
  | computed :
      Computation scratch formula value
        [(scratch.clearing, none), (scratch.writing formula, none), (scratch.reading, none),
          (scratch.clearing, none)]
        (.ok value)

/-- The transcripts of a call, with their results: those of looking for the scratch sheet, and
if that succeeds those of computing the formula. Without credentials nothing is sent. -/
inductive Call (access : Access) (scratch : ScratchCell) (formula : Text) (s : Connection) :
    List Exchange → Except ClientError Cell → Prop where
  | noCredentials {path : Text} (h : access = .noCredentials path) :
      Call access scratch formula s [] (.error (.noCredentials path))
  | notPrepared {transcript : List Exchange} {e : ClientError}
      (h : Preparation scratch s.scratchReady s.book.sheetTitles transcript (.error e)) :
      Call access scratch formula s transcript (.error e)
  | prepared {front back : List Exchange} {result : Except ClientError Cell}
      (hfront : Preparation scratch s.scratchReady s.book.sheetTitles front (.ok ()))
      (hback : Computation scratch formula (s.book.cellValue (.text formula)) back result) :
      Call access scratch formula s (front ++ back) result

section Transcripts

variable {access : Access} {scratch : ScratchCell} {formula : Text}

/-- Looking for the scratch sheet has one of its transcripts. The connection knows afterwards
that the sheet is there exactly if that succeeds. -/
theorem preparation_ensureSheet (scratch : ScratchCell) (s : Connection) :
    ∃ transcript result s', outcome (scratch.ensureSheet .granted) s = (result, s') ∧
      Preparation scratch s.scratchReady s.book.sheetTitles transcript result ∧
      s.Exchanged transcript s' ∧ (s'.scratchReady = true ↔ result = .ok ()) ∧
      s'.sheetsFound = s.sheetsFound := by
  have hlist : outcome (Client.sheetTitles .granted scratch.spreadsheet) s =
      (s.answer .granted .listTitles s.book.sheetTitles, s.serve .granted scratch.listing) :=
    Client.outcome_sheetTitles s
  rw [ensureSheet, outcome_get_bind]
  cases hready : s.scratchReady with
  | true => exact ⟨[], .ok (), s, rfl, .done rfl, .refl rfl, by simp [hready], rfl⟩
  | false =>
    simp only [Bool.false_eq_true, if_false, outcome_bind, hlist]
    cases hlisted : s.book.refusal? with
    | some refusal =>
      rw [Connection.answer_of_refused hlisted]
      exact ⟨_, _, _, rfl, .notListed rfl refusal, .cons hlisted (.refl rfl),
        by simp [Connection.serve, hready], rfl⟩
    | none =>
      rw [Connection.answer_of_granted hlisted]
      let listed := s.serve .granted scratch.listing
      by_cases hsheet : scratch.sheet ∈ s.book.sheetTitles
      · simp only [List.contains_eq_mem, hsheet, decide_true, Bool.not_true, Bool.false_eq_true,
          if_false]
        exact ⟨_, _, _, rfl, .found rfl hsheet, .cons hlisted (.refl rfl), by simp, rfl⟩
      · have hadd : outcome (Client.addSheet .granted scratch.spreadsheet scratch.sheet) listed =
            (listed.answer .granted (.addSheet scratch.sheet) (),
              listed.serve .granted scratch.adding) :=
          Client.outcome_addSheet scratch.sheet listed
        simp only [List.contains_eq_mem, hsheet, decide_false, Bool.not_false, if_true,
          outcome_bind, listed, hadd]
        cases hadded : listed.book.refusal? with
        | some refusal =>
          rw [Connection.answer_of_refused hadded]
          exact ⟨_, _, _, rfl, .notAdded rfl hsheet refusal,
            .cons hlisted (.cons hadded (.refl rfl)), by simp [Connection.serve, hready], rfl⟩
        | none =>
          rw [Connection.answer_of_granted hadded]
          exact ⟨_, _, _, rfl, .added rfl hsheet, .cons hlisted (.cons hadded (.refl rfl)),
            by simp, rfl⟩

/-- Clearing the cell is one request. -/
theorem outcome_clear (s : Connection) :
    outcome (scratch.clear access) s =
      (s.answer access .clear (), s.serve access scratch.clearing) :=
  Client.outcome_clear scratch.range s

/-- The cell is cleared after a failure, and the error is the one that went before whatever
becomes of that. -/
theorem outcome_clearAndFail (e : ClientError) (s : Connection) :
    outcome (scratch.clearAndFail access e) s =
      (.error e, s.serve access scratch.clearing) := by
  rw [clearAndFail, outcome_bind, outcome_tryCatch, outcome_clear]
  rcases s.answer access Action.clear () with _ | _ <;> rfl

/-- A formula that is written to the cell is read back as its value in the book. -/
theorem rendered_written {s : Connection} (hgranted : s.book.refusal? = none) (formula : Text) :
    (s.serve .granted (scratch.writing formula)).book.rendered scratch.range
      unformattedRendering = [[s.book.cellValue (.text formula)]] := by
  have hbook : (s.serve .granted (scratch.writing formula)).book =
      (s.book.noted (scratch.writing formula)).put scratch.range [[.text formula]] :=
    Book.serve_of_granted hgranted
  rw [hbook, Book.rendered, if_pos rfl, Book.grid, Book.lookup_put_self]
  rfl

/-- A formula that is not written is not read. -/
theorem outcome_writeAndRead_of_refused {s : Connection} {refusal : Refusal}
    (h : s.book.refusal? = some refusal) :
    outcome (scratch.writeAndRead .granted formula) s =
      (.error (.refused .writeFormula refusal), s.serve .granted (scratch.writing formula)) := by
  rw [writeAndRead, outcome_bind, Client.outcome_writeOrFail _ _ (by simp),
    Connection.answer_of_refused h]
  rfl

/-- A formula that is written is read by one more request. -/
theorem outcome_writeAndRead_of_granted {s : Connection} (h : s.book.refusal? = none) :
    outcome (scratch.writeAndRead .granted formula) s =
      ((s.serve .granted (scratch.writing formula)).answer .granted .read
          [[s.book.cellValue (.text formula)]],
        (s.serve .granted (scratch.writing formula)).serve .granted scratch.reading) := by
  rw [writeAndRead, outcome_bind, Client.outcome_writeOrFail _ _ (by simp),
    Connection.answer_of_granted h, ← rendered_written h]
  exact Client.outcome_read scratch.range unformattedRendering _

/-- What a call does after looking for the scratch sheet. -/
def compute (access : Access) (scratch : ScratchCell) (formula : Text) : Client Cell := do
  scratch.clear access
  let values ← tryCatch (scratch.writeAndRead access formula) (scratch.clearAndFail access)
  scratch.clear access
  return firstCell values

/-- A call looks for the scratch sheet and computes the formula. -/
theorem evaluate_eq (access : Access) (scratch : ScratchCell) (formula : Text) :
    scratch.evaluate access formula =
      scratch.ensureSheet access >>= fun _ => scratch.compute access formula := rfl

/-- Computing a formula has one of its transcripts. -/
theorem computation_compute (scratch : ScratchCell) (formula : Text) (s : Connection) :
    ∃ transcript result s', outcome (scratch.compute .granted formula) s = (result, s') ∧
      Computation scratch formula (s.book.cellValue (.text formula)) transcript result ∧
      s.Exchanged transcript s' ∧ s'.scratchReady = s.scratchReady ∧
      s'.sheetsFound = s.sheetsFound := by
  rw [compute, outcome_bind, outcome_clear]
  cases hcleared : s.book.refusal? with
  | some refusal =>
    rw [Connection.answer_of_refused hcleared]
    exact ⟨_, _, _, rfl, .notCleared refusal, .cons hcleared (.refl rfl), rfl, rfl⟩
  | none =>
    rw [Connection.answer_of_granted hcleared]
    let cleared := s.serve .granted scratch.clearing
    have hvalue : cleared.book.cellValue (.text formula) = s.book.cellValue (.text formula) := by
      simp only [Book.cellValue, cleared, Connection.serve, Book.formulas_serve]
    simp only [outcome_bind, outcome_tryCatch]
    cases hwritten : cleared.book.refusal? with
    | some refusal =>
      simp only [cleared, outcome_writeAndRead_of_refused hwritten, outcome_clearAndFail]
      exact ⟨_, _, _, rfl, .notWritten refusal _,
        .cons hcleared (.cons hwritten (.cons rfl (.refl rfl))), rfl, rfl⟩
    | none =>
      let written := cleared.serve .granted (scratch.writing formula)
      simp only [cleared, outcome_writeAndRead_of_granted hwritten]
      cases hread : written.book.refusal? with
      | some refusal =>
        simp only [written, cleared, Connection.answer_of_refused hread, outcome_clearAndFail]
        exact ⟨_, _, _, rfl, .notRead refusal _,
          .cons hcleared (.cons hwritten (.cons hread (.cons rfl (.refl rfl)))), rfl, rfl⟩
      | none =>
        let read := written.serve .granted scratch.reading
        simp only [written, cleared, Connection.answer_of_granted hread, outcome_clear]
        cases hemptied : read.book.refusal? with
        | some refusal =>
          rw [Connection.answer_of_refused hemptied]
          exact ⟨_, _, _, rfl, .notEmptied refusal,
            .cons hcleared (.cons hwritten (.cons hread (.cons hemptied (.refl rfl)))), rfl, rfl⟩
        | none =>
          rw [Connection.answer_of_granted hemptied, ← hvalue]
          exact ⟨_, _, _, rfl, .computed,
            .cons hcleared (.cons hwritten (.cons hread (.cons hemptied (.refl rfl)))), rfl, rfl⟩

/-- A call has one of its transcripts. It leaves the connection knowing that the scratch sheet is
there exactly if looking for the sheet succeeds. -/
theorem call_evaluate (access : Access) (scratch : ScratchCell) (formula : Text) (s : Connection) :
    ∃ transcript result s', outcome (scratch.evaluate access formula) s = (result, s') ∧
      Call access scratch formula s transcript result ∧ s.Exchanged transcript s' ∧
      (s'.scratchReady = true ↔ (outcome (scratch.ensureSheet access) s).1 = .ok ()) ∧
      s'.sheetsFound = s.sheetsFound := by
  rw [evaluate_eq, outcome_bind]
  cases access with
  | noCredentials path =>
    rw [ensureSheet, outcome_get_bind]
    cases hready : s.scratchReady with
    | true => exact ⟨_, _, _, rfl, .noCredentials rfl, .refl rfl, by simp [hready]; rfl, rfl⟩
    | false =>
      exact ⟨_, _, _, rfl, .noCredentials rfl, .refl rfl, by rw [hready]; simp; nofun, rfl⟩
  | granted =>
    obtain ⟨front, prepared, t, hensure, hfront, hsent, hready, hfound⟩ :=
      preparation_ensureSheet scratch s
    rw [hensure]
    cases prepared with
    | error e => exact ⟨front, _, t, rfl, .notPrepared hfront, hsent, hready, hfound⟩
    | ok _ =>
      obtain ⟨back, result, s', hcompute, hback, hsent', hready', hfound'⟩ :=
        computation_compute scratch formula t
      have hserved : s.book.Served (fun _ => True) t.book := hsent.served fun _ _ => trivial
      have hvalue : t.book.cellValue (.text formula) = s.book.cellValue (.text formula) := by
        simp only [Book.cellValue, hserved.formulas_eq]
      rw [hvalue] at hback
      exact ⟨front ++ back, result, s', hcompute, .prepared hfront hback, hsent.append hsent',
        by rw [hready', hready], hfound'.trans hfound⟩

end Transcripts

section Properties

variable {access : Access} {scratch : ScratchCell} {formula : Text} {value : Cell}
  {s : Connection} {transcript : List Exchange}

/-- The requests of a call. -/
inductive Sends (scratch : ScratchCell) (formula : Text) : Request → Prop where
  | listing : Sends scratch formula scratch.listing
  | adding : Sends scratch formula scratch.adding
  | clearing : Sends scratch formula scratch.clearing
  | writing : Sends scratch formula (scratch.writing formula)
  | reading : Sends scratch formula scratch.reading

/-- A request of a call replaces nothing but the scratch cell. -/
theorem Sends.eq_of_replaced? {request : Request} {range : Text}
    (h : scratch.Sends formula request) (hrange : request.replaced? = some range) :
    range = scratch.range := by
  cases h with
  | listing => simp [ScratchCell.listing, Request.replaced?] at hrange
  | adding => simp [ScratchCell.adding, Request.replaced?] at hrange
  | reading => simp [ScratchCell.reading, Request.replaced?] at hrange
  | clearing => exact (Option.some.inj hrange).symm
  | writing => exact (Option.some.inj hrange).symm

/-- Looking for the scratch sheet sends requests about sheets only, and one to add the scratch
sheet only if it has no title. -/
theorem Preparation.of_mem {ready : Bool} {titles : List Text} {result : Except ClientError Unit}
    (h : Preparation scratch ready titles transcript result) {e : Exchange} (he : e ∈ transcript) :
    ready = false ∧
      (e.1 = scratch.listing ∨ e.1 = scratch.adding ∧ scratch.sheet ∉ titles) := by
  cases h with
  | done _ => simp at he
  | notListed hready _ | found hready _ =>
    obtain rfl := List.mem_singleton.mp he
    exact ⟨hready, .inl rfl⟩
  | notAdded hready hsheet _ | added hready hsheet =>
    rcases List.mem_cons.mp he with rfl | he
    · exact ⟨hready, .inl rfl⟩
    · obtain rfl := List.mem_singleton.mp he
      exact ⟨hready, .inr ⟨rfl, hsheet⟩⟩

/-- Computing a formula sends requests about the scratch cell only. -/
theorem Computation.of_mem {result : Except ClientError Cell}
    (h : Computation scratch formula value transcript result) {e : Exchange}
    (he : e ∈ transcript) :
    e.1 = scratch.clearing ∨ e.1 = scratch.writing formula ∨ e.1 = scratch.reading := by
  cases h <;> simp only [List.mem_cons, List.not_mem_nil, or_false] at he <;> grind

/-- The value that computing a formula gives is the right one. -/
theorem Computation.eq_value {v : Cell}
    (h : Computation scratch formula value transcript (.ok v)) : v = value := by
  cases h
  rfl

/-- If the write is refused, that is the error. -/
theorem Computation.of_notWritten {result : Except ClientError Cell} {refusal : Refusal}
    (h : Computation scratch formula value transcript result)
    (hwrite : (scratch.writing formula, some refusal) ∈ transcript) :
    result = .error (.refused .writeFormula refusal) := by
  cases h <;> simp_all [clearing, writing, reading]

/-- If the read is refused, that is the error. -/
theorem Computation.of_notRead {result : Except ClientError Cell} {refusal : Refusal}
    (h : Computation scratch formula value transcript result)
    (hread : (scratch.reading, some refusal) ∈ transcript) :
    result = .error (.refused .read refusal) := by
  cases h <;> simp_all [clearing, writing, reading]

/-- Unless it is refused, the last request is to clear the cell. -/
theorem Computation.exists_eq_append {result : Except ClientError Cell}
    (h : Computation scratch formula value transcript result)
    (hclear : ∀ refusal, (scratch.clearing, some refusal) ∉ transcript) :
    ∃ front, transcript = front ++ [(scratch.clearing, none)] := by
  cases h with
  | notCleared refusal => exact absurd (by simp) (hclear refusal)
  | notEmptied refusal => exact absurd (by simp) (hclear refusal)
  | notWritten refusal last =>
    cases last with
    | some second => exact absurd (by simp) (hclear second)
    | none => exact ⟨[_, _], rfl⟩
  | notRead refusal last =>
    cases last with
    | some second => exact absurd (by simp) (hclear second)
    | none => exact ⟨[_, _, _], rfl⟩
  | computed => exact ⟨[_, _, _], rfl⟩

/-- A call looks for the scratch sheet only if the connection does not know of it. It adds the
sheet only if it has no title. -/
theorem Call.of_mem {result : Except ClientError Cell}
    (h : Call access scratch formula s transcript result) {e : Exchange} (he : e ∈ transcript) :
    (s.scratchReady = false ∧ (e.1 = scratch.listing ∨
        e.1 = scratch.adding ∧ scratch.sheet ∉ s.book.sheetTitles)) ∨
      e.1 = scratch.clearing ∨ e.1 = scratch.writing formula ∨ e.1 = scratch.reading := by
  cases h with
  | noCredentials _ => simp at he
  | notPrepared h => exact .inl (h.of_mem he)
  | prepared h hback =>
    rcases List.mem_append.mp he with he | he
    · exact .inl (h.of_mem he)
    · exact .inr (hback.of_mem he)

/-- The requests of a call are listed. -/
theorem Call.sends {result : Except ClientError Cell}
    (h : Call access scratch formula s transcript result) :
    ∀ e ∈ transcript, scratch.Sends formula e.1 := by
  intro e he
  rcases h.of_mem he with ⟨-, heq | ⟨heq, -⟩⟩ | heq | heq | heq
  · exact heq ▸ .listing
  · exact heq ▸ .adding
  · exact heq ▸ .clearing
  · exact heq ▸ .writing
  · exact heq ▸ .reading

/-- Since a book was in one state, computing a formula adds the requests of a call to those that
it has received. -/
theorem satisfies_evaluate {allowed : Request → Prop} {before : Book}
    (hallowed : ∀ request, scratch.Sends formula request → allowed request) :
    Satisfies (fun s => before.Served allowed s.book) (fun _ => True) (fun _ _ => True)
      (scratch.evaluate access formula) := by
  intro s hs
  obtain ⟨transcript, result, s', hout, hcall, hsent, -⟩ := scratch.call_evaluate access formula s
  have hserved : before.Served allowed s'.book :=
    hs.trans (hsent.served fun e he => hallowed _ (hcall.sends e he))
  rw [hout]
  cases result <;> exact ⟨hserved, trivial⟩

/-- What a call keeps to, in a book whose formulas have the given values. -/
structure Contained (scratch : ScratchCell) (formula : Text) (book : Book) (s : Connection)
    (transcript : List Exchange) (result : Except ClientError Cell) (s' : Connection) : Prop where
  /-- The requests of the transcript are what has been done, with the answers of the book. -/
  exchanged : s.Exchanged transcript s'
  /-- Nothing changes but the range of the scratch cell. -/
  elsewhere : ∀ range, range ≠ scratch.range →
    s'.book.store.lookup range = s.book.store.lookup range
  /-- A value that is given is the one that the formula has by itself. -/
  value : ∀ v, result = .ok v → v = book.cellValue (.text formula)
  /-- The refusal of the write is the error, whatever comes after it. -/
  notWritten : ∀ refusal, (scratch.writing formula, some refusal) ∈ transcript →
    result = .error (.refused .writeFormula refusal)
  /-- The refusal of the read is the error, whatever comes after it. -/
  notRead : ∀ refusal, (scratch.reading, some refusal) ∈ transcript →
    result = .error (.refused .read refusal)
  /-- Once the cell has been used it is left empty, unless clearing it is refused. -/
  emptied : (∃ e ∈ transcript, e.1.range? = some scratch.range) →
    (∀ refusal, (scratch.clearing, some refusal) ∉ transcript) →
      s'.book.store.lookup scratch.range = none
  /-- The only sheet that is added is the scratch sheet, when it has no title. -/
  added : ∀ spreadsheet title answer, (.addSheet spreadsheet title, answer) ∈ transcript →
    title = scratch.sheet ∧ scratch.sheet ∉ s.book.sheetTitles

/-- Looking for the scratch sheet names no range. -/
theorem Preparation.range?_of_mem {ready : Bool} {titles : List Text}
    {result : Except ClientError Unit} (h : Preparation scratch ready titles transcript result)
    {e : Exchange} (he : e ∈ transcript) : e.1.range? = none := by
  rcases (h.of_mem he).2 with hlisting | ⟨hadding, -⟩
  · rw [hlisting]
    rfl
  · rw [hadding]
    rfl

/-- A call changes nothing but the range of the scratch cell. -/
theorem Call.lookup_eq {result : Except ClientError Cell} {s' : Connection}
    (h : Call access scratch formula s transcript result) (hsent : s.Exchanged transcript s')
    {range : Text} (hrange : range ≠ scratch.range) :
    s'.book.store.lookup range = s.book.store.lookup range :=
  (hsent.served h.sends).lookup_eq fun _ hrequest hreplaced =>
    hrange (hrequest.eq_of_replaced? hreplaced)

/-- The only sheet that a call adds is the scratch sheet, when it has no title. -/
theorem Call.of_addSheet_mem {result : Except ClientError Cell} {spreadsheet title : Text}
    {answer : Option Refusal} (h : Call access scratch formula s transcript result)
    (hmem : (.addSheet spreadsheet title, answer) ∈ transcript) :
    title = scratch.sheet ∧ scratch.sheet ∉ s.book.sheetTitles := by
  rcases h.of_mem hmem with ⟨-, heq | ⟨heq, hsheet⟩⟩ | hother
  · simp [listing] at heq
  · exact ⟨(Request.addSheet.inj heq).2, hsheet⟩
  · simp [clearing, writing, reading] at hother

/-- A call whose requests are all granted gives the value of the formula. -/
theorem Call.of_granted {result : Except ClientError Cell}
    (h : Call .granted scratch formula s transcript result)
    (hgranted : ∀ e ∈ transcript, e.2 = none) :
    result = .ok (s.book.cellValue (.text formula)) ∧
      ∃ e ∈ transcript, e.1.range? = some scratch.range := by
  cases h with
  | noCredentials h => simp at h
  | notPrepared h => cases h <;> simp at hgranted
  | @prepared front back _ _ hback =>
    have hlater : ∀ e ∈ back, e.2 = none :=
      fun e he => hgranted e (List.mem_append_right front he)
    cases hback with
    | computed => exact ⟨rfl, (scratch.clearing, none), by simp, rfl⟩
    | _ => simp at hlater

/-- A call that gives a value has cleared the cell. -/
theorem Call.clearing_mem {v : Cell} (h : Call access scratch formula s transcript (.ok v)) :
    (scratch.clearing, none) ∈ transcript := by
  cases h with
  | prepared _ hback =>
    cases hback
    simp

/-- A call is contained, whatever its transcript. -/
theorem Call.contained {result : Except ClientError Cell} {s' : Connection} {book : Book}
    (h : Call access scratch formula s transcript result) (hsent : s.Exchanged transcript s')
    (hformulas : s.book.formulas = book.formulas) :
    scratch.Contained formula book s transcript result s' := by
  have hcell : s.book.cellValue (.text formula) = book.cellValue (.text formula) := by
    simp only [Book.cellValue, hformulas]
  have hadded : ∀ spreadsheet title answer, (.addSheet spreadsheet title, answer) ∈ transcript →
      title = scratch.sheet ∧ scratch.sheet ∉ s.book.sheetTitles :=
    fun _ _ _ hmem => h.of_addSheet_mem hmem
  have helsewhere : ∀ range, range ≠ scratch.range →
      s'.book.store.lookup range = s.book.store.lookup range :=
    fun _ hrange => h.lookup_eq hsent hrange
  cases h with
  | noCredentials _ =>
    exact ⟨hsent, helsewhere, nofun, nofun, nofun, by simp, nofun⟩
  | notPrepared h =>
    have hnone : ∀ e ∈ transcript, e.1.range? ≠ some scratch.range := by
      intro e he
      simp [h.range?_of_mem he]
    exact ⟨hsent, helsewhere, nofun, fun _ hmem => absurd rfl (hnone _ hmem),
      fun _ hmem => absurd rfl (hnone _ hmem), fun ⟨e, he, hrange⟩ => absurd hrange (hnone e he),
      hadded⟩
  | @prepared front back _ h hback =>
    have hlater : ∀ e ∈ front ++ back, e.1.range? = some scratch.range → e ∈ back := by
      intro e he hrange
      rcases List.mem_append.mp he with he | he
      · simp [h.range?_of_mem he] at hrange
      · exact he
    refine ⟨hsent, helsewhere, ?_, fun _ hmem => hback.of_notWritten (hlater _ hmem rfl),
      fun _ hmem => hback.of_notRead (hlater _ hmem rfl), fun _ hclear => ?_, hadded⟩
    · rintro v rfl
      rw [← hcell]
      exact hback.eq_value
    · obtain ⟨middle, rfl⟩ := hback.exists_eq_append fun refusal hmem =>
        hclear refusal (List.mem_append_right front hmem)
      rw [← List.append_assoc] at hsent
      exact hsent.lookup_eq_none _ (by simp)

/-- A call over a connection that knows of the scratch sheet asks for no titles and adds no
sheet. -/
theorem Call.range?_of_ready {result : Except ClientError Cell}
    (h : Call access scratch formula s transcript result) (hready : s.scratchReady = true) :
    ∀ e ∈ transcript, e.1.range? = some scratch.range := by
  intro e he
  rcases h.of_mem he with ⟨hnotReady, -⟩ | heq | heq | heq
  · simp [hready] at hnotReady
  all_goals
    rw [heq]
    rfl

end Properties

section Histories

variable {access : Access} {scratch : ScratchCell}

/-- The connection after formulas have been computed one after the other, whether that
succeeded or not. -/
def after (access : Access) (scratch : ScratchCell) (formulas : List Text) (s : Connection) :
    Connection :=
  formulas.foldl (fun s formula => (outcome (scratch.evaluate access formula) s).2) s

theorem after_append (formulas more : List Text) (s : Connection) :
    scratch.after access (formulas ++ more) s =
      scratch.after access more (scratch.after access formulas s) := List.foldl_append

theorem after_cons (formula : Text) (rest : List Text) (s : Connection) :
    scratch.after access (formula :: rest) s =
      scratch.after access rest (outcome (scratch.evaluate access formula) s).2 := rfl

/-- The values of formulas stay the same. -/
theorem formulas_after (formulas : List Text) (s : Connection) :
    (scratch.after access formulas s).book.formulas = s.book.formulas := by
  induction formulas generalizing s with
  | nil => rfl
  | cons formula rest ih =>
    obtain ⟨transcript, result, s', hout, hcall, hsent, -⟩ :=
      scratch.call_evaluate access formula s
    rw [after_cons, ih, hout]
    exact (hsent.served hcall.sends).formulas_eq

/-- A connection that knows of the scratch sheet does not forget it. -/
theorem scratchReady_after {s : Connection} (hready : s.scratchReady = true)
    (formulas : List Text) : (scratch.after access formulas s).scratchReady = true := by
  induction formulas generalizing s with
  | nil => exact hready
  | cons formula rest ih =>
    obtain ⟨transcript, result, s', hout, -, -, hready', -⟩ :=
      scratch.call_evaluate access formula s
    rw [after_cons, hout]
    refine ih (hready'.mpr ?_)
    rw [ensureSheet, outcome_get_bind, hready]
    rfl

/-- Whatever has been computed before over a connection, a call of the scratch cell is contained.
Once looking for the scratch sheet has succeeded, later calls send requests about the scratch
cell only. -/
theorem evaluate_contained (access : Access) (scratch : ScratchCell) (s : Connection)
    (history : List Text) (formula : Text) :
    ∃ transcript result s',
      outcome (scratch.evaluate access formula) (scratch.after access history s) = (result, s') ∧
      scratch.Contained formula s.book (scratch.after access history s) transcript result s' ∧
      ∀ earlier other later, history = earlier ++ other :: later →
        (outcome (scratch.ensureSheet access) (scratch.after access earlier s)).1 = .ok () →
          ∀ e ∈ transcript, e.1.range? = some scratch.range := by
  obtain ⟨transcript, result, s', hout, hcall, hsent, -⟩ :=
    scratch.call_evaluate access formula (scratch.after access history s)
  refine ⟨transcript, result, s', hout, hcall.contained hsent (formulas_after history s), ?_⟩
  rintro earlier other later rfl hfound
  refine hcall.range?_of_ready ?_
  obtain ⟨_, _, t, hother, -, -, hready, -⟩ :=
    scratch.call_evaluate access other (scratch.after access earlier s)
  rw [after_append, after_cons, hother]
  exact scratchReady_after (hready.mpr hfound) later

end Histories

end ScratchCell

end Rowscript
