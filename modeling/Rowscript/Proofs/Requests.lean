import Rowscript.Book.Client
import Rowscript.Proofs.Outcome

/-!
# What requests do to a book

A book answers one request after another. Whatever a client computes, all that it does to the
book is sending requests, so what a computation may change is known from the requests that it
may send. This file says what a request does, what a sequence of them keeps, and gives every
operation of the client as the one request that it sends.
-/

namespace Rowscript

/-- The range whose content a request replaces. -/
def Request.replaced? : Request → Option Text
  | .write _ range _ => some range
  | .clear _ range => some range
  | _ => none

/-- The range that a request names. -/
def Request.range? : Request → Option Text
  | .read _ range _ => some range
  | request => request.replaced?

/-- Whether a request is one to change the book. -/
def Request.Mutates : Request → Prop
  | .listTitles _ => False
  | .read _ _ _ => False
  | _ => True

/-- A request with the refusal that answers it, if there is one. -/
abbrev Exchange := Request × Option Refusal

namespace Book

/-- The refusal that is scheduled for the next request. -/
def refusal? (book : Book) : Option Refusal := book.refusals.lookup (book.log.length + 1)

/-- The book with a request noted. -/
def noted (book : Book) (request : Request) : Book := { book with log := request :: book.log }

/-- The book after a request that is granted. -/
def grant (book : Book) : Request → Book
  | .addSheet _ title => book.addTitle title
  | .write _ range values => book.put range values
  | .clear _ range => book.erase range
  | _ => book

/-- The book after a request: it is noted, and unless it is refused it has its effect. -/
def serve (book : Book) (request : Request) : Book :=
  match book.refusal? with
  | some _ => book.noted request
  | none => (book.noted request).grant request

/-- The book after requests one after the other. -/
def serveAll (book : Book) (requests : List Request) : Book := requests.foldl serve book

/-- Requests one after the other with their answers. -/
def exchanges (book : Book) : List Request → List Exchange
  | [] => []
  | request :: rest => (request, book.refusal?) :: (book.serve request).exchanges rest

section Effects

variable {book : Book} {request : Request}

@[simp] theorem serveAll_nil (book : Book) : book.serveAll [] = book := rfl

@[simp] theorem serveAll_cons (book : Book) (request : Request) (rest : List Request) :
    book.serveAll (request :: rest) = (book.serve request).serveAll rest := rfl

theorem serveAll_append (book : Book) (requests more : List Request) :
    book.serveAll (requests ++ more) = (book.serveAll requests).serveAll more :=
  List.foldl_append

theorem exchanges_append (book : Book) (requests more : List Request) :
    book.exchanges (requests ++ more) =
      book.exchanges requests ++ (book.serveAll requests).exchanges more := by
  induction requests generalizing book with
  | nil => rfl
  | cons request rest ih => simp [exchanges, ih]

/-- The exchanges are about the requests. -/
theorem map_fst_exchanges (book : Book) (requests : List Request) :
    (book.exchanges requests).map Prod.fst = requests := by
  induction requests generalizing book with
  | nil => rfl
  | cons request rest ih => simp [exchanges, ih]

/-- A refused request is noted and has no effect. -/
theorem serve_of_refused {refusal : Refusal} (h : book.refusal? = some refusal) :
    book.serve request = book.noted request := by
  rw [serve, h]

/-- A request that is not refused has its effect. -/
theorem serve_of_granted (h : book.refusal? = none) :
    book.serve request = (book.noted request).grant request := by
  rw [serve, h]

/-- Whether it is refused or not, a request is noted. -/
@[simp] theorem log_serve (book : Book) (request : Request) :
    (book.serve request).log = request :: book.log := by
  unfold serve
  cases book.refusal? <;> cases request <;> rfl

/-- No request changes the refusals that are scheduled. -/
@[simp] theorem refusals_serve (book : Book) (request : Request) :
    (book.serve request).refusals = book.refusals := by
  unfold serve
  cases book.refusal? <;> cases request <;> rfl

/-- No request changes the values of formulas. -/
@[simp] theorem formulas_serve (book : Book) (request : Request) :
    (book.serve request).formulas = book.formulas := by
  unfold serve
  cases book.refusal? <;> cases request <;> rfl

/-- All requests are noted, the latest first. -/
theorem log_serveAll (book : Book) (requests : List Request) :
    (book.serveAll requests).log = requests.reverse ++ book.log := by
  induction requests generalizing book with
  | nil => rfl
  | cons request rest ih => simp [ih]

/-- What is stored under another range than the one that is emptied stays. -/
theorem lookup_erase {range other : Text} (book : Book) (h : other ≠ range) :
    (book.erase range).store.lookup other = book.store.lookup other := by
  change (book.store.filter fun entry => entry.1 ≠ range).lookup other = _
  induction book.store with
  | nil => rfl
  | cons entry rest ih =>
    obtain ⟨name, values⟩ := entry
    by_cases hname : name = range
    · have hother : (other == name) = false := by simpa [hname] using h
      rw [List.filter_cons_of_neg (by simpa using hname), List.lookup_cons, hother]
      exact ih
    · rw [List.filter_cons_of_pos (by simpa using hname), List.lookup_cons, List.lookup_cons, ih]

/-- Nothing is stored under a range that is emptied. -/
theorem lookup_erase_self (book : Book) (range : Text) :
    (book.erase range).store.lookup range = none := by
  rw [List.lookup_eq_none_iff]
  intro entry hentry
  have hne : entry.1 ≠ range := by simpa using (List.mem_filter.mp hentry).2
  simpa using hne.symm

/-- What is stored under another range than the one that is written stays. -/
theorem lookup_put {range other : Text} (book : Book) (values : Grid) (h : other ≠ range) :
    (book.put range values).store.lookup other = book.store.lookup other := by
  have hother : (other == range) = false := by simpa using h
  rw [← book.lookup_erase h]
  exact (List.lookup_cons ..).trans (by rw [hother])

/-- A grid that is stored is found under its range. -/
theorem lookup_put_self (book : Book) (range : Text) (values : Grid) :
    (book.put range values).store.lookup range = some values := by
  simp [put]

/-- A request changes nothing but the range that it is about. -/
theorem lookup_serve {range : Text} (book : Book) (h : request.replaced? ≠ some range) :
    (book.serve request).store.lookup range = book.store.lookup range := by
  unfold serve
  cases book.refusal? with
  | some _ => rfl
  | none =>
    cases request with
    | write _ other values =>
      exact (book.noted _).lookup_put values fun heq => h (congrArg some heq.symm)
    | clear _ other => exact (book.noted _).lookup_erase fun heq => h (congrArg some heq.symm)
    | _ => rfl

/-- Every sheet stays, and no other sheet appears but one that a request is to add. -/
theorem mem_sheetTitles_serve {sheet : Text}
    (h : ∀ spreadsheet, request ≠ .addSheet spreadsheet sheet) :
    sheet ∈ (book.serve request).sheetTitles ↔ sheet ∈ book.sheetTitles := by
  unfold serve
  cases book.refusal? with
  | some _ => rfl
  | none =>
    cases request with
    | addSheet spreadsheet title =>
      have hne : sheet ≠ title := by
        rintro rfl
        exact h spreadsheet rfl
      have htitles : ((book.noted (.addSheet spreadsheet title)).grant
          (.addSheet spreadsheet title)).sheetTitles = book.sheetTitles ++ [title] := rfl
      rw [htitles, List.mem_append, List.mem_singleton]
      exact or_iff_left hne
    | _ => rfl

end Effects

/-- Since a book was in one state, it has received requests of the allowed kind only. -/
def Served (allowed : Request → Prop) (before after : Book) : Prop :=
  ∃ requests, after = before.serveAll requests ∧ ∀ request ∈ requests, allowed request

namespace Served

variable {allowed : Request → Prop} {before after : Book}

/-- No request is needed to stay the same. -/
theorem refl (book : Book) : Served allowed book book := ⟨[], rfl, by simp⟩

/-- More requests of the kind may follow. -/
theorem trans {last : Book} (h : Served allowed before after) (hlast : Served allowed after last) :
    Served allowed before last := by
  obtain ⟨requests, rfl, hrequests⟩ := h
  obtain ⟨more, rfl, hmore⟩ := hlast
  refine ⟨requests ++ more, (serveAll_append ..).symm, fun request hrequest => ?_⟩
  rcases List.mem_append.mp hrequest with hrequest | hrequest
  · exact hrequests request hrequest
  · exact hmore request hrequest

/-- One more request of the kind may follow. -/
theorem serve (h : Served allowed before after) {request : Request} (hrequest : allowed request) :
    Served allowed before (after.serve request) :=
  h.trans ⟨[request], rfl, by simpa using hrequest⟩

/-- Requests of a kind are of every kind that includes it. -/
theorem mono {wider : Request → Prop} (h : Served allowed before after)
    (hwider : ∀ request, allowed request → wider request) : Served wider before after := by
  obtain ⟨requests, hbook, hrequests⟩ := h
  exact ⟨requests, hbook, fun request hrequest => hwider request (hrequests request hrequest)⟩

/-- A property that every allowed request keeps is kept. -/
theorem keeps {P : Book → Prop} (h : Served allowed before after)
    (hkeeps : ∀ book request, allowed request → P book → P (book.serve request))
    (hbefore : P before) : P after := by
  obtain ⟨requests, rfl, hrequests⟩ := h
  induction requests generalizing before with
  | nil => exact hbefore
  | cons request rest ih =>
    exact ih (hkeeps before request (hrequests request List.mem_cons_self) hbefore)
      fun other hother => hrequests other (List.mem_cons_of_mem _ hother)

/-- The requests that have been noted are of the kind. -/
theorem log_eq (h : Served allowed before after) :
    ∃ requests, after.log = requests ++ before.log ∧ ∀ request ∈ requests, allowed request := by
  refine h.keeps (P := fun book => ∃ requests, book.log = requests ++ before.log ∧
    ∀ request ∈ requests, allowed request) ?_ ⟨[], rfl, by simp⟩
  rintro book request hallowed ⟨requests, hlog, hrequests⟩
  refine ⟨request :: requests, by simp [hlog], ?_⟩
  intro other hother
  rcases List.mem_cons.mp hother with rfl | hother
  · exact hallowed
  · exact hrequests other hother

/-- A range that no allowed request is about keeps its content. -/
theorem lookup_eq (h : Served allowed before after) {range : Text}
    (hrange : ∀ request, allowed request → request.replaced? ≠ some range) :
    after.store.lookup range = before.store.lookup range :=
  h.keeps (P := fun book => book.store.lookup range = before.store.lookup range)
    (fun book request hallowed hbook => (book.lookup_serve (hrange request hallowed)).trans hbook)
    rfl

/-- Scheduled refusals stay. -/
theorem refusals_eq (h : Served allowed before after) : after.refusals = before.refusals :=
  h.keeps (P := fun book => book.refusals = before.refusals)
    (fun book request _ hbook => (book.refusals_serve request).trans hbook) rfl

/-- Values of formulas stay. -/
theorem formulas_eq (h : Served allowed before after) : after.formulas = before.formulas :=
  h.keeps (P := fun book => book.formulas = before.formulas)
    (fun book request _ hbook => (book.formulas_serve request).trans hbook) rfl

/-- A sheet that no allowed request is to add is there if it was there before. -/
theorem mem_sheetTitles_iff (h : Served allowed before after) {sheet : Text}
    (hsheet : ∀ spreadsheet, ¬ allowed (.addSheet spreadsheet sheet)) :
    sheet ∈ after.sheetTitles ↔ sheet ∈ before.sheetTitles :=
  h.keeps (P := fun book => sheet ∈ book.sheetTitles ↔ sheet ∈ before.sheetTitles)
    (fun _ _ hallowed hbook => (mem_sheetTitles_serve fun spreadsheet heq =>
      hsheet spreadsheet (heq ▸ hallowed)).trans hbook) Iff.rfl

end Served

/-- Between two books, the requests that change a book have been of the given kind, and only the
given ranges have got another content. -/
structure Confined (kind : Request → Prop) (ranges : List Text) (before after : Book) : Prop where
  requests : ∃ requests, after.log = requests ++ before.log ∧
    ∀ request ∈ requests, request.Mutates → kind request
  elsewhere : ∀ range, range ∉ ranges →
    after.store.lookup range = before.store.lookup range

/-- Requests confine a book to what those of them do that change it. -/
theorem Served.confined {allowed kind : Request → Prop} {ranges : List Text} {before after : Book}
    (h : Served allowed before after)
    (hkind : ∀ request, allowed request → request.Mutates → kind request)
    (hranges : ∀ request range, kind request → request.replaced? = some range → range ∈ ranges) :
    Confined kind ranges before after := by
  obtain ⟨requests, hlog, hrequests⟩ := h.log_eq
  refine ⟨⟨requests, hlog, fun request hrequest => hkind request (hrequests request hrequest)⟩,
    fun range hrange => h.lookup_eq fun request hallowed hreplaced => ?_⟩
  have hmutates : request.Mutates := by
    cases request <;> simp [Request.replaced?, Request.Mutates] at hreplaced ⊢
  exact hrange (hranges request range (hkind request hallowed hmutates) hreplaced)

end Book

namespace Connection

variable {α : Type}

/-- The connection after a request. Without credentials none is sent. -/
def serve (access : Access) (s : Connection) (request : Request) : Connection :=
  match access with
  | .granted => { s with book := s.book.serve request }
  | .noCredentials _ => s

/-- What the client gives for a request that it sends for an action: a value, unless there are
no credentials or the request is refused. -/
def answer (access : Access) (s : Connection) (action : Action) (value : α) :
    Except ClientError α :=
  match access with
  | .noCredentials path => .error (.noCredentials path)
  | .granted =>
    match s.book.refusal? with
    | some refusal => .error (.refused action refusal)
    | none => .ok value

/-- A refused request gives an error of its action. -/
theorem answer_of_refused {s : Connection} {refusal : Refusal} (h : s.book.refusal? = some refusal)
    (action : Action) (value : α) :
    s.answer .granted action value = .error (.refused action refusal) := by
  rw [answer, h]

/-- A request that is granted gives the value. -/
theorem answer_of_granted {s : Connection} (h : s.book.refusal? = none) (action : Action)
    (value : α) : s.answer .granted action value = .ok value := by
  rw [answer, h]

/-- Between two connections the requests of a transcript have been sent, one by one, and
answered as the book has it. -/
def Exchanged (s : Connection) (transcript : List Exchange) (s' : Connection) : Prop :=
  ∃ requests, s'.book = s.book.serveAll requests ∧ transcript = s.book.exchanges requests

namespace Exchanged

variable {s t s' : Connection} {transcript more : List Exchange}

/-- Nothing needs to be sent for the same book. -/
theorem refl (h : s'.book = s.book) : s.Exchanged [] s' := ⟨[], h, rfl⟩

/-- A request comes before others. -/
theorem cons {request : Request} {answer : Option Refusal} (hanswer : s.book.refusal? = answer)
    (h : (s.serve .granted request).Exchanged transcript s') :
    s.Exchanged ((request, answer) :: transcript) s' := by
  obtain ⟨requests, hbook, rfl⟩ := h
  exact ⟨request :: requests, hbook, by rw [← hanswer]; rfl⟩

/-- One transcript is continued by another. -/
theorem append (h : s.Exchanged transcript t) (hmore : t.Exchanged more s') :
    s.Exchanged (transcript ++ more) s' := by
  obtain ⟨requests, hbook, rfl⟩ := h
  obtain ⟨others, hbook', rfl⟩ := hmore
  exact ⟨requests ++ others, by rw [hbook', hbook, Book.serveAll_append],
    by rw [Book.exchanges_append, hbook]⟩

/-- The requests of a transcript are noted, the latest first. -/
theorem log_eq (h : s.Exchanged transcript s') :
    s'.book.log = (transcript.map Prod.fst).reverse ++ s.book.log := by
  obtain ⟨requests, hbook, rfl⟩ := h
  rw [hbook, Book.map_fst_exchanges, Book.log_serveAll]

/-- A transcript whose requests are all of a kind. -/
theorem served {allowed : Request → Prop} (h : s.Exchanged transcript s')
    (hallowed : ∀ e ∈ transcript, allowed e.1) : Book.Served allowed s.book s'.book := by
  obtain ⟨requests, hbook, rfl⟩ := h
  refine ⟨requests, hbook, fun request hrequest => ?_⟩
  rw [← Book.map_fst_exchanges s.book requests] at hrequest
  obtain ⟨e, he, rfl⟩ := List.mem_map.mp hrequest
  exact hallowed e he

/-- A transcript with a first request goes on from where that leads. -/
theorem of_cons {request : Request} {answer : Option Refusal}
    (h : s.Exchanged ((request, answer) :: transcript) s') :
    s.book.refusal? = answer ∧ (s.serve .granted request).Exchanged transcript s' := by
  obtain ⟨requests, hbook, htranscript⟩ := h
  cases requests with
  | nil => simp [Book.exchanges] at htranscript
  | cons other rest =>
    obtain ⟨hfirst, rfl⟩ := List.cons.inj htranscript
    obtain ⟨rfl, rfl⟩ := Prod.mk.inj hfirst
    exact ⟨rfl, rest, hbook, rfl⟩

/-- A book without scheduled refusals grants everything. -/
theorem granted (h : s.Exchanged transcript s') (hrefusals : s.book.refusals = []) :
    ∀ e ∈ transcript, e.2 = none := by
  induction transcript generalizing s with
  | nil => simp
  | cons e rest ih =>
    obtain ⟨hanswer, hrest⟩ := of_cons h
    have hfirst : e.2 = none := by
      rw [← hanswer, Book.refusal?, hrefusals]
      rfl
    have hlater := ih hrest ((s.book.refusals_serve e.1).trans hrefusals)
    exact List.forall_mem_cons.mpr ⟨hfirst, hlater⟩

/-- A transcript in two parts has a connection between them. -/
theorem split {front : List Exchange} (h : s.Exchanged (front ++ transcript) s') :
    ∃ t, s.Exchanged front t ∧ t.Exchanged transcript s' := by
  induction front generalizing s with
  | nil => exact ⟨s, .refl rfl, h⟩
  | cons e front ih =>
    obtain ⟨hanswer, hrest⟩ := of_cons h
    obtain ⟨t, hfront, hback⟩ := ih hrest
    exact ⟨t, .cons hanswer hfront, hback⟩

/-- A range keeps its content if no granted request is about it. -/
theorem lookup_eq {range : Text} (h : s.Exchanged transcript s')
    (hrange : ∀ e ∈ transcript, e.2 = none → e.1.replaced? ≠ some range) :
    s'.book.store.lookup range = s.book.store.lookup range := by
  induction transcript generalizing s with
  | nil =>
    obtain ⟨requests, hbook, hnone⟩ := h
    have hrequests : requests = [] := by
      rw [← Book.map_fst_exchanges s.book requests, ← hnone, List.map_nil]
    rw [hbook, hrequests, Book.serveAll_nil]
  | cons e rest ih =>
    obtain ⟨hanswer, hrest⟩ := of_cons h
    have hfirst : (s.book.serve e.1).store.lookup range = s.book.store.lookup range := by
      cases hrefused : s.book.refusal? with
      | some refusal => rw [Book.serve_of_refused hrefused]; rfl
      | none => exact s.book.lookup_serve (hrange e List.mem_cons_self (hanswer ▸ hrefused))
    exact (ih hrest fun other hother => hrange other (List.mem_cons_of_mem e hother)).trans hfirst

/-- Nothing is stored under a range that is cleared and not filled again. -/
theorem lookup_eq_none (front : List Exchange) {back : List Exchange} {spreadsheet range : Text}
    (h : s.Exchanged (front ++ (.clear spreadsheet range, none) :: back) s')
    (hback : ∀ e ∈ back, e.2 = none → e.1.replaced? ≠ some range) :
    s'.book.store.lookup range = none := by
  obtain ⟨t, -, hlast⟩ := h.split
  obtain ⟨hgranted, hrest⟩ := hlast.of_cons
  have hcleared : (t.serve .granted (.clear spreadsheet range)).book.store.lookup range = none := by
    rw [Connection.serve, Book.serve_of_granted hgranted]
    exact Book.lookup_erase_self _ range
  exact (hrest.lookup_eq hback).trans hcleared

end Exchanged

end Connection

namespace Client

variable {access : Access} {spreadsheet : Text}

/-- Asking notes the request, and fails if it is refused. -/
theorem outcome_ask (action : Action) (request : Request) (s : Connection) :
    outcome (ask .granted action request) s =
      (s.answer .granted action (), { s with book := s.book.noted request }) := by
  have hsend : outcome (send .granted request) s =
      (.ok s.book.refusal?, { s with book := s.book.noted request }) := rfl
  rw [ask, outcome_bind, hsend, Connection.answer]
  cases s.book.refusal? <;> rfl

/-- A computation that asks and goes on when it is granted is one request with its answer. -/
theorem outcome_ask_bind {α : Type} {action : Action} {request : Request} {next : Client α}
    (value : Connection → α) {s : Connection}
    (hnext : outcome next { s with book := s.book.noted request } =
      (.ok (value s), { s with book := (s.book.noted request).grant request })) :
    outcome (ask access action request >>= fun _ => next) s =
      (s.answer access action (value s), s.serve access request) := by
  cases access with
  | noCredentials path => rfl
  | granted =>
    rw [outcome_bind, outcome_ask, Connection.answer, Connection.answer, Connection.serve,
      Book.serve]
    cases s.book.refusal? with
    | some refusal => rfl
    | none => exact hnext

/-- The titles are asked for by one request. -/
theorem outcome_sheetTitles (s : Connection) :
    outcome (sheetTitles access spreadsheet) s =
      (s.answer access .listTitles s.book.sheetTitles,
        s.serve access (.listTitles spreadsheet)) :=
  outcome_ask_bind (fun s => s.book.sheetTitles) rfl

/-- A sheet is added by one request. -/
theorem outcome_addSheet (title : Text) (s : Connection) :
    outcome (addSheet access spreadsheet title) s =
      (s.answer access (.addSheet title) (), s.serve access (.addSheet spreadsheet title)) :=
  outcome_ask_bind (fun _ => ()) rfl

/-- A range is read by one request. -/
theorem outcome_read (range rendering : Text) (s : Connection) :
    outcome (read access spreadsheet range rendering) s =
      (s.answer access .read (s.book.rendered range rendering),
        s.serve access (.read spreadsheet range rendering)) :=
  outcome_ask_bind (fun s => s.book.rendered range rendering) rfl

/-- A range is cleared by one request. -/
theorem outcome_clear (range : Text) (s : Connection) :
    outcome (clear access spreadsheet range) s =
      (s.answer access .clear (), s.serve access (.clear spreadsheet range)) :=
  outcome_ask_bind (fun _ => ()) rfl

/-- A grid with rows is written by one request. -/
theorem outcome_writeOrFail (action : Action) (range : Text) {values : Grid} (hrows : values ≠ [])
    (s : Connection) :
    outcome (writeOrFail access action spreadsheet range values) s =
      (s.answer access action (), s.serve access (.write spreadsheet range values)) := by
  rw [writeOrFail, write, if_neg hrows]
  cases access with
  | noCredentials path => rfl
  | granted =>
    have hsend : outcome (send .granted (.write spreadsheet range values)) s =
        (.ok s.book.refusal?, { s with book := s.book.noted (.write spreadsheet range values) }) :=
      rfl
    rw [outcome_bind, outcome_bind, hsend, Connection.answer, Connection.serve, Book.serve]
    cases s.book.refusal? <;> rfl

end Client

/-- A computation that is one allowed request sends allowed requests, and fails for that
request's action only. -/
theorem Satisfies.of_request {α : Type} {x : Client α} {allowed : Request → Prop} {before : Book}
    {access : Access} {action : Action} {request : Request} {value : Connection → α}
    {failure : ClientError → Connection → Prop}
    (hx : ∀ s, outcome x s = (s.answer access action (value s), s.serve access request))
    (hallowed : allowed request)
    (hfailure : ∀ e s, (∀ other refusal, e = .refused other refusal → other = action) →
      failure e s) :
    Satisfies (fun s => before.Served allowed s.book) (fun _ => True) failure x := by
  intro s hs
  rw [hx]
  cases access with
  | noCredentials path => exact ⟨hs, hfailure _ _ nofun⟩
  | granted =>
    have hserved : before.Served allowed (s.serve .granted request).book := hs.serve hallowed
    cases hanswer : s.book.refusal? with
    | some refusal =>
      rw [Connection.answer_of_refused hanswer]
      refine ⟨hserved, hfailure _ _ ?_⟩
      rintro other refusal heq
      exact (ClientError.refused.inj heq).1.symm
    | none =>
      rw [Connection.answer_of_granted hanswer]
      exact ⟨hserved, True.intro⟩

end Rowscript
