import Rowscript.Proofs.Addresses
import Rowscript.Proofs.History

/-!
# Cells that formulas refer to

A formula column is written with addresses in the place of references to other outputs of its
row. The addresses are made before the row is computed, from the headers and from how many
rows have been kept so far. This file reads them back in the output sheet: each one names a
cell of the row that it stands in, below the header that was referred to.
-/

namespace Rowscript

/-- The last place of a header among headers. -/
def LastAt (header : Text) (headers : List Text) (i : Nat) : Prop :=
  headers[i]? = some header ∧ header ∉ headers.drop (i + 1)

/-- A header that occurs has a last place. -/
theorem exists_lastAt {header : Text} {headers : List Text} (h : header ∈ headers) :
    ∃ i, LastAt header headers i := by
  induction headers with
  | nil => simp at h
  | cons first rest ih =>
    by_cases hrest : header ∈ rest
    · obtain ⟨i, hi⟩ := ih hrest
      exact ⟨i + 1, hi⟩
    · obtain rfl | h := List.mem_cons.mp h
      · exact ⟨0, rfl, hrest⟩
      · exact absurd h hrest

/-- Of named values in reverse order the last one counts. -/
theorem lookup_reverse_eq_some_iff {α : Type} {bindings : Bindings α} {name : Text} {value : α} :
    bindings.reverse.lookup name = some value ↔
      ∃ i, bindings[i]? = some (name, value) ∧ LastAt name (bindings.map Prod.fst) i := by
  rw [List.lookup_eq_some_iff]
  constructor
  · rintro ⟨after, before, hsplit, hafter⟩
    obtain rfl : bindings = before.reverse ++ (name, value) :: after.reverse := by
      rw [← bindings.reverse_reverse, hsplit]
      simp
    refine ⟨before.length, by simp, by simp, ?_⟩
    rw [← List.map_drop, List.append_cons, List.drop_left' (by simp)]
    intro hmem
    obtain ⟨entry, hentry, rfl⟩ := List.mem_map.mp hmem
    simpa using hafter entry (List.mem_reverse.mp hentry)
  · rintro ⟨i, hi, -, hlast⟩
    obtain ⟨hlength, hget⟩ := List.getElem?_eq_some_iff.mp hi
    refine ⟨(bindings.drop (i + 1)).reverse, (bindings.take i).reverse, ?_, ?_⟩
    · rw [← List.reverse_inj]
      simp [← hget]
    · intro entry hentry
      simp only [bne_iff_ne]
      rintro rfl
      refine hlast ?_
      rw [← List.map_drop]
      exact List.mem_map_of_mem (List.mem_reverse.mp hentry)

/-- Every header has the address of its last column. -/
theorem RuleSet.lookup_addresses {rules : RuleSet} {outputRow : Nat} {header address : Text} :
    (rules.addresses outputRow).lookup header = some address ↔
      ∃ i, LastAt header rules.outputHeaders i ∧ address = cellAddress i outputRow := by
  have hnames : (rules.outputHeaders.mapIdx fun i header =>
      (header, cellAddress i outputRow)).map Prod.fst = rules.outputHeaders := by
    refine List.ext_getElem? fun i => ?_
    simp [Option.map_map, Function.comp_def]
  rw [addresses, lookup_reverse_eq_some_iff, hnames]
  refine exists_congr fun i => ?_
  rw [List.getElem?_mapIdx, and_comm, LastAt]
  constructor
  · rintro ⟨⟨hi, hlast⟩, hentry⟩
    refine ⟨⟨hi, hlast⟩, ?_⟩
    simpa [hi, eq_comm] using hentry
  · rintro ⟨⟨hi, hlast⟩, rfl⟩
    exact ⟨⟨hi, hlast⟩, by simp [hi]⟩

/-- In the output of a transformation, an address names a cell of a row, counted from one,
below a header. The number of the row is read as one unless it has too many digits. -/
def NamesCell (t : Transformed) (row : Nat) (header address : Text) : Prop :=
  ∃ letters digits index headers,
    splitAddress? address = some (letters, digits) ∧ Text.digitsValue digits = row ∧
      (row < 10 ^ Number.digitLimit → readAddress address = .ok (letters, row)) ∧
      Column.toIndex letters = (index : Nat) ∧
      t.values[0]? = some headers ∧ headers[index]? = some header

/-- The address of a column names the cells below its header. -/
theorem namesCell_cellAddress {t : Transformed} {header : Text} {i : Nat}
    (hheader : t.headers[i]? = some header) (row : Nat) :
    NamesCell t row header (cellAddress i row) :=
  ⟨Column.ofIndex i, Number.renderNat row, i, t.headers, splitAddress?_cellAddress i row,
    Number.digitsValue_renderNat row, readAddress_cellAddress, Column.toIndex_ofIndex i, rfl,
    hheader⟩

/-- The template of a formula column, in which references to outputs are written as addresses. -/
def Output.template? : Output → Option Text
  | formula template => some template
  | expression _ raw true => if raw.head? = some '=' then some raw else none
  | _ => none

/-- Without live references the addresses play no part. -/
theorem Context.resolve_false_addresses (ctx : Context) (addresses : Bindings Text)
    (template : Text) :
    { ctx with addresses := addresses }.resolve false template = ctx.resolve false template := by
  have hpiece : { ctx with addresses := addresses }.resolvePiece false =
      ctx.resolvePiece false := by
    funext piece
    cases piece <;> rfl
  rw [resolve_eq_flatMap, hpiece, resolve_eq_flatMap]

/-- A reference whose address is known is written as the address. -/
theorem Context.resolvePiece_of_address? {ctx : Context} {r : Reference} {address : Text}
    (h : ctx.address? r = some address) : ctx.resolvePiece true (.reference r) = address := by
  simp [resolvePiece_reference_eq, h]

section Templates

variable {σ ε : Type} {sandbox : Sandbox σ ε}

/-- A column with a template is resolved as a formula. -/
theorem Output.resolve_of_template? {output : Output} {template : Text}
    (h : output.template? = some template) (ctx : Context) :
    output.resolve sandbox ctx = resolveFormula sandbox ctx template := by
  unfold template? at h
  split at h
  · obtain rfl := Option.some.inj h
    rfl
  · obtain ⟨hhead, htemplate⟩ := Option.ite_none_right_eq_some.mp h
    obtain rfl := Option.some.inj htemplate
    rw [resolve, if_pos hhead, if_pos rfl]
  · simp at h

/-- In a column without a template no address is written. -/
theorem Output.resolve_of_template?_eq_none {output : Output} (h : output.template? = none)
    (ctx : Context) (addresses : Bindings Text) :
    output.resolve sandbox { ctx with addresses := addresses } = output.resolve sandbox ctx := by
  cases output with
  | direct column => rfl
  | constant value => rfl
  | formula template => simp [template?] at h
  | expression tokens raw hasReference =>
    have hshown : ({ ctx with addresses := addresses }.forDisplay).resolve false raw =
        ctx.forDisplay.resolve false raw :=
      ctx.forDisplay.resolve_false_addresses addresses raw
    rw [resolve_expression, resolve_expression, hshown]
    cases hasReference with
    | true =>
      have hhead : raw.head? ≠ some '=' := by simpa [template?] using h
      rw [if_neg hhead, if_neg hhead]
    | false => rfl

/-- A formula is written with addresses, and its value is what the sandbox answers to the text
with literals in their place. -/
theorem outcome_resolveFormula {ctx : Context} {template : Text} {resolved : Resolved} {s s' : σ}
    (h : outcome (resolveFormula sandbox ctx template) s = (.ok resolved, s')) :
    resolved.literal = .text (ctx.forFormula.resolve true template) ∧
      outcome (sandbox (ctx.forFormula.resolve false template)) s =
        (.ok resolved.evaluated, s') := by
  rw [resolveFormula_eq] at h
  obtain ⟨value, t, hvalue, hresolved⟩ := outcome_bind_eq_ok_iff.mp h
  rw [evaluateFormula_eq, submit, outcome_adapt_eq_ok_iff] at hvalue
  simp only [outcome_pure, Prod.mk.injEq, Except.ok.injEq] at hresolved
  obtain ⟨rfl, rfl⟩ := hresolved
  exact ⟨rfl, hvalue⟩

/-- What is written and what is submitted for a formula column. -/
theorem ComputedFrom.formula {ctx : Context} {outputs : List OutputRule}
    {columns : List ComputedColumn} (h : ComputedFrom sandbox ctx outputs columns)
    {column : ComputedColumn} (hcolumn : column ∈ columns) {template : Text}
    (htemplate : column.rule.output.template? = some template) :
    column.resolved.literal = .text (column.context.forFormula.resolve true template) ∧
      ∃ s s', outcome (sandbox (column.context.forFormula.resolve false template)) s =
        (.ok column.resolved.evaluated, s') := by
  obtain ⟨s, s', hresolve⟩ := h.resolve_eq column hcolumn
  rw [Output.resolve_of_template? htemplate] at hresolve
  obtain ⟨hliteral, hevaluated⟩ := outcome_resolveFormula hresolve
  exact ⟨hliteral, s, s', hevaluated⟩

end Templates

/-- A formula column refers to an output by an address that it is written with. -/
def ComputedColumn.WritesAddress (column : ComputedColumn) (header address : Text) : Prop :=
  ∃ template, column.rule.output.template? = some template ∧
    ⟨.output, header⟩ ∈ references template ∧
    column.context.address? ⟨.output, header⟩ = some address

/-- Computing columns changes nothing of a context but the outputs. -/
@[simp] theorem Context.after_addresses (ctx : Context) (columns : List ComputedColumn) :
    (ctx.after columns).addresses = ctx.addresses := by
  induction columns generalizing ctx with
  | nil => rfl
  | cons column rest ih => exact ih _

/-- The addresses of a row name cells of an output row. -/
structure ProcessedRow.Addressed (row : ProcessedRow) (t : Transformed) (outputRow : Nat) :
    Prop where
  /-- The row is found there. -/
  cells_eq : t.values[outputRow - 1]? = some row.cells
  /-- Every header has an address. -/
  lookup : ∀ header ∈ t.headers, ∃ address,
    row.context.addresses.lookup header = some address ∧ NamesCell t outputRow header address
  /-- A formula column is written as its template, with the addresses that are known. -/
  literal_eq : ∀ column ∈ row.columns, ∀ template,
    column.rule.output.template? = some template →
    column.resolved.literal = .text (column.context.forFormula.resolve true template)
  /-- Every address that a column is written with stands in the place of a reference and names
  a cell of the row. -/
  written : ∀ column ∈ row.columns, ∀ header address, column.WritesAddress header address →
    column.context.forFormula.resolvePiece true (.reference ⟨.output, header⟩) = address ∧
      NamesCell t outputRow header address

section Runs

variable {σ ε : Type} {sandbox : Sandbox σ ε}

/-- A kept row has the addresses of the output row that it becomes. -/
theorem ProcessedFrom.addresses_eq {source : Source} {rules : RuleSet} {rows : List (List Text)}
    {history : List ProcessedRow} (h : ProcessedFrom sandbox source rules 0 rows history) {k : Nat}
    {row : ProcessedRow} (hrow : (keptRows history)[k]? = some row) :
    row.context.addresses = rules.addresses (k + 2) := by
  rw [h.context_eq k row hrow, Nat.zero_add, Nat.add_comm k]
  rfl

/-- An address that a kept row is written with is that of its last column with the header. -/
theorem ProcessedFrom.exists_lastAt_of_writesAddress {source : Source} {rules : RuleSet}
    {rows : List (List Text)} {history : List ProcessedRow}
    (h : ProcessedFrom sandbox source rules 0 rows history) {k : Nat} {row : ProcessedRow}
    (hrow : (keptRows history)[k]? = some row) {column : ComputedColumn}
    (hcolumn : column ∈ row.columns) {header address : Text}
    (hwrites : column.WritesAddress header address) :
    ∃ i, LastAt header rules.outputHeaders i ∧ address = cellAddress i (k + 2) := by
  obtain ⟨template, -, -, haddress⟩ := hwrites
  obtain ⟨j, hj⟩ := List.mem_iff_getElem?.mp hcolumn
  rw [Context.address?, (h.columns_of_kept hrow).context_eq j column hj, Context.after_addresses,
    h.addresses_eq hrow] at haddress
  exact RuleSet.lookup_addresses.mp haddress

/-- Every row that is kept becomes the next output row, and its addresses are those of its own
cells, no matter how many rows before it were dropped. -/
theorem ProcessedFrom.addressed {source : Source} {rules : RuleSet} {rows : List (List Text)}
    {history : List ProcessedRow} (h : ProcessedFrom sandbox source rules 0 rows history) {k : Nat}
    {row : ProcessedRow} (hrow : (keptRows history)[k]? = some row) :
    row.Addressed (rules.summary history) (k + 2) := by
  constructor
  · change ((keptRows history).map ProcessedRow.cells)[k]? = some row.cells
    rw [List.getElem?_map, hrow]
    rfl
  · intro header hheader
    obtain ⟨i, hi⟩ := exists_lastAt hheader
    have haddress : row.context.addresses.lookup header = some (cellAddress i (k + 2)) := by
      rw [h.addresses_eq hrow]
      exact RuleSet.lookup_addresses.mpr ⟨i, hi, rfl⟩
    exact ⟨_, haddress, namesCell_cellAddress hi.1 (k + 2)⟩
  · intro column hcolumn template htemplate
    exact ((h.columns_of_kept hrow).formula hcolumn htemplate).1
  · intro column hcolumn header address hwrites
    obtain ⟨i, hi, rfl⟩ := h.exists_lastAt_of_writesAddress hrow hcolumn hwrites
    obtain ⟨template, -, -, haddress⟩ := hwrites
    exact ⟨Context.resolvePiece_of_address? haddress, namesCell_cellAddress hi.1 (k + 2)⟩

/-- Live references name the right cells: a mapping that is loaded transforms every table when
the sandbox has a value for every formula, and the addresses of every row that is kept are
those of its own cells in the output, below the headers that they stand for. -/
theorem RuleSet.addressed_of_load {headers : List Text} {mapping : List (Text × Text)}
    {rules : RuleSet} (hload : load headers mapping = .ok rules) (htotal : sandbox.Total)
    (source : Source) (s : σ) :
    ∃ history s', outcome (processHistory sandbox source rules 0 source.rows) s =
        (.ok history, s') ∧
      outcome (rules.run sandbox source) s = (.ok (rules.summary history), s') ∧
      ∀ k (row : ProcessedRow), (keptRows history)[k]? = some row →
        row.Addressed (rules.summary history) (k + 2) := by
  obtain ⟨history, s', hhistory, hrun, hprocessed⟩ := exists_history_of_load hload htotal source s
  exact ⟨history, s', hhistory, hrun, fun k row hrow => hprocessed.addressed hrow⟩

/-- A dropped row leaves no gap, and of two columns with the same header the last one is
referred to. -/
theorem RuleSet.addressed_dropped_row :
    ∃ rules, load ["N".toList] [("A".toList, "src[N]".toList),
        ("B".toList, "formula:=self[A]+1".toList), ("A".toList, "formula:=self[B]*2".toList),
        ("_filter:x".toList, "eval:src[N] != \"-\"".toList)] = .ok rules ∧
      ∃ history s', outcome (processHistory (.answering fun _ => .text [] : Sandbox Unit Unit)
          ⟨["N".toList], [["-".toList], ["5".toList]]⟩ rules 0 [["-".toList], ["5".toList]]) () =
          (.ok history, s') ∧
        (rules.summary history).rows = [["5".toList, "=C2+1".toList, "=B2*2".toList]] ∧
        ∀ k (row : ProcessedRow), (keptRows history)[k]? = some row →
          row.Addressed (rules.summary history) (k + 2) := by
  let rules : RuleSet :=
    ⟨[⟨"A".toList, .expression [⟨.sourceRef, "N".toList, "src[N]".toList⟩] "src[N]".toList true⟩,
        ⟨"B".toList, .formula "=self[A]+1".toList⟩, ⟨"A".toList, .formula "=self[B]*2".toList⟩],
      [⟨"x".toList, "eval:src[N] != \"-\"".toList, true,
        .anyOf [.comparison (.reference ⟨.source, "N".toList⟩) "!=".toList
          (.string "-".toList)]⟩]⟩
  have hload : load ["N".toList] [("A".toList, "src[N]".toList),
      ("B".toList, "formula:=self[A]+1".toList), ("A".toList, "formula:=self[B]*2".toList),
      ("_filter:x".toList, "eval:src[N] != \"-\"".toList)] = .ok rules := by
    decide +kernel
  have htotal : (Sandbox.answering fun _ => .text [] : Sandbox Unit Unit).Total :=
    Sandbox.total_answering _
  have hrows : (outcome (rules.run (.answering fun _ => .text [] : Sandbox Unit Unit)
      ⟨["N".toList], [["-".toList], ["5".toList]]⟩) ()).1.map Transformed.rows =
        .ok [["5".toList, "=C2+1".toList, "=B2*2".toList]] := by
    decide +kernel
  obtain ⟨history, s', hhistory, hrun, haddressed⟩ :=
    addressed_of_load hload htotal ⟨["N".toList], [["-".toList], ["5".toList]]⟩ ()
  rw [hrun] at hrows
  exact ⟨rules, hload, history, s', hhistory, Except.ok.inj hrows, haddressed⟩

end Runs

end Rowscript
