import Rowscript.Proofs.CellReferences

/-!
# Written and submitted formulas

The same formula is written to the output with addresses and submitted to the sandbox with
values. An address is that of the last column with the header, whether it has been computed
or not; a value is that of the last column with the header among those on the left. So the
two texts say the same about a header that occurs on the left only. A formula that refers to
its own header or to one further right is submitted with another value, and what is written
may form a cycle.
-/

namespace Rowscript

/-- The header of a column. -/
def ComputedColumn.header (column : ComputedColumn) : Text := column.rule.header

/-- What later references to a column find. -/
def ComputedColumn.binding (column : ComputedColumn) : Text × Cell :=
  (column.header, column.resolved.evaluated)

/-- The headers of the columns of a row. -/
def ProcessedRow.headers (row : ProcessedRow) : List Text := row.columns.map ComputedColumn.header

/-- What is submitted in the place of a reference to an output. -/
def ComputedColumn.submitted (column : ComputedColumn) (header : Text) : Text :=
  column.context.forFormula.resolvePiece false (.reference ⟨.output, header⟩)

/-- What column `j` of a row writes and submits in the place of a reference; `i` is the column
that the address names. -/
structure ProcessedRow.Refers (row : ProcessedRow) (outputRow j : Nat) (column : ComputedColumn)
    (header address : Text) (i : Nat) : Prop where
  /-- The last column with the header is referred to. -/
  lastAt : LastAt header row.headers i
  /-- The address is that of its cell. -/
  address_eq : address = cellAddress i outputRow
  /-- It is on the left unless the header occurs at the referring column or further right. -/
  left_iff : i < j ↔ header ∉ row.headers.drop j
  /-- The value of a column on the left is submitted in the place of its address. -/
  submitted_left : i < j → ∃ target, row.columns[i]? = some target ∧
    column.submitted header = target.resolved.evaluated.formulaLiteral
  /-- In any case it is the value of the last column on the left with the header. -/
  submitted_last : ∀ m, LastAt header (row.headers.take j) m → ∃ target,
    row.columns[m]? = some target ∧
      column.submitted header = target.resolved.evaluated.formulaLiteral
  /-- Without a column on the left with the header the empty string is submitted. -/
  submitted_none : header ∉ row.headers.take j → column.submitted header = ['"', '"']

/-- Every address that a column of a row writes names a column on its left, whose value is
submitted in its place. -/
def ProcessedRow.PointsLeft (row : ProcessedRow) (outputRow : Nat) : Prop :=
  ∀ j column header address, row.columns[j]? = some column →
    column.WritesAddress header address →
      ∃ i target, i < j ∧ row.columns[i]? = some target ∧ target.header = header ∧
        address = cellAddress i outputRow ∧
        column.submitted header = target.resolved.evaluated.formulaLiteral

/-- The last place of a header is on the left of a column exactly if the header occurs neither
at the column nor further right. -/
theorem LastAt.lt_iff {header : Text} {headers : List Text} {i : Nat}
    (h : LastAt header headers i) (j : Nat) : i < j ↔ header ∉ headers.drop j := by
  constructor
  · intro hlt hmem
    refine h.2 (List.mem_of_mem_drop (i := j - (i + 1)) ?_)
    rw [List.drop_drop]
    convert hmem using 2
    omega
  · intro hnot
    by_contra hle
    refine hnot (List.mem_of_getElem? (i := i - j) ?_)
    rw [List.getElem?_drop, ← h.1]
    congr 1
    omega

/-- The last place of a header is also the last one among the headers up to a later one. -/
theorem LastAt.take {header : Text} {headers : List Text} {i j : Nat}
    (h : LastAt header headers i) (hlt : i < j) : LastAt header (headers.take j) i := by
  refine ⟨?_, fun hmem => h.2 ?_⟩
  · rw [List.getElem?_take_of_lt hlt, h.1]
  · rw [List.drop_take] at hmem
    exact List.mem_of_mem_take hmem

/-- The outputs after some columns are those of the columns, the latest first. -/
theorem Context.after_outputs (ctx : Context) (columns : List ComputedColumn) :
    (ctx.after columns).outputs =
      (columns.map ComputedColumn.binding).reverse ++ ctx.outputs := by
  induction columns generalizing ctx with
  | nil => rfl
  | cons column rest ih =>
    change ((ctx.withOutput column.header column.resolved.evaluated).after rest).outputs = _
    rw [ih]
    simp [withOutput, ComputedColumn.binding]

section Columns

variable {σ ε : Type} {sandbox : Sandbox σ ε} {ctx : Context} {outputs : List OutputRule}
  {columns : List ComputedColumn} {column : ComputedColumn} {header : Text} {j : Nat}

/-- What a column submits for a reference is looked up among the columns on its left. -/
theorem ComputedFrom.submitted_eq (h : ComputedFrom sandbox ctx outputs columns)
    (hctx : ctx.outputs = []) (hj : columns[j]? = some column) (header : Text) :
    column.submitted header =
      ((((columns.take j).map ComputedColumn.binding).reverse.lookup header).getD
        (.text [])).formulaLiteral := by
  have houtputs : column.context.outputs =
      ((columns.take j).map ComputedColumn.binding).reverse := by
    rw [h.context_eq j column hj, Context.after_outputs, hctx, List.append_nil]
  rw [← houtputs]
  rfl

/-- The value of the last column on the left with the header is submitted. -/
theorem ComputedFrom.submitted_of_lastAt (h : ComputedFrom sandbox ctx outputs columns)
    (hctx : ctx.outputs = []) (hj : columns[j]? = some column) {m : Nat}
    (hm : LastAt header ((columns.map ComputedColumn.header).take j) m) :
    ∃ target, columns[m]? = some target ∧
      column.submitted header = target.resolved.evaluated.formulaLiteral := by
  rw [← List.map_take] at hm
  obtain ⟨target, htarget, rfl⟩ := Option.map_eq_some_iff.mp (List.getElem?_map ▸ hm.1)
  have hcolumn := htarget
  rw [List.getElem?_take, Option.ite_none_right_eq_some] at hcolumn
  refine ⟨target, hcolumn.2, ?_⟩
  have hbinding : ((columns.take j).map ComputedColumn.binding)[m]? = some target.binding := by
    rw [List.getElem?_map, htarget]
    rfl
  have hlookup : ((columns.take j).map ComputedColumn.binding).reverse.lookup target.header =
      some target.resolved.evaluated := by
    refine lookup_reverse_eq_some_iff.mpr ⟨m, hbinding, ?_⟩
    rw [List.map_map]
    exact hm
  rw [h.submitted_eq hctx hj, hlookup]
  rfl

/-- Without a column on the left with the header the empty string is submitted. -/
theorem ComputedFrom.submitted_of_not_mem (h : ComputedFrom sandbox ctx outputs columns)
    (hctx : ctx.outputs = []) (hj : columns[j]? = some column)
    (hnot : header ∉ (columns.map ComputedColumn.header).take j) :
    column.submitted header = ['"', '"'] := by
  have hlookup : ((columns.take j).map ComputedColumn.binding).reverse.lookup header = none := by
    refine List.lookup_eq_none_iff.mpr fun entry hentry => ?_
    obtain ⟨target, htarget, rfl⟩ := List.mem_map.mp (List.mem_reverse.mp hentry)
    rw [bne_iff_ne]
    rintro rfl
    rw [← List.map_take] at hnot
    exact hnot (List.mem_map_of_mem htarget)
  rw [h.submitted_eq hctx hj, hlookup]
  rfl

end Columns

/-- What the written formulas of a row say, and what was submitted for them. -/
structure ProcessedRow.Explained {σ ε : Type} (sandbox : Sandbox σ ε) (row : ProcessedRow)
    (outputRow : Nat) : Prop where
  /-- A formula is written with addresses, and its value is what the sandbox answers to the
  text with values in their place. -/
  formula : ∀ column ∈ row.columns, ∀ template, column.rule.output.template? = some template →
    column.resolved.literal = .text (column.context.forFormula.resolve true template) ∧
      ∃ s s', outcome (sandbox (column.context.forFormula.resolve false template)) s =
        (.ok column.resolved.evaluated, s')
  /-- Every address names a column, and it is known which value was submitted in its place. -/
  reference : ∀ j column header address, row.columns[j]? = some column →
    column.WritesAddress header address → ∃ i, row.Refers outputRow j column header address i
  /-- Unless a formula refers to its own header or to one further right, all point left. -/
  pointsLeft : (∀ j column header address, row.columns[j]? = some column →
    column.WritesAddress header address → header ∉ row.headers.drop j) → row.PointsLeft outputRow

/-- Where no formula refers to its own header or to one further right, addresses and values
agree. -/
theorem ProcessedRow.pointsLeft_of_refers {row : ProcessedRow} {outputRow : Nat}
    (hrefers : ∀ j column header address, row.columns[j]? = some column →
      column.WritesAddress header address → ∃ i, row.Refers outputRow j column header address i)
    (hleft : ∀ j column header address, row.columns[j]? = some column →
      column.WritesAddress header address → header ∉ row.headers.drop j) :
    row.PointsLeft outputRow := by
  intro j column header address hj hwrites
  obtain ⟨i, href⟩ := hrefers j column header address hj hwrites
  have hlt := href.left_iff.mpr (hleft j column header address hj hwrites)
  obtain ⟨target, htarget, hsubmitted⟩ := href.submitted_left hlt
  refine ⟨i, target, hlt, htarget, ?_, href.address_eq, hsubmitted⟩
  have hheader := href.lastAt.1
  rw [headers, List.getElem?_map, htarget] at hheader
  exact Option.some.inj hheader

section Runs

variable {σ ε : Type} {sandbox : Sandbox σ ε}

/-- In a kept row every address is that of the last column with the header, and the value
submitted in its place is that of the last one on the left. -/
theorem ProcessedFrom.refers {source : Source} {rules : RuleSet} {rows : List (List Text)}
    {history : List ProcessedRow} (h : ProcessedFrom sandbox source rules 0 rows history) {k : Nat}
    {row : ProcessedRow} (hrow : (keptRows history)[k]? = some row) (j : Nat)
    (column : ComputedColumn) (header address : Text) (hj : row.columns[j]? = some column)
    (hwrites : column.WritesAddress header address) :
    ∃ i, row.Refers (k + 2) j column header address i := by
  have hcolumns := h.columns_of_kept hrow
  have houtputs : row.context.outputs = [] := by
    rw [h.context_eq k row hrow]
    rfl
  have hheaders : row.headers = rules.outputHeaders := by
    rw [RuleSet.outputHeaders, ← hcolumns.rule_eq, List.map_map]
    rfl
  obtain ⟨i, hi, haddress⟩ :=
    h.exists_lastAt_of_writesAddress hrow (List.mem_of_getElem? hj) hwrites
  rw [← hheaders] at hi
  exact ⟨i, {
    lastAt := hi
    address_eq := haddress
    left_iff := hi.lt_iff j
    submitted_left := fun hlt => hcolumns.submitted_of_lastAt houtputs hj (hi.take hlt)
    submitted_last := fun m hm => hcolumns.submitted_of_lastAt houtputs hj hm
    submitted_none := hcolumns.submitted_of_not_mem houtputs hj }⟩

/-- What is written and submitted for the formulas of a run: a mapping that is loaded
transforms every table when the sandbox has a value for every formula, and in every row that
is kept the addresses are those of the last columns with their headers, while the values
submitted in their place are those of the last columns on the left, or the empty string. -/
theorem RuleSet.explained_of_load {headers : List Text} {mapping : List (Text × Text)}
    {rules : RuleSet} (hload : load headers mapping = .ok rules) (htotal : sandbox.Total)
    (source : Source) (s : σ) :
    ∃ history s', outcome (processHistory sandbox source rules 0 source.rows) s =
        (.ok history, s') ∧
      outcome (rules.run sandbox source) s = (.ok (rules.summary history), s') ∧
      ∀ k (row : ProcessedRow), (keptRows history)[k]? = some row →
        row.Explained sandbox (k + 2) := by
  obtain ⟨history, s', hhistory, hrun, hprocessed⟩ := exists_history_of_load hload htotal source s
  refine ⟨history, s', hhistory, hrun, fun k row hrow => ?_⟩
  exact {
    formula := fun column hcolumn template =>
      (hprocessed.columns_of_kept hrow).formula hcolumn
    reference := hprocessed.refers hrow
    pointsLeft := ProcessedRow.pointsLeft_of_refers (hprocessed.refers hrow) }

/-- A column may refer to one that is computed after it: the address is written, and the empty
string is submitted in its place. -/
theorem RuleSet.explained_forward_reference :
    ∃ rules, load ["N".toList] [("A".toList, "src[N]".toList),
        ("B".toList, "formula:=self[A]*self[C]".toList),
        ("C".toList, "formula:=self[B]".toList)] = .ok rules ∧
      ∃ history s', outcome (processHistory (.answering .text : Sandbox Unit Unit)
          ⟨["N".toList], [["5".toList]]⟩ rules 0 [["5".toList]]) () = (.ok history, s') ∧
        (rules.summary history).rows = [["5".toList, "=A2*C2".toList, "=B2".toList]] ∧
        ∀ k (row : ProcessedRow), (keptRows history)[k]? = some row →
          row.Explained (.answering .text : Sandbox Unit Unit) (k + 2) := by
  let rules : RuleSet :=
    ⟨[⟨"A".toList, .expression [⟨.sourceRef, "N".toList, "src[N]".toList⟩] "src[N]".toList true⟩,
      ⟨"B".toList, .formula "=self[A]*self[C]".toList⟩,
      ⟨"C".toList, .formula "=self[B]".toList⟩], []⟩
  have hload : load ["N".toList] [("A".toList, "src[N]".toList),
      ("B".toList, "formula:=self[A]*self[C]".toList),
      ("C".toList, "formula:=self[B]".toList)] = .ok rules := by
    decide +kernel
  have htotal : (Sandbox.answering .text : Sandbox Unit Unit).Total := Sandbox.total_answering _
  have hrows : (outcome (rules.run (.answering .text : Sandbox Unit Unit)
      ⟨["N".toList], [["5".toList]]⟩) ()).1.map Transformed.rows =
        .ok [["5".toList, "=A2*C2".toList, "=B2".toList]] := by
    decide +kernel
  obtain ⟨history, s', hhistory, hrun, hexplained⟩ :=
    explained_of_load hload htotal ⟨["N".toList], [["5".toList]]⟩ ()
  rw [hrun] at hrows
  exact ⟨rules, hload, history, s', hhistory, Except.ok.inj hrows, hexplained⟩

/-- Two columns that refer to each other are written as a cycle. -/
theorem RuleSet.written_cycle :
    ∃ rules, load ["N".toList] [("A".toList, "formula:=self[B]".toList),
        ("B".toList, "formula:=self[A]".toList)] = .ok rules ∧
      (.answering fun _ => .text [] : Sandbox Unit Unit).Total ∧
      ∃ history s', outcome (processHistory (.answering fun _ => .text [] : Sandbox Unit Unit)
          ⟨["N".toList], [["1".toList]]⟩ rules 0 [["1".toList]]) () = (.ok history, s') ∧
        (rules.summary history).rows = [["=B2".toList, "=A2".toList]] ∧
        ∃ row : ProcessedRow, (keptRows history)[0]? = some row ∧ ¬ row.PointsLeft 2 := by
  let rules : RuleSet :=
    ⟨[⟨"A".toList, .formula "=self[B]".toList⟩, ⟨"B".toList, .formula "=self[A]".toList⟩], []⟩
  have hload : load ["N".toList] [("A".toList, "formula:=self[B]".toList),
      ("B".toList, "formula:=self[A]".toList)] = .ok rules := by
    decide +kernel
  have htotal : (.answering fun _ => .text [] : Sandbox Unit Unit).Total :=
    Sandbox.total_answering _
  have hrows : (outcome (rules.run (.answering fun _ => .text [] : Sandbox Unit Unit)
      ⟨["N".toList], [["1".toList]]⟩) ()).1.map Transformed.rows =
        .ok [["=B2".toList, "=A2".toList]] := by
    decide +kernel
  obtain ⟨history, s', hhistory, hrun, hprocessed⟩ :=
    exists_history_of_load hload htotal ⟨["N".toList], [["1".toList]]⟩ ()
  rw [hrun] at hrows
  have hcells : (keptRows history).map ProcessedRow.cells = [["=B2".toList, "=A2".toList]] :=
    Except.ok.inj hrows
  obtain ⟨row, hkept, -⟩ := List.map_eq_singleton_iff.mp hcells
  have hrow : (keptRows history)[0]? = some row := by rw [hkept, List.getElem?_cons_zero]
  refine ⟨rules, hload, htotal, history, s', hhistory, hcells, row, hrow, fun hleft => ?_⟩
  have hcolumns := hprocessed.columns_of_kept hrow
  -- The first column is written with the address of the second.
  obtain ⟨column, rest, hcons, hrule, -⟩ := List.map_eq_cons_iff.mp hcolumns.rule_eq
  have hcolumn : row.columns[0]? = some column := by rw [hcons, List.getElem?_cons_zero]
  have hwrites : column.WritesAddress "B".toList "B2".toList := by
    refine ⟨"=self[B]".toList, by rw [hrule]; rfl, by decide +kernel, ?_⟩
    rw [Context.address?, hcolumns.context_eq 0 column hcolumn, Context.after_addresses,
      hprocessed.addresses_eq hrow]
    decide +kernel
  obtain ⟨i, target, hlt, -⟩ := hleft 0 column "B".toList "B2".toList hcolumn hwrites
  exact absurd hlt (Nat.not_lt_zero i)

end Runs

end Rowscript
