import Rowscript.Proofs.CellReferences
import Rowscript.Proofs.NumeralGrammar
import Rowscript.Proofs.Ranges

/-!
# String literals in formulas

Whoever writes a formula decides where its string literals begin and end, by the quotes that
stand outside of its references. Every value is put in the place of a reference with an even
number of quotes: a string comes with its own quotes and has those inside doubled, and dates,
truth values, numbers and addresses hold none. So no value of a row opens a literal that it does
not close.
-/

namespace Rowscript

namespace Text

/-- No blank is a quote. -/
theorem count_quote_of_isBlank {blanks : Text} (h : ∀ c ∈ blanks, isBlank c = true) :
    blanks.count '"' = 0 :=
  List.count_eq_zero.mpr (not_mem_of_forall (by decide) h)

/-- No digit is a quote. -/
theorem count_quote_of_isDigit {digits : Text} (h : ∀ c ∈ digits, isDigit c = true) :
    digits.count '"' = 0 :=
  List.count_eq_zero.mpr (not_mem_of_forall (by decide) h)

/-- Trimming cuts off no quote. -/
@[simp] theorem count_quote_trim (t : Text) : (trim t).count '"' = t.count '"' := by
  obtain ⟨before, after, hbefore, hafter, hsplit⟩ := exists_append_trim_append t
  have hcount := congrArg (List.count '"') hsplit
  rw [List.count_append, List.count_append, count_quote_of_isBlank hbefore,
    count_quote_of_isBlank hafter, Nat.zero_add, Nat.add_zero] at hcount
  exact hcount.symm

/-- Doubling the quotes of a text doubles their number. -/
theorem count_quote_double (t : Text) : (double '"' t).count '"' = 2 * t.count '"' := by
  induction t with
  | nil => rfl
  | cons c rest ih =>
    by_cases hc : c = '"'
    · subst hc
      simp [double_cons_self, ih]
      omega
    · rw [double_cons_of_ne hc, List.count_cons_of_ne hc, List.count_cons_of_ne hc, ih]

end Text

/-- A text that is a number holds no quote. -/
theorem Numeral.count_quote_of_isNumeric {t : Text} (h : isNumeric t = true) :
    t.count '"' = 0 := by
  obtain ⟨n, hwritten⟩ := isNumeric_iff.mp h
  rw [← Text.count_quote_trim, List.count_eq_zero]
  exact Text.not_mem_of_forall (by decide) hwritten.chars

/-- A number is written without quotes. -/
theorem Number.count_quote_renderNat (n : Nat) : (renderNat n).count '"' = 0 :=
  Text.count_quote_of_isDigit fun _ hc => isDigit_of_mem_renderNat hc

namespace Cell

/-- A percent sign is no quote. -/
theorem count_quote_dropPercent (t : Text) : (dropPercent t).count '"' = t.count '"' := by
  unfold dropPercent
  split
  · next hlast =>
    obtain ⟨front, rfl⟩ := List.getLast?_eq_some_iff.mp hlast
    simp
  · rfl

/-- A string literal has an even number of quotes. -/
theorem count_quote_stringLiteral (t : Text) :
    (stringLiteral t).count '"' = 2 * t.count '"' + 2 := by
  simp [stringLiteral, Text.count_quote_double]

/-- A date is made without quotes. -/
theorem count_quote_dateFormula (year month day : Nat) :
    (dateFormula year month day).count '"' = 0 := by
  unfold dateFormula
  rw [List.count_append, List.count_append, List.count_append, List.count_append,
    List.count_append, List.count_append, Number.count_quote_renderNat,
    Number.count_quote_renderNat, Number.count_quote_renderNat]
  decide

/-- A number or a string has an even number of quotes. -/
theorem even_count_quote_numberOrString (t : Text) : (numberOrString t).count '"' % 2 = 0 := by
  unfold numberOrString
  dsimp only
  split
  · next hnumeric =>
    have hnone := Numeral.count_quote_of_isNumeric hnumeric
    rw [count_quote_dropPercent] at hnone
    rw [hnone]
  · rw [count_quote_stringLiteral]
    omega

/-- The literal of a value has an even number of quotes. -/
theorem even_count_quote_formulaLiteral (value : Cell) :
    value.formulaLiteral.count '"' % 2 = 0 := by
  unfold formulaLiteral
  dsimp only
  split
  · decide
  · cases dayMonthYear? (Text.trim value.display) with
    | some date => rw [count_quote_dateFormula]
    | none =>
      cases value with
      | bool b =>
        rw [Text.count_quote_trim]
        cases b <;> decide
      | _ => exact even_count_quote_numberOrString _

end Cell

/-- The address of a cell holds no quote. -/
theorem count_quote_cellAddress (column row : Nat) : (cellAddress column row).count '"' = 0 := by
  have hletters : (Column.ofIndex column).count '"' = 0 :=
    List.count_eq_zero.mpr (Text.not_mem_of_forall (p := Char.isAlpha) (by decide)
      fun _ hc => Column.isAlpha_of_mem_ofIndex hc)
  rw [cellAddress, List.count_append, hletters, Number.count_quote_renderNat]

/-- What a piece of a template is by itself: a reference is left out. -/
def Piece.own : Piece → Text
  | .char c => [c]
  | .reference _ => []

/-- A template with its references left out. -/
def withoutReferences (template : Text) : Text := (pieces template).flatMap Piece.own

/-- A character outside of the references stands between what comes of the pieces before it and
of those behind it. -/
theorem flatMap_pieces_eq {template : Text} {before after : List Piece} {c : Char}
    (h : pieces template = before ++ .char c :: after) {f : Piece → Text}
    (hf : f (.char c) = [c]) :
    (pieces template).flatMap f = before.flatMap f ++ c :: after.flatMap f := by
  rw [h, List.flatMap_append, List.flatMap_cons, hf]
  rfl

namespace Context

/-- A context in which a row is processed: that of a row of a table, with any outputs computed
so far. -/
def OfRow (ctx : Context) : Prop :=
  ∃ source rules row outputRow outputs,
    ctx = { rowContext source rules row outputRow with outputs := outputs }

variable {ctx : Context}

/-- An address of a row holds no quote. -/
theorem OfRow.count_quote_address (h : ctx.OfRow) {r : Reference} {address : Text}
    (haddress : ctx.forFormula.address? r = some address) : address.count '"' = 0 := by
  obtain ⟨source, rules, row, outputRow, outputs, rfl⟩ := h
  obtain ⟨origin, column⟩ := r
  cases origin with
  | source => simp [address?] at haddress
  | output =>
    obtain ⟨i, -, rfl⟩ := RuleSet.lookup_addresses.mp haddress
    exact count_quote_cellAddress i outputRow

/-- The text in the place of a piece has as many quotes as the piece by itself, or an even number
of them more. -/
theorem OfRow.count_quote_resolvePiece (h : ctx.OfRow) (live : Bool) (piece : Piece) :
    (ctx.forFormula.resolvePiece live piece).count '"' % 2 = piece.own.count '"' % 2 := by
  cases piece with
  | char c => rfl
  | reference r =>
    have hvalue : (ctx.forFormula.substitute r).count '"' % 2 = 0 :=
      (ctx.forFormula.value r).even_count_quote_formulaLiteral
    change (ctx.forFormula.resolvePiece live (.reference r)).count '"' % 2 = 0
    cases haddress : ctx.forFormula.address? r with
    | none => cases live <;> simpa [resolvePiece_reference_eq, haddress] using hvalue
    | some address =>
      cases live with
      | false => simpa [resolvePiece_reference_eq] using hvalue
      | true => rw [resolvePiece_of_address? haddress, h.count_quote_address haddress]

/-- The texts in the place of pieces have as many quotes as the pieces by themselves, or an even
number of them more. -/
theorem OfRow.count_quote_resolvePieces (h : ctx.OfRow) (live : Bool) (ps : List Piece) :
    (ps.flatMap (ctx.forFormula.resolvePiece live)).count '"' % 2 =
      (ps.flatMap Piece.own).count '"' % 2 := by
  induction ps with
  | nil => rfl
  | cons piece rest ih =>
    have hpiece := h.count_quote_resolvePiece live piece
    rw [List.flatMap_cons, List.flatMap_cons, List.count_append, List.count_append]
    omega

/-- Values do not move the boundaries of string literals. Take any character of a formula that
stands outside of its references, and any two rows, whose addresses may be used or not. The
character stands in both resolved formulas, and in both of them it comes after an odd number of
quotes exactly if it does so in the formula without its references. -/
theorem count_quote_before_char {template : Text} {before after : List Piece} {c : Char}
    (h : pieces template = before ++ .char c :: after) {ctx other : Context} (hctx : ctx.OfRow)
    (hother : other.OfRow) (live live' : Bool) :
    template = before.flatMap Piece.render ++ c :: after.flatMap Piece.render ∧
      withoutReferences template =
        before.flatMap Piece.own ++ c :: after.flatMap Piece.own ∧
      ctx.forFormula.resolve live template =
        before.flatMap (ctx.forFormula.resolvePiece live) ++
          c :: after.flatMap (ctx.forFormula.resolvePiece live) ∧
      other.forFormula.resolve live' template =
        before.flatMap (other.forFormula.resolvePiece live') ++
          c :: after.flatMap (other.forFormula.resolvePiece live') ∧
      (before.flatMap (ctx.forFormula.resolvePiece live)).count '"' % 2 =
        (before.flatMap Piece.own).count '"' % 2 ∧
      (before.flatMap (other.forFormula.resolvePiece live')).count '"' % 2 =
        (before.flatMap Piece.own).count '"' % 2 := by
  have htemplate : template = (pieces template).flatMap Piece.render :=
    (flatMap_render_pieces template).symm
  have hresolve := (ctx.forFormula.resolve_eq_flatMap live template).trans
    (flatMap_pieces_eq h rfl)
  have hresolve' := (other.forFormula.resolve_eq_flatMap live' template).trans
    (flatMap_pieces_eq h rfl)
  exact ⟨htemplate.trans (flatMap_pieces_eq h rfl), flatMap_pieces_eq h rfl, hresolve, hresolve',
    hctx.count_quote_resolvePieces live before, hother.count_quote_resolvePieces live' before⟩

end Context

/-- Behind a reference inside of a string literal the literal is still open, whether the value of
the row is a string, which comes with quotes of its own, or a number. -/
theorem Context.count_quote_before_closing :
    let ctx := rowContext ⟨["A".toList], []⟩ ⟨[], []⟩ ["a\"b".toList] 2
    let other := rowContext ⟨["A".toList], []⟩ ⟨[], []⟩ ["5".toList] 3
    ∃ before, pieces "=\"src[A]\"".toList = before ++ [.char '"'] ∧
      (before.flatMap (ctx.forFormula.resolvePiece true)).count '"' % 2 = 1 ∧
      (before.flatMap (other.forFormula.resolvePiece false)).count '"' % 2 = 1 := by
  intro ctx other
  have hpieces : pieces "=\"src[A]\"".toList =
      [.char '=', .char '"', .reference ⟨.source, "A".toList⟩] ++ [.char '"'] := by
    decide +kernel
  have hctx : ctx.OfRow := ⟨⟨["A".toList], []⟩, ⟨[], []⟩, ["a\"b".toList], 2, [], rfl⟩
  have hother : other.OfRow := ⟨⟨["A".toList], []⟩, ⟨[], []⟩, ["5".toList], 3, [], rfl⟩
  obtain ⟨-, -, -, -, hquotes, hmore⟩ := count_quote_before_char hpieces hctx hother true false
  exact ⟨_, hpieces, hquotes.trans (by decide), hmore.trans (by decide)⟩

end Rowscript
