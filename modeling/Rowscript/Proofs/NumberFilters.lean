import Rowscript.Proofs.ConditionCuts
import Rowscript.Proofs.LeadingNumbers
import Rowscript.Proofs.MarkedFormulas
import Rowscript.Proofs.WrittenFilters

/-!
# Filters that compare a column with a number

The order comparisons of a filter read both sides as numbers, with a point or with a comma.
Equality takes its sides as they are given. A number without a sign is a number, which equals
the cells that are the same numeral with a point. A sign is no part of a number in the rule
language, so a number with a sign is a text, which equals the same text only.
-/

namespace Rowscript

namespace Binary64

/-- Numbers are equal when each is at most the other. -/
theorem equal_eq_and (x y : Binary64) : x.equal y = (x.atMost y && y.atMost x) := by
  unfold equal atMost compareWith
  cases x.position? with
  | none => cases y.position? <;> rfl
  | some i =>
    cases y.position? with
    | none => rfl
    | some j =>
      rw [← Bool.decide_and, decide_eq_decide]
      omega

/-- A number is at most itself. -/
theorem atMost_self {x : Binary64} (hx : x ≠ nan) : x.atMost x = true := by
  have hplace : ∃ i, x.position? = some i := by
    cases x with
    | nan => exact absurd rfl hx
    | infinite negative => cases negative <;> exact ⟨_, rfl⟩
    | finite negative units => cases negative <;> exact ⟨_, rfl⟩
  obtain ⟨i, hi⟩ := hplace
  simp only [atMost, compareWith, hi]
  exact decide_eq_true (Int.le_refl i)

/-- The number nearest to a numeral is a number. -/
theorem ofNumeral_ne_nan (n : Numeral) : ofNumeral n ≠ nan := by
  unfold ofNumeral ofDecimal ofRatio
  dsimp only
  split_ifs <;> simp

end Binary64

namespace WrittenNumber

variable (n : WrittenNumber)

/-- A number is a numeral as a whole, unless it has a comma. -/
theorem ofText?_render :
    Numeral.ofText? n.render = if ',' ∈ n.render then none else some n.numeral := by
  split
  · next hcomma =>
    rw [Option.eq_none_iff_forall_not_mem]
    intro m hm
    have hwritten := Numeral.ofText?_eq_some_iff.mp hm
    rw [Text.trim_eq_self n.isBlank_of_mem_render] at hwritten
    exact absurd hcomma (Text.not_mem_of_forall (by decide) hwritten.chars)
  · next hcomma =>
    have hwritten := n.numeral_writtenAs
    rw [n.pointed_of_comma_not_mem hcomma] at hwritten
    exact hwritten.ofText?_eq

/-- The text of a number stands for no number if it has a comma. -/
theorem toNumber_render :
    (Cell.text n.render).toNumber =
      .ok (if ',' ∈ n.render then .nan else .ofNumeral n.numeral) := by
  rw [Cell.toNumber, Text.trim_eq_self n.isBlank_of_mem_render, if_neg n.render_ne_nil,
    n.ofText?_render]
  by_cases hcomma : ',' ∈ n.render
  · rw [if_pos hcomma, if_pos hcomma]
  · rw [if_neg hcomma, if_neg hcomma]

/-- The token of the digits of a number. -/
def token : Token := .plain .number (n.whole ++ decimalsText n.decimals)

/-- The token of a number has the form of its kind. -/
theorem token_shape : n.token.Shape := by
  unfold token
  rcases n.decimals_cases with hnone | ⟨mark, digits, hsome, hmark, hne, hdigits⟩
  · simpa [hnone, decimalsText] using .whole n.whole_ne_nil n.whole_digits
  · rw [hsome]
    exact .fraction n.whole_ne_nil n.whole_digits hmark hdigits hne

/-- The lexemes of a number behind a space: a sign is plain text. -/
def lexemes : List Lexeme :=
  if n.sign = [] then [⟨[' '], n.token⟩]
  else [⟨[' '], .plain .text n.sign⟩, ⟨[], n.token⟩]

/-- No other token than plain text begins with a sign. -/
theorem scan?_sign {c : Char} (hc : c = '+' ∨ c = '-') (rest : Text) :
    Token.scan? none (c :: rest) = none := by
  have hoperator : ∀ op : Operator, op.symbol.head? ≠ some c := by
    rcases hc with rfl | rfl <;> intro op <;> cases op <;> decide
  have hother : c ≠ 's' ∧ c ≠ '=' ∧ c ≠ '"' ∧ c ≠ '|' ∧ Text.isDigit c = false := by
    rcases hc with rfl | rfl <;> decide
  obtain ⟨hs, hequal, hquote, hbar, hdigit⟩ := hother
  simp [Token.scan?, Token.reference?_cons_eq_none hs, Token.operator?_cons_eq_none hoperator,
    Token.formula?_cons_eq_none hequal, Token.string?_cons_eq_none hquote,
    Token.number?_cons_eq_none hdigit, Token.or?, Text.startsWith, Text.after?, hbar.symm]

/-- A sign in front of a number is a token of plain text, which ends in front of the digits. -/
theorem first_sign {c : Char} (hc : c = '+' ∨ c = '-') :
    Token.first c n.token.raw = .plain .text [c] := by
  have hkind : n.token.kind ≠ .text := by simp [token, Token.plain]
  have hnumber : Token.scan? (some c) n.token.raw = some n.token := by
    have hscan := n.token_shape.scan?_raw_append hkind Text.beginsBlank_nil
    have hstart : Token.startsWord (some c) = Token.startsWord none := by
      rcases hc with rfl | rfl <;> decide
    rwa [List.append_nil, Token.scan?, ← hstart] at hscan
  obtain ⟨d, rest, hraw⟩ := List.exists_cons_of_ne_nil (Token.raw_ne_nil_of_scan? hnumber)
  have hd : Text.isBlank d = false := by
    have htrim := n.token_shape.trim_raw hkind
    rw [hraw] at htrim
    exact Text.isBlank_eq_false_of_trim htrim
  rw [hraw] at hnumber
  have htail : Token.plainTail c (d :: rest) = [] := by
    simp [Token.plainTail, hd, hnumber]
  have hright : Text.trimRight [c] = [c] := by rcases hc with rfl | rfl <;> decide
  rw [hraw, Token.first, scan?_sign hc, htail, Option.getD_none, hright]

/-- A number behind a space is cut into its lexemes. -/
theorem lexemes_space_render : Rowscript.lexemes (' ' :: n.render) = n.lexemes := by
  have hreadable : ∀ blanks : Text, (∀ c ∈ blanks, Text.isBlank c = true) →
      Rowscript.lexemes (blanks ++ n.token.raw) = [⟨blanks, n.token⟩] := by
    intro blanks hblanks
    have hone : Lexeme.Readable ⟨blanks, n.token⟩ :=
      ⟨hblanks, n.token_shape, by simp [token, Token.plain]⟩
    have happend := hone.lexemes_render_append Text.beginsBlank_nil
    rwa [List.append_nil, lexemes_of_trimLeft_eq_nil (t := []) rfl] at happend
  have hsigned : ∀ c, (c = '+' ∨ c = '-') →
      Rowscript.lexemes (' ' :: c :: n.token.raw) =
        [⟨[' '], .plain .text [c]⟩, ⟨[], n.token⟩] := by
    intro c hc
    have hblank : Text.isBlank c = false := by rcases hc with rfl | rfl <;> decide
    have hspace : Text.isBlank ' ' = true := by decide
    have htrim : Text.trimLeft (' ' :: c :: n.token.raw) = c :: n.token.raw := by
      simp [Text.trimLeft, hspace, hblank]
    have hrest := hreadable [] (by simp)
    rw [List.nil_append] at hrest
    rw [lexemes_of_trimLeft_eq_cons htrim, n.first_sign hc]
    simp [hspace, hblank, Token.plain, hrest]
  unfold lexemes
  rcases n.sign_written.eq_or with ⟨hsign, -⟩ | ⟨c, hc, hsign⟩
  · rw [if_pos hsign, render, hsign]
    exact hreadable [' '] (by decide)
  · rw [if_neg (by simp [hsign]), render, hsign]
    exact hsigned c hc

/-- The value that a number in a rule is: with a sign it is a text. -/
def constant : Cell := if n.sign = [] then .number (.ofNumeral n.numeral) else .text n.render

/-- A number is read as a number, whichever its decimal mark is. -/
theorem readNumber_token : readNumber n.token.value = .ofNumeral ⟨false, n.whole,
    (n.decimals.map Prod.snd).getD [], none⟩ := by
  have hvalue : n.token.value = n.whole ++ decimalsText n.decimals := rfl
  rw [hvalue, readNumber]
  rcases n.decimals_cases with hnone | ⟨mark, digits, hsome, hmark, -, hdigits⟩
  · rw [hnone, decimalsText, List.append_nil, Numeral.normalizeDecimal_digits n.whole_digits,
      Numeral.ofText?_digits n.whole_ne_nil n.whole_digits]
    rfl
  · rw [hsome, decimalsText, Numeral.normalizeDecimal_fraction hmark n.whole_digits hdigits,
      Numeral.ofText?_fraction n.whole_ne_nil n.whole_digits hdigits]
    rfl

/-- A number holds no bracket and no bar. -/
theorem ne_of_mem_render : ∀ c ∈ n.render, c ≠ '|' ∧ c ≠ '[' ∧ c ≠ ']' :=
  n.of_mem_render (fun _ hc => WrittenOperand.ne_of_number_char (.inl hc)) (by decide)

/-- The lexemes of a number stand for its value. -/
theorem evaluate_ofLexemes {σ ε : Type} (sandbox : Sandbox σ ε) (ctx : Context) :
    (Operand.ofLexemes n.lexemes).evaluate sandbox ctx = pure n.constant := by
  unfold lexemes constant
  rcases n.sign_written.eq_or with ⟨hsign, hnegative⟩ | ⟨c, -, hsign⟩
  · have hoperand : Operand.ofLexemes [⟨[' '], n.token⟩] = .number (readNumber n.token.value) := rfl
    rw [if_pos hsign, if_pos hsign, hoperand, n.readNumber_token, numeral, hnegative]
    rfl
  · have hsome : n.sign ≠ [] := by simp [hsign]
    have htext : trimmedText [⟨[' '], .plain .text n.sign⟩, ⟨[], n.token⟩] = n.render := by
      have hspace : ∀ c ∈ [' '], Text.isBlank c = true := by decide
      have htrim := Text.trim_blanks_append hspace n.render
      rw [Text.trim_eq_self n.isBlank_of_mem_render] at htrim
      simpa [trimmedText, Lexeme.render, Token.plain, token, render] using htrim
    have hoperand : Operand.ofLexemes [⟨[' '], .plain .text n.sign⟩, ⟨[], n.token⟩] =
        .compound [.plain .text n.sign, n.token] n.render := by
      rw [← htext]
      rfl
    have hplain : ctx.resolve false n.render = n.render :=
      ctx.resolve_of_references_eq_nil false
        (references_eq_nil_of_no_bracket fun c hc => (n.ne_of_mem_render c hc).2)
    rw [if_neg hsome, if_neg hsome, hoperand, Operand.evaluate_compound, hplain]

/-- The condition that compares a source column with a number. -/
def comparison (column : Text) (op : Operator) : Text :=
  Reference.render ⟨.source, column⟩ ++ ' ' :: (op.symbol ++ ' ' :: n.render)

section Comparison

variable {headers : List Text} {column : Text}

/-- The comparison of a column with a number is read as what is meant. -/
theorem readCondition_comparison
    (hcolumn : (WrittenOperand.reference ⟨.source, column⟩).Canonical headers) (op : Operator) :
    readCondition (n.comparison column op) =
      .ok (.comparison (.reference ⟨.source, column⟩) op.symbol (.ofLexemes n.lexemes)) := by
  have hreference : Lexeme.Readable ⟨[], .ofReference ⟨.source, column⟩⟩ :=
    ⟨by simp, hcolumn.shape, by simp [Token.ofReference]⟩
  have hoperator : Lexeme.Readable ⟨[' '], .plain .operator op.symbol⟩ :=
    ⟨by simp; decide, .operator op, by simp [Token.plain]⟩
  have hsplit : Rowscript.lexemes (n.comparison column op) =
      [⟨[], .ofReference ⟨.source, column⟩⟩] ++
        ⟨[' '], .plain .operator op.symbol⟩ :: n.lexemes := by
    have hfirst := hreference.lexemes_render_append
      (Text.beginsBlank_space (op.symbol ++ ' ' :: n.render))
    have hsecond := hoperator.lexemes_render_append (Text.beginsBlank_space n.render)
    simp only [Lexeme.render, Token.raw_ofReference, Token.plain, List.nil_append,
      List.cons_append] at hfirst hsecond
    rw [comparison, hfirst, hsecond, n.lexemes_space_render]
    rfl
  have hne : n.lexemes ≠ [] := by unfold lexemes; split <;> simp
  rw [readCondition_of_split hsplit (by simp [Token.ofReference]) rfl, if_neg (by simp [hne])]
  rfl

/-- The filter that compares a column with a number is read as this comparison. -/
theorem readRule_comparison {header name : Text}
    (hheader : Text.after? filterMarker (Text.trim header) = some name)
    (hcolumn : (WrittenOperand.reference ⟨.source, column⟩).Canonical headers) (op : Operator) :
    readRule headers header (evalMarker ++ n.comparison column op) =
      .ok (.filter ⟨Text.trim name, evalMarker ++ n.comparison column op, true, .anyOf
        [.comparison (.reference ⟨.source, column⟩) op.symbol (.ofLexemes n.lexemes)]⟩) := by
  have hnumber : ∀ c ∈ n.render, c ≠ '[' ∧ c ≠ ']' := fun c hc => (n.ne_of_mem_render c hc).2
  have hsymbol : ∀ c ∈ op.symbol, c ≠ '[' ∧ c ≠ ']' :=
    fun c hc => (WrittenCondition.symbol_chars op c hc).2
  have hsymbolBalanced := Text.bracketsBalanced_of_no_bracket hsymbol
  have hundivided : Text.Undivided (n.comparison column op) :=
    hcolumn.undivided.append_cons
      ((Text.undivided_of_not_mem fun h => (WrittenCondition.symbol_chars op _ h).1 rfl).append_cons
        (Text.undivided_of_not_mem fun h => (n.ne_of_mem_render _ h).1 rfl) (by decide))
      (by decide)
  have htrim : Text.trim (n.comparison column op) = n.comparison column op := by
    have hends := Text.trim_append_append hcolumn.trim_render
      (Text.trim_eq_self n.isBlank_of_mem_render)
      (by simp [WrittenOperand.render, Reference.render]) n.render_ne_nil
      (' ' :: (op.symbol ++ [' ']))
    simpa [comparison, WrittenOperand.render] using hends
  have hconditions : readConditions (n.comparison column op) =
      .ok [.comparison (.reference ⟨.source, column⟩) op.symbol (.ofLexemes n.lexemes)] := by
    rw [readConditions, hundivided.splitAlternatives_eq, List.mapM_cons, htrim,
      n.readCondition_comparison hcolumn]
    rfl
  obtain ⟨rest, hrest⟩ := Reference.render_eq_cons ⟨.source, column⟩
  refine readRule_evaluated hheader htrim (by simp [comparison]) ?_ ?_ ?_ hconditions
  · rw [comparison, hrest, List.cons_append, after?_formulaMarker_cons (by decide)]
  · exact Text.bracketsBalanced_append_space hcolumn.bracketsBalanced
      (Text.bracketsBalanced_append_space hsymbolBalanced
        (Text.bracketsBalanced_of_no_bracket hnumber))
  · exact hcolumn.known.append_space ((known_of_no_bracket hsymbol).append_space
      (known_of_no_bracket hnumber) hsymbolBalanced) hcolumn.bracketsBalanced

end Comparison

end WrittenNumber

/-- An instruction is a filter that a row passes or not, as given, whatever the sandbox does. -/
def Decides (headers : List Text) (header instruction : Text) (ctx : Context)
    (accepted : Bool) : Prop :=
  ∃ rule, readRule headers header instruction = .ok (.filter rule) ∧
    ∀ {σ ε : Type} (sandbox : Sandbox σ ε), rule.passes sandbox ctx = pure accepted

namespace WrittenNumber

section Rows

variable {headers : List Text} {header name column : Text} {ctx : Context}

/-- A row passes the comparison of a column with a number when the text of the column and the
number stand in the relation of the operator. -/
theorem decides_comparison (n : WrittenNumber) {shown : Text}
    (hheader : Text.after? filterMarker (Text.trim header) = some name)
    (hcolumn : (WrittenOperand.reference ⟨.source, column⟩).Canonical headers)
    (hshown : ctx.substitute ⟨.source, column⟩ = shown) {op : Operator} {accepted : Bool}
    (hholds : op.holds (.text shown) n.constant = .ok accepted) :
    Decides headers header (evalMarker ++ n.comparison column op) ctx accepted := by
  refine ⟨_, n.readRule_comparison hheader hcolumn op, fun sandbox => ?_⟩
  have hcondition : Condition.evaluate sandbox ctx
      (.comparison (.reference ⟨.source, column⟩) op.symbol (.ofLexemes n.lexemes)) =
        pure accepted := by
    simp only [Condition.evaluate, op.ofSymbol?_symbol, n.evaluate_ofLexemes]
    simp only [Operand.evaluate_reference, pure_bind, Operator.evaluate, hshown, hholds]
    rfl
  simp only [FilterRule.passes, anyHolds, hcondition, pure_bind]
  cases accepted <;> rfl

/-- The value of a number in a rule is ordered as its numeral. -/
theorem leadingNumber_constant (n : WrittenNumber) :
    n.constant.leadingNumber = .ok (.ofNumeral n.numeral) := by
  unfold constant
  split
  · rfl
  · exact n.leadingNumber_render

/-- A number without a sign equals the cells that are the same number without a comma. A number
with a sign equals the cells that are the same text. -/
theorem looselyEqual_constant (n t : WrittenNumber) :
    (Cell.text t.render).looselyEqual n.constant =
      .ok (if n.sign = [] then
          !decide (',' ∈ t.render) && (Binary64.ofNumeral t.numeral).equal (.ofNumeral n.numeral)
        else decide (t.render = n.render)) := by
  unfold constant
  split
  · have hloose : (Cell.text t.render).looselyEqual (.number (.ofNumeral n.numeral)) = do
        let x ← (Cell.text t.render).toNumber
        return x.equal (.ofNumeral n.numeral) := rfl
    rw [hloose, t.toNumber_render]
    by_cases hcomma : ',' ∈ t.render
    · simp only [hcomma, if_true, decide_true, Bool.not_true, Bool.false_and]
      rfl
    · simp only [hcomma, if_false, decide_false, Bool.not_false, Bool.true_and]
      rfl
  · rfl

/-- A filter for equality with a number accepts a row exactly when both filters for order accept
it and, besides, the text of the cell suits: for a number without a sign it has no comma, and for
a number with a sign it is the text of the number. -/
theorem equal_iff_ordered (n t : WrittenNumber)
    (hheader : Text.after? filterMarker (Text.trim header) = some name)
    (hcolumn : (WrittenOperand.reference ⟨.source, column⟩).Canonical headers)
    (hstyle : ctx.style = .display) (hvalue : ctx.value ⟨.source, column⟩ = .text t.render) :
    ∃ equal atLeast atMost,
      Decides headers header (evalMarker ++ n.comparison column .equal) ctx equal ∧
      Decides headers header (evalMarker ++ n.comparison column .atLeast) ctx atLeast ∧
      Decides headers header (evalMarker ++ n.comparison column .atMost) ctx atMost ∧
      (equal = true ↔ (atLeast = true ∧ atMost = true) ∧
        if n.sign = [] then ',' ∉ t.render else t.render = n.render) := by
  have hshown : ctx.substitute ⟨.source, column⟩ = t.render := by
    rw [Context.substitute, hstyle, hvalue]
    rfl
  have hordered : ∀ relation, Operator.ordered relation (.text t.render) n.constant =
      .ok (relation (.ofNumeral t.numeral) (.ofNumeral n.numeral)) := by
    intro relation
    rw [Operator.ordered, t.leadingNumber_render, n.leadingNumber_constant]
    rfl
  refine ⟨_, _, _, n.decides_comparison hheader hcolumn hshown (n.looselyEqual_constant t),
    n.decides_comparison hheader hcolumn hshown (hordered fun x y => y.atMost x),
    n.decides_comparison hheader hcolumn hshown (hordered Binary64.atMost), ?_⟩
  by_cases hsign : n.sign = []
  · simp only [hsign, if_true, Binary64.equal_eq_and, Bool.and_eq_true, Bool.not_eq_true',
      decide_eq_false_iff_not]
    tauto
  · simp only [hsign, if_false, decide_eq_true_eq]
    refine ⟨fun htext => ⟨?_, htext⟩, fun h => h.2⟩
    -- The same text is the same number, which is at most itself.
    have hnumber : (.ofNumeral t.numeral : Binary64) = .ofNumeral n.numeral := by
      have hread := t.leadingNumber_render
      rw [htext, n.leadingNumber_render] at hread
      exact (Except.ok.inj hread).symm
    rw [hnumber]
    exact ⟨Binary64.atMost_self (Binary64.ofNumeral_ne_nan _),
      Binary64.atMost_self (Binary64.ofNumeral_ne_nan _)⟩

/-- A row with one column. -/
def rowOf (column shown : Text) : Context := ⟨[(column, .text shown)], [], [], .display⟩

/-- A cell with a sign and a zero at its end is compared with a number without them. -/
theorem equal_iff_ordered_signed_cell :
    ∃ equal atLeast atMost,
      Decides [['X']] "_filter:F".toList "eval:src[X] == 2.5".toList
        (rowOf ['X'] "+2.50".toList) equal ∧
      Decides [['X']] "_filter:F".toList "eval:src[X] >= 2.5".toList
        (rowOf ['X'] "+2.50".toList) atLeast ∧
      Decides [['X']] "_filter:F".toList "eval:src[X] <= 2.5".toList
        (rowOf ['X'] "+2.50".toList) atMost ∧
      (equal = true ↔ atLeast = true ∧ atMost = true) := by
  let n : WrittenNumber :=
    ⟨false, [], .absent, ['2'], by decide, by decide, some ('.', ['5']), by simp; decide⟩
  let t : WrittenNumber :=
    ⟨false, ['+'], .plus, ['2'], by decide, by decide, some ('.', ['5', '0']), by simp; decide⟩
  have hcolumn : (WrittenOperand.reference ⟨.source, ['X']⟩).Canonical [['X']] :=
    .reference (by decide) (by decide) (by simp)
  have hheader : Text.after? filterMarker (Text.trim "_filter:F".toList) = some ['F'] := by decide
  have hvalue : (rowOf ['X'] "+2.50".toList).value ⟨.source, ['X']⟩ = .text t.render := rfl
  obtain ⟨equal, atLeast, atMost, hequal, hatLeast, hatMost, hiff⟩ :=
    n.equal_iff_ordered t hheader hcolumn rfl hvalue
  have hcomma : ',' ∉ t.render := by decide
  exact ⟨equal, atLeast, atMost, hequal, hatLeast, hatMost,
    hiff.trans (and_iff_left (by simpa [n] using hcomma))⟩

/-- The orders accept a cell with the decimal comma that the filter itself has, and a number
without the sign that the filter has, and equality does not. -/
theorem equal_refuses_what_orders_accept :
    (Decides [['X']] "_filter:F".toList "eval:src[X] == 4,5".toList
        (rowOf ['X'] "4,5".toList) false ∧
      Decides [['X']] "_filter:F".toList "eval:src[X] >= 4,5".toList
        (rowOf ['X'] "4,5".toList) true ∧
      Decides [['X']] "_filter:F".toList "eval:src[X] <= 4,5".toList
        (rowOf ['X'] "4,5".toList) true) ∧
    Decides [['X']] "_filter:F".toList "eval:src[X] == +5".toList
        (rowOf ['X'] "5".toList) false ∧
      Decides [['X']] "_filter:F".toList "eval:src[X] >= +5".toList
        (rowOf ['X'] "5".toList) true ∧
      Decides [['X']] "_filter:F".toList "eval:src[X] <= +5".toList
        (rowOf ['X'] "5".toList) true := by
  let comma : WrittenNumber :=
    ⟨false, [], .absent, ['4'], by decide, by decide, some (',', ['5']), by simp; decide⟩
  let plus : WrittenNumber := ⟨false, ['+'], .plus, ['5'], by decide, by decide, none, by simp⟩
  have hcolumn : (WrittenOperand.reference ⟨.source, ['X']⟩).Canonical [['X']] :=
    .reference (by decide) (by decide) (by simp)
  have hheader : Text.after? filterMarker (Text.trim "_filter:F".toList) = some ['F'] := by decide
  have hdecides : ∀ (n : WrittenNumber) (shown : Text) (op : Operator) (accepted : Bool),
      op.holds (.text shown) n.constant = .ok accepted →
      Decides [['X']] "_filter:F".toList (evalMarker ++ n.comparison ['X'] op)
        (rowOf ['X'] shown) accepted :=
    fun n shown op accepted hholds =>
      have hshown : (rowOf ['X'] shown).substitute ⟨.source, ['X']⟩ = shown := rfl
      n.decides_comparison hheader hcolumn hshown hholds
  refine ⟨⟨?_, ?_, ?_⟩, ?_, ?_, ?_⟩
  · exact hdecides comma "4,5".toList .equal false (by decide +kernel)
  · exact hdecides comma "4,5".toList .atLeast true (by decide +kernel)
  · exact hdecides comma "4,5".toList .atMost true (by decide +kernel)
  · exact hdecides plus "5".toList .equal false (by decide +kernel)
  · exact hdecides plus "5".toList .atLeast true (by decide +kernel)
  · exact hdecides plus "5".toList .atMost true (by decide +kernel)

end Rows

end WrittenNumber

end Rowscript
