import Rowscript.Proofs.ReferenceTokens

/-!
# Rewriting an expression token by token

The references of an expression can be replaced in one pass over its text or token by token. The
tokens show the same references as the text, except those that plain text hides behind a word and
those that a string or a formula cuts. So both ways give the same text, whatever the values are,
exactly if there are none of these: where all columns are empty, every reference that is not
replaced makes the text longer.
-/

namespace Rowscript

namespace Reference

/-- No reference begins with another character than the first one of its keyword. -/
theorem scan?_cons_eq_none {c : Char} (hc : c ≠ 's') (rest : Text) : scan? (c :: rest) = none := by
  simp [scan?, scanFrom?, Origin.opening, Text.after?, hc.symm]

/-- No reference begins behind the first character of another one and before its end. -/
theorem scan?_inside_render {r : Reference} (hr : r.WellFormed) {before right : Text}
    (hrender : r.render = before ++ right) (hbefore : before ≠ []) (hright : right ≠ [])
    (rest : Text) : scan? (right ++ rest) = none := by
  rw [Option.eq_none_iff_forall_not_mem]
  rintro ⟨q, after⟩ hread
  obtain ⟨hq, heq⟩ := scan?_eq_some_iff.mp hread
  have hover : r.render ++ rest = before ++ (q.render ++ after) := by
    rw [hrender, List.append_assoc, heq]
  rcases eq_nil_or_eq_append_of_render hr hover with hnil | ⟨gap, rfl⟩
  · exact hbefore hnil
  · have hlength := congrArg List.length heq
    have hpos := List.length_pos_iff.mpr hright
    simp only [List.length_append] at hlength
    omega

end Reference

namespace Context

/-- Nothing is resolved to nothing. -/
theorem resolve_nil (ctx : Context) (live : Bool) : ctx.resolve live [] = [] := by
  rw [resolve_eq_flatMap, pieces_nil, List.flatMap_nil]

/-- A text in which no reference begins stays in front of what is resolved behind it. -/
theorem resolve_append_of_scan?_eq_none (ctx : Context) (live : Bool) {s t : Text}
    (h : ∀ right, right <:+ s → right ≠ [] → Reference.scan? (right ++ t) = none) :
    ctx.resolve live (s ++ t) = s ++ ctx.resolve live t := by
  induction s with
  | nil => rfl
  | cons c s ih =>
    have hnone := h (c :: s) List.suffix_rfl (by simp)
    rw [List.cons_append] at hnone ⊢
    rw [resolve_eq_flatMap, pieces_cons_of_scan?_eq_none hnone, List.flatMap_cons,
      ← resolve_eq_flatMap, ih fun right hright => h right (hright.trans (List.suffix_cons c s))]
    rfl

/-- Blanks stay in front of what is resolved behind them. -/
theorem resolve_blanks_append (ctx : Context) (live : Bool) {blanks : Text}
    (h : ∀ c ∈ blanks, Text.isBlank c = true) (t : Text) :
    ctx.resolve live (blanks ++ t) = blanks ++ ctx.resolve live t := by
  refine ctx.resolve_append_of_scan?_eq_none live fun right hright hne => ?_
  obtain ⟨c, right, rfl⟩ := List.exists_cons_of_ne_nil hne
  refine Reference.scan?_cons_eq_none ?_ _
  rintro rfl
  exact absurd (h 's' (hright.subset List.mem_cons_self)) (by decide)

/-- Where all columns are empty. -/
def empty : Context := ⟨[], [], [], .display⟩

/-- Where all columns are empty, nothing is put in the place of a reference. -/
theorem replacement_empty (live : Bool) (r : Reference) : empty.replacement live r = [] := by
  rcases r with ⟨_ | _, column⟩ <;> cases live <;> rfl

end Context

/-- The number of the characters of a text that belong to none of its references: what is left
of it where all columns are empty. -/
def plainLength (t : Text) : Nat := (Context.empty.resolve false t).length

/-- A reference in front of a text has no characters that count. -/
theorem plainLength_render_append {r : Reference} (hr : r.WellFormed) (t : Text) :
    plainLength (r.render ++ t) = plainLength t := by
  rw [plainLength, Context.empty.resolve_render_append false hr, Context.replacement_empty]
  rfl

/-- Characters in which no reference begins count in front of a text. -/
theorem plainLength_append_of_scan?_eq_none {s t : Text}
    (h : ∀ right, right <:+ s → right ≠ [] → Reference.scan? (right ++ t) = none) :
    plainLength (s ++ t) = s.length + plainLength t := by
  rw [plainLength, Context.empty.resolve_append_of_scan?_eq_none false h, List.length_append]
  rfl

/-- Separate texts are counted one by one. -/
theorem plainLength_append {s t : Text} (h : Separate s t) :
    plainLength (s ++ t) = plainLength s + plainLength t := by
  rw [plainLength, Context.empty.resolve_append false h, List.length_append]
  rfl

/-- A character in which no reference begins counts. -/
theorem plainLength_cons {c : Char} {t : Text} (h : Reference.scan? (c :: t) = none) :
    plainLength (c :: t) = 1 + plainLength t :=
  plainLength_append_of_scan?_eq_none (s := [c]) fun right hright hne => by
    rcases List.suffix_cons_iff.mp hright with rfl | hnil
    · exact h
    · exact absurd (List.suffix_nil.mp hnil) hne

/-- A text has no references, or fewer of its characters count than it has. -/
theorem references_eq_nil_or_plainLength_lt (t : Text) :
    (references t = [] ∧ plainLength t = t.length) ∨ plainLength t < t.length := by
  fun_induction pieces t with
  | case1 => exact .inl ⟨by simp [references], by simp [plainLength, Context.resolve_eq_flatMap]⟩
  | case2 c t r rest hscan ih =>
    have ht := Reference.eq_append_of_scan? hscan
    have hpos := r.render_length_pos
    right
    rw [ht, plainLength_render_append (Reference.wellFormed_of_scan? hscan), List.length_append]
    rcases ih with ⟨-, hrest⟩ | hrest <;> omega
  | case3 c t hscan ih =>
    have hreferences : references (c :: t) = references t := by
      rw [references, pieces_cons_of_scan?_eq_none hscan]
      rfl
    rw [hreferences, plainLength_cons hscan, List.length_cons]
    rcases ih with ⟨hnone, hlength⟩ | hlength
    · exact .inl ⟨hnone, by omega⟩
    · exact .inr (by omega)

/-- A reference in front of a text changes nothing of what the text is separate from. -/
theorem Separate.render_append {r : Reference} (hr : r.WellFormed) {s t : Text}
    (h : Separate s t) : Separate (r.render ++ s) t := by
  rintro right ⟨front, hfront⟩ hne q after hread
  rcases List.append_eq_append_iff.mp hfront with ⟨gap, hrender, rfl⟩ | ⟨gap, -, hs⟩
  · cases gap with
    | nil => exact h s List.suffix_rfl hne q after hread
    | cons c gap =>
      by_cases hnil : front = []
      · subst hnil
        rw [List.nil_append] at hrender
        rw [← hrender, List.append_assoc, Reference.scan?_render_append hr] at hread
        obtain ⟨-, rfl⟩ := Prod.mk.inj (Option.some.inj hread)
        exact List.suffix_append s t
      · rw [List.append_assoc, Reference.scan?_inside_render hr hrender hnil (by simp)] at hread
        simp at hread
  · exact h right ⟨gap, hs.symm⟩ hne q after hread

/-- A character in which no reference begins changes nothing of what a text is separate from. -/
theorem Separate.cons {c : Char} {s t : Text} (hnone : Reference.scan? (c :: (s ++ t)) = none)
    (h : Separate s t) : Separate (c :: s) t := by
  intro right hright hne q after hread
  rcases List.suffix_cons_iff.mp hright with rfl | hright
  · simp [hnone] at hread
  · exact h right hright hne q after hread

/-- Texts are separate, or fewer characters count in them together than one by one. -/
theorem separate_or_plainLength_lt (s t : Text) :
    Separate s t ∨ plainLength (s ++ t) < plainLength s + plainLength t := by
  fun_induction pieces s with
  | case1 => exact .inl fun right hright hne => absurd (List.suffix_nil.mp hright) hne
  | case2 c s r rest hscan ih =>
    have hr := Reference.wellFormed_of_scan? hscan
    rw [Reference.eq_append_of_scan? hscan, List.append_assoc, plainLength_render_append hr,
      plainLength_render_append hr]
    exact ih.imp_left (.render_append hr)
  | case3 c s hscan ih =>
    cases hwhole : Reference.scan? (c :: (s ++ t)) with
    | none =>
      rw [List.cons_append, plainLength_cons hwhole, plainLength_cons hscan, Nat.add_assoc,
        Nat.add_lt_add_iff_left]
      exact ih.imp_left (.cons hwhole)
    | some found =>
      obtain ⟨hr, heq⟩ := Reference.scan?_eq_some_iff.mp hwhole
      rw [← List.cons_append] at heq
      right
      -- The reference ends in the second text, whose beginning belongs to it.
      rcases List.append_eq_append_iff.mp heq with ⟨overlap, hrender, rfl⟩ | ⟨gap, hs, -⟩
      · have hne : overlap ≠ [] := by
          rintro rfl
          rw [List.append_nil] at hrender
          rw [← hrender, ← List.append_nil found.1.render,
            Reference.scan?_render_append hr] at hscan
          simp at hscan
        have hinside : plainLength (overlap ++ found.2) = overlap.length + plainLength found.2 := by
          refine plainLength_append_of_scan?_eq_none ?_
          rintro right ⟨front, rfl⟩ hright
          rw [← List.append_assoc] at hrender
          exact Reference.scan?_inside_render hr hrender (by simp) hright _
        have hpos := List.length_pos_iff.mpr hne
        rw [heq, plainLength_render_append hr, hinside]
        omega
      · rw [hs, Reference.scan?_render_append hr] at hscan
        simp at hscan

/-- What a token is rewritten to. A reference is replaced, and so are the references that are
written in a string or a formula; anything else stays. -/
def Token.rewrite (ctx : Context) (live : Bool) (token : Token) : Text :=
  match token.kind with
  | .sourceRef => ctx.replacement live ⟨.source, token.value⟩
  | .selfRef => ctx.replacement live ⟨.output, token.value⟩
  | .string => ctx.resolve live token.raw
  | .formula => ctx.resolve live token.raw
  | _ => token.raw

/-- The text of lexemes whose tokens are rewritten. -/
def rewriteLexemes (ctx : Context) (live : Bool) (ls : List Lexeme) : Text :=
  ls.flatMap fun l => l.blanks ++ l.token.rewrite ctx live

/-- A text that is rewritten token by token. The blanks around its tokens stay. -/
def rewriteTokens (ctx : Context) (live : Bool) (t : Text) : Text :=
  rewriteLexemes ctx live (lexemes t) ++ t.drop ((lexemes t).flatMap Lexeme.render).length

/-- The token of a reference is rewritten to what is put in its place. -/
theorem Token.rewrite_ofReference (ctx : Context) (live : Bool) (r : Reference) :
    (ofReference r).rewrite ctx live = ctx.replacement live r := by
  rcases r with ⟨_ | _, column⟩ <;> rfl

/-- The kinds of tokens whose references are replaced when a text is rewritten. -/
def TokenKind.showing : List TokenKind := [.sourceRef, .selfRef, .string, .formula]

/-- Rewriting a token is resolving its text if references are replaced in tokens of its kind, and
otherwise nothing. -/
theorem Token.Shape.rewrite_eq {token : Token} (h : token.Shape) (ctx : Context) (live : Bool) :
    token.rewrite ctx live =
      if token.kind ∈ TokenKind.showing then ctx.resolve live token.raw else token.raw := by
  cases h with
  | reference r hr =>
    have hrender := ctx.resolve_render_append live hr []
    have hkind : (ofReference r).kind ∈ TokenKind.showing := by
      rcases kind_ofReference r with hr | hr <;> simp [hr, TokenKind.showing]
    rw [List.append_nil] at hrender
    rw [if_pos hkind, rewrite_ofReference, raw_ofReference, hrender]
    simp [Context.resolve_eq_flatMap]
  | _ => simp [rewrite, plain, TokenKind.showing]

/-- The references that begin in a token are shown by it, with some text behind it: they end in
the token, and if there are any they are replaced in it. -/
structure Token.ShowsReferences (token : Token) (following : Text) : Prop where
  separate : Separate token.raw following
  shown : token.kind ∉ TokenKind.showing → references token.raw = []

/-- A lexeme whose token shows its references is rewritten by itself. -/
theorem Lexeme.resolve_render_append {l : Lexeme} (hshape : l.token.Shape)
    (hblanks : ∀ c ∈ l.blanks, Text.isBlank c = true) {following : Text}
    (h : l.token.ShowsReferences following) (ctx : Context) (live : Bool) :
    ctx.resolve live (l.render ++ following) =
      l.blanks ++ l.token.rewrite ctx live ++ ctx.resolve live following := by
  have hrewrite : l.token.rewrite ctx live = ctx.resolve live l.token.raw := by
    rw [hshape.rewrite_eq]
    split
    · rfl
    · next hkind => rw [ctx.resolve_of_references_eq_nil live (h.shown hkind)]
  rw [Lexeme.render, List.append_assoc, ctx.resolve_blanks_append live hblanks,
    ctx.resolve_append live h.separate, hrewrite, List.append_assoc]

/-- A lexeme whose token does not show its references is rewritten to a longer text than what is
left of it in front of the text behind it, where all columns are empty. -/
theorem Lexeme.showsReferences_or_plainLength_lt {l : Lexeme} (hshape : l.token.Shape)
    (hblanks : ∀ c ∈ l.blanks, Text.isBlank c = true) (following : Text) :
    l.token.ShowsReferences following ∨
      plainLength (l.render ++ following) <
        (l.blanks ++ l.token.rewrite .empty false).length + plainLength following := by
  have hrender : plainLength (l.render ++ following) =
      l.blanks.length + plainLength (l.token.raw ++ following) := by
    rw [Lexeme.render, List.append_assoc, plainLength,
      Context.empty.resolve_blanks_append false hblanks, List.length_append]
    rfl
  rw [hrender, List.length_append, hshape.rewrite_eq]
  by_cases hkind : l.token.kind ∈ TokenKind.showing
  · rw [if_pos hkind, Nat.add_assoc, Nat.add_lt_add_iff_left]
    exact (separate_or_plainLength_lt _ _).imp_left fun h => ⟨h, fun hnot => absurd hkind hnot⟩
  · rw [if_neg hkind, Nat.add_assoc, Nat.add_lt_add_iff_left]
    have hle := references_eq_nil_or_plainLength_lt l.token.raw
    rcases separate_or_plainLength_lt l.token.raw following with hseparate | hlt
    · rw [plainLength_append hseparate]
      rcases hle with ⟨hnone, -⟩ | hlt
      · exact .inl ⟨hseparate, fun _ => hnone⟩
      · exact .inr (by omega)
    · exact .inr (by omega)

/-- Lexemes whose tokens show their references are rewritten to what is left of their text when
the references of the text are replaced. -/
theorem resolve_flatMap_render_append {ls : List Lexeme} {tail : Text}
    (hshapes : ∀ l ∈ ls, l.token.Shape)
    (hblanks : ∀ l ∈ ls, ∀ c ∈ l.blanks, Text.isBlank c = true)
    (h : ∀ front l back, ls = front ++ l :: back →
      l.token.ShowsReferences (back.flatMap Lexeme.render ++ tail)) (ctx : Context) (live : Bool) :
    ctx.resolve live (ls.flatMap Lexeme.render ++ tail) =
      rewriteLexemes ctx live ls ++ ctx.resolve live tail := by
  induction ls with
  | nil => rfl
  | cons l ls ih =>
    obtain ⟨hshape, hshapes⟩ := List.forall_mem_cons.mp hshapes
    obtain ⟨hblank, hblanks⟩ := List.forall_mem_cons.mp hblanks
    rw [List.flatMap_cons, List.append_assoc,
      Lexeme.resolve_render_append hshape hblank (h [] l ls rfl),
      ih hshapes hblanks
        (fun front next back hsplit => h (l :: front) next back (by rw [hsplit]; rfl))]
    simp [rewriteLexemes]

/-- Lexemes show the references of their text, or they are rewritten to a longer text than what
is left of it, where all columns are empty. -/
theorem showsReferences_or_plainLength_lt {ls : List Lexeme} {tail : Text}
    (hshapes : ∀ l ∈ ls, l.token.Shape)
    (hblanks : ∀ l ∈ ls, ∀ c ∈ l.blanks, Text.isBlank c = true) :
    (∀ front l back, ls = front ++ l :: back →
      l.token.ShowsReferences (back.flatMap Lexeme.render ++ tail)) ∨
      plainLength (ls.flatMap Lexeme.render ++ tail) <
        (rewriteLexemes .empty false ls).length + plainLength tail := by
  induction ls with
  | nil => exact .inl fun front l back hsplit => by simp at hsplit
  | cons l ls ih =>
    obtain ⟨hshape, hshapes⟩ := List.forall_mem_cons.mp hshapes
    obtain ⟨hblank, hblanks⟩ := List.forall_mem_cons.mp hblanks
    have hrest := ih hshapes hblanks
    have hfirst := Lexeme.showsReferences_or_plainLength_lt hshape hblank
      (ls.flatMap Lexeme.render ++ tail)
    have hlength : (rewriteLexemes .empty false (l :: ls)).length =
        (l.blanks ++ l.token.rewrite .empty false).length +
          (rewriteLexemes .empty false ls).length := by
      rw [rewriteLexemes, List.flatMap_cons, List.length_append]
      rfl
    rw [List.flatMap_cons, List.append_assoc, hlength]
    -- Where a part shows its references, as much is left of it as it is rewritten to.
    have hfirst_le : plainLength (l.render ++ (ls.flatMap Lexeme.render ++ tail)) ≤
        (l.blanks ++ l.token.rewrite .empty false).length +
          plainLength (ls.flatMap Lexeme.render ++ tail) := by
      rcases hfirst with hshown | hlt
      · rw [plainLength, Lexeme.resolve_render_append hshape hblank hshown, List.length_append]
        rfl
      · exact hlt.le
    rcases hrest with hshown | hlt
    · have hrest_eq : plainLength (ls.flatMap Lexeme.render ++ tail) =
          (rewriteLexemes .empty false ls).length + plainLength tail := by
        rw [plainLength, resolve_flatMap_render_append hshapes hblanks hshown,
          List.length_append]
        rfl
      rcases hfirst with hfirst | hlt
      · left
        rintro (_ | ⟨first, front⟩) next back hsplit
        · obtain ⟨rfl, rfl⟩ := List.cons.inj hsplit
          exact hfirst
        · exact hshown front next back (List.cons.inj hsplit).2
      · exact .inr (by omega)
    · exact .inr (by omega)

/-- A reference that is written in a text is recognised in its tokens: it has a token of its own,
or it lies in a string or a formula. -/
def Recognised (t : Text) (start : Nat) (r : Reference) : Prop :=
  TokenAt t start (.ofReference r) ∨
    InsideToken t [.string, .formula] start (start + r.render.length)

namespace TokenAt

variable {t before following : Text} {token : Token}

/-- A reference that begins in a token that shows its references is recognised. -/
theorem recognised_of_showsReferences (h : TokenAt t before.length token)
    (htext : t = before ++ (token.raw ++ following)) (hshows : token.ShowsReferences following)
    {start : Nat} {r : Reference} (hr : ReferenceAt t start r) (hstart : before.length ≤ start)
    (hstop : start < before.length + token.raw.length) : Recognised t start r := by
  rcases hr.exists_tokenAt with hown | ⟨place, other, hother, hkind, hplace, hend⟩
  · exact .inl hown
  obtain ⟨rfl, rfl⟩ := hother.eq_of_overlap h (by omega) (by omega)
  obtain ⟨hwell, left, after, hwritten, rfl⟩ := referenceAt_iff.mp hr
  obtain ⟨inner, rfl⟩ := List.prefix_of_prefix_length_le ⟨_, htext.symm⟩ ⟨_, hwritten.symm⟩ hstart
  rw [hwritten, List.append_assoc, List.append_cancel_left_eq] at htext
  rw [List.length_append, Nat.add_lt_add_iff_left] at hstop
  obtain ⟨right, hraw⟩ := List.prefix_of_prefix_length_le ⟨_, htext⟩ ⟨_, rfl⟩ hstop.le
  rw [← hraw, List.append_assoc, List.append_cancel_left_eq] at htext
  have hne : right ≠ [] := by
    rintro rfl
    simp [← hraw] at hstop
  obtain ⟨gap, rfl⟩ := hshows.separate right ⟨inner, hraw⟩ hne r after
    (Reference.scan?_eq_some_iff.mpr ⟨hwell, htext.symm⟩)
  rw [← List.append_assoc, List.append_cancel_right_eq] at htext
  have hmem : r ∈ references other.raw :=
    mem_references_iff.mpr ⟨hwell, inner, gap, by rw [← hraw, ← htext, List.append_assoc]⟩
  have hshowing : other.kind ∈ TokenKind.showing := by
    by_contra hnot
    simp [hshows.shown hnot] at hmem
  refine .inr ⟨_, _, h, ?_, hstart, ?_⟩
  · simp only [List.mem_cons, TokenKind.showing] at hkind hshowing ⊢
    grind
  · simp only [← hraw, ← htext, List.length_append]
    omega

/-- A reference that is recognised where a token goes on lies in the token, which is of a kind
whose references are replaced. -/
theorem prefix_of_recognised (h : TokenAt t before.length token) {inner right : Text}
    (hraw : token.raw = inner ++ right) (hne : right ≠ []) {r : Reference} {more : Text}
    (hright : right ++ following = r.render ++ more)
    (hrecognised : Recognised t (before ++ inner).length r) :
    token.kind ∈ TokenKind.showing ∧ r.render <+: right := by
  have hlength := List.length_pos_iff.mpr hne
  have hpos := r.render_length_pos
  rcases hrecognised with hown | ⟨place, other, hother, hkind, hplace, hend⟩
  · obtain ⟨hplace, rfl⟩ := hown.eq_of_overlap h
      (by simp only [hraw, List.length_append]; omega)
      (by simp only [Token.raw_ofReference, List.length_append]; omega)
    have hnil : inner = [] := by simpa using hplace
    rw [Token.raw_ofReference, hnil, List.nil_append] at hraw
    rw [hraw]
    refine ⟨?_, List.prefix_rfl⟩
    rcases Token.kind_ofReference r with hkind | hkind <;> simp [hkind, TokenKind.showing]
  · rw [List.length_append] at hplace hend
    obtain ⟨rfl, rfl⟩ := hother.eq_of_overlap h
      (by simp only [hraw, List.length_append]; omega) (by omega)
    rw [hraw, List.length_append] at hend
    refine ⟨?_, List.prefix_of_prefix_length_le ⟨more, hright.symm⟩ ⟨following, rfl⟩ (by omega)⟩
    simp only [List.mem_cons, TokenKind.showing] at hkind ⊢
    grind

/-- A token shows its references exactly if each one that begins in it is recognised. -/
theorem showsReferences_iff (h : TokenAt t before.length token)
    (htext : t = before ++ (token.raw ++ following)) :
    token.ShowsReferences following ↔
      ∀ start r, ReferenceAt t start r → before.length ≤ start →
        start < before.length + token.raw.length → Recognised t start r := by
  refine ⟨fun hshows start r hr => h.recognised_of_showsReferences htext hshows hr,
    fun hrecognised => ?_⟩
  have hinside : ∀ (inner right more : Text) (r : Reference), token.raw = inner ++ right →
      right ≠ [] → r.WellFormed → right ++ following = r.render ++ more →
      token.kind ∈ TokenKind.showing ∧ r.render <+: right := by
    intro inner right more r hraw hne hr hright
    have hlength := List.length_pos_iff.mpr hne
    have hfound : ReferenceAt t (before ++ inner).length r :=
      referenceAt_iff.mpr ⟨hr, _, more, by
        rw [htext, hraw, List.append_assoc, hright, ← List.append_assoc], rfl⟩
    refine h.prefix_of_recognised hraw hne hright (hrecognised _ r hfound ?_ ?_)
    all_goals
      simp only [hraw, List.length_append]
      omega
  constructor
  · rintro right ⟨inner, hraw⟩ hne r rest hscan
    obtain ⟨hr, hright⟩ := Reference.scan?_eq_some_iff.mp hscan
    obtain ⟨gap, rfl⟩ := (hinside inner right rest r hraw.symm hne hr hright).2
    rw [List.append_assoc, List.append_cancel_left_eq] at hright
    exact ⟨gap, hright⟩
  · intro hkind
    rw [List.eq_nil_iff_forall_not_mem]
    intro r hr
    obtain ⟨hwell, inner, after, hraw⟩ := mem_references_iff.mp hr
    rw [List.append_assoc] at hraw
    obtain ⟨rest, hrest⟩ := r.render_eq_cons
    exact hkind (hinside inner _ (after ++ following) r hraw.symm (by simp [hrest]) hwell
      (List.append_assoc _ _ _)).1

end TokenAt

/-- The tokens of a text show its references exactly if all of these are recognised. -/
theorem forall_showsReferences_iff {t tail : Text}
    (ht : t = (lexemes t).flatMap Lexeme.render ++ tail) :
    (∀ front l back, lexemes t = front ++ l :: back →
      l.token.ShowsReferences (back.flatMap Lexeme.render ++ tail)) ↔
      ∀ start r, ReferenceAt t start r → Recognised t start r := by
  have hshows : ∀ front l back, lexemes t = front ++ l :: back →
      (l.token.ShowsReferences (back.flatMap Lexeme.render ++ tail) ↔
        ∀ start r, ReferenceAt t start r →
          (front.flatMap Lexeme.render ++ l.blanks).length ≤ start →
          start < (front.flatMap Lexeme.render ++ l.blanks).length + l.token.raw.length →
          Recognised t start r) := by
    intro front l back hsplit
    refine TokenAt.showsReferences_iff ⟨front, l, back, hsplit, rfl, rfl⟩ ?_
    rw [hsplit] at ht
    simpa [Lexeme.render] using ht
  constructor
  · intro h start r hr
    rcases hr.exists_tokenAt with
      hown | ⟨_, _, ⟨front, l, back, hsplit, rfl, rfl⟩, -, hstart, hstop⟩
    · exact .inl hown
    · exact (hshows front l back hsplit).mp (h front l back hsplit) start r hr hstart hstop
  · intro h front l back hsplit
    exact (hshows front l back hsplit).mpr fun start r hr _ _ => h start r hr

/-- Rewriting a text token by token and resolving it give the same text, in whatever context,
exactly if all references of the text are recognised. -/
theorem rewriteTokens_eq_resolve_iff {t : Text} :
    (∀ ctx live, rewriteTokens ctx live t = Context.resolve ctx live t) ↔
      ∀ start r, ReferenceAt t start r → Recognised t start r := by
  obtain ⟨tail, htail, ht⟩ := exists_lexemes_append t
  have hdrop : t.drop ((lexemes t).flatMap Lexeme.render).length = tail :=
    (congrArg (List.drop _) ht).trans List.drop_left
  have hresolve : ∀ (ctx : Context) live, ctx.resolve live tail = tail := by
    intro ctx live
    have hblanks := ctx.resolve_blanks_append live htail []
    rwa [ctx.resolve_nil live, List.append_nil] at hblanks
  have hshapes : ∀ l ∈ lexemes t, l.token.Shape := fun l hl => shape_of_mem_lexemes hl
  have hblanks : ∀ l ∈ lexemes t, ∀ c ∈ l.blanks, Text.isBlank c = true :=
    fun l hl => isBlank_of_mem_lexemes hl
  rw [← forall_showsReferences_iff ht]
  constructor
  · intro h
    refine (showsReferences_or_plainLength_lt hshapes hblanks).resolve_right ?_
    have hempty := congrArg List.length (h .empty false)
    rw [rewriteTokens, hdrop, List.length_append] at hempty
    rw [← ht, plainLength, ← hempty, plainLength, hresolve]
    omega
  · intro h ctx live
    have hall := resolve_flatMap_render_append hshapes hblanks h ctx live
    rw [← ht, hresolve] at hall
    rw [rewriteTokens, hdrop, hall]

/-- The tokens of references in a text are the references that are written in it, each with its
kind, its column and its place, except those that begin in a string, in a formula or in plain
text. Plain text holds only references that follow a character of a word. Rewriting the text
token by token gives what resolving it gives, whatever the values of the columns are, exactly if
each reference that has no token of its own lies in a string or a formula. -/
theorem reference_tokens_and_rewriting (t : Text) :
    (∀ start token, TokenAt t start token ∧ token.kind ∈ [TokenKind.sourceRef, .selfRef] ↔
      ∃ r, token = .ofReference r ∧ ReferenceAt t start r ∧
        ¬ InsideToken t [.string, .formula, .text] start (start + 1)) ∧
    (∀ start r, ReferenceAt t start r → InsideToken t [.text] start (start + 1) →
      FollowsWord t start) ∧
    ((∀ ctx live, rewriteTokens ctx live t = Context.resolve ctx live t) ↔
      ∀ start r, ReferenceAt t start r → TokenAt t start (.ofReference r) ∨
        InsideToken t [.string, .formula] start (start + r.render.length)) := by
  refine ⟨fun start token => ?_, fun start r hr htext => hr.followsWord htext,
    rewriteTokens_eq_resolve_iff⟩
  constructor
  · rintro ⟨htoken, hkind⟩
    obtain ⟨r, -, rfl⟩ := htoken.shape.eq_ofReference hkind
    exact ⟨r, rfl, tokenAt_ofReference_iff.mp htoken⟩
  · rintro ⟨r, rfl, h⟩
    refine ⟨tokenAt_ofReference_iff.mpr h, ?_⟩
    rcases Token.kind_ofReference r with hkind | hkind <;> simp [hkind]

/-- A reference behind a letter has no token of its own, and neither has one that a formula is
cut in. Both are outside strings and formulas, and both are replaced when their text is
resolved. -/
theorem reference_tokens_hidden :
    (ReferenceAt "xsrc[A]".toList 1 ⟨.source, "A".toList⟩ ∧
      ¬ TokenAt "xsrc[A]".toList 1 (.ofReference ⟨.source, "A".toList⟩) ∧
      ¬ InsideToken "xsrc[A]".toList [.string, .formula] 1 7 ∧
      rewriteTokens .empty false "xsrc[A]".toList = "xsrc[A]".toList ∧
      Context.empty.resolve false "xsrc[A]".toList = "x".toList) ∧
    (ReferenceAt "=src[A B]".toList 1 ⟨.source, "A B".toList⟩ ∧
      ¬ TokenAt "=src[A B]".toList 1 (.ofReference ⟨.source, "A B".toList⟩) ∧
      ¬ InsideToken "=src[A B]".toList [.string, .formula] 1 9 ∧
      rewriteTokens .empty false "=src[A B]".toList = "=src[A B]".toList ∧
      Context.empty.resolve false "=src[A B]".toList = "=".toList) := by
  have hword : tokenize "xsrc[A]".toList = [.plain .text "xsrc[A]".toList] := by decide +kernel
  have hcut : tokenize "=src[A B]".toList =
      [.plain .formula "=src[A".toList, .plain .text "B]".toList] := by decide +kernel
  refine ⟨⟨?_, ?_, ?_, by decide +kernel, by decide +kernel⟩,
    ?_, ?_, ?_, by decide +kernel, by decide +kernel⟩
  · exact referenceAt_iff.mpr ⟨by decide, "x".toList, [], by decide, by decide⟩
  · intro h
    have hmem := h.mem_tokenize
    rw [hword, List.mem_singleton] at hmem
    exact absurd (congrArg Token.kind hmem) (by decide)
  · rintro ⟨place, token, h, hkind, -, -⟩
    have hmem := h.mem_tokenize
    rw [hword, List.mem_singleton] at hmem
    simp [hmem, Token.plain] at hkind
  · exact referenceAt_iff.mpr ⟨by decide, "=".toList, [], by decide, by decide⟩
  · intro h
    have hmem := h.mem_tokenize
    rw [hcut] at hmem
    rcases List.mem_pair.mp hmem with htoken | htoken
    all_goals exact absurd (congrArg Token.kind htoken) (by decide)
  · rintro ⟨place, token, h, hkind, hplace, hstop⟩
    have hmem := h.mem_tokenize
    rw [hcut] at hmem
    rcases List.mem_pair.mp hmem with rfl | rfl
    · simp [Token.plain] at hstop
      omega
    · simp [Token.plain] at hkind

end Rowscript
