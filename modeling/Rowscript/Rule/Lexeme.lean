import Rowscript.Rule.Token

/-!
# Cutting an instruction into lexemes

An instruction is read from left to right: blanks are skipped, then one token is taken,
and so on to the end. A lexeme keeps a token together with the blanks before it, so the
lexemes of an instruction give back all of it but the blanks at its end.
-/

namespace Rowscript

/-- A token with the blanks before it. -/
structure Lexeme where
  blanks : Text
  token : Token
  deriving DecidableEq, Repr

/-- The text of a lexeme. -/
def Lexeme.render (l : Lexeme) : Text := l.blanks ++ l.token.raw

/-- Trimming on the right keeps a text that begins with another character than a blank
from becoming empty. -/
theorem Text.trimRight_cons_ne_nil {c : Char} (hc : isBlank c = false) (t : Text) :
    trimRight (c :: t) ≠ [] := by
  unfold trimRight
  rw [List.reverse_cons, List.dropWhile_append]
  split <;> simp [hc]

/-- The first token of a text that begins with another character than a blank has text. -/
theorem Token.first_raw_ne_nil {c : Char} (hc : Text.isBlank c = false) (rest : Text) :
    (Token.first c rest).raw ≠ [] := by
  unfold Token.first
  cases h : Token.scan? none (c :: rest) with
  | some token => exact Token.raw_ne_nil_of_scan? h
  | none => exact Text.trimRight_cons_ne_nil hc _

/-- What is left after skipping blanks does not begin with a blank. -/
theorem Text.isBlank_eq_false_of_trimLeft {t rest : Text} {c : Char}
    (h : trimLeft t = c :: rest) : isBlank c = false := by
  have hhead := List.head?_dropWhile_not isBlank t
  unfold trimLeft at h
  simpa [h] using hhead

/-- The lexemes of a text, from left to right. -/
def lexemes (t : Text) : List Lexeme :=
  match _h : Text.trimLeft t with
  | [] => []
  | c :: rest =>
    let token := Token.first c rest
    ⟨t.takeWhile Text.isBlank, token⟩ :: lexemes ((c :: rest).drop token.raw.length)
termination_by t.length
decreasing_by
  have hraw := List.length_pos_iff.mpr
    (Token.first_raw_ne_nil (Text.isBlank_eq_false_of_trimLeft _h) rest)
  have hle : (Text.trimLeft t).length ≤ t.length :=
    (List.dropWhile_sublist Text.isBlank).length_le
  rw [_h] at hle
  simp only [List.length_drop, List.length_cons] at hle ⊢
  omega

/-- The tokens of a text, from left to right. -/
def tokenize (t : Text) : List Token := (lexemes t).map Lexeme.token

/-- The tokens written one after the other with single spaces between them. -/
def joinTokens (tokens : List Token) : Text := Text.join [' '] (tokens.map Token.raw)

end Rowscript
