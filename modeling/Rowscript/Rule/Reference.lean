import Rowscript.Text.Basic

/-!
# Column references

A rule names a column of the source row as `src[Name]` and an output column as
`self[Name]`. This file reads and writes one reference, and reads a whole text as a
template: plain characters with references among them.
-/

namespace Rowscript

/-- Where a referenced column is found: in the source row or among the outputs that the
same row already has. -/
inductive Origin where
  | source
  | output
  deriving DecidableEq, Repr

/-- The keyword of an origin, with the bracket that opens the column name. -/
def Origin.opening : Origin → Text
  | .source => "src[".toList
  | .output => "self[".toList

/-- A reference to a column. -/
structure Reference where
  origin : Origin
  column : Text
  deriving DecidableEq, Repr

namespace Reference

/-- A column name inside a reference holds no bracket. -/
def isColumnChar (c : Char) : Bool := c ≠ '[' && c ≠ ']'

/-- The text of a reference. -/
def render (r : Reference) : Text := r.origin.opening ++ r.column ++ [']']

/-- Reads a column name and the bracket that closes it. -/
def scanColumn? (t : Text) : Option (Text × Text) :=
  match t.dropWhile isColumnChar with
  | ']' :: rest => some (t.takeWhile isColumnChar, rest)
  | _ => none

/-- Reads a reference of one origin at the beginning of a text and gives what follows. -/
def scanFrom? (origin : Origin) (t : Text) : Option (Reference × Text) :=
  ((Text.after? origin.opening t).bind scanColumn?).map fun (column, rest) =>
    (⟨origin, column⟩, rest)

/-- Reads a reference at the beginning of a text and gives what follows. -/
def scan? (t : Text) : Option (Reference × Text) :=
  (scanFrom? .source t).or (scanFrom? .output t)

end Reference

namespace Text

/-- What follows a beginning is the text without it. -/
theorem eq_append_of_after? {beginning t rest : Text} (h : after? beginning t = some rest) :
    t = beginning ++ rest := by
  induction beginning generalizing t with
  | nil => simpa [after?] using h
  | cons b beginning ih =>
    cases t with
    | nil => simp [after?] at h
    | cons c t =>
      by_cases hbc : b = c
      · simp only [after?, hbc, if_true] at h
        simp [hbc, ih h]
      · simp [after?, hbc] at h

end Text

namespace Reference

/-- The column name and its bracket are the beginning of the text they are read from. -/
theorem eq_append_of_scanColumn? {t column rest : Text}
    (h : scanColumn? t = some (column, rest)) : t = column ++ ']' :: rest := by
  unfold scanColumn? at h
  split at h
  · next tail hdrop =>
    simp only [Option.some.injEq, Prod.mk.injEq] at h
    obtain ⟨rfl, rfl⟩ := h
    rw [← hdrop, List.takeWhile_append_dropWhile]
  · simp at h

/-- A reference of one origin that is read is written at the beginning of the text. -/
theorem eq_append_of_scanFrom? {origin : Origin} {t rest : Text} {r : Reference}
    (h : scanFrom? origin t = some (r, rest)) : t = r.render ++ rest := by
  simp only [scanFrom?, Option.map_eq_some_iff, Option.bind_eq_some_iff, Prod.mk.injEq] at h
  obtain ⟨⟨column, tail⟩, ⟨inside, hinside, hread⟩, rfl, rfl⟩ := h
  rw [Text.eq_append_of_after? hinside, eq_append_of_scanColumn? hread]
  simp [render]

/-- A reference that is read is written at the beginning of the text. -/
theorem eq_append_of_scan? {t rest : Text} {r : Reference} (h : scan? t = some (r, rest)) :
    t = r.render ++ rest := by
  rcases Option.or_eq_some_iff.mp h with h | ⟨_, h⟩
  · exact eq_append_of_scanFrom? h
  · exact eq_append_of_scanFrom? h

/-- A written reference is not empty. -/
theorem render_length_pos (r : Reference) : 0 < r.render.length := by
  simp only [render, List.length_append, List.length_cons]
  omega

end Reference

/-- A piece of a template: a character that stands for itself, or a reference. -/
inductive Piece where
  | char (c : Char)
  | reference (r : Reference)
  deriving DecidableEq, Repr

/-- The text of a piece. -/
def Piece.render : Piece → Text
  | .char c => [c]
  | .reference r => r.render

/-- The pieces of a template, from left to right: wherever a reference can be read it is
one piece, and every other character is a piece by itself. -/
def pieces : Text → List Piece
  | [] => []
  | c :: t =>
    match _h : Reference.scan? (c :: t) with
    | some (r, rest) => .reference r :: pieces rest
    | none => .char c :: pieces t
termination_by t => t.length
decreasing_by
  · rw [Reference.eq_append_of_scan? _h]
    have := r.render_length_pos
    simp only [List.length_append]
    omega
  · simp

/-- The references in a text, from left to right. -/
def references (t : Text) : List Reference :=
  (pieces t).filterMap fun
    | .reference r => some r
    | .char _ => none

end Rowscript
