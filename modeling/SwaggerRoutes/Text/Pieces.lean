/-
Cutting a text at every occurrence of one character, putting pieces together again, and replacing.
The main statement is that cutting loses nothing but the separators: joining the pieces with the
separator gives the text back.
-/

namespace SwaggerRoutes.Text

/-- The pieces of a text between the occurrences of a separator, empty ones included. -/
def pieces (sep : Char) : List Char → List (List Char)
  | [] => [[]]
  | c :: rest =>
    if c = sep then [] :: pieces sep rest
    else match pieces sep rest with
      | [] => [[c]]
      | piece :: others => (c :: piece) :: others

/-- The pieces one after the other, with the separator between neighbours. -/
def joined (sep : List Char) : List (List Char) → List Char
  | [] => []
  | [piece] => piece
  | piece :: others => piece ++ sep ++ joined sep others

/-- The text with every `old` character written as `new`. -/
def replaceChar (old : Char) (new : List Char) (text : List Char) : List Char :=
  text.flatMap fun c => if c = old then new else [c]

/-- The rest of `text` after `start`, if it begins so. -/
def dropStart? : (start text : List Char) → Option (List Char)
  | [], text => some text
  | _ :: _, [] => none
  | s :: start, c :: text => if s = c then dropStart? start text else none

/-- The text with each occurrence of the two characters `a`, `b` in this order written as `new`;
occurrences are found from left to right and do not overlap. -/
def replacePair (a b : Char) (new : Char) : List Char → List Char
  | c :: d :: rest =>
    if c = a && d = b then new :: replacePair a b new rest
    else c :: replacePair a b new (d :: rest)
  | text => text

/-- Strings joined by a separator. -/
def joinStrings (sep : String) (parts : List String) : String :=
  String.ofList (joined sep.toList (parts.map String.toList))

theorem pieces_ne_nil (sep : Char) (text : List Char) : pieces sep text ≠ [] := by
  induction text with
  | nil => simp [pieces]
  | cons c rest ih =>
    unfold pieces
    split
    · simp
    · split <;> simp

theorem joined_cons {sep piece : List Char} {others : List (List Char)} (h : others ≠ []) :
    joined sep (piece :: others) = piece ++ sep ++ joined sep others := by
  cases others with
  | nil => exact absurd rfl h
  | cons => rfl

/-- Joining the pieces with their separator gives the text back. -/
theorem joined_pieces (sep : Char) (text : List Char) :
    joined [sep] (pieces sep text) = text := by
  induction text with
  | nil => rfl
  | cons c rest ih =>
    unfold pieces
    split
    · next h => rw [joined_cons (pieces_ne_nil sep rest), ih, h]; rfl
    · cases hp : pieces sep rest with
      | nil => exact absurd hp (pieces_ne_nil sep rest)
      | cons piece others =>
        rw [hp] at ih
        cases others with
        | nil => simp [joined] at ih ⊢; exact ih
        | cons => rw [← ih]; rfl

end SwaggerRoutes.Text
