/-!
# Cutting text

`cutAt` splits a list of characters at the first place where a pattern stands, `splitOn` at every
place where a character stands. `eq_of_cutAt` says that nothing but the pattern is lost.
-/

namespace MonitorOperator.Text

/-- The rest of the list after a pattern that it starts with. -/
def dropPattern? : (pattern characters : List Char) → Option (List Char)
  | [], characters => some characters
  | _ :: _, [] => none
  | wanted :: pattern, character :: characters =>
      if wanted = character then dropPattern? pattern characters else none

/-- What stands before and after the first occurrence of a pattern. -/
def cutAt (pattern : List Char) : (characters : List Char) → Option (List Char × List Char)
  | [] => (dropPattern? pattern []).map ([], ·)
  | character :: characters =>
      match dropPattern? pattern (character :: characters) with
      | some rest => some ([], rest)
      | none => (cutAt pattern characters).map fun (before, rest) => (character :: before, rest)

/-- The pieces between the occurrences of a character; there is always at least one. -/
def splitOn (separator : Char) : List Char → List (List Char)
  | [] => [[]]
  | character :: characters =>
      if character = separator then [] :: splitOn separator characters
      else match splitOn separator characters with
        | piece :: pieces => (character :: piece) :: pieces
        | [] => [[character]]

/-- The pieces joined with a separator between each two. -/
def joinWith (separator : List Char) : List (List Char) → List Char
  | [] => []
  | [piece] => piece
  | piece :: next :: pieces => piece ++ separator ++ joinWith separator (next :: pieces)

/-- The pattern occurs in the list. -/
def occursIn (pattern characters : List Char) : Bool :=
  (cutAt pattern characters).isSome

/-- Drop every occurrence of a character from the end. -/
def dropTrailing (character : Char) (characters : List Char) : List Char :=
  (characters.reverse.dropWhile (· == character)).reverse

/-- The text with its ASCII letters in lower case. -/
def lowerAscii (text : String) : String :=
  String.ofList (text.toList.map Char.toLower)

/-- A pattern and what follows it make up the list. -/
theorem dropPattern?_eq_some {pattern characters rest : List Char}
    (h : dropPattern? pattern characters = some rest) : characters = pattern ++ rest := by
  induction pattern generalizing characters with
  | nil => simpa [dropPattern?] using h
  | cons wanted pattern ih =>
      cases characters with
      | nil => simp [dropPattern?] at h
      | cons character characters =>
          simp only [dropPattern?] at h
          split at h
          · next same => rw [same, ih h, List.cons_append]
          · simp at h

/-- Cutting at a pattern loses only the pattern. -/
theorem eq_of_cutAt {pattern characters before rest : List Char}
    (h : cutAt pattern characters = some (before, rest)) :
    characters = before ++ pattern ++ rest := by
  induction characters generalizing before with
  | nil =>
      simp only [cutAt, Option.map_eq_some_iff, Prod.mk.injEq] at h
      obtain ⟨left, found, rfl, rfl⟩ := h
      simpa using dropPattern?_eq_some found
  | cons character characters ih =>
      simp only [cutAt] at h
      split at h
      · next found =>
          simp only [Option.some.injEq, Prod.mk.injEq] at h
          obtain ⟨rfl, rfl⟩ := h
          simpa using dropPattern?_eq_some found
      · simp only [Option.map_eq_some_iff, Prod.mk.injEq, Prod.exists] at h
        obtain ⟨left, right, found, rfl, rfl⟩ := h
        simp [ih found]

end MonitorOperator.Text
