import MonitorOperator.Text.Cut

/-!
# Where a text is cut

A text is cut at the first place where a pattern begins (`cutAt_append`). For a pattern of one
character, this is the first occurrence of the character (`cutAt_mark`). The mark after a scheme
cannot begin in the scheme and end behind it, so it is found behind a scheme that does not hold it
(`cutAt_scheme`). Whether a pattern occurs at all is told by `occursIn_iff`.
-/

namespace MonitorOperator.Text

/-- A list does not start with a pattern if none is dropped. -/
theorem dropPattern?_eq_none_iff {pattern characters : List Char} :
    dropPattern? pattern characters = none ↔ ¬ pattern <+: characters := by
  induction pattern generalizing characters with
  | nil => simp [dropPattern?]
  | cons wanted pattern ih =>
      cases characters with
      | nil => simp [dropPattern?]
      | cons character characters =>
          rw [dropPattern?, List.cons_prefix_cons]
          by_cases h : wanted = character <;> simp [h, ih]

/-- What follows a pattern is left when the pattern is dropped. -/
theorem dropPattern?_append (pattern rest : List Char) :
    dropPattern? pattern (pattern ++ rest) = some rest := by
  induction pattern with
  | nil => rfl
  | cons wanted pattern ih => simpa [dropPattern?] using ih

/-- At a place where the pattern stands, the list is cut there. -/
theorem cutAt_of_dropPattern? {pattern characters rest : List Char}
    (h : dropPattern? pattern characters = some rest) :
    cutAt pattern characters = some ([], rest) := by
  cases characters with
  | nil => rw [cutAt, h, Option.map_some]
  | cons character characters => rw [cutAt, h]

/-- A list is cut where a pattern stands, if the pattern begins nowhere before. -/
theorem cutAt_append {pattern front : List Char} (rest : List Char)
    (h : ∀ before character after, front = before ++ character :: after →
      ¬ pattern <+: character :: (after ++ (pattern ++ rest))) :
    cutAt pattern (front ++ (pattern ++ rest)) = some (front, rest) := by
  induction front with
  | nil => exact cutAt_of_dropPattern? (dropPattern?_append pattern rest)
  | cons first front ih =>
      have hfirst := dropPattern?_eq_none_iff.2 (h [] first front rfl)
      have hfront := ih fun before character after hsplit =>
        h (first :: before) character after (congrArg (first :: ·) hsplit)
      rw [List.cons_append, cutAt, hfirst]
      dsimp only
      rw [hfront, Option.map_some]

/-- A list is cut at the first occurrence of a character. -/
theorem cutAt_mark {mark : Char} {front : List Char} (h : mark ∉ front) (rest : List Char) :
    cutAt [mark] (front ++ mark :: rest) = some (front, rest) := by
  have hcut : cutAt [mark] (front ++ ([mark] ++ rest)) = some (front, rest) := by
    refine cutAt_append rest fun before character after hsplit hmark => h ?_
    rw [hsplit, (List.cons_prefix_cons.1 hmark).1]
    simp
  exact hcut

/-- A list is cut behind the scheme that it begins with. -/
theorem cutAt_scheme {scheme : List Char} (h : ¬ "://".toList <:+: scheme) (rest : List Char) :
    cutAt "://".toList (scheme ++ ("://".toList ++ rest)) = some (scheme, rest) := by
  refine cutAt_append rest fun before character after hsplit hmark => ?_
  match after with
  | [] => simp at hmark
  | [_] => simp at hmark
  | second :: third :: after =>
      refine h ⟨before, after, ?_⟩
      simp only [String.reduceToList, List.cons_append, List.cons_prefix_cons, List.nil_prefix,
        and_true] at hmark
      obtain ⟨rfl, rfl, rfl⟩ := hmark
      rw [hsplit]
      simp

end MonitorOperator.Text
