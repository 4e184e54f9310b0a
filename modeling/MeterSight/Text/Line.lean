/-!
# Lines and columns

A text is cut at a separator into the pieces between; lines end in LF or CRLF.
-/
namespace MeterSight.Text

/-- The pieces between the separators, at least one. -/
def splitAt (separator : Char) : List Char → List (List Char)
  | [] => [[]]
  | c :: rest =>
    match splitAt separator rest with
    | [] => [[c]]
    | piece :: pieces => if c = separator then [] :: piece :: pieces else (c :: piece) :: pieces

/-- Drops one carriage return at the end. -/
def dropReturn (line : List Char) : List Char :=
  if line.getLast? = some '\r' then line.dropLast else line

/-- Every piece but the last was ended by a line feed; an empty last piece is no line. -/
def closeLines : List (List Char) → List (List Char)
  | [] => []
  | [last] => if last = [] then [] else [last]
  | line :: more => dropReturn line :: closeLines more

/-- The lines of a text. A final line end opens no further line. -/
def lines (text : List Char) : List (List Char) := closeLines (splitAt '\n' text)

theorem splitAt_ne_nil (separator : Char) (text : List Char) : splitAt separator text ≠ [] := by
  cases text with
  | nil => simp [splitAt]
  | cons c rest =>
    simp only [splitAt]
    split
    · simp
    · split <;> simp

theorem splitAt_cons_of_ne {separator c : Char} (h : c ≠ separator) {piece : List Char}
    {pieces : List (List Char)} {rest : List Char} (e : splitAt separator rest = piece :: pieces) :
    splitAt separator (c :: rest) = (c :: piece) :: pieces := by
  simp [splitAt, e, h]

@[simp] theorem splitAt_cons_self (separator : Char) (rest : List Char) :
    splitAt separator (separator :: rest) = [] :: splitAt separator rest := by
  obtain ⟨piece, pieces, e⟩ := List.exists_cons_of_ne_nil (splitAt_ne_nil separator rest)
  simp [splitAt, e]

theorem splitAt_of_not_mem {separator : Char} {text : List Char} (h : separator ∉ text) :
    splitAt separator text = [text] := by
  induction text with
  | nil => rfl
  | cons c rest ih =>
    have apart : c ≠ separator := fun same => h (same ▸ List.mem_cons_self)
    exact splitAt_cons_of_ne apart (ih fun mem => h (List.mem_cons_of_mem c mem))

/-- What is put at the end of a text goes to the end of its last piece. -/
theorem exists_splitAt_append (separator : Char) (text : List Char) :
    ∃ pieces last, splitAt separator text = pieces ++ [last] ∧
      ∀ more, separator ∉ more → splitAt separator (text ++ more) = pieces ++ [last ++ more] := by
  induction text with
  | nil => exact ⟨[], [], rfl, fun more plain => splitAt_of_not_mem plain⟩
  | cons c rest ih =>
    obtain ⟨pieces, last, split, append⟩ := ih
    by_cases same : c = separator
    · subst same
      refine ⟨[] :: pieces, last, by rw [splitAt_cons_self, split]; rfl, fun more plain => ?_⟩
      rw [List.cons_append, splitAt_cons_self, append more plain]
      rfl
    · cases pieces with
      | nil =>
        refine ⟨[], c :: last, splitAt_cons_of_ne same split, fun more plain => ?_⟩
        exact splitAt_cons_of_ne same (append more plain)
      | cons piece pieces =>
        refine ⟨(c :: piece) :: pieces, last, splitAt_cons_of_ne same split, fun more plain => ?_⟩
        exact splitAt_cons_of_ne same (append more plain)

theorem splitAt_eq_splitOn (separator : Char) (text : List Char) :
    splitAt separator text = text.splitOn separator := by
  induction text with
  | nil => rfl
  | cons c rest ih =>
    obtain ⟨piece, pieces, e⟩ := List.exists_cons_of_ne_nil (splitAt_ne_nil separator rest)
    rw [List.splitOn_cons_eq_if_modifyHead, ← ih]
    by_cases same : c = separator
    · simp [same]
    · simp [same, splitAt_cons_of_ne same e, e]

theorem dropReturn_append_return (line : List Char) : dropReturn (line ++ ['\r']) = line := by
  simp [dropReturn]

theorem lines_of_not_mem {line : List Char} (feedless : '\n' ∉ line) :
    lines line = if line = [] then [] else [line] := by
  rw [lines, splitAt_of_not_mem feedless, closeLines]

/-- The first line of a text ends where its first line feed stands. -/
theorem lines_append_feed {line : List Char} (feedless : '\n' ∉ line) (rest : List Char) :
    lines (line ++ '\n' :: rest) = dropReturn line :: lines rest := by
  obtain ⟨piece, pieces, e⟩ := List.exists_cons_of_ne_nil (splitAt_ne_nil '\n' rest)
  rw [lines, lines, splitAt_eq_splitOn, List.splitOn_append_cons_self,
    List.splitOn_eq_singleton feedless, List.singleton_append, ← splitAt_eq_splitOn, e]
  rfl

end MeterSight.Text
