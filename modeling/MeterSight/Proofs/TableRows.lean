import MeterSight.Ocr.Table
import MeterSight.Proofs.NumberText
import MeterSight.Proofs.SingleSign

/-!
# Rows of word tables

Which lines of a table are words and which are noise. A table of such lines, in any order and with
either line end, gives the words of its word rows: `words_tableText`. Noise changes nothing, since
a line is read without its neighbours.
-/
namespace MeterSight
open Text Decimal

namespace WordTable

variable {left top : Nat} {line : List Char}

/-! ### Cells -/

/-- The cells of a line, between its tabs. -/
def cells (line : List Char) : List (List Char) := line.splitOn '\t'

/-- The cell of a column. The columns are counted from zero. -/
def cell (line : List Char) (i : Nat) : List Char := (cells line).getD i []

/-- A line is read by its cells. -/
theorem word?_eq (left top : Nat) (line : List Char) :
    word? left top line =
      if (cells line).length < columns then none
      else if integer? maxInt32 (cell line 0) ≠ some wordLevel then none
      else if trim (cell line 11) = [] ∨ confidence (cell line 10) < 0.0 then none
      else some {
        text := String.ofList (trim (cell line 11))
        confidence := confidence (cell line 10)
        bounds := ⟨translate left (pixels (cell line 6)), translate top (pixels (cell line 7)),
          pixels (cell line 8), pixels (cell line 9)⟩ } := by
  unfold word?
  split
  · next eq =>
    rw [splitAt_eq_splitOn] at eq
    have enough : ¬ (cells line).length < columns := by simp [cells, eq, columns]
    rw [if_neg enough]
    simp only [cell, cells, eq, List.getD_cons_zero, List.getD_cons_succ]
  · next other =>
    rw [splitAt_eq_splitOn] at other
    refine (if_pos ?_).symm
    by_contra enough
    -- twelve cells can be named one by one
    rcases eq : cells line with
      _ | ⟨a, _ | ⟨b, _ | ⟨c, _ | ⟨d, _ | ⟨e, _ | ⟨f, _ | ⟨g, _ | ⟨h, _ | ⟨i, _ | ⟨j, _ | ⟨k, _ |
        ⟨l, more⟩⟩⟩⟩⟩⟩⟩⟩⟩⟩⟩⟩
    case cons.cons.cons.cons.cons.cons.cons.cons.cons.cons.cons.cons =>
      exact other a b c d e f g h i j k l more eq
    all_goals simp [eq, columns] at enough

/-- A carriage return at the end of a line goes to its last cell. -/
theorem exists_cells_append_return (line : List Char) : ∃ front last,
    cells line = front ++ [last] ∧ cells (line ++ ['\r']) = front ++ [last ++ ['\r']] := by
  obtain ⟨front, last, split, append⟩ := exists_splitAt_append '\t' line
  refine ⟨front, last, ?_, ?_⟩
  · rw [cells, ← splitAt_eq_splitOn, split]
  · rw [cells, ← splitAt_eq_splitOn, append _ (by decide)]

theorem length_cells_append_return (line : List Char) :
    (cells (line ++ ['\r'])).length = (cells line).length := by
  obtain ⟨front, last, old, new⟩ := exists_cells_append_return line
  simp [old, new]

theorem cell_append_return {i : Nat} (h : i + 1 < (cells line).length) :
    cell (line ++ ['\r']) i = cell line i := by
  obtain ⟨front, last, old, new⟩ := exists_cells_append_return line
  have inner : i < front.length := by simpa [old] using h
  rw [cell, cell, old, new, List.getD_append _ _ _ _ inner, List.getD_append _ _ _ _ inner]

@[simp] theorem trim_cell_append_return (line : List Char) (i : Nat) :
    trim (cell (line ++ ['\r']) i) = trim (cell line i) := by
  obtain ⟨front, last, old, new⟩ := exists_cells_append_return line
  rcases Nat.lt_trichotomy i front.length with inner | rfl | beyond
  · rw [cell_append_return (by simpa [old] using inner)]
  · simp [cell, old, new, trim_append_blank last (c := '\r') rfl]
  · rw [cell, cell, List.getD_eq_default _ _ (by simp [new, beyond]),
      List.getD_eq_default _ _ (by simp [old, beyond])]

theorem confidence_cell_append_return (line : List Char) (i : Nat) :
    confidence (cell (line ++ ['\r']) i) = confidence (cell line i) := by
  simp only [confidence, trim_cell_append_return]

theorem pixels_cell_append_return (line : List Char) (i : Nat) :
    pixels (cell (line ++ ['\r']) i) = pixels (cell line i) := by
  simp only [pixels, trim_cell_append_return]

theorem word?_append_return (left top : Nat) (line : List Char) :
    word? left top (line ++ ['\r']) = word? left top line := by
  rw [word?_eq, word?_eq, length_cells_append_return]
  by_cases short : (cells line).length < columns
  · rw [if_pos short, if_pos short]
  · have level : cell (line ++ ['\r']) 0 = cell line 0 :=
      cell_append_return (by unfold columns at short; omega)
    rw [level, trim_cell_append_return]
    simp only [confidence_cell_append_return, pixels_cell_append_return]

theorem word?_dropReturn (left top : Nat) (line : List Char) :
    word? left top (dropReturn line) = word? left top line := by
  unfold dropReturn
  split
  · next last =>
    rw [← word?_append_return, List.dropLast_append_getLast? _ last]
  · rfl

/-! ### Word rows and noise rows -/

/-- A cell that denotes a confidence, which has single precision. -/
def IsConfidence (cell : List Char) (c : Float) : Prop :=
  ∃ t, RealText.Spells (trim cell) t ∧ t.toSingle = c

/-- A line that holds a word: all columns, the level of words, a confidence not below zero, a text
without blanks around it, and a box that has 32 bits after it is moved. -/
structure IsWordRow (left top : Nat) (line : List Char) (word : Word) : Prop where
  complete : columns ≤ (cells line).length
  level : IsNatural (cell line 0) 5
  confidence : IsConfidence (cell line 10) word.confidence
  sound : 0.0 ≤ word.confidence
  text : word.text.toList = cell line 11
  shown : cell line 11 ≠ []
  first : ∀ c ∈ (cell line 11).head?, isBlank c = false
  last : ∀ c ∈ (cell line 11).getLast?, isBlank c = false
  left : ∃ x, IsNatural (trim (cell line 6)) x ∧ word.bounds.left = left + x
  top : ∃ y, IsNatural (trim (cell line 7)) y ∧ word.bounds.top = top + y
  width : IsNatural (trim (cell line 8)) word.bounds.width
  height : IsNatural (trim (cell line 9)) word.bounds.height
  left_le : word.bounds.left ≤ maxUInt32
  top_le : word.bounds.top ≤ maxUInt32
  width_le : word.bounds.width ≤ maxUInt32
  height_le : word.bounds.height ≤ maxUInt32

/-- A line that holds no word. -/
inductive IsNoiseRow (line : List Char) : Prop
  | short (h : (cells line).length < columns)
  | level (h : ¬ IsNatural (cell line 0) 5)
  | blank (h : ∀ c ∈ cell line 11, isBlank c = true)
  | negative {c : Float} (h : IsConfidence (cell line 10) c) (below : c < 0.0)
  | unreadable (h : ∀ c, ¬ IsConfidence (cell line 10) c)

/-- A line holds the word, or it is noise. -/
inductive Tells (left top : Nat) (line : List Char) : Option Word → Prop
  | word {w : Word} (row : IsWordRow left top line w) : Tells left top line (some w)
  | noise (row : IsNoiseRow line) : Tells left top line none

theorem confidence_of_isConfidence {cell : List Char} {c : Float} (h : IsConfidence cell c) :
    confidence cell = c := by
  obtain ⟨t, spells, rfl⟩ := h
  rw [confidence, RealText.read?_eq_some_iff.2 spells]
  rfl

theorem confidence_of_unreadable {cell : List Char} (h : ∀ c, ¬ IsConfidence cell c) :
    confidence cell = -1.0 := by
  have none : RealText.read? (trim cell) = none :=
    Option.eq_none_iff_forall_ne_some.2 fun t read =>
      h t.toSingle ⟨t, RealText.read?_eq_some_iff.1 read, rfl⟩
  rw [confidence, none]
  rfl

theorem pixels_of_isNatural {cell : List Char} {n : Nat} (h : IsNatural (trim cell) n)
    (bound : n ≤ maxUInt32) : pixels cell = n := by
  rw [pixels, natural?_eq_some_iff.2 ⟨h, bound⟩]
  rfl

theorem integer?_eq_wordLevel_iff {text : List Char} :
    integer? maxInt32 text = some wordLevel ↔ IsNatural text 5 := by
  rw [show wordLevel = ((5 : Nat) : Int) from rfl, integer?_eq_some_iff (by decide),
    and_iff_left (by decide)]

theorem word?_of_isWordRow {w : Word} (row : IsWordRow left top line w) :
    word? left top line = some w := by
  obtain ⟨x, column, left_eq⟩ := row.left
  obtain ⟨y, rowOf, top_eq⟩ := row.top
  have left_le := row.left_le
  have top_le := row.top_le
  have sharp : trim (cell line 11) = cell line 11 := trim_of_sharp row.first row.last
  have bounds : (⟨translate left x, translate top y, w.bounds.width, w.bounds.height⟩ : Rect)
      = w.bounds := by
    rw [translate, translate, Nat.mod_eq_of_lt (by omega), Nat.mod_eq_of_lt (by omega), ← left_eq,
      ← top_eq]
  rw [word?_eq, if_neg (Nat.not_lt.2 row.complete),
    if_neg (not_not.2 (integer?_eq_wordLevel_iff.2 row.level)),
    confidence_of_isConfidence row.confidence, sharp,
    if_neg (not_or.2 ⟨row.shown, not_lt_zero_of_zero_le row.sound⟩),
    pixels_of_isNatural column (by omega), pixels_of_isNatural rowOf (by omega),
    pixels_of_isNatural row.width row.width_le, pixels_of_isNatural row.height row.height_le,
    bounds, ← row.text, String.ofList_toList]

theorem word?_of_isNoiseRow (row : IsNoiseRow line) : word? left top line = none := by
  rw [word?_eq]
  split
  · rfl
  split
  · rfl
  next level =>
  refine if_pos ?_
  cases row with
  | short h => contradiction
  | level h => exact absurd (integer?_eq_wordLevel_iff.1 (not_not.1 level)) h
  | blank h => exact .inl (trim_of_blank h)
  | negative h below => exact .inr (confidence_of_isConfidence h ▸ below)
  | unreadable h =>
    right
    rw [confidence_of_unreadable h]
    decide +kernel

theorem word?_of_tells {found : Option Word} (h : Tells left top line found) :
    word? left top line = found := by
  cases h with
  | word row => exact word?_of_isWordRow row
  | noise row => exact word?_of_isNoiseRow row

/-! ### What a line tells of a picture -/

theorem pixels_le (cell : List Char) : pixels cell ≤ maxUInt32 := by
  unfold pixels
  cases read : natural? maxUInt32 (Text.trim cell) with
  | none => exact Nat.zero_le _
  | some n => exact natural?_le read

theorem translate_eq {origin v : Nat} (room : origin + v ≤ maxUInt32) :
    translate origin v = origin + v :=
  Nat.mod_eq_of_lt (Nat.lt_succ_of_le room)

/-- What the program says of a place is not changed by reading it. -/
theorem translate_zero_pixels (cell : List Char) : translate 0 (pixels cell) = pixels cell := by
  have room : 0 + pixels cell ≤ maxUInt32 := by
    rw [Nat.zero_add]
    exact pixels_le cell
  rw [translate_eq room, Nat.zero_add]

/-- A word that is told of a picture, moved to where the picture lies. -/
def move (left top : Nat) (told : Word) : Word :=
  { told with
    bounds := ⟨translate left told.bounds.left, translate top told.bounds.top, told.bounds.width,
      told.bounds.height⟩ }

/-- Whether a line holds a word does not hang on where the picture lies. -/
theorem word?_eq_map (left top : Nat) (line : List Char) :
    word? left top line = (word? 0 0 line).map (move left top) := by
  unfold word?
  split
  · split
    · rfl
    · split
      · rfl
      · simp only [Option.map_some, move, translate_zero_pixels]
  · rfl

theorem words_eq_map (left top : Nat) (table : List Char) :
    words left top table = (words 0 0 table).map (move left top) := by
  rw [words, words, List.map_filterMap]
  exact congrFun (congrArg List.filterMap (funext (word?_eq_map left top))) _

/-- How a line ends. -/
inductive LineEnd where
  | feed
  | returnFeed
  deriving DecidableEq, Repr

def LineEnd.text : LineEnd → List Char
  | .feed => ['\n']
  | .returnFeed => ['\r', '\n']

/-- A table from its heading line, its rows with the line end in front of each, and a line end at
the end of the text if there is one. -/
def tableText (heading : List Char) (rows : List (LineEnd × List Char)) (last : Option LineEnd) :
    List Char :=
  heading ++ rows.flatMap (fun row => row.1.text ++ row.2) ++ last.elim [] LineEnd.text

theorem lines_append_lineEnd (feedless : '\n' ∉ line) (e : LineEnd) (rest : List Char) :
    ∃ read, (read = line ∨ read = dropReturn line) ∧
      lines (line ++ (e.text ++ rest)) = read :: lines rest := by
  cases e with
  | feed => exact ⟨dropReturn line, .inr rfl, lines_append_feed feedless rest⟩
  | returnFeed =>
    refine ⟨line, .inl rfl, ?_⟩
    have feedless' : '\n' ∉ line ++ ['\r'] := by simpa using feedless
    have eq := lines_append_feed feedless' rest
    rw [dropReturn_append_return, List.append_assoc] at eq
    exact eq

theorem tableText_cons (line : List Char) (row : LineEnd × List Char)
    (rows : List (LineEnd × List Char)) (last : Option LineEnd) :
    tableText line (row :: rows) last = line ++ (row.1.text ++ tableText row.2 rows last) := by
  simp [tableText]

/-- Each line is read once, by itself. -/
theorem filterMap_lines_tableText (left top : Nat) (feedless : '\n' ∉ line)
    {rows : List (LineEnd × List Char)} (rowsFeedless : ∀ row ∈ rows, '\n' ∉ row.2)
    (last : Option LineEnd) :
    (lines (tableText line rows last)).filterMap (word? left top) =
      (line :: rows.map Prod.snd).filterMap (word? left top) := by
  have readLine {line read : List Char} (h : read = line ∨ read = dropReturn line) :
      word? left top read = word? left top line := by
    obtain rfl | rfl := h
    · rfl
    · exact word?_dropReturn left top line
  induction rows generalizing line with
  | nil =>
    cases last with
    | none =>
      have text : tableText line [] none = line := by simp [tableText]
      rw [text, lines_of_not_mem feedless]
      split
      · next empty =>
        subst empty
        rfl
      · rfl
    | some e =>
      obtain ⟨read, same, eq⟩ := lines_append_lineEnd feedless e []
      have text : tableText line [] (some e) = line ++ (e.text ++ []) := by simp [tableText]
      rw [text, eq, List.map_nil, List.filterMap_cons, List.filterMap_cons, readLine same]
      rfl
  | cons row rows ih =>
    obtain ⟨e, next⟩ := row
    obtain ⟨nextFeedless, restFeedless⟩ := List.forall_mem_cons.1 rowsFeedless
    obtain ⟨read, same, eq⟩ := lines_append_lineEnd feedless e (tableText next rows last)
    rw [tableText_cons, eq, List.filterMap_cons, ih nextFeedless restFeedless, readLine same]
    rfl

theorem words_eq_filterMap (left top : Nat) {heading : List Char} (feedless : '\n' ∉ heading)
    {rows : List (LineEnd × List Char)} (rowsFeedless : ∀ row ∈ rows, '\n' ∉ row.2)
    (last : Option LineEnd) :
    words left top (tableText heading rows last) =
      (rows.map Prod.snd).filterMap (word? left top) := by
  unfold words
  cases rows with
  | nil =>
    have one : (lines (tableText heading [] last)).drop 1 = [] := by
      cases last with
      | none =>
        have text : tableText heading [] none = heading := by simp [tableText]
        rw [text, lines_of_not_mem feedless]
        split <;> rfl
      | some e =>
        obtain ⟨read, -, eq⟩ := lines_append_lineEnd feedless e []
        have text : tableText heading [] (some e) = heading ++ (e.text ++ []) := by simp [tableText]
        rw [text, eq]
        rfl
    rw [one]
    rfl
  | cons row rows =>
    obtain ⟨nextFeedless, restFeedless⟩ := List.forall_mem_cons.1 rowsFeedless
    obtain ⟨read, -, eq⟩ := lines_append_lineEnd feedless row.1 (tableText row.2 rows last)
    rw [tableText_cons, eq, List.drop_succ_cons, List.drop_zero,
      filterMap_lines_tableText left top nextFeedless restFeedless]
    rfl

theorem filterMap_of_tells {rows : List (LineEnd × List Char)} {found : List (Option Word)}
    (h : List.Forall₂ (fun row w => Tells left top row.2 w) rows found) :
    (rows.map Prod.snd).filterMap (word? left top) = found.reduceOption := by
  induction h with
  | nil => rfl
  | cons told rest ih =>
    rw [List.map_cons, List.filterMap_cons, ih, word?_of_tells told]
    rfl

/-- A numeral that is not negative is a confidence not below zero. -/
theorem isConfidence_of_value {cell : List Char} {n : NumberForm} (valid : n.Valid isAsciiDigit)
    (text : trim cell = n.text) (value : 0 ≤ n.value) :
    IsConfidence cell n.numeral.toSingle ∧ 0.0 ≤ n.numeral.toSingle := by
  refine ⟨⟨.finite n.numeral, ?_, rfl⟩, zero_le_toSingle ?_⟩
  · rw [text]
    exact .finite valid
  · rwa [NumberForm.toRat_numeral]

/-- A table of word rows and noise rows, in any order and with any line ends, gives the words of
its word rows: in order, once each, and no others. Every numeral that denotes a number not below
zero is a confidence that a word row may have. -/
theorem words_tableText :
    (∀ (cell : List Char) (n : NumberForm), n.Valid isAsciiDigit → trim cell = n.text →
      0 ≤ n.value → IsConfidence cell n.numeral.toSingle ∧ 0.0 ≤ n.numeral.toSingle) ∧
    ∀ (left top : Nat) (heading : List Char) (rows : List (LineEnd × List Char))
      (found : List (Option Word)) (last : Option LineEnd), '\n' ∉ heading →
      List.Forall₂ (fun row w => '\n' ∉ row.2 ∧ Tells left top row.2 w) rows found →
      words left top (tableText heading rows last) = found.reduceOption := by
  refine ⟨fun cell n valid text value => isConfidence_of_value valid text value, ?_⟩
  intro left top heading rows found last feedless told
  obtain ⟨rowsFeedless, told⟩ := (List.forall₂_and_left rows found).1 told
  rw [words_eq_filterMap left top feedless rowsFeedless, filterMap_of_tells told]

end WordTable

namespace Sample
open WordTable

/-- A row with seven in it. -/
def sevenRow : List Char := "5\t1\t1\t1\t1\t1\t12\t 8\t+180\t40\t91.5\t7".toList

def sevenForm : NumberForm := ⟨.absent, ⟨['9', '1'], some ['5']⟩, none⟩

def sevenWord : Word := ⟨"7", sevenForm.numeral.toSingle, ⟨112, 58, 180, 40⟩⟩

theorem isWordRow_sevenRow : IsWordRow 100 50 sevenRow sevenWord :=
  have text : cell sevenRow 11 = ['7'] := by decide
  { complete := by decide
    level := isNatural_of_natural? 5 (by decide)
    confidence := ⟨.finite sevenForm.numeral, RealText.read?_eq_some_iff.1 (by decide), rfl⟩
    sound := by decide +kernel
    text := by decide
    shown := by simp [text]
    first := by simp [text, isBlank]
    last := by simp [text, isBlank]
    left := ⟨12, isNatural_of_natural? 12 (by decide), rfl⟩
    top := ⟨8, isNatural_of_natural? 8 (by decide), rfl⟩
    width := isNatural_of_natural? 180 (by decide)
    height := isNatural_of_natural? 40 (by decide)
    left_le := by decide
    top_le := by decide
    width_le := by decide
    height_le := by decide }

/-- The row between one that is too short and one without a confidence, which is not ended. -/
theorem words_tableText_sevenRow :
    IsConfidence "91.5 ".toList sevenForm.numeral.toSingle ∧
      words 100 50 (tableText "level".toList
        [(.feed, "5\t1".toList), (.returnFeed, sevenRow),
          (.feed, "5\t1\t1\t1\t1\t1\t12\t8\t180\t40\t-\t7".toList)] none) = [sevenWord] := by
  have valid : sevenForm.Valid isAsciiDigit :=
    ⟨⟨List.all_eq_true.1 rfl, List.cons_ne_nil _ _⟩, nofun⟩
  have value : 0 ≤ sevenForm.value := by
    have positive : sevenForm.numeral.negative = false := rfl
    rw [← NumberForm.toRat_numeral, Numeral.toRat, if_neg (by simp [positive])]
    positivity
  have unreadable : ∀ c, ¬ IsConfidence ['-'] c := by
    rintro c ⟨t, spells, -⟩
    cases RealText.read?_eq_some_iff.2 spells
  refine ⟨(words_tableText.1 _ sevenForm valid (by decide) value).1, ?_⟩
  refine words_tableText.2 100 50 _ _ [none, some sevenWord, none] _ (by decide) ?_
  exact .cons ⟨by decide, .noise (.short (by decide))⟩ (.cons ⟨by decide, .word isWordRow_sevenRow⟩
    (.cons ⟨by decide, .noise (.unreadable unreadable)⟩ .nil))

end Sample
end MeterSight
