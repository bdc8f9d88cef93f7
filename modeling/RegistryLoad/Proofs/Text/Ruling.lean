import Mathlib.Data.List.Forall2
import RegistryLoad.Proofs.Text.Joined
import RegistryLoad.Proofs.Text.Typed
import RegistryLoad.Text.RuledTable

/-!
# Ruled tables are rectangular and read back

All lines of a ruled table have the same length, whatever stands in its cells, and the texts of the
cells are found in the lines again.

## Definitions

* `lineLength`: the length of a line over columns of given widths.
* `RuledTable.IsRegular`: every row has a cell for each header.
* `Cell.IsPlain`: a cell whose text can be told from the drawing around it.
* `rowTexts`: the texts of the cells, read from the lines.

## Results

* `RuledTable.length_of_mem_lines`: all lines have the same length.
* `RuledTable.rowTexts_lines`: the texts of the cells are read back.
-/

namespace RegistryLoad.Text

/-! ## Lengths -/

/-- The length of a line over columns of the given widths, borders included. -/
def lineLength (widths : List Nat) : Nat := (widths.map (· + 2)).sum + (widths.length - 1) + 2

theorem Rule.length_draw (rule : Rule) (widths : List Nat) :
    (rule.draw widths).length = lineLength widths := by
  have pieces : (widths.map fun w => List.replicate (w + 2) rule.fill).map List.length
      = widths.map (· + 2) := by simp
  rw [draw, List.length_append, List.length_cons, length_intercalate, pieces, List.length_map]
  rfl

/-- Cells of a row that fit into columns of the given widths. -/
abbrev Fit (cells : List Cell) (widths : List Nat) : Prop :=
  List.Forall₂ (fun cell width => cell.text.length ≤ width) cells widths

theorem Cell.length_draw {cell : Cell} {width : Nat} (h : cell.text.length ≤ width) :
    (cell.draw width).length = width + 2 := by
  unfold draw
  cases cell.align <;>
    simp only [List.length_append, List.length_cons, List.length_replicate, List.length_nil] <;>
    omega

theorem length_drawRow {cells : List Cell} {widths : List Nat} (h : Fit cells widths) :
    (drawRow widths cells).length = lineLength widths := by
  have pieces : (List.zipWith Cell.draw cells widths).map List.length = widths.map (· + 2) := by
    induction h with
    | nil => rfl
    | cons fits _ ih => rw [List.zipWith_cons_cons, List.map_cons, Cell.length_draw fits, ih]; rfl
  have count : (List.zipWith Cell.draw cells widths).length = widths.length := by
    simpa using congrArg List.length pieces
  rw [drawRow, List.length_append, List.length_cons, length_intercalate, pieces, count]
  rfl

theorem foldl_max_le_iff {α : Type} (size : α → Nat) (items : List α) {start bound : Nat} :
    items.foldl (fun w item => max w (size item)) start ≤ bound ↔
      start ≤ bound ∧ ∀ item ∈ items, size item ≤ bound := by
  induction items generalizing start with
  | nil => simp
  | cons item items ih =>
    rw [List.foldl_cons, ih, Nat.max_le, List.forall_mem_cons, and_assoc]

namespace RuledTable

variable {t : RuledTable}

/-- Every row has a cell for each header. -/
def IsRegular (t : RuledTable) : Prop := ∀ row ∈ t.rows, row.length = t.header.length

/-- A column is as wide as each of its cells. -/
theorem le_width {row : List Cell} (known : row ∈ t.headerRow :: t.rows) (i : Nat) :
    ((row[i]?.map fun cell => cell.text.length).getD 0) ≤ t.width i :=
  ((foldl_max_le_iff _ _).mp (Nat.le_refl (t.width i))).2 row known

theorem fit_widths (regular : t.IsRegular) {row : List Cell}
    (known : row ∈ t.headerRow :: t.rows) : Fit row t.widths := by
  have count : row.length = t.header.length := by
    rcases List.mem_cons.mp known with rfl | other
    · exact List.length_map _
    · exact regular row other
  refine List.forall₂_iff_get.mpr ⟨by simp [widths, count], fun i below below' => ?_⟩
  have bound := le_width known i
  rw [List.getElem?_eq_getElem below, Option.map_some, Option.getD_some] at bound
  simpa [widths] using bound

theorem mem_intersperse {α : Type} {mark item : α} {items : List α}
    (h : item ∈ items.intersperse mark) : item = mark ∨ item ∈ items := by
  induction items with
  | nil => cases h
  | cons first items ih =>
    cases items with
    | nil => exact .inr h
    | cons next items =>
      rw [List.intersperse_cons_cons, List.mem_cons, List.mem_cons] at h
      rcases h with rfl | rfl | later
      · exact .inr List.mem_cons_self
      · exact .inl rfl
      · exact (ih later).imp_right (List.mem_cons_of_mem _)

/-- A line of the drawing is a rule, or a row or the header. -/
theorem line_cases {line : List Char} (h : line ∈ t.lines) :
    (∃ rule ∈ [topRule, headerRule, rowRule, bottomRule], line = rule.draw t.widths) ∨
      ∃ row ∈ t.headerRow :: t.rows, line = drawRow t.widths row := by
  simp only [lines, List.mem_cons, List.cons_append, List.mem_append, List.not_mem_nil,
    or_false] at h
  rcases h with rfl | rfl | rfl | among | rfl
  · exact .inl ⟨topRule, by simp, rfl⟩
  · exact .inr ⟨t.headerRow, List.mem_cons_self, rfl⟩
  · exact .inl ⟨headerRule, by simp, rfl⟩
  · rcases mem_intersperse among with rfl | drawn
    · exact .inl ⟨rowRule, by simp, rfl⟩
    · obtain ⟨row, known, rfl⟩ := List.mem_map.mp drawn
      exact .inr ⟨row, List.mem_cons_of_mem _ known, rfl⟩
  · exact .inl ⟨bottomRule, by simp, rfl⟩

/-- **All lines of a table have the same length.** -/
theorem length_of_mem_lines (regular : t.IsRegular) {line : List Char} (h : line ∈ t.lines) :
    line.length = lineLength t.widths := by
  rcases line_cases h with ⟨rule, -, rfl⟩ | ⟨row, known, rfl⟩
  · exact rule.length_draw t.widths
  · exact length_drawRow (fit_widths regular known)

/-- Between the borders and the rule under the header there is a line for each row and each gap
between two rows. -/
theorem length_lines (some : t.rows ≠ []) : t.lines.length = 2 * t.rows.length + 3 := by
  have rows := List.length_pos_iff.mpr some
  simp only [lines, List.length_append, List.length_cons, List.length_intersperse, List.length_map,
    List.length_nil]
  omega

end RuledTable

/-! ## Reading -/

/-- Every other member of a list, beginning with the first. -/
def everyOther {α : Type} : List α → List α
  | [] => []
  | [item] => [item]
  | item :: _ :: rest => item :: everyOther rest

/-- The texts of the cells of a drawn row, without the blanks beside them. -/
def cellTexts (line : List Char) : List (List Char) :=
  ((line.drop 1).dropLast.splitOn '┆').map trim

/-- The texts in the rows of a drawn table, which begin behind the rule under the header. -/
def rowTexts (lines : List (List Char)) : List (List (List Char)) :=
  ((everyOther (lines.drop 3)).map cellTexts)

theorem everyOther_intersperse {α : Type} {items : List α} (some : items ≠ []) (mark last : α) :
    everyOther (items.intersperse mark ++ [last]) = items := by
  induction items with
  | nil => contradiction
  | cons first items ih =>
    cases items with
    | nil => rfl
    | cons next items =>
      rw [List.intersperse_cons_cons, List.cons_append, List.cons_append, everyOther,
        ih (List.cons_ne_nil _ _)]

/-- The drawing of a cell is its text between blanks. -/
theorem Cell.exists_draw_eq (cell : Cell) (width : Nat) :
    ∃ before after, cell.draw width = before ++ cell.text ++ after ∧
      (∀ c ∈ before, c = ' ') ∧ ∀ c ∈ after, c = ' ' := by
  have gap : ∀ c ∈ List.replicate (width - cell.text.length) ' ', c = ' ' :=
    fun c known => List.eq_of_mem_replicate known
  unfold draw
  cases cell.align with
  | left =>
    refine ⟨[' '], List.replicate (width - cell.text.length) ' ' ++ [' '], by simp, by simp, ?_⟩
    rw [List.forall_mem_append]
    exact ⟨gap, by simp⟩
  | right =>
    refine ⟨' ' :: List.replicate (width - cell.text.length) ' ', [' '], by simp, ?_, by simp⟩
    rw [List.forall_mem_cons]
    exact ⟨rfl, gap⟩

theorem Cell.mem_draw {cell : Cell} {width : Nat} {c : Char} (h : c ∈ cell.draw width) :
    c = ' ' ∨ c ∈ cell.text := by
  obtain ⟨before, after, drawn, blankBefore, blankAfter⟩ := cell.exists_draw_eq width
  rw [drawn, List.mem_append, List.mem_append] at h
  rcases h with (known | known) | known
  · exact .inl (blankBefore c known)
  · exact .inr known
  · exact .inl (blankAfter c known)

/-- Each part of a row is the drawing of a cell. -/
theorem exists_cell_of_mem {cells : List Cell} {widths : List Nat} {piece : List Char}
    (h : piece ∈ List.zipWith Cell.draw cells widths) :
    ∃ cell ∈ cells, ∃ width, piece = cell.draw width := by
  rw [← List.map_uncurry_zip_eq_zipWith, List.mem_map] at h
  obtain ⟨⟨cell, width⟩, paired, rfl⟩ := h
  exact ⟨cell, (List.of_mem_zip paired).1, width, rfl⟩

/-- A cell whose text can be told from the drawing around it: there is no bar in it, and no blank
around it. -/
structure Cell.IsPlain (cell : Cell) : Prop where
  bar : '┆' ∉ cell.text
  bare : Stripped cell.text cell.text

theorem Cell.IsPlain.trim_draw {cell : Cell} (h : cell.IsPlain) (width : Nat) :
    trim (cell.draw width) = cell.text := by
  obtain ⟨before, after, drawn, blankBefore, blankAfter⟩ := cell.exists_draw_eq width
  have blank : isBlank ' ' = true := by decide
  refine trim_eq_iff.mpr ⟨⟨before, after, drawn, ?_, ?_⟩, h.bare.first, h.bare.last⟩
  · exact fun c known => (blankBefore c known).symm ▸ blank
  · exact fun c known => (blankAfter c known).symm ▸ blank

/-- **The texts of a row are read back.** -/
theorem cellTexts_drawRow {cells : List Cell} {widths : List Nat} (fit : Fit cells widths)
    (some : cells ≠ []) (plain : ∀ cell ∈ cells, cell.IsPlain) :
    cellTexts (drawRow widths cells) = cells.map Cell.text := by
  have inside : ((drawRow widths cells).drop 1).dropLast
      = ['┆'].intercalate (List.zipWith Cell.draw cells widths) := by
    simp [drawRow]
  have bars : ∀ piece ∈ List.zipWith Cell.draw cells widths, '┆' ∉ piece := by
    intro piece known bar
    obtain ⟨cell, among, width, rfl⟩ := exists_cell_of_mem known
    rcases Cell.mem_draw bar with blank | inText
    · exact absurd blank (by decide)
    · exact (plain cell among).bar inText
  have drawn : List.zipWith Cell.draw cells widths ≠ [] := by
    cases fit with
    | nil => contradiction
    | cons => exact List.cons_ne_nil _ _
  rw [cellTexts, inside, List.splitOn_intercalate '┆' bars drawn]
  clear inside bars drawn some
  induction fit with
  | nil => rfl
  | cons _ _ ih =>
    rw [List.forall_mem_cons] at plain
    rw [List.zipWith_cons_cons, List.map_cons, plain.1.trim_draw, ih plain.2, List.map_cons]

namespace RuledTable

variable {t : RuledTable}

/-- **The texts of the cells are read back** from the lines of a table. -/
theorem rowTexts_lines (regular : t.IsRegular) (columns : t.header ≠ []) (some : t.rows ≠ [])
    (plain : ∀ row ∈ t.rows, ∀ cell ∈ row, cell.IsPlain) :
    rowTexts t.lines = t.rows.map (·.map Cell.text) := by
  have drawn : t.rows.map (drawRow t.widths) ≠ [] := by simpa using some
  have behind : t.lines.drop 3 = (t.rows.map (drawRow t.widths)).intersperse
      (rowRule.draw t.widths) ++ [bottomRule.draw t.widths] := rfl
  rw [rowTexts, behind, everyOther_intersperse drawn, List.map_map]
  apply List.map_congr_left
  intro row known
  have cells : row ≠ [] := by
    intro none
    have count := regular row known
    rw [none, List.length_nil] at count
    exact columns (List.length_eq_zero_iff.mp count.symm)
  exact cellTexts_drawRow (fit_widths regular (List.mem_cons_of_mem _ known)) cells
    (plain row known)

/-! ## Characters -/

/-- The characters that a table is drawn with. -/
def drawingChars : List Char :=
  ([topRule, headerRule, rowRule, bottomRule].flatMap fun rule =>
    [rule.first, rule.fill, rule.cross, rule.last]) ++ ['│', '┆', ' ']

/-- A character of a line belongs to the drawing or to the text of a cell. -/
theorem char_cases {line : List Char} (h : line ∈ t.lines) {c : Char} (known : c ∈ line) :
    c ∈ drawingChars ∨ ∃ row ∈ t.headerRow :: t.rows, ∃ cell ∈ row, c ∈ cell.text := by
  rcases line_cases h with ⟨rule, listed, rfl⟩ | ⟨row, listed, rfl⟩
  · have among : c ∈ [rule.first, rule.fill, rule.cross, rule.last] := by
      simp only [Rule.draw, List.mem_cons, List.cons_append, List.mem_append, List.not_mem_nil,
        or_false] at known ⊢
      rcases known with first | inside | last
      · exact .inl first
      · rcases mem_intercalate inside with cross | ⟨piece, drawn, fill⟩
        · exact .inr (.inr (.inl cross))
        · obtain ⟨w, -, rfl⟩ := List.mem_map.mp drawn
          exact .inr (.inl (List.eq_of_mem_replicate fill))
      · exact .inr (.inr (.inr last))
    exact .inl (List.mem_append_left _ (List.mem_flatMap.mpr ⟨rule, listed, among⟩))
  · simp only [drawRow, List.mem_cons, List.cons_append, List.mem_append, List.not_mem_nil,
      or_false] at known
    rcases known with rfl | inside | rfl
    · exact .inl (by decide)
    · rcases mem_intercalate inside with rfl | ⟨piece, drawn, inCell⟩
      · exact .inl (by decide)
      · obtain ⟨cell, among, width, rfl⟩ := exists_cell_of_mem drawn
        rcases Cell.mem_draw inCell with rfl | inText
        · exact .inl (by decide)
        · exact .inr ⟨row, listed, cell, among, inText⟩
    · exact .inl (by decide)

end RuledTable

end RegistryLoad.Text
