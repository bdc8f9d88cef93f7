import Mathlib.Data.List.DropRight
import RegistryLoad.Proofs.Text.Grouping
import RegistryLoad.Proofs.Text.Ruling
import RegistryLoad.Scoreboard.Table

/-!
# The board tells the counters

The table of the score board is a rectangle, however long its rates are, and no digit of a counter
is lost in it.

## Definitions

* `Snapshot.boardLines`: the lines of the table, which end the text of a board.
* `Snapshot.shownCounts`: the second cells of the rows, without commas.

## Results

* `Snapshot.boardLines_tableText`: whatever the heading is, the table is found below it.
* `Snapshot.shownCounts_table`: the second cells hold the digits of the counters.
* `Snapshot.board_tells_counters`: the form of the board, and what it tells.
-/

namespace RegistryLoad

open RegistryLoad.Text

/-! ## Cells -/

/-- A text of characters that are neither blanks nor bars makes a plain cell. -/
theorem Text.Cell.isPlain_of_dense {cell : Cell}
    (dense : ∀ c ∈ cell.text, isBlank c = false ∧ c ≠ '┆') : cell.IsPlain where
  bar := fun bar => (dense '┆' bar).2 rfl
  bare := stripped_self fun c known => (dense c known).1

theorem Binary64.mem_tenthsText {n : Nat} {c : Char} (h : c ∈ tenthsText n) :
    c.isDigit = true ∨ c = '.' := by
  rw [tenthsText, List.mem_append, List.mem_cons] at h
  rcases h with whole | point | tenth
  · exact .inl (isDigit_of_mem_decimal whole)
  · exact .inr point
  · exact .inl (isDigit_of_mem_decimal tenth)

/-- The characters of numbers that are no digits: commas, signs and points, and the letters of the
numbers without digits. -/
def numberMarks : List Char := [',', '-', '.', 'N', 'a', 'i', 'n', 'f']

theorem Binary64.mem_fixedText {x : Binary64} {c : Char} (h : c ∈ x.fixedText) :
    c.isDigit = true ∨ c ∈ numberMarks := by
  have sign (c : Char) (known : c ∈ if x.isNegative then ['-'] else []) : c ∈ numberMarks := by
    split at known
    · rw [List.mem_singleton.mp known]
      decide
    · cases known
  have infinite : "inf".toList ⊆ numberMarks := by decide
  have none : "NaN".toList ⊆ numberMarks := by decide
  unfold fixedText at h
  dsimp only at h
  split at h
  · exact .inr (none h)
  · split at h <;> rcases List.mem_append.mp h with signed | written
    · exact .inr (sign c signed)
    · exact .inr (infinite written)
    · exact .inr (sign c signed)
    · rcases mem_tenthsText written with digit | rfl
      · exact .inl digit
      · exact .inr (by decide)

namespace Snapshot

variable {s : Snapshot} {e : Entry} {cell : Cell}

/-- What the cells of a board have in common: they can be told from the drawing, and hold no line
break. -/
structure IsQuiet (cell : Cell) : Prop where
  plain : cell.IsPlain
  unbroken : '\n' ∉ cell.text

/-- A cell of digits and the other characters of numbers. -/
theorem isQuiet_of_number
    (number : ∀ c ∈ cell.text, c.isDigit = true ∨ c ∈ numberMarks) : IsQuiet cell := by
  have marks : numberMarks.all (fun c => isBlank c = false ∧ c ≠ '┆') = true := by decide
  have dense : ∀ c ∈ cell.text, isBlank c = false ∧ c ≠ '┆' := by
    intro c known
    rcases number c known with digit | mark
    · refine ⟨not_isBlank_of_isDigit digit, ?_⟩
      rintro rfl
      exact absurd digit (by decide)
    · exact of_decide_eq_true (List.all_eq_true.mp marks c mark)
  refine ⟨Cell.isPlain_of_dense dense, fun newline => ?_⟩
  exact absurd (dense '\n' newline).1 (by decide)

/-- The texts of a board that are the same for all snapshots. -/
def fixedTexts : List (List Char) :=
  ["Score board".toList, "Value".toList, "Per second".toList, "Registrations processed".toList,
    "Unregistrations processed".toList, "Interests processed".toList, "Active interests".toList,
    "Registry size".toList]

theorem isQuiet_of_fixed (fixed : cell.text ∈ fixedTexts) : IsQuiet cell := by
  have checked : ∀ text ∈ fixedTexts, '┆' ∉ text ∧ trim text = text ∧ '\n' ∉ text := by
    decide
  obtain ⟨bar, bare, unbroken⟩ := checked cell.text fixed
  exact ⟨⟨bar, trim_eq_iff.mp bare⟩, unbroken⟩

theorem isQuiet_of_mem_cells (listed : e ∈ s.entries) (known : cell ∈ e.cells) : IsQuiet cell := by
  simp only [Entry.cells, List.mem_cons, List.not_mem_nil, or_false] at known
  rcases known with rfl | rfl | rfl
  · apply isQuiet_of_fixed
    simp only [entries, List.mem_cons, List.not_mem_nil, or_false] at listed
    rcases listed with rfl | rfl | rfl | rfl | rfl <;> simp [fixedTexts]
  · refine isQuiet_of_number fun c digit => ?_
    rcases isDigit_of_mem_grouped digit with digit | rfl
    · exact .inl digit
    · exact .inr (by decide)
  · refine isQuiet_of_number fun c rate => ?_
    cases shown : e.rate with
    | none =>
      rw [shown, Option.map_none, Option.getD_none, List.mem_singleton] at rate
      exact .inr (rate ▸ by decide)
    | some x =>
      rw [shown, Option.map_some, Option.getD_some] at rate
      exact Binary64.mem_fixedText rate

/-! ## The table -/

theorem isRegular_table (s : Snapshot) : s.table.IsRegular := by
  intro row known
  obtain ⟨e, -, rfl⟩ := List.mem_map.mp known
  rfl

theorem isQuiet_of_mem_rows {row : List Cell} (listed : row ∈ s.table.headerRow :: s.table.rows)
    (known : cell ∈ row) : IsQuiet cell := by
  rcases List.mem_cons.mp listed with rfl | other
  · obtain ⟨text, header, rfl⟩ := List.mem_map.mp known
    apply isQuiet_of_fixed
    simp only [table, List.mem_cons, List.not_mem_nil, or_false] at header
    rcases header with rfl | rfl | rfl <;> decide
  · obtain ⟨e, entry, rfl⟩ := List.mem_map.mp other
    exact isQuiet_of_mem_cells entry known

theorem newline_notMem_lines {line : List Char} (h : line ∈ s.table.lines) : '\n' ∉ line := by
  intro newline
  rcases RuledTable.char_cases h newline with drawn | ⟨row, listed, cell, known, written⟩
  · exact absurd drawn (by decide)
  · exact (isQuiet_of_mem_rows listed known).unbroken written

theorem length_table (s : Snapshot) : s.table.lines.length = 13 :=
  RuledTable.length_lines (List.cons_ne_nil _ _)

/-! ## Boards -/

/-- The lines of the table, which end the text of a board. -/
def boardLines (text : List Char) : List (List Char) := (text.splitOn '\n').rtake 13

theorem tableText_eq (s : Snapshot) :
    s.tableText = s.heading ++ '\n' :: ['\n'].intercalate s.table.lines := by
  have some : s.table.lines ≠ [] := List.cons_ne_nil _ _
  rw [tableText, List.intercalate_cons_of_ne_nil some, List.append_assoc, List.singleton_append]

/-- **The table is found below the heading**, of however many lines the heading is. -/
theorem boardLines_tableText (s : Snapshot) : boardLines s.tableText = s.table.lines := by
  have split : s.tableText.splitOn '\n' = s.heading.splitOn '\n' ++ s.table.lines := by
    rw [tableText_eq, List.splitOn_append_cons_self,
      List.splitOn_intercalate '\n' (fun _ => newline_notMem_lines) (List.cons_ne_nil _ _)]
  rw [boardLines, split, List.rtake, List.length_append, s.length_table, Nat.add_sub_cancel,
    List.drop_left]

/-- The counts that a table shows: the second cells of its rows, without commas. -/
def shownCounts (lines : List (List Char)) : List (List Char) :=
  (rowTexts lines).map fun texts => (texts[1]?.getD []).filter (· != ',')

/-- The counters from top to bottom of the board. -/
def shownCounters (c : Counters) : List UInt64 :=
  [c.registrations, c.unregistrations, c.interests, c.activeInterests, c.registrySize]

theorem shownCounters_injective : Function.Injective shownCounters := by
  intro c d same
  cases c
  cases d
  simpa [shownCounters] using same

/-- **The second cells hold the digits of the counters**, and nothing else but commas. -/
theorem shownCounts_table (s : Snapshot) :
    shownCounts s.table.lines = (shownCounters s.counters).map fun n => decimal n.toNat := by
  have read := RuledTable.rowTexts_lines s.isRegular_table (List.cons_ne_nil _ _)
    (List.cons_ne_nil _ _) fun row listed cell known =>
      (isQuiet_of_mem_rows (List.mem_cons_of_mem _ listed) known).plain
  have second (e : Entry) : (((e.cells.map Cell.text)[1]?).getD []).filter (· != ',')
      = decimal e.value.toNat := filter_grouped e.value.toNat
  have values : s.entries.map Entry.value = shownCounters s.counters := rfl
  rw [shownCounts, read, ← values, List.map_map, List.map_map]
  simp only [table, List.map_map]
  exact List.map_congr_left fun e _ => second e

/-- **The board tells the counters.**  Whatever the time, the counters and the rates of a snapshot
are, its text is the heading and a table of thirteen lines below it.  All lines of the table are of
the same length.  The second cells of its rows, without the blanks beside them and without commas,
are the digits of the five counters in their order.  So two snapshots with different counters are
never shown by the same table. -/
theorem board_tells_counters :
    (∀ s : Snapshot,
      s.tableText = s.heading ++ '\n' :: ['\n'].intercalate (boardLines s.tableText) ∧
      (boardLines s.tableText).length = 13 ∧
      (∃ length, ∀ line ∈ boardLines s.tableText, line.length = length) ∧
      shownCounts (boardLines s.tableText) =
        (shownCounters s.counters).map fun n => decimal n.toNat) ∧
    ∀ s s' : Snapshot, s.counters ≠ s'.counters →
      boardLines s.tableText ≠ boardLines s'.tableText := by
  constructor
  · intro s
    rw [s.boardLines_tableText]
    exact ⟨s.tableText_eq, s.length_table, ⟨_, fun line known =>
      RuledTable.length_of_mem_lines s.isRegular_table known⟩, s.shownCounts_table⟩
  · intro s s' different same
    have counts := congrArg shownCounts same
    rw [s.boardLines_tableText, s'.boardLines_tableText, s.shownCounts_table,
      s'.shownCounts_table] at counts
    have digits : Function.Injective fun n : UInt64 => decimal n.toNat :=
      fun m n equal => UInt64.toNat_inj.mp (decimal_injective equal)
    exact different (shownCounters_injective (digits.list_map counts))

/-- Two boards of which the second one has a wider table, and a line break and bars in its time. -/
theorem boards_of_999_and_1000_differ :
    let board (time : String) (n : UInt64) (rate : Binary64) : Snapshot :=
      ⟨time, .zero false, { registrySize := n }, rate, rate, rate⟩
    boardLines (board "" 999 .nan).tableText ≠
      boardLines (board "\n┆1┆" 1000 ⟨0x7FEFFFFFFFFFFFFF⟩).tableText :=
  board_tells_counters.2 _ _ (by decide)

end Snapshot

end RegistryLoad
