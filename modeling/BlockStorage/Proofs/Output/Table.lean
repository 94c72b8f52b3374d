import BlockStorage.Output.Table
import BlockStorage.Proofs.Output.Sink
import BlockStorage.Proofs.Text.Grammar

/-!
Tables are aligned.

Every column starts at one offset, two characters behind the longest cell of the column before. A line holds
the cells of its row at these offsets with at least two spaces between them, and nothing but blanks is lost at
its end (`StandsOn`).
-/

namespace BlockStorage.Output

open Text

/-! ### Columns -/

/-- The cells of a column, of the rows that are long enough to have one. -/
def cellsOf (rows : List Row) (column : Nat) : List String := rows.filterMap fun row => row[column]?

/-- The length of the longest cell of a column in any row. -/
def longest (rows : List Row) (column : Nat) : Nat := ((cellsOf rows column).map String.length).max?.getD 0

/-- Where a column starts: behind the longest cell of each column before it and two more characters. -/
def offset (rows : List Row) (column : Nat) : Nat :=
  ((List.range column).map fun before => 2 + longest rows before).sum

theorem offset_succ (rows : List Row) (column : Nat) :
    offset rows (column + 1) = offset rows column + (2 + longest rows column) := by
  simp [offset, List.range_succ]

variable {rows : List Row} {row : Row} {column : Nat} {cell : String}

theorem mem_cellsOf (hrow : row ∈ rows) (hcell : row[column]? = some cell) : cell ∈ cellsOf rows column :=
  List.mem_filterMap.2 ⟨row, hrow, hcell⟩

theorem length_le_longest (h : cell ∈ cellsOf rows column) : cell.length ≤ longest rows column :=
  List.le_max?_getD_of_mem (List.mem_map_of_mem h)

theorem getElem?_mergeWidths (vs ws : List Nat) (i : Nat) :
    (mergeWidths vs ws)[i]? = Option.merge max vs[i]? ws[i]? := by
  induction vs generalizing ws i with
  | nil => simp [mergeWidths]
  | cons v vs ih =>
    cases ws with
    | nil => simp [mergeWidths]
    | cons w ws =>
      cases i with
      | zero => simp [mergeWidths]
      | succ i => simpa [mergeWidths] using ih ws i

theorem merge_max?_cellsOf (row : Row) (rows : List Row) (column : Nat) :
    Option.merge max (row[column]?.map fun cell => cell.length + columnGap)
        (((cellsOf rows column).map String.length).max?.map (· + columnGap)) =
      ((cellsOf (row :: rows) column).map String.length).max?.map (· + columnGap) := by
  cases hcell : row[column]? with
  | none => simp [cellsOf, hcell]
  | some cell =>
    have hcons : cellsOf (row :: rows) column = cell :: cellsOf rows column := List.filterMap_cons_some hcell
    rw [hcons, List.map_cons, List.max?_cons]
    cases ((cellsOf rows column).map String.length).max? with
    | none => rfl
    | some n => simp [Nat.add_max_add_right]

/-- Widths are merged row by row, and what comes of it is the width of the longest cell. -/
theorem getElem?_columnWidths (rows : List Row) (column : Nat) :
    (columnWidths rows)[column]? =
      ((cellsOf rows column).map String.length).max?.map (· + columnGap) := by
  have hfold (widths : List Nat) :
      (rows.foldl (fun widths row => mergeWidths widths (row.map fun cell => cell.length + columnGap))
        widths)[column]? = Option.merge max widths[column]?
          (((cellsOf rows column).map String.length).max?.map (· + columnGap)) := by
    induction rows generalizing widths with
    | nil => simp [cellsOf]
    | cons row rows ih =>
      rw [List.foldl_cons, ih, getElem?_mergeWidths, List.getElem?_map, ← merge_max?_cellsOf]
      exact Std.Associative.assoc _ _ _
  simpa [columnWidths] using hfold []

theorem getElem?_columnWidths_of_mem (h : cell ∈ cellsOf rows column) :
    (columnWidths rows)[column]? = some (longest rows column + columnGap) := by
  rw [getElem?_columnWidths, longest]
  cases hmax : ((cellsOf rows column).map String.length).max? with
  | none =>
    rw [List.max?_eq_none_iff, List.map_eq_nil_iff] at hmax
    rw [hmax] at h
    cases h
  | some n => rfl

/-- The widths before a cell add up to the offset of its column. -/
theorem sum_take_columnWidths (hrow : row ∈ rows) (h : column ≤ row.length) :
    ((columnWidths rows).take column).sum = offset rows column := by
  induction column with
  | zero => rfl
  | succ column ih =>
    have hcell := mem_cellsOf hrow (List.getElem?_eq_getElem h)
    rw [List.take_add_one, getElem?_columnWidths_of_mem hcell, List.sum_append, ih (Nat.le_of_lt h), offset_succ,
      Nat.add_comm 2]
    simp [columnGap]

/-! ### Rows within widths -/

/-- Every cell of the row has a width, which is greater than its length by the gap at least. -/
def Covers (widths : List Nat) (row : Row) : Prop :=
  ∀ (column : Nat) (cell : String), row[column]? = some cell →
    ∃ width, widths[column]? = some width ∧ cell.length + 2 ≤ width

theorem covers_columnWidths (hrow : row ∈ rows) : Covers (columnWidths rows) row := by
  intro column cell hcell
  have hmem := mem_cellsOf hrow hcell
  exact ⟨_, getElem?_columnWidths_of_mem hmem, Nat.add_le_add_right (length_le_longest hmem) 2⟩

theorem covers_cons {widths : List Nat} {cells : Row} :
    Covers widths (cell :: cells) ↔
      ∃ width rest, widths = width :: rest ∧ cell.length + 2 ≤ width ∧ Covers rest cells := by
  constructor
  · intro h
    obtain ⟨width, hwidth, hle⟩ := h 0 cell rfl
    cases widths with
    | nil => cases hwidth
    | cons first rest =>
      obtain rfl := Option.some.inj hwidth
      exact ⟨first, rest, rfl, hle, fun column => h (column + 1)⟩
  · rintro ⟨width, rest, rfl, hle, h⟩ column other hother
    cases column with
    | zero => exact ⟨width, rfl, (Option.some.inj hother) ▸ hle⟩
    | succ column => exact h column other hother

/-- What follows the start of a cell: spaces up to the next column and the other cells, if there are any. -/
theorem alignedCells_cons_cons (width : Nat) (widths : List Nat) (next : String) (cells : Row) :
    alignedCells (width :: widths) (cell :: next :: cells) =
      cell.toList ++ List.replicate (width - cell.length) ' ' ++ alignedCells widths (next :: cells) := rfl

theorem isPrefix_alignedCells (widths : List Nat) (cell : String) (cells : Row) :
    cell.toList <+: alignedCells widths (cell :: cells) := by
  cases cells with
  | nil => rw [alignedCells]
  | cons next cells =>
    cases widths with
    | nil => exact List.prefix_append _ _
    | cons width widths => exact ⟨_, (List.append_assoc ..).symm⟩

/-- The cells of a row and nothing but spaces between them. -/
theorem mem_alignedCells_iff {widths : List Nat} {c : Char} (hc : c ≠ ' ') :
    c ∈ alignedCells widths row ↔ ∃ cell ∈ row, c ∈ cell.toList := by
  fun_induction alignedCells widths row with
  | case1 => simp
  | case2 => simp
  | case3 cell cells _ ih => simp [ih]
  | case4 width widths cell cells _ ih => simp [ih, hc]

/-- Cells before a column fill the widths before it exactly. -/
theorem exists_alignedCells_eq {widths : List Nat} (hcovers : Covers widths row) (h : column < row.length) :
    ∃ before, alignedCells widths row = before ++ alignedCells (widths.drop column) (row.drop column) ∧
      before.length = (widths.take column).sum := by
  induction column generalizing widths row with
  | zero => exact ⟨[], rfl, rfl⟩
  | succ column ih =>
    match row, hcovers, h with
    | cell :: next :: cells, hcovers, h =>
      obtain ⟨width, rest, rfl, hwidth, hrest⟩ := covers_cons.1 hcovers
      obtain ⟨before, heq, hlength⟩ := ih hrest (Nat.lt_of_succ_lt_succ h)
      refine ⟨cell.toList ++ List.replicate (width - cell.length) ' ' ++ before, ?_, ?_⟩
      · rw [alignedCells_cons_cons, heq, List.append_assoc _ before]
        rfl
      · simp only [List.length_append, String.length_toList, List.length_replicate, hlength, List.take_succ_cons,
          List.sum_cons]
        omega

/-! ### Lines -/

/-- The text is more than white space. -/
def HasInk (s : List Char) : Prop := ∃ c ∈ s, isBlank c = false

theorem trimEnd_append_of_hasInk {b : List Char} (h : HasInk b) (a : List Char) :
    trimEnd (a ++ b) = a ++ trimEnd b := by
  obtain ⟨c, hc, hblank⟩ := h
  exact trimEnd_append_of_mem hc hblank a

theorem trimEnd_isPrefix_trimEnd_append (a b : List Char) : trimEnd a <+: trimEnd (a ++ b) := by
  by_cases h : HasInk b
  · rw [trimEnd_append_of_hasInk h]
    exact (trimEnd_isPrefix a).trans (List.prefix_append _ _)
  · have hblank : ∀ c ∈ b, isBlank c = true := by simpa [HasInk] using h
    rw [trimEnd_append_blanks hblank]

/-- The line of a row in a table. -/
structure StandsOn (rows : List Row) (row : Row) (line : List Char) : Prop where
  /-- Every cell stands at the offset of its column, but for blanks that the line has lost at its end. -/
  verbatim : ∃ lost, (∀ c ∈ lost, isBlank c = true) ∧
    ∀ column cell, row[column]? = some cell → cell.toList <+: (line ++ lost).drop (offset rows column)
  /-- A cell that is more than white space starts at the offset of its column. -/
  starts : ∀ column cell, row[column]? = some cell → HasInk cell.toList →
    trimEnd cell.toList <+: line.drop (offset rows column)
  /-- A cell that one with more than white space comes after is followed by two spaces or more, up to the
  next column. -/
  apart : ∀ column cell later after, row[column]? = some cell → column < later → row[later]? = some after →
    HasInk after.toList → ∃ n, 2 ≤ n ∧ offset rows column + cell.length + n = offset rows (column + 1) ∧
      cell.toList ++ List.replicate n ' ' <+: line.drop (offset rows column)
  /-- The line does not end with white space. -/
  trimmed : ∀ c ∈ line.getLast?, isBlank c = false

variable {widths : List Nat}

theorem HasInk.mono {s t : List Char} (h : HasInk s) (hsub : s ⊆ t) : HasInk t :=
  h.imp fun _ hc => ⟨hsub hc.1, hc.2⟩

/-- From the start of a cell on, a line is the cell and what follows it. -/
theorem exists_drop_alignedCells (hrow : row ∈ rows) (hcell : row[column]? = some cell) :
    ∃ before, alignedCells (columnWidths rows) row =
        before ++ alignedCells ((columnWidths rows).drop column) (cell :: row.drop (column + 1)) ∧
      before.length = offset rows column := by
  obtain ⟨hlt, rfl⟩ := List.getElem?_eq_some_iff.1 hcell
  obtain ⟨before, heq, hlength⟩ := exists_alignedCells_eq (covers_columnWidths hrow) hlt
  rw [List.drop_eq_getElem_cons hlt] at heq
  exact ⟨before, heq, hlength.trans (sum_take_columnWidths hrow (Nat.le_of_lt hlt))⟩

theorem drop_alignedCells (hrow : row ∈ rows) (hcell : row[column]? = some cell) :
    (alignedCells (columnWidths rows) row).drop (offset rows column) =
      alignedCells ((columnWidths rows).drop column) (cell :: row.drop (column + 1)) := by
  obtain ⟨before, heq, hlength⟩ := exists_drop_alignedCells hrow hcell
  rw [heq, ← hlength, List.drop_left]

theorem drop_trimEnd_alignedCells (hrow : row ∈ rows) (hcell : row[column]? = some cell)
    (hink : HasInk (alignedCells ((columnWidths rows).drop column) (cell :: row.drop (column + 1)))) :
    (trimEnd (alignedCells (columnWidths rows) row)).drop (offset rows column) =
      trimEnd (alignedCells ((columnWidths rows).drop column) (cell :: row.drop (column + 1))) := by
  obtain ⟨before, heq, hlength⟩ := exists_drop_alignedCells hrow hcell
  rw [heq, trimEnd_append_of_hasInk hink, ← hlength, List.drop_left]

/-- If a cell is not the last one, what follows it are spaces up to the next column and the other cells. -/
theorem alignedCells_drop_cons (hmem : cell ∈ cellsOf rows column) {cells : Row} (hne : cells ≠ []) :
    alignedCells ((columnWidths rows).drop column) (cell :: cells) =
      cell.toList ++ List.replicate (longest rows column + columnGap - cell.length) ' ' ++
        alignedCells ((columnWidths rows).drop (column + 1)) cells := by
  obtain ⟨next, cells, rfl⟩ := List.exists_cons_of_ne_nil hne
  obtain ⟨hlt, hwidth⟩ := List.getElem?_eq_some_iff.1 (getElem?_columnWidths_of_mem hmem)
  rw [List.drop_eq_getElem_cons hlt, hwidth, alignedCells_cons_cons]

/-- The line of a row is what its cells are with their columns, trimmed at the end. -/
theorem standsOn_trimEnd (hrow : row ∈ rows) :
    StandsOn rows row (trimEnd (alignedCells (columnWidths rows) row)) where
  verbatim := by
    obtain ⟨lost, heq, hlost⟩ := exists_eq_trimEnd_append (alignedCells (columnWidths rows) row)
    refine ⟨lost, hlost, fun column cell hcell => ?_⟩
    rw [← heq, drop_alignedCells hrow hcell]
    exact isPrefix_alignedCells _ cell _
  starts := by
    intro column cell hcell hink
    have hstart := isPrefix_alignedCells ((columnWidths rows).drop column) cell (row.drop (column + 1))
    rw [drop_trimEnd_alignedCells hrow hcell (hink.mono hstart.subset)]
    obtain ⟨rest, hrest⟩ := hstart
    rw [← hrest]
    exact trimEnd_isPrefix_trimEnd_append cell.toList rest
  apart := by
    intro column cell later after hcell hlater hafter hink
    have hmem := mem_cellsOf hrow hcell
    have hbehind : after ∈ row.drop (column + 1) := by
      refine List.mem_of_getElem? (i := later - (column + 1)) ?_
      rwa [List.getElem?_drop, Nat.add_sub_cancel' hlater]
    have hrest : HasInk (alignedCells ((columnWidths rows).drop (column + 1)) (row.drop (column + 1))) := by
      obtain ⟨c, hc, hblank⟩ := hink
      have hspace : c ≠ ' ' := by rintro rfl; cases hblank
      exact ⟨c, (mem_alignedCells_iff hspace).2 ⟨after, hbehind, hc⟩, hblank⟩
    have hcells := alignedCells_drop_cons hmem (List.ne_nil_of_mem hbehind)
    have hle := length_le_longest hmem
    refine ⟨longest rows column + columnGap - cell.length, ?_, ?_, ?_⟩
    · rw [columnGap]
      omega
    · rw [offset_succ, columnGap]
      omega
    · have hall := hrest.mono (List.subset_append_right
        (cell.toList ++ List.replicate (longest rows column + columnGap - cell.length) ' ') _)
      rw [drop_trimEnd_alignedCells hrow hcell (hcells ▸ hall), hcells, trimEnd_append_of_hasInk hrest]
      exact List.prefix_append _ _
  trimmed := isBlank_of_mem_getLast?_trimEnd

/-! ### Tables -/

theorem toList_join_tablePieces (rows : List Row) :
    (String.join (tablePieces rows)).toList =
      (rows.map fun row => trimEnd (alignedCells (columnWidths rows) row)).flatMap (· ++ ['\n']) := by
  rw [String.toList_join, tablePieces, List.flatMap_map, List.flatMap_assoc]
  simp [linePieces, rowLine]

/-- A table whose cells have no line breaks is written as one line for each row, in order, and each line holds
the cells of its row in the columns of the table. -/
theorem table_aligned (rows : List Row) (hcells : ∀ row ∈ rows, ∀ cell ∈ row, '\n' ∉ cell.toList) :
    ∃ lines : List (List Char),
      (Sink.withLimit none).writeAll (tablePieces rows) =
        (.ok (), ⟨none, String.ofList (lines.flatMap (· ++ ['\n']))⟩) ∧
      List.Forall₂ (fun row line => '\n' ∉ line ∧ StandsOn rows row line) rows lines := by
  refine ⟨rows.map fun row => trimEnd (alignedCells (columnWidths rows) row), ?_, ?_⟩
  · rw [Sink.writeAll_of_room_eq_none rfl, ← toList_join_tablePieces, String.ofList_toList]
    simp [Sink.withLimit]
  · refine List.forall₂_map_right_iff.2 (List.forall₂_same.2 fun row hrow => ⟨fun hbreak => ?_, ?_⟩)
    · have hmem := (trimEnd_isPrefix _).subset hbreak
      obtain ⟨cell, hcell, hbreak⟩ := (mem_alignedCells_iff (by decide)).1 hmem
      exact hcells row hrow cell hcell hbreak
    · exact standsOn_trimEnd hrow

/-- Rows of different lengths, with a last cell that is not filled up and a blank one that is lost. -/
theorem table_aligned_ragged :
    ∃ lines : List (List Char),
      (Sink.withLimit none).writeAll (tablePieces [["NAME", "SIZE"], ["datenträger"], ["db", "1 GiB", " "]]) =
        (.ok (), ⟨none, String.ofList (lines.flatMap (· ++ ['\n']))⟩) ∧
      List.Forall₂
        (fun row line => '\n' ∉ line ∧
          StandsOn [["NAME", "SIZE"], ["datenträger"], ["db", "1 GiB", " "]] row line)
        [["NAME", "SIZE"], ["datenträger"], ["db", "1 GiB", " "]] lines :=
  table_aligned _ (by decide)

example : tablePieces [["NAME", "SIZE"], ["datenträger"], ["db", "1 GiB", " "]] =
    ["NAME         SIZE", "\n", "datenträger", "\n", "db           1 GiB", "\n"] := by decide

end BlockStorage.Output
