import PeripheralBridge.Text.Table

/-!
# Reading a table off the screen

Where a cell is wider than its column, the spaces at which its lines end are lost, and each
line is filled with others. Nothing else of it is changed: the characters of a cell that are
no spaces stand in its column in their order. So a column is known by its characters, for
every arrangement of the widths.
-/

namespace PeripheralBridge

/-- The characters of a text that are no spaces. -/
def ink (cs : List Char) : List Char := cs.filter fun c => c != ' '

section Ink

variable {cs ds : List Char}

@[simp] theorem ink_nil : ink [] = [] := rfl

@[simp] theorem ink_append : ink (cs ++ ds) = ink cs ++ ink ds := List.filter_append _ _

@[simp] theorem ink_spaces (n : Nat) : ink (List.replicate n ' ') = [] := by
  simp [ink]

theorem ink_flatMap {α : Type} (f : α → List Char) (l : List α) :
    ink (l.flatMap f) = l.flatMap fun a => ink (f a) := List.filter_flatMap

theorem mem_ink {c : Char} (visible : c ≠ ' ') : c ∈ ink cs ↔ c ∈ cs := by
  simp [ink, visible]

/-- Spaces between words leave no ink. -/
theorem ink_intercalate_space (words : List (List Char)) :
    ink ([' '].intercalate words) = ink words.flatten := by
  induction words with
  | nil => rfl
  | cons word rest ih =>
    cases rest with
    | nil => simp
    | cons next rest =>
      rw [List.intercalate_cons_cons, List.flatten_cons, ink_append, ink_append, ink_append, ih]
      exact congrArg (· ++ _) (List.append_nil _)

end Ink

namespace Wrapping

/-- The letters of a line, without the spaces between its words. -/
def Line.letters (l : Line) : List Char := l.words.reverse.flatten

theorem Line.ink_text (l : Line) : ink l.text.toList = ink l.letters := by
  rw [text, String.toList_ofList, ink_intercalate_space, letters]

theorem Line.letters_add (l : Line) (word : List Char) (columns : Nat) :
    (l.add word columns).letters = l.letters ++ word := by
  unfold add letters
  split
  next empty =>
    have begun : l.words = [] := List.isEmpty_iff.mp empty
    split
    next none => rw [List.isEmpty_iff.mp none, List.append_nil]
    next => simp [begun]
  next => simp

@[simp] theorem Line.letters_new : ({} : Line).letters = [] := rfl

/-- Filling lines with words loses no ink. -/
theorem ink_fill (width : Nat) (line : Line) (words : List (List (List Char))) :
    (fill width line words).flatMap (fun l => ink l.toList) =
      ink line.letters ++ ink words.flatten.flatten := by
  fun_induction fill width line words with
  | case1 line empty => simp [Line.letters, List.isEmpty_iff.mp empty]
  | case2 line begun => simp [Line.ink_text]
  | case3 line word rest letters columns longer fits full ih =>
    simp [longer, letters, Line.ink_text, Line.letters_add, ih]
  | case4 line word rest letters columns longer fits full ih =>
    simp [longer, letters, Line.letters_add, ih]
  | case5 line word rest letters columns longer long scanty ih =>
    simp [Line.ink_text, ih]
  | case6 line word rest letters columns longer long roomy wide some count part ih =>
    -- the word is divided, and both of its parts are written
    have parts : ink word.flatten = ink part ++ ink (word.drop count).flatten := by
      rw [← ink_append, ← List.flatten_append, List.take_append_drop]
    simp [Line.ink_text, Line.letters_add, ih, parts]
  | case7 line word rest letters columns longer long roomy fits next full ih =>
    simp [next, letters, Line.ink_text, Line.letters_add, ih]
  | case8 line word rest letters columns longer long roomy fits next full ih =>
    simp [next, letters, Line.ink_text, Line.letters_add, ih]

/-- A text keeps its ink in the lines that it takes. -/
theorem ink_lines (width : Nat) (text : String) :
    (lines width text).flatMap (fun l => ink l.toList) = ink text.toList := by
  rw [lines]
  split
  · simp
  · rw [ink_fill, Line.letters_new, ink_nil, List.nil_append]
    have clusters : ((text.toList.splitOn ' ').map Cluster.split).flatten.flatten =
        (text.toList.splitOn ' ').flatten := by
      rw [List.flatten_flatten, List.map_map]
      exact congrArg List.flatten
        ((List.map_congr_left fun word _ => Cluster.flatten_split word).trans (List.map_id _))
    rw [clusters, ← ink_intercalate_space, List.intercalate_splitOn]

/-- Whatever stands in a line and is no space stands in the text. -/
theorem mem_of_mem_lines {width : Nat} {text line : String} {c : Char}
    (mem : line ∈ lines width text) (here : c ∈ line.toList) (visible : c ≠ ' ') :
    c ∈ text.toList := by
  rw [← mem_ink visible] at here ⊢
  rw [← ink_lines width text]
  exact List.mem_flatMap.mpr ⟨line, mem, here⟩

end Wrapping

section Intercalate

variable {α : Type} {a : α} {sep : List α} {parts : List (List α)}

theorem mem_of_mem_intercalate (mem : a ∈ sep.intercalate parts) :
    a ∈ sep ∨ ∃ part ∈ parts, a ∈ part := by
  induction parts with
  | nil => cases mem
  | cons part rest ih =>
    cases rest with
    | nil => exact .inr ⟨part, List.mem_singleton_self _, by simpa using mem⟩
    | cons next rest =>
      rw [List.intercalate_cons_cons, List.mem_append, List.mem_append] at mem
      rcases mem with (here | between) | later
      · exact .inr ⟨part, List.mem_cons_self, here⟩
      · exact .inl between
      · exact (ih later).imp_right fun ⟨other, mem, here⟩ =>
          ⟨other, List.mem_cons_of_mem _ mem, here⟩

theorem filter_intercalate {p : α → Bool} (dropped : p a = false)
    (kept : ∀ part ∈ parts, ∀ b ∈ part, p b = true) :
    ([a].intercalate parts).filter p = parts.flatten := by
  induction parts with
  | nil => rfl
  | cons part rest ih =>
    obtain ⟨own, others⟩ := List.forall_mem_cons.mp kept
    cases rest with
    | nil => simpa using own
    | cons next rest =>
      rw [List.intercalate_cons_cons, List.append_assoc, List.singleton_append, List.filter_append,
        List.filter_eq_self.mpr own, List.filter_cons_of_neg (by simp [dropped]), ih others]
      rfl

end Intercalate

/-- Parts that were joined are found again, as long as no part up to the one that is looked for
has the character that joins them. -/
theorem getElem?_splitOn_intercalate {c : Char} {parts : List (List Char)} {place : Nat}
    (there : place < parts.length) (whole : ∀ part ∈ parts.take (place + 1), c ∉ part) :
    (([c].intercalate parts).splitOn c)[place]? = parts[place]? := by
  induction parts generalizing place with
  | nil => cases there
  | cons part rest ih =>
    have clear : c ∉ part := whole part (by simp)
    have alone : part.splitOn c = [part] := by
      rw [List.splitOn_eq_splitOnP]
      exact List.splitOnP_eq_singleton fun d mem => by
        simpa using fun same : d = c => clear (same ▸ mem)
    cases rest with
    | nil =>
      obtain rfl : place = 0 := Nat.lt_one_iff.mp there
      rw [List.intercalate_singleton, alone]
    | cons next rest =>
      rw [List.intercalate_cons_cons, List.append_assoc, List.singleton_append,
        List.splitOn_append_cons_self, alone]
      cases place with
      | zero => rfl
      | succ place =>
        exact ih (Nat.lt_of_succ_lt_succ there) fun part mem => whole part (by
          rw [List.take_succ_cons]
          exact List.mem_cons_of_mem _ mem)

theorem le_foldl_max {n : Nat} {ns : List Nat} (mem : n ∈ ns) : n ≤ ns.foldl max 0 := by
  have grows : ∀ (ns : List Nat) (m : Nat), m ≤ ns.foldl max m ∧ ∀ n ∈ ns, n ≤ ns.foldl max m := by
    intro ns
    induction ns with
    | nil => simp
    | cons k rest ih =>
      intro m
      obtain ⟨least, others⟩ := ih (max m k)
      refine ⟨by simp; omega, List.forall_mem_cons.mpr ⟨by simp; omega, others⟩⟩
  exact (grows ns 0).2 n mem

/-- A list is read through by its places, also beyond its end. -/
theorem flatMap_range {α β : Type} (f : α → List β) {l : List α} {n : Nat} (all : l.length ≤ n) :
    (List.range n).flatMap (fun i => (l[i]?).elim [] f) = l.flatMap f := by
  induction l generalizing n with
  | nil => simp
  | cons a rest ih =>
    obtain ⟨n, rfl⟩ := Nat.exists_eq_add_one_of_ne_zero (Nat.ne_of_gt (Nat.lt_of_lt_of_le
      (Nat.zero_lt_succ _) all))
    rw [List.range_succ_eq_map, List.flatMap_cons, List.flatMap_map, List.flatMap_cons,
      ← ih (Nat.le_of_succ_le_succ all)]
    rfl

namespace PrintedTable

/-- A line with cells begins with the side of the box. -/
def hasCells (line : List Char) : Bool := line.head? == some '│'

/-- The double rule stands between the header and the rows. -/
def isHeaderRule (line : List Char) : Bool := line.head? == some '╞'

/-- What a line with cells has at a place, between the sides of the box. -/
def cellAt (place : Nat) (line : List Char) : List Char :=
  (((line.drop 1).dropLast.splitOn '┆')[place]?).getD []

/-- What some lines have in a column, but for the spaces. -/
def column (place : Nat) (lines : List (List Char)) : List Char :=
  ink ((lines.filter hasCells).flatMap (cellAt place))

def title (place : Nat) (screen : List Char) : List Char :=
  column place ((screen.splitOn '\n').takeWhile fun line => !isHeaderRule line)

def contents (place : Nat) (screen : List Char) : List Char :=
  column place ((screen.splitOn '\n').dropWhile fun line => !isHeaderRule line)

end PrintedTable

namespace Table

open PrintedTable

variable {arrange : Arrangement} {t : Table} {w : List Nat} {cells : List String} {place : Nat}
  {cell : String} {width : Nat} {c : Char}

theorem ink_cellLine (width : Nat) (line? : Option String) :
    ink (cellLine width line?).toList = line?.elim [] fun line => ink line.toList := by
  cases line? with
  | none => simp [cellLine, Padding.spaces]
  | some line => simp [cellLine, Padding.spaces, ink]

theorem mem_of_mem_cellLine {i : Nat}
    (here : c ∈ (cellLine width (Wrapping.lines width cell)[i]?).toList) (visible : c ≠ ' ') :
    c ∈ cell.toList := by
  rw [← mem_ink visible, ink_cellLine] at here
  cases found : (Wrapping.lines width cell)[i]? with
  | none =>
    rw [found] at here
    cases here
  | some line =>
    rw [found] at here
    exact Wrapping.mem_of_mem_lines (List.mem_of_getElem? found) ((mem_ink visible).mp here) visible

theorem exists_of_mem_wrap {column : Nat × List String} (mem : column ∈ wrap w cells) :
    ∃ width, ∃ cell ∈ cells, column = (width, Wrapping.lines width cell) := by
  obtain ⟨i, short, rfl⟩ := List.getElem_of_mem mem
  exact ⟨_, _, List.getElem_mem _, List.getElem_zipWith⟩

theorem toList_rowLine (columns : List (Nat × List String)) (i : Nat) :
    (rowLine columns i).toList =
      '│' :: (['┆'].intercalate (columns.map fun c => (cellLine c.1 c.2[i]?).toList) ++ ['│']) := by
  simp [rowLine, Function.comp_def]

/-- What stands in a row and is no part of the box stands in one of the cells. -/
theorem mem_of_mem_row {line : String} (mem : line ∈ row w cells) (here : c ∈ line.toList)
    (written : c ∉ [' ', '│', '┆']) : ∃ cell ∈ cells, c ∈ cell.toList := by
  simp only [List.mem_cons, List.not_mem_nil, or_false, not_or] at written
  obtain ⟨visible, noSide, noDivider⟩ := written
  obtain ⟨i, _, rfl⟩ := List.mem_map.mp mem
  simp only [toList_rowLine, List.mem_cons, List.mem_append, noSide, List.not_mem_nil, or_false,
    false_or] at here
  rcases mem_of_mem_intercalate here with divider | ⟨_, part, here⟩
  · exact absurd (List.mem_singleton.mp divider) noDivider
  obtain ⟨column, wrapped, rfl⟩ := List.mem_map.mp part
  obtain ⟨width, cell, there, rfl⟩ := exists_of_mem_wrap wrapped
  exact ⟨cell, there, mem_of_mem_cellLine here visible⟩

theorem isHeaderRule_of_hasCells {line : List Char} (cells : hasCells line = true) :
    isHeaderRule line = false := by
  rw [hasCells, beq_iff_eq] at cells
  rw [isHeaderRule, cells]
  rfl

theorem hasCells_row (w : List Nat) (cells : List String) :
    ∀ line ∈ (row w cells).map String.toList, hasCells line = true := by
  refine List.forall_mem_map.mpr fun line mem => ?_
  obtain ⟨i, _, rfl⟩ := List.mem_map.mp mem
  rw [toList_rowLine]
  rfl

/-- A row is read back at a place as long as no cell up to there has a divider in it. -/
theorem column_row (same : w.length = cells.length) (there : place < cells.length)
    (undivided : ∀ cell ∈ cells.take (place + 1), '┆' ∉ cell.toList) :
    ink (((row w cells).map String.toList).flatMap (cellAt place)) =
      ink cells[place].toList := by
  have wide : place < (wrap w cells).length := by
    rw [wrap, List.length_zipWith]
    omega
  have own : (wrap w cells)[place] = (w[place], Wrapping.lines w[place] cells[place]) :=
    List.getElem_zipWith
  have tall : (Wrapping.lines w[place] cells[place]).length ≤
      ((wrap w cells).map fun c => c.2.length).foldl max 0 := by
    refine le_foldl_max (List.mem_map.mpr ⟨_, List.getElem_mem wide, ?_⟩)
    rw [own]
  have line : ∀ i, ink (cellAt place (rowLine (wrap w cells) i).toList) =
      ((Wrapping.lines w[place] cells[place])[i]?).elim [] fun line => ink line.toList := by
    intro i
    have whole : ∀ part ∈ ((wrap w cells).map fun c => (cellLine c.1 c.2[i]?).toList).take
        (place + 1), '┆' ∉ part := by
      rintro _ part divided
      rw [← List.map_take, wrap, List.take_zipWith] at part
      obtain ⟨column, wrapped, rfl⟩ := List.mem_map.mp part
      obtain ⟨width, cell, early, rfl⟩ := exists_of_mem_wrap wrapped
      exact undivided cell early (mem_of_mem_cellLine divided (by decide))
    rw [toList_rowLine, cellAt, List.drop_one, List.tail_cons, List.dropLast_concat,
      getElem?_splitOn_intercalate (by rwa [List.length_map]) whole, List.getElem?_map,
      List.getElem?_eq_getElem wide, own, ← ink_cellLine]
    rfl
  rw [row, List.map_map, List.flatMap_map, ink_flatMap]
  simp only [Function.comp_apply, line]
  rw [flatMap_range _ tall, Wrapping.ink_lines]

section Rule

variable {left fill crossing right : Char}

theorem head?_rule : (rule left fill crossing right w).toList.head? = some left := by
  simp [rule, String.toList_append]

theorem hasCells_rule (other : left ≠ '│') :
    hasCells (rule left fill crossing right w).toList = false := by
  rw [hasCells, head?_rule]
  simpa using other

theorem isHeaderRule_rule :
    isHeaderRule (rule left fill crossing right w).toList = (left == '╞') := by
  rw [isHeaderRule, head?_rule]
  rfl

theorem mem_of_mem_rule (here : c ∈ (rule left fill crossing right w).toList) :
    c ∈ [left, fill, crossing, right] := by
  simp only [rule, String.toList_append, String.toList_singleton, List.mem_append,
    String.toList_intercalate, List.map_map, List.mem_singleton] at here
  rcases here with (rfl | inside) | rfl
  · simp
  · rcases mem_of_mem_intercalate inside with between | ⟨_, span, here⟩
    · simp_all
    · obtain ⟨width, _, rfl⟩ := List.mem_map.mp span
      simp_all
  · simp

end Rule

/-- A table whose columns up to a place can be told apart on the screen. -/
structure Legible (t : Table) (place : Nat) : Prop where
  even : ∀ cells ∈ t.header :: t.rows, cells.length = t.header.length
  there : place < t.header.length
  unbroken : ∀ cells ∈ t.header :: t.rows, ∀ cell ∈ cells, '\n' ∉ cell.toList
  undivided : ∀ cells ∈ t.header :: t.rows, ∀ cell ∈ cells.take (place + 1), '┆' ∉ cell.toList

namespace Legible

variable (legible : t.Legible place)
include legible

theorem unbroken_row (mem : cells ∈ t.header :: t.rows) {line : String}
    (part : line ∈ row w cells) : '\n' ∉ line.toList := by
  intro broken
  obtain ⟨cell, there, broken⟩ := mem_of_mem_row part broken (by decide)
  exact legible.unbroken cells mem cell there broken

theorem column_row (arrange : Arrangement) (mem : cells ∈ t.header :: t.rows) :
    ink (((row (t.widths arrange) cells).map String.toList).flatMap (cellAt place)) =
      ink (cells.getD place "").toList := by
  have there : place < cells.length := legible.even cells mem ▸ legible.there
  have same : (t.widths arrange).length = cells.length := by
    rw [widths, List.length_map, List.length_range, legible.even cells mem]
  rw [Table.column_row same there (legible.undivided cells mem), List.getD_eq_getElem?_getD,
    List.getElem?_eq_getElem there]
  rfl

theorem unbroken_lines (arrange : Arrangement) : ∀ line ∈ t.lines arrange, '\n' ∉ line.toList := by
  intro line mem
  simp only [lines, List.mem_append, List.mem_cons, List.not_mem_nil, or_false] at mem
  rcases mem with ((rfl | header) | rfl | body) | rfl
  · exact fun broken => absurd (mem_of_mem_rule broken) (by decide)
  · exact legible.unbroken_row List.mem_cons_self header
  · exact fun broken => absurd (mem_of_mem_rule broken) (by decide)
  · rcases mem_of_mem_intercalate body with divider | ⟨_, row, mem⟩
    · obtain rfl := List.mem_singleton.mp divider
      exact fun broken => absurd (mem_of_mem_rule broken) (by decide)
    · obtain ⟨cells, there, rfl⟩ := List.mem_map.mp row
      exact legible.unbroken_row (List.mem_cons_of_mem _ there) mem
  · exact fun broken => absurd (mem_of_mem_rule broken) (by decide)

/-- The lines on the screen are those of the table, and an empty one behind them. -/
theorem splitOn_text (arrange : Arrangement) :
    (t.text arrange ++ "\n").toList.splitOn '\n' =
      (t.lines arrange).map String.toList ++ [[]] := by
  have ends : (t.text arrange ++ "\n").toList =
      ['\n'].intercalate ((t.lines arrange).map String.toList) ++ '\n' :: [] := by
    rw [String.toList_append, text, String.toList_intercalate]
    rfl
  rw [ends, List.splitOn_append_cons_self, List.splitOn_intercalate]
  · rfl
  · simpa using legible.unbroken_lines arrange
  · simp [lines]

end Legible

/-- The header of a table stands above the first double rule, and the rows stand below it. -/
theorem divided_lines (arrange : Arrangement) (t : Table) :
    let w := t.widths arrange
    let screen := (t.lines arrange).map String.toList ++ [[]]
    screen.takeWhile (fun line => !isHeaderRule line) =
        (rule '┌' '─' '┬' '┐' w).toList :: (row w t.header).map String.toList ∧
      screen.dropWhile (fun line => !isHeaderRule line) =
        (rule '╞' '═' '╪' '╡' w).toList ::
          (([rule '├' '╌' '┼' '┤' w].intercalate (t.rows.map (row w))).map String.toList ++
            [(rule '└' '─' '┴' '┘' w).toList, []]) := by
  intro w screen
  have early : ∀ line ∈ (rule '┌' '─' '┬' '┐' w).toList :: (row w t.header).map String.toList,
      (!isHeaderRule line) = true := by
    refine List.forall_mem_cons.mpr ⟨by rw [isHeaderRule_rule]; rfl, fun line mem => ?_⟩
    rw [isHeaderRule_of_hasCells (hasCells_row _ _ line mem)]
    rfl
  have double : isHeaderRule (rule '╞' '═' '╪' '╡' w).toList = true := isHeaderRule_rule
  have divided : screen =
      ((rule '┌' '─' '┬' '┐' w).toList :: (row w t.header).map String.toList) ++
        (rule '╞' '═' '╪' '╡' w).toList ::
          (([rule '├' '╌' '┼' '┤' w].intercalate (t.rows.map (row w))).map String.toList ++
            [(rule '└' '─' '┴' '┘' w).toList, []]) := by
    simp [screen, lines, w]
  rw [divided, List.takeWhile_append_of_pos early, List.dropWhile_append_of_pos early,
    List.takeWhile_cons_of_neg (by simp [double]), List.dropWhile_cons_of_neg (by simp [double]),
    List.append_nil]
  exact ⟨rfl, rfl⟩

/-- Whatever the widths, a column is read off the screen with its title and with its cells in their
order. -/
theorem column_read (arrange : Arrangement) (legible : t.Legible place) :
    title place (t.text arrange ++ "\n").toList = ink (t.header.getD place "").toList ∧
    contents place (t.text arrange ++ "\n").toList =
      t.rows.flatMap fun cells => ink (cells.getD place "").toList := by
  obtain ⟨above, below⟩ := divided_lines arrange t
  rw [title, contents, legible.splitOn_text, above, below, column, column]
  constructor
  · rw [List.filter_cons_of_neg (by simp [hasCells_rule]),
      List.filter_eq_self.mpr (hasCells_row _ _), legible.column_row arrange List.mem_cons_self]
  · -- of the lines below the double rule, those with cells are the rows
    have rows : ([rule '├' '╌' '┼' '┤' (t.widths arrange)].intercalate
        (t.rows.map (row (t.widths arrange)))).filter (hasCells ∘ String.toList) =
          t.rows.flatMap (row (t.widths arrange)) := by
      refine filter_intercalate (hasCells_rule (by decide)) (List.forall_mem_map.mpr ?_)
      exact fun cells _ => List.forall_mem_map.mp (hasCells_row _ cells)
    have last : [(rule '└' '─' '┴' '┘' (t.widths arrange)).toList, []].filter hasCells = [] := by
      rw [List.filter_cons_of_neg (by simp [hasCells_rule])]
      rfl
    rw [List.filter_cons_of_neg (by simp [hasCells_rule]), List.filter_append, List.filter_map,
      rows, last, List.append_nil, List.map_flatMap, List.flatMap_assoc, ink_flatMap]
    exact congrArg List.flatten (List.map_congr_left fun cells mem =>
      legible.column_row arrange (List.mem_cons_of_mem _ mem))

end Table

end PeripheralBridge
