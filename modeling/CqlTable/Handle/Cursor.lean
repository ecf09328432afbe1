import CqlTable.Result.Rows

/-!
# Cursors: reading the rows of a retained result

A cursor retains the result of the last query, and knows which row comes next
and which was read last. Without a result it stands at the start and has read
nothing.
-/

namespace CqlTable

/-- A retained result, the index of the next row, and that of the row read
    last. -/
structure Cursor where
  retained : Option QueryResult
  next : Nat
  last : Option Nat
  deriving DecidableEq

namespace Cursor

/-- A cursor at the start of a result, or without one. -/
def ofResult (retained : Option QueryResult) : Cursor := ⟨retained, 0, none⟩

/-- A cursor without a result. -/
def released : Cursor := ofResult none

/-- The cursor back at the start, with nothing read. -/
def rewound (cursor : Cursor) : Cursor := ofResult cursor.retained

/-- The cursor with the first row as the next one. What was read last stays. -/
def atFirst (cursor : Cursor) : Cursor := { cursor with next := 0 }

/-- The cursor behind a row that was read. -/
def past (index : Nat) (cursor : Cursor) : Cursor :=
  { cursor with next := index + 1, last := some index }

/-- The column names of the retained result with the cells of a row of it. -/
def row? (index : Nat) (cursor : Cursor) : Option (List String × List String) :=
  cursor.retained.bind fun result => result.rows[index]?.map fun cells => (result.columnNames, cells)

end Cursor

end CqlTable
