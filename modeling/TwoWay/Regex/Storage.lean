import TwoWay.Regex.Basic

/-!
The room that an expression takes when its repetitions are written out, in bytes. An expression is
stored twice, for reading a text forwards and for reading it backwards, and a character is stored as
the bytes of its UTF-8 form. This is an estimate of what expressions cost, and the standard bound on
those that are accepted rests on it; nothing that is said of patterns elsewhere does.
-/

namespace TwoWay.Regex

/-- Room for one state, for one more entry in a table of byte ranges, and for one more way out of a
fork. -/
def stateRoom : Nat := 32

def entryRoom : Nat := 8

def wayRoom : Nat := 4

abbrev ByteRow := List (Nat × Nat)

/-- Rows for the numbers from `low` to `high`, as one leading digit and `count` digits to the base
64 behind it. -/
def digitRows : Nat → Nat → Nat → List ByteRow
  | 0, low, high => [[(low, high)]]
  | count + 1, low, high =>
      let unit := Nat.pow 64 (count + 1)
      let first := low / unit
      let last := high / unit
      if first = last then (digitRows count (low % unit) (high % unit)).map ((first, first) :: ·)
      else
        let startsInside := low % unit ≠ 0
        let endsInside := high % unit ≠ unit - 1
        let front :=
          if startsInside then
            (digitRows count (low % unit) (unit - 1)).map ((first, first) :: ·)
          else []
        let back :=
          if endsInside then (digitRows count 0 (high % unit)).map ((last, last) :: ·) else []
        let fullFirst := if startsInside then first + 1 else first
        let fullEnd := if endsInside then last else last + 1
        let full :=
          if fullFirst < fullEnd then
            [(fullFirst, fullEnd - 1) :: List.replicate (count + 1) (0, 63)]
          else []
        front ++ full ++ back

/-- The blocks of code points whose UTF-8 forms have equal length: their ends, the number of bytes
behind the leading one, and what the leading byte adds to its digit. -/
def utf8Blocks : List (Nat × Nat × Nat × Nat) :=
  [(0, 0x7f, 0, 0), (0x80, 0x7ff, 1, 0xc0), (0x800, 0xd7ff, 2, 0xe0), (0xe000, 0xffff, 2, 0xe0),
    (0x10000, 0x10ffff, 3, 0xf0)]

def byteRows (range : Nat × Nat) : List ByteRow :=
  utf8Blocks.flatMap fun (first, last, count, mark) =>
    let low := max first range.1
    let high := min last range.2
    if low ≤ high then
      (digitRows count low high).map fun row =>
        row.modifyHead fun (lowest, highest) => (mark + lowest, mark + highest)
    else []

def beginnings : ByteRow → List ByteRow
  | [] => []
  | range :: rest => [range] :: (beginnings rest).map (range :: ·)

/-- Backwards, every beginning of a row is a state of its own, and a fork leads to all rows. -/
def rowsRoomBackward (rows : List ByteRow) : Nat :=
  let states := (rows.flatMap beginnings).eraseDups
  2 * stateRoom + wayRoom * rows.length + stateRoom * states.length

def continuations (rows : List ByteRow) (front : ByteRow) : List ByteRow :=
  rows.filterMap (front.isPrefixOf? ·)

/-- Forwards, a state is a table, and beginnings that go on alike share theirs. -/
def rowsRoomForward (rows : List ByteRow) : Nat :=
  let fronts := ([] :: rows.flatMap beginnings).eraseDups
  let tables := ((fronts.map (continuations rows)).filter (· ≠ [[]])).eraseDups
  let entries := tables.flatMap fun table => (table.map List.head?).eraseDups
  stateRoom * (tables.length + 1) + entryRoom * entries.length

def CharSet.room (rowsRoom : List ByteRow → Nat) (chars : CharSet) : Nat :=
  let rows := chars.ranges.flatMap byteRows
  match chars.ranges with
  -- A single character is its bytes, and ASCII characters share a table.
  | [(low, high)] =>
      if low = high then stateRoom * (rows.flatMap id).length
      else if high < 0x80 then 2 * stateRoom + entryRoom
      else rowsRoom rows
  | ranges =>
      if ranges.all fun range => range.2 < 0x80 then 2 * stateRoom + entryRoom * ranges.length
      else rowsRoom rows

def forkRoom : Nat :=
  stateRoom + 2 * wayRoom

/-- Room for an expression, given that of a set and of the marks around a numbered group. The
branches of an alternative share one fork and one state behind them. -/
def room (setRoom : CharSet → Nat) (groupRoom : Nat) : Regex → Nat
  | .empty | .assertion _ => stateRoom
  | .set chars => setRoom chars
  | .group _ body => groupRoom + room setRoom groupRoom body
  | .seq first second => room setRoom groupRoom first + room setRoom groupRoom second
  | .alt first second =>
      let shared := match second with
        | .alt .. => wayRoom
        | _ => forkRoom + stateRoom
      room setRoom groupRoom first + room setRoom groupRoom second + shared
  | .atLeast body 0 _ =>
      room setRoom groupRoom body +
        if body.isNullable then 2 * forkRoom + stateRoom else forkRoom
  | .atLeast body (min + 1) _ => (min + 1) * room setRoom groupRoom body + forkRoom
  | .between body min max _ =>
      let turn := room setRoom groupRoom body
      if min = max then max * turn
      else if max = 1 then turn + forkRoom + stateRoom
      else max * turn + (max - min) * forkRoom +
        if min = 0 then 2 * stateRoom else stateRoom

def beginsWith (condition : Assertion) : Regex → Bool
  | .empty | .set _ => false
  | .assertion found => found == condition
  | .group _ body => body.beginsWith condition
  | .seq first second =>
      first.beginsWith condition || (first.isZeroWidth && second.beginsWith condition)
  | .alt first second => first.beginsWith condition && second.beginsWith condition
  | .atLeast body min _ | .between body min _ _ => 0 < min && body.beginsWith condition

def endsWith (condition : Assertion) : Regex → Bool
  | .empty | .set _ => false
  | .assertion found => found == condition
  | .group _ body => body.endsWith condition
  | .seq first second =>
      second.endsWith condition || (second.isZeroWidth && first.endsWith condition)
  | .alt first second => first.endsWith condition && second.endsWith condition
  | .atLeast body min _ | .between body min _ _ => 0 < min && body.endsWith condition

def approachRoom (fixed : Bool) : Nat :=
  if fixed then stateRoom else forkRoom + 2 * stateRoom + entryRoom

def groupMarksRoom : Nat :=
  2 * stateRoom

def forwardRoom (regex : Regex) : Nat :=
  -- The whole match is marked like a group.
  approachRoom (regex.beginsWith .textStart) + groupMarksRoom +
    regex.room (CharSet.room rowsRoomForward) groupMarksRoom + stateRoom

def backwardRoom (regex : Regex) : Nat :=
  approachRoom (regex.endsWith .textEnd) + regex.room (CharSet.room rowsRoomBackward) 0 + stateRoom

def roomLimit : Nat :=
  10 * 1024 * 1024

def fits (regex : Regex) : Bool :=
  regex.forwardRoom ≤ roomLimit && regex.backwardRoom ≤ roomLimit

end TwoWay.Regex
