import MiniLex.Console.Print
import MiniLex.Console.Width
import MiniLex.Text.Basic

/-!
Tables in a frame. A column is as wide as the widest line in its cells, with one blank on both
sides, unless the table gets wider than the console; then the widest columns give way, and lines are
broken between words. A row is as high as its highest cell.
-/

namespace MiniLex.Console

/-! ### Breaking lines -/

/-- A word with the blanks behind it, for each word of a text that starts with one. -/
def wordsBehind : Text → List Text
  | [] => []
  | c :: cs =>
    let word := c :: cs.takeWhile (!Text.isBlank ·)
    let rest := cs.dropWhile (!Text.isBlank ·)
    (word ++ rest.takeWhile Text.isBlank) :: wordsBehind (rest.dropWhile Text.isBlank)
termination_by s => s.length
decreasing_by
  have h₁ := (List.dropWhile_suffix (l := cs) (!Text.isBlank ·)).length_le
  have h₂ := (List.dropWhile_suffix (l := cs.dropWhile (!Text.isBlank ·)) Text.isBlank).length_le
  simp only [List.length_cons]
  omega

/-- The words of a line with the blanks behind them; the first one has also the blanks in front of
it. -/
def wordsOf (s : Text) : List Text :=
  match wordsBehind (Text.trimLeft s) with
  | [] => []
  | word :: rest => (s.takeWhile Text.isBlank ++ word) :: rest

/-- What happens to a word that is wider than a line: it goes on in the next line, or its end gives
way to a sign of omission. -/
inductive Overflow where
  | fold
  | ellipsis
  deriving DecidableEq

/-- Put clusters on lines of at most `width` columns, behind a line that has some already. -/
def chopFrom (width : Nat) (line : Text) (column : Nat) : List Cluster → List Text
  | [] => [line]
  | k :: ks =>
    if width < column + k.columns then line :: chopFrom width k.text k.columns ks
    else chopFrom width (line ++ k.text) (column + k.columns) ks

def chop (width : Nat) (word : Text) : List Text :=
  chopFrom width [] 0 (clusters word)

/-- Lines under construction, the current one apart and the last of the others in front, and the
columns that are taken in the current line. -/
structure Page where
  done : List Text := []
  line : Text := []
  column : Nat := 0
  deriving DecidableEq

namespace Page

/-- Start a line with a text. An empty line is no line. -/
def startLine (p : Page) (s : Text) : Page :=
  ⟨if p.line = [] then p.done else p.line :: p.done, s, lineWidth s⟩

/-- Put a word on the page, in the current line if it fits there. -/
def put (overflow : Overflow) (width : Nat) (p : Page) (word : Text) : Page :=
  let size := lineWidth (Text.trimRight word)
  if p.column + size ≤ width then
    { p with line := p.line ++ word, column := p.column + lineWidth word }
  else if width < size && overflow = .fold then (chop width word).foldl Page.startLine p
  else p.startLine word

def lines (p : Page) : List Text :=
  (p.line :: p.done).reverse

end Page

def wrap (overflow : Overflow) (width : Nat) (s : Text) : List Text :=
  match wordsOf s with
  | [] => [s]
  | words => (words.foldl (Page.put overflow width) {}).lines

/-- Cut off blanks at the end of a line as long as it has more than `width` characters. -/
def cutBlanks (width : Nat) (s : Text) : Text :=
  s.take (max (Text.trimRight s).length (min width s.length))

def Overflow.crop (overflow : Overflow) (width : Nat) (s : Text) : Text :=
  if lineWidth s ≤ width then s
  else match overflow with
    | fold => Console.crop width s
    | ellipsis => Console.crop (width - 1) s ++ ['…']

/-! ### Tables -/

def screenWidth : Nat := 200

inductive Align where
  | left
  | right
  | centre
  deriving DecidableEq

structure Column where
  heading : Text
  align : Align
  deriving DecidableEq

structure Table where
  columns : List Column
  rows : List (List Text)
  deriving DecidableEq

def blanks (n : Nat) : Text :=
  List.replicate n ' '

def fill (width : Nat) (s : Text) : Text :=
  s ++ blanks (width - lineWidth s)

/-- What remains of a line that is brought to an edge: blanks at its end go where they would stand
between the text and the right edge. -/
def Align.trim (align : Align) (width : Nat) (s : Text) : Text :=
  match align with
  | left => cutBlanks width s
  | _ => Text.trimRight s

/-- Bring a line to `width` columns, in the middle nearer to the left if there is no middle. -/
def Align.pad (align : Align) (width : Nat) (s : Text) : Text :=
  match align with
  | left => fill width s
  | right => blanks (width - lineWidth s) ++ s
  | centre => fill width (blanks ((width - lineWidth s) / 2) ++ s)

namespace Table

/-- The lines of a cell that is `width` columns wide. They are filled once more at the end, since a
joiner at the end of a line hides one blank. -/
def cellLines (align : Align) (width : Nat) (cell : Text) : List Text :=
  let lines := (linesOf cell).flatMap fun line =>
    wrap .ellipsis width (expandLine lineWidth tabStop line)
  lines.map fun line =>
    fill width (align.pad width (Overflow.crop .ellipsis width (align.trim width line)))

def endsLine (c : Char) : Bool :=
  c == '\n' || c == '\x1c' || c == '\x1d' || c == '\x1e' || c == '\u0085' || c == '\u2028' ||
    c == '\u2029'

def cellWidth (cell : Text) : Nat :=
  ((cell.splitOnP endsLine).map lineWidth).foldl max 0

def roundedQuotient (a b : Nat) : Nat :=
  let q := a / b
  let r := a % b
  if 2 * r < b then q else if b < 2 * r then q + 1 else q + q % 2

/-- Take `excess` from the columns of the greatest width, of which there are `count`: as evenly as
possible, and at most `cap` from each. -/
def shareOut (greatest cap : Nat) : Nat → Nat → List Nat → List Nat
  | _, _, [] => []
  | excess, count, w :: ws =>
    if w = greatest then
      let taken := min cap (roundedQuotient excess count)
      (w - taken) :: shareOut greatest cap (excess - taken) (count - 1) ws
    else w :: shareOut greatest cap excess count ws

/-- Make the widest columns narrower, never below the next ones, until the widths come to no more
than `room` or `steps` are done. -/
def narrow (room : Nat) : Nat → List Nat → List Nat
  | 0, widths => widths
  | steps + 1, widths =>
    let excess := widths.foldl (· + ·) 0 - room
    if excess = 0 then widths
    else
      let greatest := widths.foldl max 0
      let second := (widths.filter (· != greatest)).foldl max 0
      let cap := min excess (greatest - second)
      narrow room steps (shareOut greatest cap excess (widths.count greatest) widths)

/-- The widths of the columns, with the blanks on their sides: what their cells ask for if the
console has room for it. Every step of narrowing gains a column at least. -/
def widths (t : Table) : List Nat :=
  let room := screenWidth - (t.columns.length + 1)
  let asked := t.columns.zipIdx.map fun (column, i) =>
    (t.rows.map fun row => cellWidth (row.getD i [])).foldl max (cellWidth column.heading) + 2
  let asked := asked.map (min room)
  narrow room (asked.foldl (· + ·) 0) asked

def width (t : Table) : Nat :=
  t.widths.foldl (fun total w => total + w + 1) 1

def rule (left fill middle right : Char) (widths : List Nat) : Text :=
  left :: List.intercalate [middle] (widths.map fun w => List.replicate w fill) ++ [right]

def line (edge : Char) (cells : List Text) : Text :=
  edge :: cells.flatMap fun cell => ' ' :: cell ++ [' ', edge]

/-- A row, line by line. A cell with fewer lines than the row is filled with empty ones. -/
def rowLines (edge : Char) (columns : List Column) (widths : List Nat) (row : List Text) :
    List Text :=
  let cells := ((columns.zip widths).zip row).map fun ((column, w), cell) =>
    (w - 2, cellLines column.align (w - 2) cell)
  let height := (cells.map (·.2.length)).foldl max 0
  (List.range height).map fun i =>
    line edge (cells.map fun (w, lines) => lines.getD i (blanks w))

def lines (t : Table) : List Text :=
  let widths := t.widths
  [rule '┏' '━' '┳' '┓' widths] ++
  rowLines '┃' t.columns widths (t.columns.map (·.heading)) ++
  [rule '┡' '━' '╇' '┩' widths] ++
  t.rows.flatMap (rowLines '│' t.columns widths) ++
  [rule '└' '─' '┴' '┘' widths]

/-- Replace the tabs of a line by blanks. A part of the line starts and stops where the expansion of
the characters before it ends. -/
def expandStyled (line : StyledText) : StyledText :=
  if line.text.contains '\t' then
    let expand := expandLine lineWidth tabStop
    let offset (n : Nat) := (expand (line.text.take n)).length
    let spans := line.spans.filter fun p => p.first < p.stop
    ⟨expand line.text, spans.map fun p => ⟨offset p.first, offset p.stop, p.style⟩⟩
  else line

/-- The lines of a title over `width` columns, without blanks at their ends. -/
def titleLines (width : Nat) (title : StyledText) : List StyledText :=
  let lines := title.cut 1 ((linesOf title.text).map List.length)
  let lines := (lines.map expandStyled).flatMap fun line =>
    line.cut 0 ((wrap .fold width line.text).map List.length)
  lines.map fun line => line.take (Text.trimRight line.text).length

def print (t : Table) (title : Text) : Except Markup.TagError Text := do
  let heading ← Markup.render display title
  let heading := if title = [] then [] else titleLines t.width heading
  match heading.findSome? (·.fault?) with
  | some fault => .error (.badShare fault)
  | none =>
    let heading := heading.map fun line => Align.centre.pad t.width line.text
    return (heading ++ t.lines).flatMap (· ++ ['\n'])

end Table

end MiniLex.Console
