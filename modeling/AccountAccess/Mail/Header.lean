import AccountAccess.Base64
import AccountAccess.Bytes
import AccountAccess.Mail.Mailbox

/-!
The values of header fields, in the characters a relay takes and folded into lines.

* `LineWriter` keeps track of the column. Blanks are held back until something follows them, so that
  a line can be broken before them: a line after the first then starts with a blank.
* `encodedWords` writes any text as base64 between marks, in as many pieces as lines need.
* `fieldText` is the value of a field that holds a text, and `fieldMailbox` of one that holds a
  mailbox.
-/

namespace AccountAccess.Mail

/-- The greatest number of octets of a line that can be broken. -/
def lineLimit : Nat := 76

/-- Text that is written line by line. -/
structure LineWriter where
  written : List Char := []
  /-- Octets on the present line. -/
  column : Nat
  /-- Blanks that were held back. -/
  pending : Nat := 0
  /-- Something stands on the present line that a break may follow. -/
  canBreak : Bool := false

namespace LineWriter

/-- Writes blanks held back, and then a text. -/
def write (w : LineWriter) (s : List Char) : LineWriter where
  written := w.written ++ List.replicate w.pending ' ' ++ s
  column := w.column + w.pending + octets s
  pending := 0
  canBreak := true

/-- Holds blanks back. -/
def space (w : LineWriter) (n : Nat) : LineWriter := { w with pending := w.pending + n }

/-- Starts a new line; blanks stay held back. -/
def newLine (w : LineWriter) : LineWriter where
  written := w.written ++ ['\r', '\n']
  column := 0
  pending := w.pending
  canBreak := false

/-- All that was written, and the blanks held back. -/
def text (w : LineWriter) : List Char := w.written ++ List.replicate w.pending ' '

/-- Writes a word, on a new line if there are blanks to break at and it would not fit. -/
def word (w : LineWriter) (s : List Char) : LineWriter :=
  if w.canBreak ∧ 0 < w.pending ∧ lineLimit < w.column + w.pending + octets s then
    w.newLine.write s
  else w.write s

/-- Writes a word and the blanks behind it. -/
def piece (w : LineWriter) (s : List Char) : LineWriter :=
  let core := s.takeWhile (· != ' ')
  (if core = [] then w else w.word core).space (s.length - core.length)

end LineWriter

/-- Parts a text behind each blank. -/
def splitAfterBlanks : List Char → List (List Char)
  | [] => []
  | c :: r =>
    if c == ' ' then [c] :: splitAfterBlanks r
    else match splitAfterBlanks r with
      | [] => [[c]]
      | w :: ws => (c :: w) :: ws

theorem flatten_splitAfterBlanks (s : List Char) : (splitAfterBlanks s).flatten = s := by
  induction s with
  | nil => rfl
  | cons c r ih =>
    rw [splitAfterBlanks]
    split
    · simp [ih]
    · split <;> simp_all

/-! ### Encoded words -/

/-- A text as base64 between marks. -/
def encodedWord (s : List Char) : List Char :=
  "=?utf-8?b?".toList ++ Base64.encodePadded .standard (Bytes.ofText (String.ofList s)) ++
    "?=".toList

/-- How many characters at the front fit into so many octets. -/
def fitting : Nat → List Char → Nat
  | _, [] => 0
  | capacity, c :: r =>
    if c.utf8Size ≤ capacity then 1 + fitting (capacity - c.utf8Size) r else 0

/-- How many octets an encoded word can take on the present line; twelve characters are marks, two
end the line, and three octets make four characters. Blanks held back are not counted. -/
def LineWriter.capacity (w : LineWriter) : Nat := (lineLimit - w.column - 14) / 4 * 3

/-- Writes at most so many encoded words. A new line is started where nothing fits, if there is a
blank to break at; `again` says that an encoded word stands before. -/
def encodedWordsFrom : Nat → Bool → LineWriter → List Char → LineWriter
  | 0, _, w, _ | _, _, w, [] => w
  | fuel + 1, again, w, s =>
    let full := fitting w.capacity s == 0 && (again || w.pending != 0)
    let w := if full then w.newLine.space (if w.pending = 0 then 1 else 0) else w
    let n := max 1 (fitting w.capacity s)
    encodedWordsFrom fuel true (w.write (encodedWord (s.take n))) (s.drop n)

/-- Writes a text as encoded words. -/
def encodedWords (w : LineWriter) (s : List Char) : LineWriter :=
  encodedWordsFrom s.length false w s

/-! ### Fields -/

/-- A character that stands for itself in the text of a field: any of ASCII but the null and the
ends of lines. -/
def isPlain (c : Char) : Bool :=
  let n := c.toNat
  (1 ≤ n && n ≤ 9) || n == 11 || n == 12 || (14 ≤ n && n ≤ 127)

/-- Writes what has to be encoded, and the blanks behind it. -/
def flush (w : LineWriter) (s : List Char) : LineWriter :=
  let core := (s.reverse.dropWhile (· == ' ')).reverse
  (encodedWords w core).space (s.length - core.length)

/-- Writes pieces: the plain ones as they are and adjacent others encoded together. -/
def writePieces (w : LineWriter) (unplain : List Char) : List (List Char) → LineWriter
  | [] => flush w unplain
  | p :: ps =>
    if p.all isPlain then writePieces ((flush w unplain).piece p) [] ps
    else writePieces w (unplain ++ p) ps

/-- The column that the value of a field starts at. -/
def valueColumn (field : String) : Nat := field.utf8ByteSize + 2

/-- The value of a field that holds a text. -/
def fieldText (field : String) (s : String) : String :=
  String.ofList (writePieces { column := valueColumn field } [] (splitAfterBlanks s.toList)).text

/-- A character of a name that needs no quotes. -/
def isBare (c : Char) : Bool := c.isAlphanum || c == '-' || c == '_' || c == '.'

/-- Writes the name of a mailbox: bare, or in quotes, or encoded. A backslash stays on the line of
the character that it escapes. -/
def writeName (w : LineWriter) (s : List Char) : LineWriter :=
  let isEscaped := fun c => c == '"' || c == '\\'
  if s.all isBare then w.write s
  else if s.all fun c => isBare c || c == ' ' then
    ((splitAfterBlanks s).foldl LineWriter.piece (w.write ['"'])).write ['"']
  else if s.all fun c => isBare c || c == ' ' || isEscaped c then
    (s.foldl (fun w c => w.piece (if isEscaped c then ['\\', c] else [c]))
      (w.write ['"'])).write ['"']
  else encodedWords w s

/-- The value of a field that holds a mailbox. -/
def fieldMailbox (field : String) (m : Mailbox) : String :=
  let w : LineWriter := { column := valueColumn field }
  let address := m.address.text.toList
  String.ofList <| LineWriter.text <| match m.name with
    | none => w.write address
    | some name => ((writeName w name.toList).space 1).write ('<' :: address ++ ['>'])

end AccountAccess.Mail
