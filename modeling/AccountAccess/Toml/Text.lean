import AccountAccess.Bytes

/-!
Layout, keys and strings of TOML. Each reader takes what it reads off the front of a text and
answers it with what follows.

* `skipLayout` passes over blanks, comments and line ends, as far as they go.
* `basic` and `basicLines` read strings with escapes, `literal` and `literalLines` strings without.
* `keys?` reads a key with points in it.
-/

namespace AccountAccess.Toml

/-- A character that may stand in a comment or in a string on one line. -/
def isPlain (c : Char) : Bool := c == '\t' || (' ' ≤ c && c != '\x7F')

/-- A blank within a line. -/
def isBlank (c : Char) : Bool := c == ' ' || c == '\t'

/-- Drops the blanks at the front. -/
def skipBlanks (s : List Char) : List Char := s.dropWhile isBlank

/-- Drops blanks, comments and line ends; none if a comment holds what it may not. -/
def skipLayout (inComment : Bool) : List Char → Option (List Char)
  | [] => some []
  | '\n' :: s => skipLayout false s
  | '\r' :: '\n' :: s => skipLayout false s
  | c :: s =>
    if inComment then if isPlain c then skipLayout true s else none
    else if c == '#' then skipLayout true s
    else if isBlank c then skipLayout false s
    else some (c :: s)

/-- Drops blanks and a comment, behind which the line must end. -/
def lineEnd? (s : List Char) : Option (List Char) :=
  let s := skipBlanks s
  let s := match s with
    | '#' :: s => s.dropWhile isPlain
    | _ => s
  match s with
  | [] => some []
  | '\n' :: s => some s
  | '\r' :: '\n' :: s => some s
  | _ => none

/-! ### Strings -/

/-- Puts a character before what a reader has read. -/
def push (c : Char) (r : Option (List Char × List Char)) : Option (List Char × List Char) :=
  r.map fun (cs, rest) => (c :: cs, rest)

/-- What a letter behind a backslash stands for. -/
def escaped? (c : Char) : Option Char :=
  [('b', '\x08'), ('t', '\t'), ('n', '\n'), ('f', '\x0c'), ('r', '\r'), ('e', '\x1b'),
    ('"', '"'), ('\\', '\\')].lookup c

/-- The character of a number in hexadecimal digits. -/
def codePoint? (digits : List Char) : Option Char := do
  let ns ← digits.mapM Bytes.hexValue?
  let n := ns.foldl (fun n d => 16 * n + d) 0
  if n.isValidChar then return Char.ofNat n else none

/-- A string on one line, behind its opening quote. -/
def basic : List Char → Option (List Char × List Char)
  | [] => none
  | '"' :: s => some ([], s)
  | '\\' :: 'x' :: a :: b :: s => do push (← codePoint? [a, b]) (basic s)
  | '\\' :: 'u' :: a :: b :: c :: d :: s => do push (← codePoint? [a, b, c, d]) (basic s)
  | '\\' :: 'U' :: a :: b :: c :: d :: e :: f :: g :: h :: s => do
    push (← codePoint? [a, b, c, d, e, f, g, h]) (basic s)
  | '\\' :: c :: s => do push (← escaped? c) (basic s)
  | c :: s => if isPlain c then push c (basic s) else none

/-- The rest of the line is blank, and there is a line end. -/
def endsLine (s : List Char) : Bool :=
  match skipBlanks s with
  | '\n' :: _ => true
  | '\r' :: '\n' :: _ => true
  | _ => false

/-- A string over several lines, behind its opening quotes. Up to two quotes before the closing ones
belong to the string. A backslash at the end of a line takes out the line end and the blanks and
line ends that follow; `skipping` says that these are being passed over. -/
def basicLines (skipping : Bool) : List Char → Option (List Char × List Char)
  | [] => none
  | '"' :: '"' :: '"' :: '"' :: '"' :: s => some (['"', '"'], s)
  | '"' :: '"' :: '"' :: '"' :: s => some (['"'], s)
  | '"' :: '"' :: '"' :: s => some ([], s)
  | '\r' :: '\n' :: s =>
    if skipping then basicLines true s else push '\r' (push '\n' (basicLines false s))
  | '\\' :: 'x' :: a :: b :: s => do push (← codePoint? [a, b]) (basicLines false s)
  | '\\' :: 'u' :: a :: b :: c :: d :: s => do
    push (← codePoint? [a, b, c, d]) (basicLines false s)
  | '\\' :: 'U' :: a :: b :: c :: d :: e :: f :: g :: h :: s => do
    push (← codePoint? [a, b, c, d, e, f, g, h]) (basicLines false s)
  | '\\' :: c :: s =>
    if endsLine (c :: s) then basicLines true s
    else do push (← escaped? c) (basicLines false s)
  | c :: s =>
    if skipping && (isBlank c || c == '\n') then basicLines true s
    else if c == '\n' || isPlain c then push c (basicLines false s)
    else none

/-- A string without escapes on one line, behind its opening quote. -/
def literal (s : List Char) : Option (List Char × List Char) :=
  let inside := fun c => c != '\'' && isPlain c
  match s.dropWhile inside with
  | '\'' :: rest => some (s.takeWhile inside, rest)
  | _ => none

/-- A string without escapes over several lines, behind its opening quotes. -/
def literalLines : List Char → Option (List Char × List Char)
  | [] => none
  | '\'' :: '\'' :: '\'' :: '\'' :: '\'' :: s => some (['\'', '\''], s)
  | '\'' :: '\'' :: '\'' :: '\'' :: s => some (['\''], s)
  | '\'' :: '\'' :: '\'' :: s => some ([], s)
  | '\r' :: '\n' :: s => push '\r' (push '\n' (literalLines s))
  | c :: s => if c == '\n' || isPlain c then push c (literalLines s) else none

/-- Drops a line end at the front. -/
def dropLineEnd : List Char → List Char
  | '\n' :: s => s
  | '\r' :: '\n' :: s => s
  | s => s

/-- A string of any of the four kinds. -/
def string? : List Char → Option (List Char × List Char)
  | '"' :: '"' :: '"' :: s => basicLines false (dropLineEnd s)
  | '"' :: s => basic s
  | '\'' :: '\'' :: '\'' :: s => literalLines (dropLineEnd s)
  | '\'' :: s => literal s
  | _ => none

/-! ### Keys -/

/-- A character of a key without quotes. -/
def isKeyChar (c : Char) : Bool := c.isAlphanum || c == '_' || c == '-'

/-- One part of a key. -/
def key? (s : List Char) : Option (String × List Char) :=
  match s with
  | '"' :: s => (basic s).map fun (k, rest) => (String.ofList k, rest)
  | '\'' :: s => (literal s).map fun (k, rest) => (String.ofList k, rest)
  | _ =>
    let k := s.takeWhile isKeyChar
    if k = [] then none else some (String.ofList k, s.dropWhile isKeyChar)

/-- How deep lists and tables within a line may be nested, and how many parts a key may have. -/
def greatestDepth : Nat := 80

/-- A key: at least one part, with points between the parts and blanks around them. The last part is
apart from those above it. -/
def keysWithin? : Nat → List Char → Option ((List String × String) × List Char)
  | 0, _ => none
  | parts + 1, s => do
    let (k, s) ← key? (skipBlanks s)
    match skipBlanks s with
    | '.' :: s => do
      let ((above, last), s) ← keysWithin? parts s
      return ((k :: above, last), s)
    | s => return (([], k), s)

/-- A key with the blanks around it. -/
def keys? (s : List Char) : Option ((List String × String) × List Char) :=
  keysWithin? greatestDepth s

end AccountAccess.Toml
