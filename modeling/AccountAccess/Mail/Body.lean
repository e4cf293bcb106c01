import AccountAccess.Base64
import AccountAccess.Bytes

/-!
The body of a message on its way through a relay.

* `QuotedPrintable.encode` writes octets as printable characters, in lines of at most 76. Visible
  characters stand for themselves, blanks and tabs too unless they end a line, and every other octet
  is written as an equals sign and two hexadecimal digits. A line end stays a line end. A line that
  gets too long is broken behind an equals sign.
* `TransferEncoding.choose`: a text of ASCII with short lines stays as it is; otherwise it is
  written in printable characters if at most a third of its octets need escaping, and as base64 if
  more do.
* `withLineEnds` makes every line end a carriage return and a line feed.
-/

namespace AccountAccess.Mail.QuotedPrintable

/-! ### Printable characters -/

/-- An octet as an equals sign and two digits. -/
def escaped (b : UInt8) : List Char :=
  let digit := fun n => (Bytes.hexDigit n).toUpper
  ['=', digit (b.toNat / 16), digit (b.toNat % 16)]

/-- An octet that can stand for itself. -/
def isLiteral (b : UInt8) : Bool := b == 9 || (32 ≤ b && b ≤ 126 && b != 61)

/-- How an octet within a line is written. -/
def unit (b : UInt8) : List Char := if isLiteral b then [Char.ofUInt8 b] else escaped b

/-- How the last octet of a line is written. -/
def lastUnit (b : UInt8) : List Char := if b == 9 || b == 32 then escaped b else unit b

/-- How the octets of a line are written, one by one. -/
def units : Bytes → List (List Char)
  | [] => []
  | [b] => [lastUnit b]
  | b :: rest => unit b :: units rest

/-- The greatest number of characters on a line. -/
def lineLimit : Nat := 76

/-- A line end in the middle of a line. -/
def softBreak : List Char := ['=', '\r', '\n']

/-- Puts units on lines, where the present line has so many characters already. All but the last
unit leave room for an equals sign behind them. -/
def wrap : Nat → List (List Char) → List Char
  | _, [] => []
  | column, [u] => if column + u.length ≤ lineLimit then u else softBreak ++ u
  | column, u :: us =>
    if column + u.length < lineLimit then u ++ wrap (column + u.length) us
    else softBreak ++ u ++ wrap u.length us

/-- The octets of each line, without the line ends. -/
def lines : Bytes → List Bytes
  | [] => [[]]
  | 13 :: 10 :: rest => [] :: lines rest
  | b :: rest =>
    match lines rest with
    | [] => [[b]]
    | l :: ls => (b :: l) :: ls

/-- The octets as printable characters. -/
def encode (b : Bytes) : List Char :=
  ['\r', '\n'].intercalate ((lines b).map fun l => wrap 0 (units l))

end AccountAccess.Mail.QuotedPrintable

namespace AccountAccess.Mail

/-! ### Bodies -/

/-- How the octets of a body are written. -/
inductive TransferEncoding where
  | plain
  | quotedPrintable
  | base64
  deriving DecidableEq, Repr

namespace TransferEncoding

/-- The name in a header field. -/
def name : TransferEncoding → String
  | plain => "7bit"
  | quotedPrintable => "quoted-printable"
  | base64 => "base64"

/-- Some line is too long to be sent as it is: 76 octets, where the line feed before it counts. -/
def hasLongLine : Nat → Bytes → Bool
  | column, [] => 76 ≤ column
  | column, b :: rest =>
    if b == 10 then 76 ≤ column || hasLongLine 1 rest else hasLongLine (column + 1) rest

/-- An octet that needs escaping among printable characters. -/
def needsEscaping (b : UInt8) : Bool := !(b == 9 || (32 ≤ b && b ≤ 126))

/-- How to write a body. -/
def choose (b : Bytes) : TransferEncoding :=
  if b.all (· < 128) && !hasLongLine 0 b then plain
  else if b.countP needsEscaping ≤ b.length / 3 then quotedPrintable
  else base64

end TransferEncoding

/-- Every line feed has a carriage return before it. -/
def withLineEnds : Bytes → Bytes
  | [] => []
  | 13 :: 10 :: rest => 13 :: 10 :: withLineEnds rest
  | b :: rest => if b == 10 then 13 :: 10 :: withLineEnds rest else b :: withLineEnds rest

/-- Base64 in lines of 76 characters, from at most so many octets. -/
def base64Lines : Nat → Bytes → List (List Char)
  | 0, _ | _, [] => []
  | fuel + 1, b => Base64.encodePadded .standard (b.take 57) :: base64Lines fuel (b.drop 57)

/-- The characters of a body, for one of its encodings. -/
def encodedBody (b : Bytes) : TransferEncoding → List Char
  | .plain => b.map Char.ofUInt8
  | .quotedPrintable => QuotedPrintable.encode b
  | .base64 => ['\r', '\n'].intercalate (base64Lines b.length b)

end AccountAccess.Mail
