import AccountAccess.Text.Normal

/-!
Media types such as `text/html; charset=utf-8`.

A media type is a type, a slash, a subtype and parameters behind semicolons. The value of a
parameter is a token or stands in quotes.

* `MediaType.normalize` reads one and writes it in its usual form: type, subtype, the names of
  parameters and the value of `charset` in lower case, and no list of parameters that holds none.
-/

namespace AccountAccess.Mail

/-- Why a text is no media type. -/
inductive MediaTypeError where
  | missingSlash
  | missingEquals
  | missingQuote
  /-- An octet that cannot stand at its position. -/
  | unexpected (octet : UInt8) (position : Nat)
  deriving DecidableEq, Repr

/-- A number in hexadecimal, without leading zeros. -/
def hexadecimal (n : Nat) : String := String.ofList ((Nat.toDigits 16 n).map Char.toUpper)

/-- The wording. -/
def MediaTypeError.message (e : MediaTypeError) : String :=
  "mime parse error: " ++ match e with
    | missingSlash => "a slash (/) was missing between the type and subtype"
    | missingEquals => "an equals sign (=) was missing between a parameter and its value"
    | missingQuote => "a quote (\") was missing from a parameter value"
    | unexpected octet position =>
      "an invalid token was encountered, " ++ hexadecimal octet.toNat ++ " at position " ++
        Nat.repr position

namespace MediaType

/-- Where reading stops short. -/
inductive Stop where
  | missingSlash
  | missingEquals
  | missingQuote
  /-- The first character of the rest cannot stand there. -/
  | before (rest : List Char)

/-- A character of a token. -/
def isToken (c : Char) : Bool := c.isAlphanum || "!#$%&'*+-.^_\x60|~".toList.contains c

/-- A character that may stand between quotes. -/
def isQuotable (c : Char) : Bool := 31 < c.toNat && c.toNat != 127

/-- Letters of ASCII in lower case. -/
def lower (s : List Char) : List Char := s.map Char.toLower

/-- The value of a parameter as it is written: that of a character set in lower case. -/
def shown (name value : List Char) : List Char :=
  if lower name = "charset".toList then lower value else value

/-- A value that stands in quotes, behind the first of them; at least one character stands between
the quotes, and may be a quote. Blanks may follow. -/
def quotedValue (name : List Char) : List Char → Except Stop (List Char × List Char)
  | [] => .error .missingQuote
  | c :: r =>
    if !isQuotable c then .error (.before (c :: r))
    else
      let inside := fun c => c != '"' && isQuotable c
      match r.dropWhile inside with
      | [] => .error .missingQuote
      | d :: after =>
        if d != '"' then .error (.before (d :: after))
        else
          let blanks := after.takeWhile (· == ' ')
          let written := '"' :: shown name (c :: r.takeWhile inside) ++ '"' :: blanks
          match after.dropWhile (· == ' ') with
          | [] => .ok (written, [])
          | ';' :: rest => .ok (written ++ [';'], rest)
          | rest => .error (.before rest)

/-- The value of a parameter. -/
def value (name : List Char) : List Char → Except Stop (List Char × List Char)
  | '"' :: r => quotedValue name r
  | s =>
    let v := s.takeWhile isToken
    match s.dropWhile isToken with
    | [] => .ok (shown name v, [])
    | ';' :: rest =>
      if v = [] then .error (.before (';' :: rest)) else .ok (shown name v ++ [';'], rest)
    | rest => .error (.before rest)

/-- A parameter as it is written, with the semicolon behind it, and the rest. -/
def parameter (s : List Char) : Except Stop (List Char × List Char) :=
  let name := s.takeWhile isToken
  match s.dropWhile isToken with
  | [] => .error .missingEquals
  | '=' :: r =>
    if name = [] then .error (.before ('=' :: r))
    else do
      let (v, rest) ← value name r
      return (lower name ++ '=' :: v, rest)
  | rest => .error (.before rest)

/-- The parameters as they are written, in at most so many steps, and whether there are any. -/
def parameters : Nat → List Char → Except Stop (List Char × Bool)
  | 0, _ | _, [] => .ok ([], false)
  | fuel + 1, ' ' :: r => do
    let (t, any) ← parameters fuel r
    return (' ' :: t, any)
  | fuel + 1, s => do
    let (p, rest) ← parameter s
    let (t, _) ← parameters fuel rest
    return (p ++ t, true)

/-- A media type as it is usually written. -/
def read (s : List Char) : Except Stop (List Char) :=
  let type := s.takeWhile isToken
  match s.dropWhile isToken with
  | [] => .error .missingSlash
  | '/' :: r =>
    if type = [] then .error (.before ('/' :: r))
    else
      let subtype := r.takeWhile isToken
      let front := lower type ++ '/' :: lower subtype
      match r.dropWhile isToken with
      | [] => .ok front
      | ';' :: ps =>
        if subtype = [] then .error (.before (';' :: ps))
        else do
          let (t, any) ← parameters ps.length ps
          return if any then front ++ ';' :: t else front
      | rest => .error (.before rest)
  | rest => .error (.before rest)

/-- How reading the text `s` failed. -/
def fault (s : List Char) : Stop → MediaTypeError
  | .missingSlash => .missingSlash
  | .missingEquals => .missingEquals
  | .missingQuote => .missingQuote
  | .before rest =>
    let octets := fun s => (String.ofList s).utf8ByteSize
    .unexpected ((String.ofList rest).toUTF8.toList.headD 0) (octets s - octets rest)

/-- A media type as it is usually written. -/
def normalize (s : String) : Except MediaTypeError String :=
  match read s.toList with
  | .ok t => .ok (String.ofList t)
  | .error stop => .error (fault s.toList stop)

end MediaType
end AccountAccess.Mail
