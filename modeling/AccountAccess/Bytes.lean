/-!
Octet sequences, and the two textual views of them used everywhere: UTF-8 and hexadecimal.

* `Bytes.ofText` is the UTF-8 form of a text and `Bytes.text?` reads it back;
  `text?_ofText` says that nothing is lost.
* `Bytes.toHex` writes two lower-case digits per octet and `Bytes.ofHex?` reads either case.
-/

namespace AccountAccess

/-- A sequence of octets. -/
abbrev Bytes := List UInt8

namespace Bytes

/-! ### UTF-8 -/

/-- The UTF-8 octets of a text. -/
def ofText (s : String) : Bytes := s.toByteArray.data.toList

/-- The text whose UTF-8 form is `b`, if there is one. -/
def text? (b : Bytes) : Option String := String.fromUTF8? ⟨b.toArray⟩

@[simp] theorem text?_ofText (s : String) : text? (ofText s) = some s := by
  have h : (⟨(ofText s).toArray⟩ : ByteArray) = s.toByteArray := by simp [ofText]
  simp only [text?, h, String.fromUTF8?, s.isValidUTF8, dif_pos]
  rfl

/-- A text is determined by its octets. -/
theorem ofText_injective {s t : String} (h : ofText s = ofText t) : s = t := by
  have := congrArg text? h
  simpa using this

/-- Whatever reads as a text is the UTF-8 form of that text. -/
theorem eq_ofText_of_text? {b : Bytes} {s : String} (h : text? b = some s) : b = ofText s := by
  simp only [text?, String.fromUTF8?] at h
  split at h
  · cases h; simp [ofText, String.fromUTF8]
  · cases h

/-- An ASCII character is one octet. -/
theorem utf8EncodeChar_of_ascii {c : Char} (h : c.toNat < 128) :
    String.utf8EncodeChar c = [c.toUInt8] := by
  have hsize : c.utf8Size = 1 := by
    rw [Char.utf8Size_eq_one_iff, UInt32.le_iff_toNat_le]
    have hv : c.toNat = c.val.toNat := rfl
    have h127 : (127 : UInt32).toNat = 127 := rfl
    omega
  rw [String.utf8EncodeChar_eq_singleton hsize, Char.toUInt8_val]

/-- ASCII text has one octet a character. -/
theorem ofText_ofList_of_ascii {cs : List Char} (h : ∀ c ∈ cs, c.toNat < 128) :
    ofText (String.ofList cs) = cs.map Char.toUInt8 := by
  have key : cs.flatMap String.utf8EncodeChar = cs.map Char.toUInt8 := by
    induction cs with
    | nil => rfl
    | cons c cs ih =>
      rw [List.flatMap_cons, utf8EncodeChar_of_ascii (h c (by simp)),
        ih fun d hd => h d (by simp [hd])]
      rfl
  simp [ofText, String.toByteArray_ofList, List.utf8Encode, key]

/-! ### Hexadecimal -/

/-- The lower-case hexadecimal digit of a number below sixteen. -/
def hexDigit (n : Nat) : Char := Nat.digitChar n

/-- Two lower-case hexadecimal digits per octet. -/
def hexChars (b : Bytes) : List Char :=
  b.flatMap fun x => [hexDigit (x.toNat / 16), hexDigit (x.toNat % 16)]

/-- Two lower-case hexadecimal digits per octet, as a text. -/
def toHex (b : Bytes) : String := String.ofList (hexChars b)

/-- The value of a hexadecimal digit of either case. -/
def hexValue? (c : Char) : Option Nat :=
  if '0' ≤ c ∧ c ≤ '9' then some (c.toNat - '0'.toNat)
  else if 'a' ≤ c ∧ c ≤ 'f' then some (c.toNat - 'a'.toNat + 10)
  else if 'A' ≤ c ∧ c ≤ 'F' then some (c.toNat - 'A'.toNat + 10)
  else none

/-- The octets written as pairs of hexadecimal digits. -/
def ofHexChars? : List Char → Option Bytes
  | [] => some []
  | [_] => none
  | h :: l :: rest => do
    let hi ← hexValue? h
    let lo ← hexValue? l
    let tail ← ofHexChars? rest
    return (16 * hi + lo).toUInt8 :: tail

/-- The octets written as pairs of hexadecimal digits, from a text. -/
def ofHex? (s : String) : Option Bytes := ofHexChars? s.toList

end Bytes
end AccountAccess
