import Automation.Web.Address

/-!
# Percent encoding

A byte is written as a percent sign and two hexadecimal digits. What is encoded depends on the
place in a URL; a byte that is not ASCII is encoded everywhere.
-/

namespace Automation.Web.Percent

/-- Writes a byte. -/
def writeByte (b : UInt8) : List Char :=
  let digit (n : Nat) : Char := (Nat.digitChar n).toUpper
  ['%', digit (b.toNat / 16), digit (b.toNat % 16)]

/-- Encodes a character that is in a set or not ASCII. -/
def encodeChar (set : Char → Bool) (c : Char) : List Char :=
  if c.toNat < 0x80 ∧ set c = false then [c]
  else (String.singleton c).toUTF8.toList.flatMap writeByte

/-- Encodes the characters of a set. -/
def encode (set : Char → Bool) (text : List Char) : String :=
  String.ofList (text.flatMap (encodeChar set))

/-- Reads encoded bytes. A percent sign without two digits stays. -/
def decode : List Char → List UInt8
  | [] => []
  | '%' :: a :: b :: rest =>
    match digitValue? 16 a, digitValue? 16 b with
    | some x, some y => UInt8.ofNat (16 * x + y) :: decode rest
    | _, _ => 0x25 :: decode (a :: b :: rest)
  | c :: rest => (String.singleton c).toUTF8.toList ++ decode rest

/-- The text that bytes encode, if they encode one. -/
def text? (bytes : List UInt8) : Option String :=
  String.fromUTF8? ⟨bytes.toArray⟩

/-- Control characters. -/
def controls (c : Char) : Bool := decide (c.toNat < 0x20) || c.toNat == 0x7F

/-- What a fragment encodes. -/
def fragment (c : Char) : Bool := controls c || " \"<>`".toList.contains c

/-- What a path encodes. -/
def path (c : Char) : Bool := fragment c || "#?\x7b\x7d".toList.contains c

/-- What user information encodes. -/
def userinfo (c : Char) : Bool := path c || "/:;=@[\\]^|".toList.contains c

/-- What a query encodes. -/
def query (c : Char) : Bool := controls c || " \"#<>".toList.contains c

/-- What the query of a special scheme encodes. -/
def specialQuery (c : Char) : Bool := query c || c == '\''

end Automation.Web.Percent
