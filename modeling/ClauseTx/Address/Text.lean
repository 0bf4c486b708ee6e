import ClauseTx.Curve.Secp256k1
import ClauseTx.Ecdsa.Signature
import ClauseTx.Error
import ClauseTx.Json.Basic

/-!
# Forms of an address

Reads addresses from text, from bytes, from JSON and from the binary form
with a length in front, and derives them from keys.  The text form is 40
hexadecimal digits of either case after an optional `0x` or `0X`.
-/

namespace ClauseTx

/-- A private key of the protocol. -/
abbrev PrivateKey := Ecdsa.PrivateKey secp256k1

namespace Address

/-! ## Text -/

/-- The text after `0x` or `0X`, or all of it. -/
def stripMark : List Char → List Char
  | '0' :: 'x' :: rest => rest
  | '0' :: 'X' :: rest => rest
  | text => text

/-- Whether a text is an address.  The digits may have any case. -/
def isValid (text : String) : Bool :=
  let digits := stripMark text.toList
  digits.length = 2 * length && digits.all Text.isHexDigit

/-- Twenty bytes as an address. -/
def ofBytes (bs : Bytes) : Except Error Address :=
  match Blob.ofBytes? bs with
  | some blob => .ok ⟨blob⟩
  | none => .error (.illegalArgument (.addressLength bs.length))

/-- Reads the text of an address. -/
def parse (text : String) : Except Error Address :=
  if isValid text then
    match Hex.decode (stripMark text.toList) with
    | .ok bs => ofBytes bs
    | .error _ => .error (.illegalArgument .addressText)
  else .error (.illegalArgument .addressText)

/-! ## Keys -/

/-- The address of a point. -/
def ofPoint (P : Point) : Address :=
  ofUncompressed (Ecdsa.uncompressed P)

/-- The address of a public key of either form. -/
def ofPublicKey (publicKey : Bytes) : Except Error Address :=
  match Ecdsa.inflate secp256k1 publicKey with
  | .ok full => .ok (ofUncompressed full)
  | .error e => .error (.ofEcdsa e)

/-- The address of a private key. -/
def ofPrivateKey (key : PrivateKey) : Address :=
  ofPoint key.publicKey

/-! ## JSON -/

/-- Why a value of JSON is no address. -/
inductive JsonError where
  /-- It is not a string. -/
  | notText (value : Json)
  /-- It is a string that is no address. -/
  | text (cause : Error)

/-- What a value of JSON is, when a string was expected. -/
def kindText : Json → String
  | .null => "null"
  | .bool b => "boolean `" ++ (if b then "true" else "false") ++ "`"
  | .number (.float x) => "floating point `" ++ Json.floatText x ++ "`"
  | .number n => "integer `" ++ n.text ++ "`"
  | .string _ => "string"
  | .array _ => "sequence"
  | .object _ => "map"

/-- The wording of a refusal. -/
def JsonError.message : JsonError → String
  | .notText value => "invalid type: " ++ kindText value ++ ", expected a string"
  | .text cause => cause.message

/-- Reads an address from JSON. -/
def ofJson : Json → Except JsonError Address
  | .string s => (parse s).mapError .text
  | value => .error (.notText value)

/-- An address in JSON. -/
def toJson (a : Address) : Json :=
  .string a.checksummed

/-! ## Binary form -/

/-- Why a byte string does not start with an address. -/
inductive BinaryError where
  /-- It ends too early. -/
  | truncated
  /-- It holds a byte string that is no address. -/
  | content (cause : Error)

/-- An address as a length in eight bytes, low byte first, and its bytes. -/
def toBinary (a : Address) : Bytes :=
  Bytes.ofNatLittle 8 a.bytes.length ++ a.bytes

/-- Reads an address at the head of a byte string. -/
def ofBinary (bs : Bytes) : Except BinaryError Address :=
  if bs.length < 8 then .error .truncated
  else
    let count := Bytes.toNatLittle (bs.take 8)
    let content := (bs.drop 8).take count
    if content.length < count then .error .truncated
    else (ofBytes content).mapError .content

/-! ## Lists of addresses -/

/-- Drops every address that equals the one before it. -/
def dropRepeats : List Address → List Address
  | a :: b :: rest => if a = b then dropRepeats (b :: rest) else a :: dropRepeats (b :: rest)
  | short => short

/-- The addresses of a list in the order of their bytes, each once. -/
def sorted (addresses : List Address) : List Address :=
  dropRepeats (addresses.mergeSort fun a b => !b.precedes a)

end Address

end ClauseTx
