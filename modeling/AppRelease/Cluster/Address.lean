import AppRelease.Text.Utf8

/-!
# Addresses

Program: `Address.read` takes an address apart into a scheme, an authority and a path with a query,
or says what is wrong with it. A path alone is an address as well, and so is an authority alone.
Everything is looked at byte by byte; bytes outside ASCII may stand in a path and a query only.
-/

namespace AppRelease.Cluster

/-- Why a text is no address. -/
inductive AddressFault where
  | empty
  | tooLong
  | schemeTooLong
  | wrongByte
  | wrongAuthority
  | wrongFormat
  deriving DecidableEq, Repr

/-- The wording of that. -/
def AddressFault.message : AddressFault → String
  | .empty => "empty string"
  | .tooLong => "uri too long"
  | .schemeTooLong => "scheme too long"
  | .wrongByte => "invalid uri character"
  | .wrongAuthority => "invalid authority"
  | .wrongFormat => "invalid format"

/-- An address. Parts that are not there are empty. -/
structure Address where
  scheme : String
  authority : String
  path : String
  query : Option String
  deriving DecidableEq, Repr

namespace Address

/-- How many bytes an address may have. -/
def lengthLimit : Nat := 65534

/-- How many bytes a scheme may have. -/
def schemeLimit : Nat := 64

/-- Letters and digits. -/
def isWordByte (b : UInt8) : Bool :=
  (48 ≤ b && b ≤ 57) || (65 ≤ b && b ≤ 90) || (97 ≤ b && b ≤ 122)

/-- The bytes of some characters of ASCII. -/
def isOneOf (chars : String) (b : UInt8) : Bool := b < 128 && Char.ofNat b.toNat ∈ chars.toList

/-- What may stand in a path. -/
def inPath (b : UInt8) : Bool :=
  b == 0x21 || (0x24 ≤ b && b ≤ 0x3B) || b == 0x3D || (0x40 ≤ b && b ≤ 0x5F) ||
    (0x61 ≤ b && b ≤ 0x7E)
    || b == 0x22 || 0x80 ≤ b

/-- What may stand in a query. -/
def inQuery (b : UInt8) : Bool :=
  b == 0x21 || (0x24 ≤ b && b ≤ 0x3B) || b == 0x3D || (0x3F ≤ b && b ≤ 0x7E) || 0x80 ≤ b

/-- A number sign ends what counts. -/
def hash : UInt8 := 35

/-- Text of bytes that were cut from a text at characters of ASCII. -/
def textOf (bytes : List UInt8) : String := Text.lossy bytes

/-- A path with a query. -/
def readPath (bytes : List UInt8) : Except AddressFault (String × Option String) :=
  let counted := bytes.takeWhile (· != hash)
  let path := counted.takeWhile (· != 63)
  if !path.all inPath then .error .wrongByte
  else match counted.drop path.length with
    | [] => .ok (textOf path, none)
    | _ :: query =>
      if query.all inQuery then .ok (textOf path, some (textOf query)) else .error .wrongByte

/-- What has been seen of an authority. -/
structure Seen where
  colons : Nat := 0
  opened : Bool := false
  closed : Bool := false
  percent : Bool := false
  endsInAt : Bool := false

/-- Looks at a byte of an authority. An at sign makes a user of what is before it, and brackets a
number of what is in them, so that colons and percent signs there do not count. -/
def Seen.byte (seen : Seen) (b : UInt8) : Except AddressFault Seen :=
  let seen := { seen with endsInAt := false }
  if b == 58 then
    if 8 ≤ seen.colons then .error .wrongAuthority else .ok { seen with colons := seen.colons + 1 }
  else if b == 91 then
    if seen.percent || seen.opened then .error .wrongAuthority else .ok { seen with opened := true }
  else if b == 93 then
    if !seen.opened || seen.closed then .error .wrongAuthority
    else .ok { seen with closed := true, colons := 0, percent := false }
  else if b == 64 then .ok { seen with colons := 0, percent := false, endsInAt := true }
  else if b == 37 then .ok { seen with percent := true }
  else if isWordByte b || isOneOf "!$&'()*+,-.;=_~" b then .ok seen
  else .error .wrongByte

/-- The bytes up to the end of an authority, when they are one. -/
def readAuthority (bytes : List UInt8) : Except AddressFault (List UInt8) := do
  let authority := bytes.takeWhile fun b => !isOneOf "/?#" b
  let seen ← authority.foldlM Seen.byte {}
  if seen.opened != seen.closed || 1 < seen.colons || seen.endsInAt || seen.percent then
    throw .wrongAuthority
  return authority

/-- The number of bytes of a scheme with a colon and two slashes after it, when there is one. Those
of the web may be in capital letters. -/
def schemeLength? (bytes : List UInt8) : Except AddressFault (Option Nat) :=
  let scheme := bytes.takeWhile fun b => isWordByte b || isOneOf "+-.~" b
  if bytes.length ≤ 3 || (bytes.drop scheme.length).take 3 != Text.bytesOf "://" then .ok none
  else if schemeLimit < scheme.length then .error .schemeTooLong
  else .ok (some scheme.length)

/-- The schemes of the web are written in small letters. -/
def schemeText (bytes : List UInt8) : String :=
  let small := String.ofList ((textOf bytes).toList.map Char.toLower)
  if small = "http" || small = "https" then small else textOf bytes

/-- Reads an address. -/
def read (text : String) : Except AddressFault Address := do
  let bytes := Text.bytesOf text
  if lengthLimit < bytes.length then throw .tooLong
  if bytes.isEmpty then throw .empty
  if text = "*" then return ⟨"", "", "*", none⟩
  if bytes.head? == some 47 then
    let (path, query) ← readPath bytes
    return ⟨"", "", path, query⟩
  match ← schemeLength? bytes with
  | none =>
    let authority ← readAuthority bytes
    if authority.length ≠ bytes.length then
      throw (if bytes.length = 1 then .wrongByte else .wrongFormat)
    return ⟨"", textOf authority, "", none⟩
  | some length =>
    let rest := bytes.drop (length + 3)
    let authority ← readAuthority rest
    if authority.isEmpty then throw .wrongFormat
    let (path, query) ← readPath (rest.drop authority.length)
    return ⟨schemeText (bytes.take length), textOf authority, path, query⟩

/-- An address as a text. After an authority an empty path is a slash. -/
def text (a : Address) : String :=
  let path := if a.path.isEmpty && !a.scheme.isEmpty then "/" else a.path
  (if a.scheme.isEmpty then "" else a.scheme ++ "://") ++ a.authority ++ path
    ++ match a.query with
      | some query => "?" ++ query
      | none => ""

/-- Whether an address says by itself where it leads. -/
def isAbsolute (a : Address) : Bool := !a.scheme.isEmpty && !a.authority.isEmpty

end Address

end AppRelease.Cluster
