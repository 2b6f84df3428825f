import RouteProbe.Text.Casing
import RouteProbe.Text.Split

/-! # Request targets

A request target is a path with an optional query, a star, a bare authority, or an absolute target
with a scheme. A fragment is dropped. Nothing is decoded or normalised, apart from the letter case
of the two web schemes and the path of an absolute target, which is a slash if it is left out.
-/

namespace RouteProbe

/-- A request target. -/
structure Uri where
  scheme : Option String
  authority : Option String
  path : String
  query : Option String
  deriving DecidableEq, Repr

namespace Uri

/-- The longest target that is accepted, in octets. -/
def maxOctets : Nat := 65534

def maxScheme : Nat := 64

def isPathChar (c : Char) : Bool :=
  let code := c.toNat
  code == 0x21 || code == 0x22 || (0x24 ≤ code && code ≤ 0x3B) || code == 0x3D ||
    (0x40 ≤ code && code ≤ 0x5F) || (0x61 ≤ code && code ≤ 0x7E) || 0x80 ≤ code

def isQueryChar (c : Char) : Bool :=
  let code := c.toNat
  code == 0x21 || (0x24 ≤ code && code ≤ 0x3B) || code == 0x3D || (0x3F ≤ code && code ≤ 0x7E) ||
    0x80 ≤ code

/-- The characters of an authority, percent signs apart. -/
def isAuthorityChar (c : Char) : Bool :=
  c.isAlphanum ||
    c ∈ ['!', '$', '&', '\'', '(', ')', '*', '+', ',', '-', '.', ':', ';', '=', '@', '[', ']', '_',
      '~']

def isSchemeChar (c : Char) : Bool := c.isAlphanum || c ∈ ['+', '-', '.', '~']

def endsAuthority (c : Char) : Bool := c == '/' || c == '?' || c == '#'

/-- What has been seen of an authority since its start, its user part or its bracketed address. -/
structure AuthorityScan where
  colons : Nat := 0
  opened : Bool := false
  closed : Bool := false
  percent : Bool := false
  /-- Whether the last character was an at sign. -/
  atSign : Bool := false

/-- Takes one more character of an authority. -/
def AuthorityScan.step (scan : AuthorityScan) (c : Char) : Option AuthorityScan :=
  let scan := { scan with atSign := false }
  match c with
  | ':' => if scan.colons ≥ 8 then none else some { scan with colons := scan.colons + 1 }
  | '[' => if scan.percent || scan.opened then none else some { scan with opened := true }
  | ']' =>
    if !scan.opened || scan.closed then none
    else some { scan with closed := true, colons := 0, percent := false }
  | '@' => some { scan with atSign := true, colons := 0, percent := false }
  | '%' => some { scan with percent := true }
  | c => if isAuthorityChar c then some scan else none

/-- Whether an authority may end here. -/
def AuthorityScan.complete (scan : AuthorityScan) : Bool :=
  scan.opened == scan.closed && scan.colons ≤ 1 && !scan.atSign && !scan.percent

def splitAuthority? (text : List Char) : Option (List Char × List Char) := do
  let authority := text.takeWhile (!endsAuthority ·)
  let scan ← authority.foldlM AuthorityScan.step {}
  if scan.complete then some (authority, text.dropWhile (!endsAuthority ·)) else none

def splitQuery? (text : List Char) : Option (String × Option String) :=
  let path := text.takeWhile fun c => c != '?' && c != '#'
  if !path.all isPathChar then none
  else match text.drop path.length with
    | '?' :: rest =>
      let query := rest.takeWhile (· != '#')
      if query.all isQueryChar then some (String.ofList path, some (String.ofList query)) else none
    | _ => some (String.ofList path, none)

/-- Splits a scheme off the front of a target that has one. An overlong scheme is no scheme, and
makes the target unusable. -/
def splitScheme? (text : List Char) : Option (Option String × List Char) :=
  let word := text.takeWhile isSchemeChar
  match text.drop word.length with
  | ':' :: '/' :: '/' :: rest =>
    let name := String.ofList word
    let lower := Text.lowercaseAscii name
    if lower = "http" ∨ lower = "https" then some (some lower, rest)
    else if text.length ≤ 3 then some (none, text)
    else if word.length > maxScheme then none
    else some (some name, rest)
  | _ => some (none, text)

/-- Reads a target. -/
def parse? (text : String) : Option Uri :=
  if text.utf8ByteSize > maxOctets then none
  else match text.toList with
    | [] => none
    | ['*'] => some ⟨none, none, "*", none⟩
    | '/' :: rest => do
      let (path, query) ← splitQuery? ('/' :: rest)
      return ⟨none, none, path, query⟩
    | target => do
      let (scheme, rest) ← splitScheme? target
      let (authority, rest) ← splitAuthority? rest
      match scheme with
      | none => if rest.isEmpty then some ⟨none, some (String.ofList authority), "", none⟩ else none
      | some name =>
        if authority.isEmpty then none
        else do
          let (path, query) ← splitQuery? rest
          return ⟨some name, some (String.ofList authority), if path = "" then "/" else path, query⟩

/-- The target as text, without a fragment. -/
def toText (uri : Uri) : String :=
  (match uri.scheme with | some scheme => scheme ++ "://" | none => "") ++ uri.authority.getD "" ++
    uri.path ++ (match uri.query with | some query => "?" ++ query | none => "")

end Uri

end RouteProbe
