import RaceAlbum.Failure
import RaceAlbum.Storage.Bucket
import RaceAlbum.Text.LowerCase
import RaceAlbum.Text.Numeral

/-!
# The service behind a bucket

A bucket is reached at the endpoint of a service, in a region and with a pair of keys. Where one of them is given, it
has to be of use: the region is a label of a host, both keys are given or neither, and the endpoint is an address that
names a host.
-/

namespace RaceAlbum

/-! ## Hosts -/

/-- The most characters of a label of a host. -/
def hostLabelMax : Nat := 63

/-- The most characters of a host. -/
def hostMax : Nat := 255

/-- Whether a label neither begins nor ends with a hyphen. -/
def isBetweenHyphens (cs : List Char) : Bool := cs.head? != some '-' && cs.getLast? != some '-'

/-- Whether a text is a label of a host: letters, digits and hyphens inside. -/
def isHostLabel (cs : List Char) : Bool :=
  !cs.isEmpty && cs.length ≤ hostLabelMax && isBetweenHyphens cs &&
    cs.all fun c => c.isAlpha || isDigit (plainDigit c) || c == '-'

/-- Whether a text is the name of a host: labels with points between them, and perhaps one after them. -/
def isHost (cs : List Char) : Bool :=
  let named := if cs.getLast? = some '.' then cs.dropLast else cs
  cs.length ≤ hostMax && (named.splitOn '.').all isHostLabel

/-- Whether a text is a group of an address of the sixth version: up to four hexadecimal digits. -/
def isAddressGroup (cs : List Char) : Bool :=
  !cs.isEmpty && cs.length ≤ 4 && cs.all fun c => (Uuid.hexValue? c).isSome

/-- The groups of one half of an address of the sixth version, if it is none but groups. -/
def addressGroups? (cs : List Char) : Option Nat :=
  if cs.isEmpty then some 0
  else
    let groups := cs.splitOn ':'
    if groups.all isAddressGroup then some groups.length else none

/-- The halves of a text before and after the first two colons in a row. -/
def splitAtGap : List Char → Option (List Char × List Char)
  | ':' :: ':' :: rest => some ([], rest)
  | c :: rest => (splitAtGap rest).map fun (front, back) => (c :: front, back)
  | [] => none

/-- Whether a text is an address of the sixth version: eight groups, or fewer around one gap. -/
def isBracketedAddress (cs : List Char) : Bool :=
  match splitAtGap cs with
  | none => addressGroups? cs == some 8
  | some (front, back) =>
    match addressGroups? front, addressGroups? back with
    | some m, some n => m + n < 8
    | _, _ => false

/-! ## Endpoints -/

/-- Characters that are dropped in front of an address. -/
def isControlOrSpace (c : Char) : Bool := c.toNat ≤ 0x20

/-- A character of the scheme of an address. -/
def isSchemeChar (c : Char) : Bool := c.isAlphanum || c == '+' || c == '-' || c == '.'

/-- An address without its scheme. -/
def withoutScheme (cs : List Char) : List Char :=
  match cs.span (· != ':') with
  | (scheme, _ :: rest) => if scheme.head?.any Char.isAlpha && scheme.all isSchemeChar then rest else cs
  | _ => cs

/-- What an address says about a host, between its two slashes and the path. -/
def hostPart? (cs : List Char) : Option (List Char) :=
  match withoutScheme (cs.dropWhile isControlOrSpace) with
  | '/' :: '/' :: rest =>
    let part := rest.takeWhile fun c => c != '/' && c != '?' && c != '#'
    some (part.reverse.takeWhile (· != '@')).reverse
  | _ => none

/-- Whether an address names a host: its name, or its number between brackets. -/
def isEndpoint (address : String) : Bool :=
  let cs := address.toList
  if cs.any fun c => c == '\t' || c == '\r' || c == '\n' then false
  else match hostPart? cs with
    | none => false
    | some part =>
      match part.span (· != '[') with
      | (_, _ :: inside) => isBracketedAddress (inside.takeWhile (· != ']'))
      | _ => isHost (part.takeWhile (· != ':'))

/-! ## Regions and keys -/

/-- Whether a text is a region: at most a label of a host, and no number. A line end after it does not count. -/
def isRegion (region : String) : Bool :=
  let cs := region.toList
  let cs := if cs.getLast? = some '\n' then cs.dropLast else cs
  cs.length ≤ hostLabelMax && isBetweenHyphens cs && (cs.isEmpty || !cs.all isDigit) &&
    cs.all fun c => c.isAlphanum || c == '-'

/-- The name of the key that lacks beside the other, if one does. -/
def missingKey? (accessKey secretKey : String) : Option String :=
  if accessKey ≠ "" ∧ secretKey = "" then some "aws_secret_access_key"
  else if accessKey = "" ∧ secretKey ≠ "" then some "aws_access_key_id"
  else none

/-- A bucket with nothing in it, if the service behind it can be reached with what is given. -/
def BucketStore.connect (s : BucketSettings) (accessKey secretKey : String) : Except Failure BucketStore :=
  if s.region ≠ "" ∧ !isRegion s.region then .error (.unusableRegion s.region)
  else match missingKey? accessKey secretKey with
    | some name => .error (.missingKey name)
    | none =>
      if s.endpointUrl ≠ "" ∧ !isEndpoint s.endpointUrl then .error (.unusableEndpoint s.endpointUrl)
      else .ok ⟨s, [], [], []⟩

end RaceAlbum
