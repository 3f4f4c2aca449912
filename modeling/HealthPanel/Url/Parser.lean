import HealthPanel.Url.Basic

/-!
# Reading a URL

An absolute URL is read by splitting: off go the blanks around it and the line breaks in it, then
the scheme, the fragment and the query, then the user, the host and the port, and what is left
is the path, whose dot segments are resolved.
-/

namespace HealthPanel.Url

/-! ## Splitting -/

/-- Whether a character is a control or the space. -/
def isControlOrSpace (c : Char) : Bool :=
  c.toNat ≤ 0x20

/-- Whether a character is dropped wherever it stands. -/
def isLineBreakOrTab (c : Char) : Bool :=
  c = '\t' || c = '\n' || c = '\r'

/-- The characters of a text that are read as a URL. -/
def significant (text : String) : List Char :=
  let front := text.toList.dropWhile isControlOrSpace
  (front.reverse.dropWhile isControlOrSpace).reverse.filter (!isLineBreakOrTab ·)

/-- Splits a text at the first character of the kind, which is left out; without one, all of the
text comes before it. -/
def splitAtFirst (isMark : Char → Bool) (text : List Char) : List Char × Option (List Char) :=
  match text.dropWhile (!isMark ·) with
  | [] => (text, none)
  | _ :: after => (text.takeWhile (!isMark ·), some after)

/-- Splits a text at the last character of the kind, which is left out; without one, all of the
text comes after it. -/
def splitAtLast (isMark : Char → Bool) (text : List Char) : Option (List Char) × List Char :=
  let (after, before) := splitAtFirst isMark text.reverse
  (before.map List.reverse, after.reverse)

/-- Whether a character may stand in a scheme. -/
def isSchemeChar (c : Char) : Bool :=
  c.isAlphanum || c = '+' || c = '-' || c = '.'

/-- Splits off the scheme, in lower case. -/
def splitScheme? (text : List Char) : Option (String × List Char) :=
  if text.head?.any Char.isAlpha then
    match text.dropWhile isSchemeChar with
    | ':' :: rest => some (String.ofList ((text.takeWhile isSchemeChar).map Char.toLower), rest)
    | _ => none
  else none

/-- Splits off the query and the fragment. -/
def splitQuery (text : List Char) : List Char × Option (List Char) × Option (List Char) :=
  let (text, fragment) := splitAtFirst (· = '#') text
  let (text, query) := splitAtFirst (· = '?') text
  (text, query, fragment)

/-! ## Paths -/

/-- Whether a segment means the segment it is in. -/
def isSingleDot (segment : List Char) : Bool :=
  (segment.map Char.toLower) ∈ [".".toList, "%2e".toList]

/-- Whether a segment means the one before it. -/
def isDoubleDot (segment : List Char) : Bool :=
  (segment.map Char.toLower) ∈ ["..".toList, ".%2e".toList, "%2e.".toList, "%2e%2e".toList]

/-- Whether a segment is the letter of a drive. -/
def isDriveLetter (segment : List Char) : Bool :=
  match segment with
  | [letter, mark] => letter.isAlpha && (mark = ':' || mark = '|')
  | _ => false

/-- The segments of a path so far, the last one first, without the last one. The drive of a file
stays. -/
def leave (scheme : String) (done : List String) : List String :=
  match done with
  | [drive] => if scheme = "file" ∧ isDriveLetter drive.toList then done else []
  | _ => done.tail

/-- Adds a segment to those of a path so far, the last one first. -/
def enter (scheme : String) (done : List String) (segment : List Char) : List String :=
  if isDoubleDot segment then leave scheme done
  else if isSingleDot segment then done
  else if scheme = "file" ∧ done = [] ∧ isDriveLetter segment then
    String.ofList (segment.take 1 ++ [':']) :: done
  else percentEncode .path segment :: done

/-- Resolves the dot segments of a path. The path of a dot segment at the end ends in a
slash. -/
def resolveSegments (scheme : String) : List String → List (List Char) → List String
  | done, [] => done.reverse
  | done, [last] =>
    let entered := enter scheme done last
    (if isDoubleDot last ∨ isSingleDot last then "" :: entered else entered).reverse
  | done, segment :: rest => resolveSegments scheme (enter scheme done segment) rest

/-- Whether a character separates segments. -/
def isSeparator (scheme : String) (c : Char) : Bool :=
  c = '/' || (isSpecialScheme scheme && c = '\\')

/-- Splits a text at every character of the kind. -/
def splitAtEvery (isMark : Char → Bool) (text : List Char) : List (List Char) :=
  text.splitOnP isMark

/-- The segments of a path after its first slash. -/
def segmentsOf (scheme : String) (text : List Char) : List String :=
  resolveSegments scheme [] (splitAtEvery (isSeparator scheme) text)

/-- The path after a host. A special URL has at least one segment. -/
def pathAfterHost (scheme : String) (text : List Char) : Path :=
  match text with
  | [] => .segments (if isSpecialScheme scheme then [""] else [])
  | c :: rest => .segments (segmentsOf scheme (if isSeparator scheme c then rest else c :: rest))

/-! ## Authorities -/

/-- User name and password. A password of no characters is none. -/
def readCredentials (text : Option (List Char)) : String × Option String :=
  match splitAtFirst (· = ':') (text.getD []) with
  | (username, password) =>
    (percentEncode .userinfo username,
      (password.filter (· ≠ [])).map (percentEncode .userinfo))

/-- Splits off the port, at the first colon outside brackets. -/
def splitPort : Bool → List Char → List Char × Option (List Char)
  | _, [] => ([], none)
  | inBrackets, c :: rest =>
    if c = ':' ∧ inBrackets = false then ([], some rest)
    else
      let (host, port) :=
        splitPort (if c = '[' then true else if c = ']' then false else inBrackets) rest
      (c :: host, port)

/-- Reads the digits of a port; the characters after them. -/
def readPort (text : List Char) : Except Fault (Option Nat × List Char) :=
  let digits := text.takeWhile Char.isDigit
  let rest := text.dropWhile Char.isDigit
  let n := digits.foldl (fun n c => n * 10 + (c.toNat - 0x30)) 0
  if 65535 < n ∨ ¬ (rest.head?.all (· = '\\')) then .error .invalidPort
  else .ok (if digits = [] then none else some n, rest)

/-- The host of an authority. -/
def readHost (special : Bool) (text : List Char) : Except Fault Host :=
  if special then if text = [] then .error .emptyHost else Host.ofDomain text
  else Host.ofOpaque text

/-- Reads a URL after the slashes in front of its authority. -/
def readAuthority (scheme : String) (text : List Char) (query fragment : Option (List Char)) :
    Except Fault Url := do
  let special := isSpecialScheme scheme
  let authority := text.takeWhile (!isSeparator scheme ·)
  let path := text.dropWhile (!isSeparator scheme ·)
  let (credentials, hostAndPort) := splitAtLast (· = '@') authority
  let (username, password) := readCredentials credentials
  let (hostText, portText) := splitPort false hostAndPort
  let followed := path ≠ [] ∨ query.isSome ∨ fragment.isSome
  if credentials = some [] ∧ hostAndPort = [] ∧ followed then throw .emptyHost
  let host ← readHost special hostText
  if !host.isPresent && (portText.isSome || username ≠ "" || password.isSome) then
    throw .emptyHost
  let (port, unread) ← readPort (portText.getD [])
  return {
    scheme := scheme
    username := username
    password := password
    host := some host
    port := port.filter fun n => defaultPort? scheme ≠ some n
    path := pathAfterHost scheme (unread ++ path)
    query := query.map (percentEncode (if special then .specialQuery else .query))
    fragment := fragment.map (percentEncode .fragment) }

/-! ## Files -/

/-- The segments of a file's path, slashes in front counting once. -/
def fileSegments (text : List Char) : List String :=
  match (segmentsOf "file" (text.dropWhile (isSeparator "file"))).dropWhile (· = "") with
  | [] => [""]
  | names => names

/-- Whether a path starts with the letter of a drive. -/
def startsWithDrive (names : List String) : Bool :=
  names.head?.any fun name => isDriveLetter name.toList

/-- Reads the host of a file. None stands for this machine. -/
def readFileHost (text : List Char) : Except Fault (Option Host) :=
  if text = [] then .ok none
  else (Host.ofDomain text).map fun host => if host = .name "localhost" then none else some host

/-- Splits the host of a file from its path. A drive is no host. -/
def splitFileHost (text : List Char) : List Char × List Char :=
  match text with
  | a :: b :: rest =>
    if isSeparator "file" a && isSeparator "file" b then
      let host := rest.takeWhile (!isSeparator "file" ·)
      if isDriveLetter host then ([], rest) else (host, rest.dropWhile (!isSeparator "file" ·))
    else ([], text)
  | _ => ([], text)

/-- Reads the URL of a file after its scheme. -/
def readFile (text : List Char) (query fragment : Option (List Char)) : Except Fault Url := do
  let (hostText, path) := splitFileHost text
  let host ← readFileHost hostText
  let names := fileSegments path
  return {
    scheme := "file"
    username := ""
    password := none
    host := if startsWithDrive names then none else host
    port := none
    path := .segments names
    query := query.map (percentEncode .specialQuery)
    fragment := fragment.map (percentEncode .fragment) }

/-! ## Whole URLs -/

/-- A URL without a host. -/
def withoutHost (scheme : String) (path : Path) (query fragment : Option (List Char)) : Url :=
  { scheme := scheme, username := "", password := none, host := none, port := none, path := path
    query := query.map (percentEncode .query)
    fragment := fragment.map (percentEncode .fragment) }

/-- Reads a URL after its scheme. -/
def readAfterScheme (scheme : String) (text : List Char) : Except Fault Url :=
  let (body, query, fragment) := splitQuery text
  if scheme = "file" then readFile body query fragment
  else if isSpecialScheme scheme then
    readAuthority scheme (body.dropWhile (isSeparator scheme)) query fragment
  else
    match body with
    | '/' :: '/' :: rest => readAuthority scheme rest query fragment
    | '/' :: rest => .ok (withoutHost scheme (.segments (segmentsOf scheme rest)) query fragment)
    | rest => .ok (withoutHost scheme (.whole (percentEncode .controls rest)) query fragment)

/-- The absolute URL that a text writes. -/
def ofString (text : String) : Except Fault Url :=
  match splitScheme? (significant text) with
  | some (scheme, rest) => readAfterScheme scheme rest
  | none => .error .noScheme

end HealthPanel.Url
