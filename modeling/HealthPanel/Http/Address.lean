import HealthPanel.Url.Basic

/-!
# Addresses

A URL is read once more as the address of a request, by rules of their own. What stands between the
marks of its scheme and its path has to be an authority: a user, a host and a port. Of a URL without
a host the whole has to look like one.
-/

namespace HealthPanel.Http

/-- What has been seen of an authority. The colons and percent signs in a user or in brackets do not
count any more. -/
structure Authority where
  colons : Nat := 0
  hasPercent : Bool := false
  isOpened : Bool := false
  isClosed : Bool := false

namespace Authority

/-- How many colons may stand in a part of an authority. -/
def maxColons : Nat := 8

/-- Whether a character without a meaning of its own may stand in an authority. -/
def isPlain (c : Char) : Bool :=
  c.isAlphanum || "!$&'()*+,-.;=_~".toList.contains c

/-- Goes on with a character, if it may stand there. -/
def push (seen : Authority) (c : Char) : Option Authority :=
  match c with
  | ':' => if seen.colons < maxColons then some { seen with colons := seen.colons + 1 } else none
  | '[' => if seen.hasPercent || seen.isOpened then none else some { seen with isOpened := true }
  | ']' =>
    if seen.isOpened && !seen.isClosed then
      some { seen with colons := 0, hasPercent := false, isClosed := true }
    else none
  | '@' => some { seen with colons := 0, hasPercent := false }
  | '%' => some { seen with hasPercent := true }
  | c => if isPlain c then some seen else none

/-- Whether an authority may end here: brackets are closed, there is one port at most, and no
percent sign outside of a user. -/
def mayEnd (seen : Authority) : Bool :=
  seen.isOpened = seen.isClosed && seen.colons ≤ 1 && !seen.hasPercent

/-- Whether characters are an authority. There has to be something behind a user. -/
def holds (text : List Char) : Bool :=
  text.getLast?.any (· ≠ '@') && (text.foldlM push {}).any mayEnd

end Authority

/-- The longest URL that is an address. -/
def maxAddress : Nat := 65534

/-- The longest scheme of an address with an authority. -/
def maxScheme : Nat := 64

/-- Whether a URL can stand as the address of a request. -/
def isAddress (url : Url) : Bool :=
  url.render.utf8ByteSize ≤ maxAddress &&
    match url.host with
    | some _ => url.scheme.length ≤ maxScheme && Authority.holds (url.authorityText.toList.drop 2)
    | none => Authority.holds url.render.toList

end HealthPanel.Http
