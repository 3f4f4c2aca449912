import HealthPanel.Url.Parser

/-!
# References relative to a URL

A reference is read against the URL of the document that holds it, here one of the web: it may be
absolute, or leave out the scheme, the authority, the path or the query, which then are those
of the URL it is read against.
-/

namespace HealthPanel.Url

/-- The segments of a path, none if it is no list of segments. -/
def Path.names : Path → List String
  | whole _ => []
  | segments names => names

/-- The URL with another path, query and fragment. -/
def withTail (base : Url) (names : List String) (query fragment : Option (List Char)) : Url :=
  { base with
    path := .segments names
    query := query.map (percentEncode .specialQuery)
    fragment := fragment.map (percentEncode .fragment) }

/-- Reads a reference without a scheme against a URL. -/
def joinRelative (base : Url) (text : List Char) : Except Fault Url :=
  let (body, query, fragment) := splitQuery text
  let slashes := (body.takeWhile (isSeparator base.scheme)).length
  if 2 ≤ slashes then readAuthority base.scheme (body.drop slashes) query fragment
  else if slashes = 1 then .ok (base.withTail (segmentsOf base.scheme (body.drop 1)) query fragment)
  else if body ≠ [] then
    let parent := base.path.names.reverse.drop 1
    let names := resolveSegments base.scheme parent (splitAtEvery (isSeparator base.scheme) body)
    .ok (base.withTail names query fragment)
  else if query.isSome then .ok (base.withTail base.path.names query fragment)
  else .ok { base with fragment := fragment.map (percentEncode .fragment) }

/-- Reads a reference against a URL of the web. A scheme that is the URL's own may be left
without an authority after it. -/
def join (base : Url) (text : String) : Except Fault Url :=
  let text := significant text
  match splitScheme? text with
  | none => joinRelative base text
  | some (scheme, rest) =>
    let slashes := (rest.takeWhile (isSeparator scheme)).length
    if scheme = base.scheme ∧ slashes < 2 then joinRelative base rest
    else readAfterScheme scheme rest

end HealthPanel.Url
