import HealthPanel.Log.Level
import HealthPanel.Text.Alphanumeric
import HealthPanel.Text.Blank

/-!
# Log filters

A filter is written as directives with commas between them. A directive has a target, or a scope
in brackets with at most one of its fields in braces, or both, and a limit after an equals sign.
What it leaves out matches everything, and no limit is the widest. A value of the field is a
pattern; how patterns are read is left open. Of the directives on lines the most specific one
decides; a line in a scope also passes when a directive on the scope lets it.
-/

namespace HealthPanel.Log

/-- Where something is logged from, and the names of the fields it has. -/
structure Site where
  target : String
  fields : List String
  deriving DecidableEq

/-- An activity that lines are logged in, and its fields with their values. -/
structure Scope where
  name : String
  level : Level
  target : String
  fields : List (String × String)
  deriving DecidableEq

/-- Where a scope is opened. -/
def Scope.site (scope : Scope) : Site :=
  ⟨scope.target, scope.fields.map (·.1)⟩

/-- Why a text is no pattern, in words: what went wrong, and then why. -/
structure PatternFault where
  message : String
  causes : List String
  deriving DecidableEq

/-- How the text of a pattern is read: which texts match it, if it is one. -/
abbrev Patterns := String → Except PatternFault (String → Bool)

/-- Whether the parentheses of a pattern, of which some are open already, are closed in order. -/
def Patterns.areClosed : Nat → List Char → Bool
  | depth, [] => depth = 0
  | depth, '\\' :: rest =>
    match rest with
    | [] => false
    | _ :: rest => areClosed depth rest
  | depth, '(' :: rest => areClosed (depth + 1) rest
  | depth, ')' :: rest => depth ≠ 0 && areClosed (depth - 1) rest
  | depth, _ :: rest => areClosed depth rest

/-- Patterns that only match themselves. -/
def Patterns.plain : Patterns := fun text =>
  if areClosed 0 text.toList then .ok (· = text) else .error ⟨"regex parse error", []⟩

/-- A field that a directive asks for, and which values it asks of it, if it asks for any. -/
structure FieldTest where
  name : String
  accepts? : Option (String → Bool)

/-- A directive of a filter. -/
structure Directive where
  target : Option String
  scope : Option String
  field : Option FieldTest
  limit : Limit

/-- Why a text is no filter. -/
inductive FilterFault
  | badDirective (text : String)
  | badLimit (text : String)
  | badValue (fault : PatternFault)
  deriving DecidableEq

namespace FilterFault

/-- What is said where a limit is expected and there is none. -/
def expectedLimit : String :=
  "error parsing level filter: expected one of \"off\", \"error\", \"warn\", \"info\", \"debug\", "
    ++ "\"trace\", or a number 0-5"

/-- What went wrong, and then why, each in words. -/
def causes : FilterFault → List String
  | badDirective _ => ["invalid filter directive"]
  | badLimit _ => [expectedLimit, expectedLimit]
  | badValue fault => ("invalid field filter: " ++ fault.message) :: fault.message :: fault.causes

end FilterFault

namespace Directive

/-! ## Reading a directive -/

/-- Whether a directive can begin with a character. -/
def isFirst (c : Char) : Bool :=
  c = '[' || c = '-' || c = ':' || c = '_' || Text.isAlphanumeric c

/-- The limit that a text after an equals sign names. No name is found in a directive that
begins with blanks. -/
def readLimit (indented : Bool) (text : List Char) : Except FilterFault Limit :=
  match indented, text with
  | false, [] => .ok (.upTo .trace)
  | false, text =>
    match Limit.ofName? (String.ofList text) with
    | some limit => .ok limit
    | none => .error (.badLimit (String.ofList text))
  | true, text => .error (.badLimit (String.ofList text))

/-- The limit after a scope, which may be left out. -/
def readEnding (indented : Bool) : List Char → Except FilterFault Limit
  | '=' :: text => readLimit indented text
  | text =>
    if text.all Text.isBlank then .ok (.upTo .trace)
    else .error (.badDirective (String.ofList text))

/-- What follows the sign of a number. -/
def dropSign : List Char → List Char
  | '+' :: rest => rest
  | '-' :: rest => rest
  | text => text

/-- Whether a text ends a number: in an exponent or at once. -/
def isExponent : List Char → Bool
  | [] => true
  | 'e' :: exponent => dropSign exponent ≠ [] && (dropSign exponent).all Char.isDigit
  | _ => false

/-- Whether a text writes a number. Infinity is one, and so is what is no number. -/
def isNumber (text : List Char) : Bool :=
  let text := (dropSign text).map Char.toLower
  let whole := text.takeWhile Char.isDigit
  let rest := text.drop whole.length
  let fraction := if rest.head? = some '.' then rest.tail.takeWhile Char.isDigit else []
  let rest := if rest.head? = some '.' then rest.tail.drop fraction.length else rest
  ["inf".toList, "infinity".toList, "nan".toList].contains text
    || whole ++ fraction ≠ [] && isExponent rest

/-- The values that a text asks for. No field has a number or a truth value. -/
def readValue (patterns : Patterns) (text : List Char) : Except FilterFault (String → Bool) :=
  if text = "true".toList ∨ text = "false".toList ∨ isNumber text then .ok fun _ => false
  else (patterns (String.ofList text)).mapError .badValue

/-- The field that a text asks for. -/
def readField (patterns : Patterns) (text : List Char) : Except FilterFault FieldTest :=
  match text.splitOn '=' with
  | name :: value :: _ => do
    return ⟨String.ofList name, some (← readValue patterns value)⟩
  | _ => .ok ⟨String.ofList text, none⟩

/-- The directive that goes on after an opening bracket. -/
def ofScope (patterns : Patterns) (indented : Bool) (target : Option String)
    (text : List Char) : Except FilterFault Directive := do
  let fault : FilterFault := .badDirective (String.ofList text)
  let name := text.takeWhile fun c => c ≠ ']' ∧ c ≠ '\x7b'
  match text.drop name.length with
  | [] => .error fault
  | ']' :: rest => return ⟨target, some (String.ofList name), none, ← readEnding indented rest⟩
  | _ :: rest =>
    let field := rest.takeWhile (· ≠ '\x7d')
    match rest.drop field.length with
    | [] => .error fault
    | _ :: rest =>
      if field = [] then .error fault
      else
        let scope := if name = [] then none else some (String.ofList name)
        let test ← readField patterns field
        match rest with
        | ']' :: rest => return ⟨target, scope, some test, ← readEnding indented rest⟩
        | _ => .error fault

/-- The directive that a text without commas writes. A text that only names a limit is a
directive on everything, any other text without signs is a target. -/
def ofText (patterns : Patterns) (text : String) : Except FilterFault Directive :=
  let letters := text.toList.dropWhile Text.isBlank
  let indented := letters.length != text.toList.length
  if letters.head?.any isFirst then
    let target := letters.takeWhile fun c => c ≠ '=' ∧ c ≠ '['
    match letters.drop target.length with
    | [] =>
      match Limit.ofName? text with
      | some limit => .ok ⟨none, none, none, limit⟩
      | none => .ok ⟨some text, none, none, .upTo .trace⟩
    | '=' :: rest =>
      (readLimit indented rest).map fun limit => ⟨some (String.ofList target), none, none, limit⟩
    | _ :: rest =>
      ofScope patterns indented (if target = [] then none else some (String.ofList target)) rest
  else .error (.badDirective text)

/-! ## What a directive is about -/

/-- Whether the target of a directive is the beginning of another. -/
def matchesTarget (directive : Directive) (site : Site) : Bool :=
  directive.target.all fun target => target.toList.isPrefixOf site.target.toList

/-- Whether a site has the field that a directive asks for. -/
def matchesField (directive : Directive) (site : Site) : Bool :=
  directive.field.all (·.name ∈ site.fields)

/-- Whether a directive asks for no value. -/
def isValueless (directive : Directive) : Bool :=
  directive.field.all (·.accepts?.isNone)

/-- Whether a field of a scope has a value that a directive asks for. -/
def matchesValue (directive : Directive) (scope : Scope) : Bool :=
  directive.field.all fun test => test.accepts?.all fun accepts =>
    scope.fields.any fun field => field.1 = test.name && accepts field.2

/-- Whether a directive is about scopes. -/
def isOnScopes (directive : Directive) : Bool :=
  directive.scope.isSome || directive.field.isSome

/-- Whether a directive is about a scope, whatever the values of its fields. -/
def concernsScope (directive : Directive) (scope : Scope) : Bool :=
  directive.isOnScopes && directive.scope.all (· = scope.name)
    && directive.matchesTarget scope.site && directive.matchesField scope.site

/-- Whether a directive is about a scope and the lines in it. -/
def coversScope (directive : Directive) (scope : Scope) : Bool :=
  directive.concernsScope scope && directive.matchesValue scope

/-- Whether a directive is about a site, whatever scope it is in. -/
def coversSite (directive : Directive) (site : Site) : Bool :=
  directive.scope.isNone && directive.isValueless && directive.matchesTarget site

/-- How specific a directive is: the longer target first, and then whether it has a field. -/
def weight (directive : Directive) : Nat :=
  2 * directive.target.elim 0 (·.utf8ByteSize + 1) + directive.field.elim 0 fun _ => 1

/-- Whether a directive comes before an earlier one. Of two that are equally specific, the names
of their fields decide, and if they have the same name the later one comes first. -/
def precedes (directive earlier : Directive) : Bool :=
  earlier.weight < directive.weight ||
    earlier.weight = directive.weight &&
      earlier.field.elim "" FieldTest.name ≤ directive.field.elim "" FieldTest.name

end Directive

/-- A filter: its directives in order. -/
structure Filter where
  directives : List Directive

namespace Filter

/-- The filter that only errors pass. -/
def errorsOnly : Filter := ⟨[⟨none, none, none, .upTo .error⟩]⟩

/-- The filter that a text writes. Without a directive, only errors pass. -/
def ofText (patterns : Patterns) (text : String) : Except FilterFault Filter := do
  let directives ← ((text.splitOn ",").filter (· ≠ "")).mapM (Directive.ofText patterns)
  return if directives.isEmpty then errorsOnly else ⟨directives⟩

/-- The most specific of some directives. -/
def mostSpecific? (directives : List Directive) : Option Directive :=
  directives.foldl (fun best directive =>
    if best.all directive.precedes then some directive else best) none

/-- Whether the most specific of some directives lets a level pass. -/
def decides (directives : List Directive) (level : Level) : Bool :=
  (mostSpecific? directives).any (·.limit.allows level)

/-- Whether anything of a level is looked at: a limit allows it, or a directive asks for a value,
which a scope may come to have. -/
def reaches (filter : Filter) (level : Level) : Bool :=
  filter.directives.any fun directive => directive.limit.allows level || !directive.isValueless

/-- Whether lines are shown with the scope that they are logged in: a directive is about the scope,
or the directives on its site let it pass. -/
def opens (filter : Filter) (scope : Scope) : Bool :=
  (filter.directives.any (·.concernsScope scope) && filter.reaches scope.level)
    || decides (filter.directives.filter (·.coversSite scope.site)) scope.level

/-- Whether a line of a level passes, which is logged in a scope or in none. -/
def passes (filter : Filter) (level : Level) (site : Site) (scope : Option Scope) : Bool :=
  (scope.any fun scope => filter.opens scope
      && filter.directives.any fun directive => directive.coversScope scope
        && directive.limit.allows level)
    || decides (filter.directives.filter fun directive =>
        directive.coversSite site && directive.matchesField site) level

end Filter

/-- How a text is read as a filter. -/
abbrev Filters := String → Except FilterFault Filter

end HealthPanel.Log
