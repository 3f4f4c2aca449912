import HealthPanel.Json.Reader

/-!
# Skipping a value

A value that nobody asked for is only checked for where it ends. It may nest to any depth, its
numbers to any size, and its texts need not be UTF-8.
-/

namespace HealthPanel.Json

/-- Skips the contents of a text and its closing quote. The first list bounds how many bytes and
escapes are skipped; the bytes themselves are always enough. -/
def skipContents : List UInt8 → Reader Unit
  | [], _ => .error (.here .endOfText [])
  | _ :: _, [] => .error (.here .endOfText [])
  | _ :: bound, b :: s =>
    if b = 0x22 then .ok ((), s)
    else if b = 0x5C then
      match s with
      | [] => .error (.here .endOfText [])
      | 0x75 :: s =>
        match readHex s with
        | .error fault => .error fault
        | .ok (_, s) => skipContents bound s
      | letter :: s =>
        if (shortEscape? letter).isSome then skipContents bound s
        else .error (.here .invalidEscape s)
    else if b < 0x20 then .error (.here .controlCharacter (b :: s))
    else skipContents bound s

/-- Skips a text after its opening quote. -/
def skipText : Reader Unit := fun s =>
  skipContents s s

/-- Skips things with commas between them, from the first one to the closing byte. The bytes are
always enough to bound how many things are skipped. -/
def skipItems (item : Reader Unit) (close : UInt8) (ended separatorDue : Cause) :
    List UInt8 → Reader Unit
  | [], s => .error (.here ended s)
  | _ :: bound, s =>
    match item s with
    | .error fault => .error fault
    | .ok (_, s) =>
      match peek ended s with
      | .error fault => .error fault
      | .ok (b, s) =>
        if b = close then .ok ((), s)
        else if b = 0x2C then skipItems item close ended separatorDue bound s
        else .error (.here separatorDue s)

/-- Skips a list or an object after its opening byte. -/
def skipContainer (item : Reader Unit) (close : UInt8) (ended separatorDue : Cause) :
    Reader Unit := fun s =>
  match peek ended s with
  | .error fault => .error fault
  | .ok (b, rest) =>
    if b = close then .ok ((), rest)
    else skipItems item close ended separatorDue (b :: rest) (b :: rest)

/-- Skips the key of a member and the colon after it. -/
def skipKey : Reader Unit := fun s =>
  match peek .endOfObject s with
  | .error fault => .error fault
  | .ok (0x22, s) =>
    match skipText s with
    | .error fault => .error fault
    | .ok (_, s) => readColon s
  | .ok (_, s) => .error (.here .keyNotText s)

/-- Skips a value whose lists and objects nest at most as deep as `depth` is long. -/
def skipNested : List UInt8 → Reader Unit
  | depth, s =>
    match peek .endOfValue s with
    | .error fault => .error fault
    | .ok (0x6E, s) => readWord [0x75, 0x6C, 0x6C] s
    | .ok (0x74, s) => readWord [0x72, 0x75, 0x65] s
    | .ok (0x66, s) => readWord [0x61, 0x6C, 0x73, 0x65] s
    | .ok (0x22, s) => skipText s
    | .ok (0x5B, s) =>
      match depth with
      | [] => .error (.here .endOfValue s)
      | _ :: depth =>
        skipContainer (skipNested depth) 0x5D .endOfList .listCommaOrEndExpected s
    | .ok (0x7B, s) =>
      match depth with
      | [] => .error (.here .endOfValue s)
      | _ :: depth =>
        let member (s : List UInt8) :=
          match skipKey s with
          | .error fault => .error fault
          | .ok (_, s) => skipNested depth s
        skipContainer member 0x7D .endOfObject .objectCommaOrEndExpected s
    | .ok (b, s) =>
      if b = 0x2D ∨ isDigit b then (readNumeral .invalidNumber (b :: s)).map fun r => ((), r.2)
      else .error (.here .valueExpected s)

/-- Skips a value. Every list and object starts with a byte of its own, so that no value nests
deeper than the bytes are long. -/
def skipValue : Reader Unit := fun s =>
  skipNested s s

end HealthPanel.Json
