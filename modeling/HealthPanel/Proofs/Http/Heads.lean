import HealthPanel.Http.Response
import HealthPanel.Proofs.Http.Persistence
import HealthPanel.Proofs.Text.Digits
import Mathlib.Data.Nat.Digits.Defs
import Mathlib.Data.Option.Basic

/-!
# Heads as servers write them

The head that is written for a response is read back line by line, its fields in the order in which
they are written, and the framing that it tells is the one in which the body is sent.
-/

namespace HealthPanel.Http

open HealthPanel.Text (digitByte toNat_digitByte encode_toString)

variable {line rest s : List UInt8} {field : String × String} {fields : List (String × String)}
  {response : Response} {n : Nat}

/-! ## Bytes and lines -/

/-- Bytes of a kind are read up to the first of another kind. -/
theorem readWhile_append {p : UInt8 → Bool} {b : UInt8} (all : ∀ b ∈ line, p b)
    (stop : p b = false) : readWhile p (line ++ b :: rest) = .done line (b :: rest) := by
  have hdrop : (line ++ b :: rest).dropWhile p = b :: rest := by
    rw [List.dropWhile_append_of_pos all, List.dropWhile_cons_of_neg (by simp [stop])]
  have htake : (line ++ b :: rest).takeWhile p = line := by
    rw [List.takeWhile_append_of_pos all, List.takeWhile_cons_of_neg (by simp [stop]),
      List.append_nil]
  rw [readWhile, hdrop, htake]

/-- Bytes that are there are read. -/
theorem readBytes_append (bytes rest : List UInt8) :
    readBytes bytes (bytes ++ rest) = .done () rest := by
  induction bytes with
  | nil => rfl
  | cons b bytes ih =>
    have hfirst : readByte b (b :: (bytes ++ rest)) = .done () (bytes ++ rest) := by
      simp [readByte, readAs]
    rw [readBytes, List.cons_append, hfirst]
    exact ih

/-- A line break of two bytes ends a line. -/
theorem readLineEnd_lineBreak : readLineEnd (0x0D :: 0x0A :: rest) = .done () rest := rfl

/-- A line is its text and a line break. -/
theorem line_append (text : String) (rest : List UInt8) :
    Response.line text ++ rest = Utf8.encode text ++ 0x0D :: 0x0A :: rest := by
  simp [Response.line]

/-! ## Fields -/

/-- A character that may stand in the reason or in the value of a field: no control of ASCII other
than the tab. -/
def IsPlainChar (c : Char) : Prop :=
  c = '\t' ∨ 0x20 ≤ c.toNat ∧ c.toNat ≠ 0x7F

/-- A field that may stand in a head: a name, and a value without controls. -/
structure IsField (field : String × String) : Prop where
  named : field.1 ≠ ""
  letters : ∀ c ∈ field.1.toList, c.toNat < 0x80 ∧ isNameByte (UInt8.ofNat c.toNat)
  plain : ∀ c ∈ field.2.toList, IsPlainChar c

/-- The digits of a number are plain. -/
theorem isPlainChar_toString (n : Nat) : ∀ c ∈ (toString n).toList, IsPlainChar c := by
  intro c hc
  rw [Nat.toString_eq_ofList_toDigits, String.toList_ofList] at hc
  have hdigit := Char.isDigit_iff_toNat.mp (Nat.isDigit_of_mem_toDigits (by decide) (by decide) hc)
  simp only [Char.reduceToNat] at hdigit
  exact .inr (by omega)

/-- The bytes of plain characters may stand in a value. -/
theorem isValueByte_of_mem_encode {text : String} (plain : ∀ c ∈ text.toList, IsPlainChar c) :
    ∀ b ∈ Utf8.encode text, isValueByte b := by
  intro b hb
  rw [← String.ofList_toList (s := text), Utf8.encode_ofList] at hb
  obtain ⟨c, hc, hbyte⟩ := List.mem_flatMap.mp hb
  simp only [isValueByte, Bool.or_eq_true, Bool.and_eq_true, decide_eq_true_eq,
    UInt8.le_iff_toNat_le, ← UInt8.toNat_inj, ne_eq, UInt8.reduceToNat]
  by_cases hascii : c.toNat < 0x80
  · rw [Utf8.utf8EncodeChar_of_ascii hascii, List.mem_singleton] at hbyte
    have hvalue : b.toNat = c.toNat := by
      rw [hbyte, UInt8.toNat_ofNat']
      omega
    rw [hvalue]
    exact (plain c hc).imp (fun htab => congrArg Char.toNat htab) id
  · have hbeyond := Utf8.beyond_of_mem_utf8EncodeChar (Nat.not_lt.mp hascii) hbyte
    omega

/-- Nothing is trimmed off a value that has no blanks. -/
theorem trimBlanks_eq_self (h : ∀ b ∈ s, isLineBlank b = false) : trimBlanks s = s := by
  have hdrop {s : List UInt8} (h : ∀ b ∈ s, isLineBlank b = false) :
      s.dropWhile isLineBlank = s := by
    cases s with
    | nil => rfl
    | cons b s => exact List.dropWhile_cons_of_neg (by simp [h b List.mem_cons_self])
  rw [trimBlanks, hdrop h, hdrop fun b hb => h b (List.mem_reverse.mp hb), List.reverse_reverse]

/-- A name in lower case. -/
def lowerName (name : String) : String :=
  String.ofList (name.toList.map Char.toLower)

/-- A field as it is read: its name in lower case, and its value without blanks around it. -/
def fieldAsRead (field : String × String) : HeadField :=
  ⟨lowerName field.1, trimBlanks (Utf8.encode field.2)⟩

/-- The name of a field is read in lower case. -/
theorem IsField.name_eq (h : IsField field) :
    String.ofList ((Utf8.encode field.1).map fun b => (Char.ofNat b.toNat).toLower) =
      lowerName field.1 := by
  have hascii : ∀ c ∈ field.1.toList, c.toNat < 0x80 := fun c hc => (h.letters c hc).1
  have hbytes : Utf8.encode field.1 = field.1.toList.map fun c => UInt8.ofNat c.toNat := by
    rw [← Utf8.encode_of_ascii hascii, String.ofList_toList]
  rw [hbytes, List.map_map, lowerName]
  refine congrArg String.ofList (List.map_congr_left fun c hc => ?_)
  have hlt := hascii c hc
  have hbyte : (UInt8.ofNat c.toNat).toNat = c.toNat := by
    rw [UInt8.toNat_ofNat']
    omega
  rw [Function.comp_apply, hbyte, Char.ofNat_toNat]

/-- The bytes of a name may stand in names, and there is one at least. -/
theorem IsField.name_bytes (h : IsField field) :
    Utf8.encode field.1 ≠ [] ∧ ∀ b ∈ Utf8.encode field.1, isNameByte b := by
  have hbytes : Utf8.encode field.1 = field.1.toList.map fun c => UInt8.ofNat c.toNat := by
    rw [← Utf8.encode_of_ascii fun c hc => (h.letters c hc).1, String.ofList_toList]
  rw [hbytes]
  refine ⟨?_, ?_⟩
  · simpa using h.named
  · simpa using fun c hc => (h.letters c hc).2

/-- The bytes of the line of a field. -/
theorem encode_fieldLine (field : String × String) :
    Utf8.encode (field.1 ++ ": " ++ field.2) =
      Utf8.encode field.1 ++ 0x3A :: 0x20 :: Utf8.encode field.2 := by
  rw [Utf8.encode_append, Utf8.encode_append, List.append_assoc]
  rfl

/-- A field is read off its line. -/
theorem IsField.readField_line (h : IsField field) :
    Head.readField (Response.line (field.1 ++ ": " ++ field.2) ++ rest) =
      .done (fieldAsRead field) rest := by
  obtain ⟨hsome, hname⟩ := h.name_bytes
  have hvalue : ∀ b ∈ 0x20 :: Utf8.encode field.2, isValueByte b :=
    List.forall_mem_cons.mpr ⟨by decide, isValueByte_of_mem_encode h.plain⟩
  have hcolon (rest : List UInt8) : readByte 0x3A (0x3A :: rest) = .done () rest := rfl
  have htrim : trimBlanks (0x20 :: Utf8.encode field.2) = trimBlanks (Utf8.encode field.2) := by
    rw [trimBlanks, trimBlanks, List.dropWhile_cons_of_pos (by decide)]
  rw [line_append, encode_fieldLine, List.append_assoc, List.cons_append, Head.readField,
    readWhile_append hname (by decide)]
  simp only [Incoming.bind, if_neg hsome, hcolon]
  rw [readWhile_append hvalue (by decide)]
  simp only [readLineEnd_lineBreak, Incoming.map, Incoming.bind, htrim, h.name_eq, fieldAsRead]

/-- The line of a field is not blank. -/
theorem IsField.isBlankLine_line (h : IsField field) :
    Head.isBlankLine (Response.line (field.1 ++ ": " ++ field.2) ++ rest) = false := by
  obtain ⟨hsome, hname⟩ := h.name_bytes
  obtain ⟨b, bytes, hbytes⟩ := List.exists_cons_of_ne_nil hsome
  have hb : isNameByte b := hname b (hbytes ▸ List.mem_cons_self)
  rw [line_append, encode_fieldLine, hbytes]
  simp only [List.cons_append, Head.isBlankLine, List.head?_cons, Option.any_some,
    Bool.or_eq_false_iff, decide_eq_false_iff_not]
  exact ⟨by rintro rfl; simp [isNameByte] at hb, by rintro rfl; simp [isNameByte] at hb⟩

/-- The fields of a head are read in order, up to the blank line behind them. -/
theorem readFields_lines {allowed : Nat} (all : ∀ field ∈ fields, IsField field)
    (enough : fields.length ≤ allowed) :
    Head.readFields allowed
        (fields.flatMap (fun field => Response.line (field.1 ++ ": " ++ field.2)) ++
          (Response.line "" ++ rest)) =
      .done (fields.map fieldAsRead) rest := by
  induction fields generalizing allowed with
  | nil => cases allowed <;> rfl
  | cons field fields ih =>
    obtain ⟨hfield, others⟩ := List.forall_mem_cons.mp all
    obtain ⟨allowed, rfl⟩ := Nat.exists_eq_add_one_of_ne_zero (Nat.ne_zero_of_lt enough)
    rw [List.flatMap_cons, List.append_assoc, Head.readFields, hfield.isBlankLine_line,
      hfield.readField_line]
    simp only [Bool.false_eq_true, if_false, Incoming.bind, Incoming.map,
      ih others (Nat.le_of_succ_le_succ enough)]
    rfl

/-! ## Status lines -/

/-- A number of three digits is read off them. -/
theorem readThreeDigits_toString (h : 100 ≤ n ∧ n ≤ 999) :
    Head.readThreeDigits (Utf8.encode (toString n) ++ rest) = .done n rest := by
  have hdigit : ∀ k < 10, Head.digit? (digitByte (Nat.digitChar k)) = some k := by decide
  have hread {k : Nat} (hk : k < 10) (rest : List UInt8) :
      readAs Head.digit? (digitByte (Nat.digitChar k) :: rest) = .done k rest := by
    rw [readAs, hdigit k hk]
  have hdigits : Nat.toDigits 10 n =
      [Nat.digitChar (n / 10 / 10), Nat.digitChar (n / 10 % 10), Nat.digitChar (n % 10)] := by
    rw [Nat.toDigits_of_base_le (by decide) (by omega),
      Nat.toDigits_of_base_le (by decide) (by omega), Nat.toDigits_of_lt_base (by omega)]
    rfl
  have hvalue : (n / 10 / 10 * 10 + n / 10 % 10) * 10 + n % 10 = n := by omega
  rw [encode_toString, hdigits]
  simp only [List.map_cons, List.map_nil, List.cons_append, List.nil_append, Head.readThreeDigits,
    Incoming.bind, Incoming.map, hread (show n / 10 / 10 < 10 by omega),
    hread (show n / 10 % 10 < 10 by omega), hread (show n % 10 < 10 by omega), hvalue]

/-- The line of a status and a reason. -/
def statusLine (status : Nat) (reason : String) : String :=
  "HTTP/1.1 " ++ toString status ++ " " ++ reason

/-- A status is read off its line. -/
theorem readStatusLine_line {reason : String} (h : 100 ≤ n ∧ n ≤ 999)
    (plain : ∀ c ∈ reason.toList, IsPlainChar c) :
    Head.readStatusLine (Response.line (statusLine n reason) ++ rest) = .done (false, n) rest := by
  have hline : Response.line (statusLine n reason) ++ rest =
      Utf8.encode "HTTP/1." ++ 0x31 :: 0x20 ::
        (Utf8.encode (toString n) ++ (0x20 :: Utf8.encode reason ++ 0x0D :: 0x0A :: rest)) := by
    simp only [line_append, statusLine, Utf8.encode_append, List.append_assoc]
    rfl
  have hversion (rest : List UInt8) : readAs Head.version? (0x31 :: rest) = .done false rest := rfl
  have hblank (rest : List UInt8) : readByte 0x20 (0x20 :: rest) = .done () rest := rfl
  have hreason : Head.readReason (0x20 :: Utf8.encode reason ++ 0x0D :: 0x0A :: rest) =
      .done () rest := by
    have hvalue : ∀ b ∈ 0x20 :: Utf8.encode reason, isValueByte b :=
      List.forall_mem_cons.mpr ⟨by decide, isValueByte_of_mem_encode plain⟩
    have hread : readWhile isValueByte (0x20 :: Utf8.encode reason ++ 0x0D :: 0x0A :: rest) =
        .done (0x20 :: Utf8.encode reason) (0x0D :: 0x0A :: rest) :=
      readWhile_append hvalue (by decide)
    have hfirst : (0x20 :: Utf8.encode reason ++ 0x0D :: 0x0A :: rest).head? = some 0x20 := rfl
    rw [Head.readReason, if_pos hfirst, hread]
    rfl
  rw [hline, Head.readStatusLine, readBytes_append]
  simp only [Incoming.bind, hversion, hblank, readThreeDigits_toString h, hreason, Incoming.map]

/-! ## Heads -/

/-- A response whose head can be read: its reason has no controls, its fields are fields and tell
nothing of the framing, there are not too many of them, no name is too long, and with a field for
the framing the head fits into the buffer of a client. -/
structure Response.IsWellFormed (response : Response) : Prop where
  reason : ∀ c ∈ response.reason.toList, IsPlainChar c
  fields : ∀ field ∈ response.fields, IsField field
  unframed : ∀ field ∈ response.fields,
    lowerName field.1 ≠ "content-length" ∧ lowerName field.1 ≠ "transfer-encoding"
  few : response.fields.length + 2 ≤ Head.maxFields
  names : ∀ field ∈ response.fields, field.1.length ≤ Head.maxName
  fits : { response with delivery := .untilClosed }.writeHead.length + 64 ≤ maxBuffer

namespace Response

/-- All fields of a head as they are written. -/
def allFields (response : Response) : List (String × String) :=
  ("Connection", "close") :: response.fields ++ framingField response.delivery

/-- The field that tells the framing is a field. -/
theorem isField_framingField (delivery : Delivery) :
    ∀ field ∈ framingField delivery, IsField field := by
  cases delivery with
  | counted n =>
    have hname : ∀ c ∈ "Content-Length".toList, c.toNat < 0x80 ∧ isNameByte (UInt8.ofNat c.toNat) :=
      by decide
    simp only [framingField, List.forall_mem_singleton]
    exact ⟨by simp, hname, isPlainChar_toString n⟩
  | chunked size complete =>
    simp only [framingField, List.forall_mem_singleton]
    exact ⟨by decide, by decide, by simp [IsPlainChar]⟩
  | untilClosed => simp [framingField]

/-- All fields of a head are fields. -/
theorem IsWellFormed.isField_allFields (h : response.IsWellFormed) :
    ∀ field ∈ response.allFields, IsField field := by
  have hclose : IsField ("Connection", "close") := by
    exact ⟨by decide, by decide, by simp [IsPlainChar]⟩
  rw [allFields, List.forall_mem_append, List.forall_mem_cons]
  exact ⟨⟨hclose, h.fields⟩, isField_framingField response.delivery⟩

/-- There are not too many fields in all. -/
theorem IsWellFormed.length_allFields_le (h : response.IsWellFormed) :
    response.allFields.length ≤ Head.maxFields := by
  have hframing : (framingField response.delivery).length ≤ 1 := by
    cases response.delivery <;> simp [framingField]
  have hfew := h.few
  simp only [allFields, List.length_append, List.length_cons]
  omega

/-- The names of all fields are short enough. -/
theorem IsWellFormed.length_name_le (h : response.IsWellFormed) :
    ∀ field ∈ response.allFields, field.1.length ≤ Head.maxName := by
  have hframing : ∀ field ∈ framingField response.delivery, field.1.length ≤ Head.maxName := by
    cases response.delivery with
    | counted n =>
      have hname : "Content-Length".length ≤ Head.maxName := by decide
      exact List.forall_mem_singleton.mpr hname
    | chunked size complete => exact List.forall_mem_singleton.mpr (by decide)
    | untilClosed => exact List.forall_mem_nil _
  rw [allFields, List.forall_mem_append, List.forall_mem_cons]
  exact ⟨⟨by decide, h.names⟩, hframing⟩

/-- The head of a response as it is read. -/
def headAsRead (response : Response) (code : StatusCode) : Head :=
  ⟨false, code, response.allFields.map fieldAsRead⟩

/-- The head of a response is read back, whatever comes behind it. -/
theorem IsWellFormed.readOne_writeHead (h : response.IsWellFormed)
    (code : 100 ≤ response.status ∧ response.status ≤ 999) (rest : List UInt8) :
    Head.readOne (response.writeHead ++ rest) = .done (response.headAsRead ⟨_, code⟩) rest := by
  have hbytes : response.writeHead ++ rest =
      line (statusLine response.status response.reason) ++
        (response.allFields.flatMap (fun field => line (field.1 ++ ": " ++ field.2)) ++
          (line "" ++ rest)) := by
    simp [writeHead, allFields, line, statusLine]
  have hstart : ∃ tail, response.writeHead ++ rest = 0x48 :: tail := by
    rw [hbytes, line_append]
    simp only [statusLine, Utf8.encode_append, List.append_assoc]
    exact ⟨_, rfl⟩
  have hblank : Head.readBlankLines ((response.writeHead ++ rest).length + 1)
      (response.writeHead ++ rest) = .done () (response.writeHead ++ rest) := by
    obtain ⟨tail, htail⟩ := hstart
    rw [htail]
    rfl
  have hparts : Head.ofParts? false response.status (response.allFields.map fieldAsRead) =
      some (response.headAsRead ⟨_, code⟩) := by
    have hnames : (response.allFields.map fieldAsRead).all (·.name.length ≤ Head.maxName) := by
      simpa [fieldAsRead, lowerName, String.length_toList] using h.length_name_le
    rw [Head.ofParts?, if_pos hnames, StatusCode.ofNat?, dif_pos code]
    rfl
  rw [Head.readOne, hblank]
  simp only [Incoming.bind]
  rw [hbytes, readStatusLine_line code h.reason]
  simp only [readFields_lines h.isField_allFields h.length_allFields_le, hparts]

/-- The head of a response ends with a blank line. -/
theorem exists_writeHead_eq (response : Response) :
    ∃ front, response.writeHead = front ++ [0x0D, 0x0A, 0x0D, 0x0A] := by
  have hlast (fields : List (String × String)) (text : String) :
      ∃ front, line text ++ fields.flatMap (fun field => line (field.1 ++ ": " ++ field.2)) =
        front ++ [0x0D, 0x0A] := by
    induction fields using List.reverseRecOn with
    | nil => exact ⟨Utf8.encode text, by simp [line]⟩
    | append_singleton fields field _ =>
      refine ⟨line text ++ (fields.flatMap fun field => line (field.1 ++ ": " ++ field.2)) ++
        Utf8.encode (field.1 ++ ": " ++ field.2), ?_⟩
      simp [line]
  obtain ⟨front, hfront⟩ := hlast _ _
  exact ⟨front, by rw [writeHead, hfront, List.append_assoc]; rfl⟩

/-- The digits of a number that fits 64 bits are twenty at most. -/
theorem length_encode_toString_le (h : n < UInt64.size) :
    (Utf8.encode (toString n)).length ≤ 20 := by
  rw [encode_toString, List.length_map]
  exact Nat.toDigits_length 10 n 20 (by decide) (h.trans_le (by decide))

/-- The head of a response fits into the buffer of a client, if a length that it tells fits 64
bits. -/
theorem IsWellFormed.length_writeHead_le (h : response.IsWellFormed)
    (small : ∀ n, response.delivery = .counted n → n < UInt64.size) :
    response.writeHead.length ≤ maxBuffer := by
  have hfits := h.fits
  have hframing : ((framingField response.delivery).flatMap
      fun field => line (field.1 ++ ": " ++ field.2)).length ≤ 64 := by
    cases hdelivery : response.delivery with
    | counted n =>
      have hdigits := length_encode_toString_le (small n hdelivery)
      have hname : (Utf8.encode ("Content-Length" ++ ": ")).length = 16 := rfl
      simp only [framingField, List.flatMap_singleton, line, Utf8.encode_append,
        List.length_append] at *
      simp only [List.length_cons, List.length_nil]
      omega
    | chunked size complete =>
      have hline : (line ("Transfer-Encoding" ++ ": " ++ "chunked")).length = 28 := rfl
      simp only [framingField, List.flatMap_singleton, hline]
      omega
    | untilClosed => simp [framingField]
  simp only [writeHead, List.flatMap_append, List.length_append, framingField, List.flatMap_nil,
    List.length_nil] at hfits hframing ⊢
  omega

end Response

/-! ## Framings -/

/-- The framing that a delivery announces, unless it announces a length that no body may have. -/
def Delivery.framing? : Delivery → Option Framing
  | .counted n => if n ≤ maxLength then some (.length n) else none
  | .chunked _ _ => some .chunked
  | .untilClosed => some .untilClosed

/-- Digits are read as the number they write. -/
theorem foldlM_digit?_digitByte {chars : List Char} (all : ∀ c ∈ chars, c.isDigit) (start : Nat) :
    (chars.map digitByte).foldlM (fun n b => return n * 10 + (← Head.digit? b)) start =
      some (Nat.ofDigitChars 10 chars start) := by
  rw [List.foldlM_map]
  refine Text.foldlM_digits (fun n c hc => ?_) all start
  have hdigit := Char.isDigit_iff_toNat.mp hc
  simp only [Char.reduceToNat] at hdigit
  have hread : Head.digit? (digitByte c) = some (c.toNat - 0x30) := by
    simp [Head.digit?, UInt8.le_iff_toNat_le, toNat_digitByte hc, hdigit]
  rw [hread]
  rfl

/-- A length that fits 64 bits is read back. -/
theorem decimal?_toString (n : Nat) :
    decimal? (Utf8.encode (toString n)) = if n < UInt64.size then some n else none := by
  have hdigits : ∀ c ∈ Nat.toDigits 10 n, c.isDigit :=
    fun c => Nat.isDigit_of_mem_toDigits (by decide) (by decide)
  have hvalue := foldlM_digit?_digitByte hdigits 0
  rw [Nat.ofDigitChars_ten_toDigits] at hvalue
  have hguard : (guard ((Nat.toDigits 10 n).map digitByte ≠ []) : Option Unit) = some () :=
    if_pos (by simp [Nat.toDigits_ne_nil])
  simp only [Option.bind_eq_bind, Option.pure_def] at hvalue
  rw [encode_toString, decimal?, hguard]
  simp [hvalue]

/-- No digit is a blank or a comma. -/
theorem not_blank_or_comma_of_mem {b : UInt8} (hb : b ∈ Utf8.encode (toString n)) :
    isLineBlank b = false ∧ b ≠ 0x2C := by
  rw [encode_toString] at hb
  obtain ⟨c, hc, rfl⟩ := List.mem_map.mp hb
  have hdigit : c.isDigit := Nat.isDigit_of_mem_toDigits (by decide) (by decide) hc
  have hbyte := toNat_digitByte hdigit
  have hrange := Char.isDigit_iff_toNat.mp hdigit
  simp only [Char.reduceToNat] at hrange
  simp only [isLineBlank, Bool.or_eq_false_iff, decide_eq_false_iff_not, ← UInt8.toNat_inj,
    hbyte, ne_eq, UInt8.reduceToNat]
  omega

/-- The length that a server tells is read back. -/
theorem commaParts_toString (n : Nat) :
    commaParts (trimBlanks (Utf8.encode (toString n))) = [Utf8.encode (toString n)] := by
  have htrim : trimBlanks (Utf8.encode (toString n)) = Utf8.encode (toString n) :=
    trimBlanks_eq_self fun b hb => (not_blank_or_comma_of_mem hb).1
  have hsplit : (Utf8.encode (toString n)).splitOnP (· = 0x2C) = [Utf8.encode (toString n)] :=
    List.splitOnP_eq_singleton fun b hb => decide_eq_false (not_blank_or_comma_of_mem hb).2
  rw [htrim, commaParts, hsplit, List.map_singleton, htrim]

namespace Response

/-- Only the field that tells the framing has a name that does. -/
theorem IsWellFormed.values_allFields (h : response.IsWellFormed) (code : StatusCode)
    {name : String} (framing : name = "content-length" ∨ name = "transfer-encoding") :
    Head.values ⟨false, code, response.allFields.map fieldAsRead⟩ name =
      Head.values ⟨false, code, (framingField response.delivery).map fieldAsRead⟩ name := by
  have hclose : lowerName "Connection" ≠ name := by
    rcases framing with rfl | rfl <;> decide
  have hothers : ((("Connection", "close") :: response.fields).map fieldAsRead).filter
      (·.name = name) = [] := by
    rw [List.filter_eq_nil_iff, List.forall_mem_map, List.forall_mem_cons]
    simp only [decide_eq_true_eq]
    refine ⟨hclose, fun field hfield => ?_⟩
    rcases framing with rfl | rfl
    · exact (h.unframed field hfield).1
    · exact (h.unframed field hfield).2
  simp only [Head.values, allFields]
  rw [List.map_append, List.filter_append, hothers, List.nil_append]

/-- The head of a response tells the framing that its delivery announces, if it may have a body. -/
theorem IsWellFormed.framing?_eq (h : response.IsWellFormed) {code : StatusCode}
    (hasBody : code.number ∉ [101, 204, 304]) :
    Head.framing? ⟨false, code, response.allFields.map fieldAsRead⟩ =
      response.delivery.framing? := by
  have hlength := h.values_allFields code (.inl rfl)
  have hcoding := h.values_allFields code (.inr rfl)
  rw [Head.framing?, if_neg hasBody]
  simp only [Head.isChunked, Head.length?, hlength, hcoding]
  cases response.delivery with
  | counted n =>
    have hname : lowerName "Content-Length" = "content-length" := by decide
    have hcodings : Head.values ⟨false, code, (framingField (.counted n)).map fieldAsRead⟩
        "transfer-encoding" = [] := by
      simp [Head.values, framingField, fieldAsRead, hname]
    have hlengths : Head.values ⟨false, code, (framingField (.counted n)).map fieldAsRead⟩
        "content-length" = [trimBlanks (Utf8.encode (toString n))] := by
      simp [Head.values, framingField, fieldAsRead, hname]
    have hread : (([trimBlanks (Utf8.encode (toString n))].flatMap commaParts).mapM decimal? :
        Option (List Nat)) = if n < UInt64.size then some [n] else none := by
      rw [List.flatMap_singleton, commaParts_toString, List.mapM_cons, decimal?_toString]
      split <;> rfl
    simp only [hcodings, hlengths, hread]
    -- What does not fit 64 bits is not read at all, and is too long anyway.
    by_cases hfits : n < UInt64.size
    · simp [hfits, Delivery.framing?]
    · have hlong : ¬n ≤ maxLength := fun h => hfits (h.trans_lt (by decide))
      simp [hfits, hlong, Delivery.framing?]
  | chunked size complete => rfl
  | untilClosed => rfl

end Response

end HealthPanel.Http
