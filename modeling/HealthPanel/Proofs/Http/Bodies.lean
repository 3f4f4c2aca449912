import HealthPanel.Http.Response
import HealthPanel.Proofs.Http.Arrival
import HealthPanel.Proofs.Http.Persistence
import HealthPanel.Proofs.Text.Digits

/-!
# Bodies as servers write them

A body that is written in some framing is read back in it, and chunks are put together again,
however long they are. A body that ends before its framing says so is refused, however much of it
has come.
-/

namespace HealthPanel.Http

open Incoming

variable {n size fuel extended : Nat} {chunk rest s part later body : List UInt8}
  {chunks : List (List UInt8)}

/-! ## Sizes of chunks -/

/-- A digit of a size writes its number. -/
theorem hexValue?_digitChar :
    ∀ k < 16, Text.hexValue? (Nat.digitChar k).toNat.toUInt8 = some k := by
  decide

/-- A digit of a size goes behind those before it. -/
theorem sizeFrom_toDigits_of_lt (m : Nat) {k : Nat} (hk : k < 16) :
    sizeFrom m (ascii (Nat.toDigits 16 k)) = m * 16 + k := by
  rw [Nat.toDigits_of_lt_base hk]
  simp only [ascii, List.map_cons, List.map_nil, sizeFrom, List.foldl_cons, List.foldl_nil,
    hexValue?_digitChar k hk, Option.getD_some]

/-- The digits of a size write it. -/
theorem sizeFrom_toDigits (n : Nat) : sizeFrom 0 (ascii (Nat.toDigits 16 n)) = n := by
  induction n using Nat.base_induction 16 (by decide) with
  | single n hn =>
    rw [sizeFrom_toDigits_of_lt 0 hn]
    omega
  | digit n k hk hn ih =>
    rw [← Nat.toDigits_append_toDigits (by decide) hn hk, ascii, List.map_append, sizeFrom,
      List.foldl_append]
    change sizeFrom (sizeFrom 0 (ascii (Nat.toDigits 16 n))) (ascii (Nat.toDigits 16 k)) = _
    rw [ih, sizeFrom_toDigits_of_lt n hk]
    omega

/-- The size of a chunk is written in digits only. -/
theorem isSizeDigit_toDigits (n : Nat) : ∀ b ∈ ascii (Nat.toDigits 16 n), isSizeDigit b := by
  have hdigit {k : Nat} (hk : k < 16) : ∀ b ∈ ascii (Nat.toDigits 16 k), isSizeDigit b := by
    rw [Nat.toDigits_of_lt_base hk]
    simp [ascii, isSizeDigit, hexValue?_digitChar k hk]
  induction n using Nat.base_induction 16 (by decide) with
  | single n hn => exact hdigit hn
  | digit n k hk hn ih =>
    rw [← Nat.toDigits_append_toDigits (by decide) hn hk, ascii, List.map_append]
    exact List.forall_mem_append.mpr ⟨ih, hdigit hk⟩

/-- A size is read off its line. -/
theorem readSize_line (hlt : n < UInt64.size) :
    readSize extended (ascii (Nat.toDigits 16 n) ++ 0x0D :: 0x0A :: rest) =
      .done (n, extended) rest := by
  have hdigits := isSizeDigit_toDigits n
  have htake : (ascii (Nat.toDigits 16 n) ++ 0x0D :: 0x0A :: rest).takeWhile isSizeDigit =
      ascii (Nat.toDigits 16 n) := by
    rw [List.takeWhile_append_of_pos hdigits, List.takeWhile_cons_of_neg (by decide),
      List.append_nil]
  have hdrop : (ascii (Nat.toDigits 16 n) ++ 0x0D :: 0x0A :: rest).dropWhile isSizeDigit =
      0x0D :: 0x0A :: rest := by
    rw [List.dropWhile_append_of_pos hdigits, List.dropWhile_cons_of_neg (by decide)]
  have hsome : ascii (Nat.toDigits 16 n) ≠ [] := by simp [ascii, Nat.toDigits_ne_nil]
  rw [readSize_eq, htake, hdrop, sizeFrom_toDigits, if_neg (by simp), if_neg hsome,
    if_neg (Nat.not_le.mpr hlt)]
  rfl

/-! ## Chunks -/

/-- A chunk is read up to the line break behind it. -/
theorem readChunk_length :
    readChunk chunk.length (chunk ++ 0x0D :: 0x0A :: rest) = .done chunk rest := by
  rw [readChunk, if_neg (by simp), List.drop_left, List.take_left]
  rfl

/-- A chunk that is written is read, and then the chunks behind it. -/
theorem readChunks_writeChunk (nonempty : chunk ≠ []) (hlt : chunk.length < UInt64.size) :
    readChunks (fuel + 1) extended (writeChunk chunk ++ rest) =
      (readChunks fuel extended rest).map (chunk ++ ·) := by
  have hwritten : writeChunk chunk ++ rest =
      ascii (Nat.toDigits 16 chunk.length) ++ 0x0D :: 0x0A :: (chunk ++ 0x0D :: 0x0A :: rest) := by
    simp [writeChunk]
  have hlength : chunk.length ≠ 0 := by simpa using nonempty
  rw [hwritten, readChunks, readSize_line hlt]
  simp only [Incoming.bind, if_neg hlength, readChunk_length]

/-- The last chunk ends the body. -/
theorem readChunks_lastChunk :
    readChunks (fuel + 1) extended (lastChunk ++ rest) = .done [] rest := by
  have hsize : readSize extended (lastChunk ++ rest) = .done (0, extended) (0x0D :: 0x0A :: rest) :=
    readSize_line (n := 0) (by decide)
  rw [readChunks, hsize]
  rfl

/-- All chunks are read up to the last one, whatever comes behind it. -/
theorem readChunks_eq (all : ∀ chunk ∈ chunks, chunk ≠ [] ∧ chunk.length < UInt64.size)
    (enough : chunks.length < fuel) :
    readChunks fuel extended (chunks.flatMap writeChunk ++ (lastChunk ++ rest)) =
      .done chunks.flatten rest := by
  induction chunks generalizing fuel with
  | nil =>
    obtain ⟨fuel, rfl⟩ := Nat.exists_eq_add_of_lt enough
    exact readChunks_lastChunk
  | cons chunk chunks ih =>
    obtain ⟨⟨nonempty, hlt⟩, others⟩ := List.forall_mem_cons.mp all
    obtain ⟨fuel, rfl⟩ := Nat.exists_eq_add_one_of_ne_zero (Nat.ne_zero_of_lt enough)
    rw [List.flatMap_cons, List.append_assoc, readChunks_writeChunk nonempty hlt,
      ih others (Nat.lt_of_succ_lt_succ enough)]
    rfl

/-- There are no more chunks than bytes that write them. -/
theorem length_le_length_flatMap_writeChunk (chunks : List (List UInt8)) :
    chunks.length ≤ (chunks.flatMap writeChunk).length := by
  induction chunks with
  | nil => exact Nat.le_refl 0
  | cons chunk chunks ih =>
    have hchunk : 1 ≤ (writeChunk chunk).length := by
      simp only [writeChunk, List.length_append, List.length_cons]
      omega
    rw [List.flatMap_cons, List.length_append, List.length_cons]
    omega

/-! ## Cuts -/

/-- What is cut off some bytes is not empty, and not longer than they are. -/
theorem of_mem_cut (h : chunk ∈ cut size fuel s) : chunk ≠ [] ∧ chunk.length ≤ s.length := by
  induction fuel generalizing s with
  | zero => cases h
  | succ fuel ih =>
    rw [cut] at h
    split at h
    case isTrue => cases h
    case isFalse hcut =>
      obtain ⟨hsome, hpositive⟩ := not_or.mp hcut
      rcases List.mem_cons.mp h with rfl | hrest
      · refine ⟨?_, List.length_take_le' _ _⟩
        rw [ne_eq, List.take_eq_nil_iff]
        exact fun h => h.elim hpositive hsome
      · obtain ⟨hchunk, hle⟩ := ih hrest
        exact ⟨hchunk, hle.trans (by simp)⟩

/-! ## Framings -/

/-- What has been read of a body is read likewise once the connection is closed. -/
theorem Framing.read_of_done {framing : Framing} (h : framing.read false s = .done body rest)
    (closed : Bool) : framing.read closed s = .done body rest := by
  have hsame : Persists [] (framing.read false s) (framing.read closed (s ++ [])) :=
    Framing.read_persists framing closed s
  have hread := hsame (by simp [h])
  simpa [h] using hread

/-- Once the connection is closed, it is known whether a body is whole. -/
theorem Framing.read_closed_ne_more (framing : Framing) : framing.read true s ≠ .more := by
  have hend : ∀ incoming : Incoming (List UInt8), incoming.atEnd ≠ .more := by
    intro incoming
    cases incoming <;> simp [atEnd]
  simp only [Framing.read, if_true]
  exact hend _

/-- A body that is written in chunks is read back. -/
theorem read_chunked (positive : size ≠ 0) (fits : body.length < UInt64.size) (closed : Bool) :
    Framing.chunked.read closed (Response.writeBody (.chunked size true) body) =
      .done body [] := by
  refine Framing.read_of_done ?_ closed
  have hall : ∀ chunk ∈ cut size body.length body,
      chunk ≠ [] ∧ chunk.length < UInt64.size := by
    intro chunk h
    obtain ⟨nonempty, hle⟩ := of_mem_cut h
    exact ⟨nonempty, hle.trans_lt fits⟩
  have hwritten : Response.writeBody (.chunked size true) body =
      (cut size body.length body).flatMap writeChunk ++ (lastChunk ++ []) := by
    simp [Response.writeBody]
  have henough : (cut size body.length body).length <
      (Response.writeBody (.chunked size true) body).length + 1 := by
    have hle := length_le_length_flatMap_writeChunk (cut size body.length body)
    rw [hwritten, List.length_append]
    omega
  calc Framing.chunked.read false (Response.writeBody (.chunked size true) body)
      = readChunks ((Response.writeBody (.chunked size true) body).length + 1) 0
          ((cut size body.length body).flatMap writeChunk ++ (lastChunk ++ [])) := by
        rw [← hwritten]
        rfl
    _ = .done (cut size body.length body).flatten [] := readChunks_eq hall henough
    _ = .done body [] := by rw [flatten_cut positive (Nat.le_refl _)]

/-- As many bytes as the length says are the body. -/
theorem read_length (body : List UInt8) (closed : Bool) :
    (Framing.length body.length).read closed body = .done body [] := by
  refine Framing.read_of_done ?_ closed
  simp [Framing.read]

/-- All bytes up to the end of the connection are the body. -/
theorem read_untilClosed (body : List UInt8) :
    Framing.untilClosed.read true body = .done body [] :=
  rfl

/-- Fewer bytes than the length says are no body. -/
theorem read_length_of_lt (short : body.length < n) :
    (Framing.length n).read true body = .bad := by
  simp [Framing.read, short, atEnd]

/-- What a body is cut down to is no body in the same framing, if the end is told before the
connection ends. -/
theorem Framing.read_of_cut {framing : Framing}
    (whole : framing.read false (part ++ later) = .done body []) (short : later ≠ []) :
    framing.read true part = .bad := by
  have hmore : framing.read false part = .more := by
    have hpersists :
        Persists later (framing.read false part) (framing.read false (part ++ later)) :=
      Framing.read_persists framing false part
    rw [whole] at hpersists
    cases hpart : framing.read false part with
    | more => rfl
    | bad =>
      have hbad := hpersists (by simp [hpart])
      simp [hpart] at hbad
    | done value rest =>
      have hdone := hpersists (by simp [hpart])
      simp only [hpart, append_done, done.injEq] at hdone
      exact absurd (List.append_eq_nil_iff.mp hdone.2.symm).2 short
  cases framing with
  | untilClosed => simp [Framing.read] at whole
  | length count =>
    simp only [Framing.read, Bool.false_eq_true, if_false] at hmore
    simp only [Framing.read, if_true, hmore, atEnd]
  | chunked =>
    simp only [Framing.read, Bool.false_eq_true, if_false] at hmore
    simp only [Framing.read, if_true, hmore, atEnd]

/-- Chunks without the last one are no body. -/
theorem read_chunked_of_incomplete (positive : size ≠ 0) (fits : body.length < UInt64.size) :
    Framing.chunked.read true (Response.writeBody (.chunked size false) body) = .bad := by
  have hwhole := read_chunked positive fits false
  have hparts : Response.writeBody (.chunked size true) body =
      Response.writeBody (.chunked size false) body ++ lastChunk := by
    simp [Response.writeBody]
  rw [hparts] at hwhole
  exact Framing.read_of_cut hwhole (by decide)

end HealthPanel.Http
