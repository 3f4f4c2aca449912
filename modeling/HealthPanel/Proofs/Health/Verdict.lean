import HealthPanel.Health.Probe
import HealthPanel.Proofs.Http.Arrival
import HealthPanel.Proofs.Http.Persistence

/-!
# What a response tells of a request

A response leads elsewhere, or settles the probe: with a payload, with a status that is no
success, or with a fault. Which of these it does is read off its head and body, and once the bytes
that have come in tell it, no more bytes change it.
-/

namespace HealthPanel.Probe

variable {reader : Http.Reader} {closed : Bool} {request : Http.Request}
  {s later : List (List UInt8)} {head : Http.Head} {framing : Http.Framing} {rest : List UInt8}

/-- What a client has taken in holds the head of a response with a body framed in some way, and the
rest comes after it. -/
structure ShowsHead (reader : Http.Reader) (s : List (List UInt8)) (head : Http.Head)
    (framing : Http.Framing) (rest : List UInt8) : Prop where
  read : Http.Head.read reader s = .done head rest
  framed : head.framing? = some framing

/-- A head that has come in stays the head, with more bytes after it. -/
theorem ShowsHead.append (h : ShowsHead reader s head framing rest) :
    ShowsHead reader (s ++ later) head framing (rest ++ later.flatten) where
  read := by
    rw [Http.Head.read_persists reader s later (by simp [h.read]), h.read]
    rfl
  framed := h.framed

/-- Bytes hold one head at most. -/
theorem ShowsHead.unique {head' : Http.Head} {framing' : Http.Framing} {rest' : List UInt8}
    (h : ShowsHead reader s head framing rest)
    (h' : ShowsHead reader s head' framing' rest') :
    head = head' ∧ framing = framing' ∧ rest = rest' := by
  obtain ⟨rfl, rfl⟩ := Http.Incoming.done.inj (h.read.symm.trans h'.read)
  exact ⟨rfl, Option.some.inj (h.framed.symm.trans h'.framed), rfl⟩

/-- A head tells what it leads to, or what it makes of the bytes after it. -/
theorem ShowsHead.judge_eq (h : ShowsHead reader s head framing rest) :
    judge reader request s closed = judgeHead request head framing rest closed := by
  simp only [judge, h.read, h.framed]

/-- Bytes hold a head, or tell nothing but a fault. -/
theorem showsHead_or_judge (reader : Http.Reader) (request : Http.Request) (s : List (List UInt8))
    (closed : Bool) :
    (∃ head framing rest, ShowsHead reader s head framing rest) ∨
      judge reader request s closed = none ∨
      judge reader request s closed = some (.settled (broken .badResponse)) := by
  cases hread : Http.Head.read reader s with
  | more => cases closed <;> simp [judge, hread]
  | bad => simp [judge, hread]
  | done head rest =>
    cases hframed : head.framing? with
    | none => simp [judge, hread, hframed]
    | some framing => exact .inl ⟨head, framing, rest, hread, hframed⟩

/-- What more bytes tell of a body that has already told something. -/
theorem judgeBody_append {more : List UInt8} {result : Except ProbeFailure Payload}
    (h : judgeBody framing rest false = some result) :
    judgeBody framing (rest ++ more) closed = some result := by
  have hpersists : Http.Incoming.Persists more (framing.read false rest)
      (framing.read closed (rest ++ more)) := Http.Framing.read_persists framing closed rest
  rw [judgeBody] at h ⊢
  cases hread : framing.read false rest with
  | more => simp [hread] at h
  | bad =>
    rw [hpersists (by simp [hread])]
    simpa [hread] using h
  | done body left =>
    rw [hpersists (by simp [hread])]
    simpa [hread] using h

/-- What a head makes of the bytes after it, more bytes do not take back. -/
theorem judgeHead_append {more : List UInt8} {verdict : Verdict}
    (h : judgeHead request head framing rest false = some verdict) :
    judgeHead request head framing (rest ++ more) closed = some verdict := by
  rw [judgeHead] at h ⊢
  cases hredirect : head.redirect? request with
  | some next => simpa [hredirect] using h
  | none =>
    simp only [hredirect] at h ⊢
    split at h
    case isTrue hsuccess =>
      obtain ⟨result, hresult, rfl⟩ := Option.map_eq_some_iff.mp h
      simp [hsuccess, judgeBody_append hresult]
    case isFalse hsuccess => simpa [hsuccess] using h

/-- What the bytes tell of a request, more bytes do not take back. -/
theorem isSteady_judge (reader : Http.Reader) (request : Http.Request) :
    Http.IsSteady (judge reader request) where
  nil := by simp [judge, Http.Head.read_nil]
  append := by
    intro s later closed verdict h
    have hpersists := Http.Head.read_persists reader s later
    cases hread : Http.Head.read reader s with
    | more => simp [judge, hread] at h
    | bad =>
      have hlater := hpersists (by simp [hread])
      simpa [judge, hread, hlater] using h
    | done head rest =>
      have hlater := hpersists (by simp [hread])
      cases hframed : head.framing? with
      | none => simpa [judge, hread, hlater, hframed] using h
      | some framing =>
        have hshows : ShowsHead reader s head framing rest := ⟨hread, hframed⟩
        rw [hshows.judge_eq] at h
        rw [hshows.append.judge_eq]
        exact judgeHead_append h

/-! ## Which responses tell what -/

/-- The client is sent elsewhere by a head that leads there. -/
theorem judge_eq_redirected_iff {next : Http.Request} :
    judge reader request s closed = some (.redirected next) ↔
      ∃ head framing rest, ShowsHead reader s head framing rest ∧
        head.redirect? request = some next := by
  constructor
  · intro h
    rcases showsHead_or_judge reader request s closed with
      ⟨head, framing, rest, hshows⟩ | hnone | hbad
    · refine ⟨head, framing, rest, hshows, ?_⟩
      rw [hshows.judge_eq, judgeHead] at h
      cases hredirect : head.redirect? request with
      | some next => simpa [hredirect] using h
      | none =>
        simp only [hredirect] at h
        split at h
        case isTrue => simp at h
        case isFalse => simp at h
    · simp [hnone] at h
    · simp [hbad] at h
  · intro hparts
    obtain ⟨head, framing, rest, hshows, hredirect⟩ := hparts
    rw [hshows.judge_eq, judgeHead, hredirect]

end HealthPanel.Probe
