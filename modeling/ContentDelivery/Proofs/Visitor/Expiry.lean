/-
ContentDelivery.Proofs.Visitor.Expiry — when a session is expired.

Both the difference of two instants and the timeout are held within 64
bits. `isExpired_iff` says what comes of it in whole numbers without
bounds: a session is expired if its last activity lies more than the
timeout back, and if there can be such a difference at all. So a session
is not expired at the instant of its last activity, and once expired it
stays so for as long as its timestamp and its timeout stay.

The bounds show in one place only (`expiry_exact`). A difference that is
cut to the largest number of 64 bits is still more than every smaller
timeout, and a negative one is less than all of them; but no difference
is more than a timeout of that size, so that it never ends a session.
-/
import ContentDelivery.Visitor.Session
import Mathlib.Algebra.Group.Int.Defs
import Mathlib.Data.Int.Order.Basic

namespace ContentDelivery.Session

variable {now : Int64} {s : Session}

theorem toInt_ofIntClamp (i : Int) :
    (Int64.ofIntClamp i).toInt = max Int64.minValue.toInt (min i Int64.maxValue.toInt) := by
  have ordered : Int64.minValue.toInt ≤ Int64.maxValue.toInt := by decide
  unfold Int64.ofIntClamp
  split
  · split
    · rw [Int64.toInt_ofIntLE]
      omega
    · omega
  · omega

theorem toInt_elapsed (now startedAt : Int64) :
    (elapsed now startedAt).toInt =
      max (-2 ^ 63) (min (now.toInt - startedAt.toInt) (2 ^ 63 - 1)) := by
  rw [elapsed, toInt_ofIntClamp, Int64.toInt_minValue, Int64.toInt_maxValue]

theorem toInt_timeoutSeconds (s : Session) :
    s.timeoutSeconds.toInt = min (s.timeout.seconds.toNat : Int) (2 ^ 63 - 1) := by
  rw [timeoutSeconds, toInt_ofIntClamp, Int64.toInt_minValue, Int64.toInt_maxValue]
  omega

/-- The difference of two words serves as well wherever it does not wrap, and nowhere else: one that
wraps is on the wrong side of zero. -/
theorem elapsed_eq_sub_iff (now startedAt : Int64) :
    elapsed now startedAt = now - startedAt ↔
      (now - startedAt).toInt = now.toInt - startedAt.toInt := by
  rw [← Int64.toInt_inj, toInt_elapsed, Int64.toInt_sub, Int.bmod_def]
  have := now.le_toInt
  have := now.toInt_lt
  have := startedAt.le_toInt
  have := startedAt.toInt_lt
  split <;> omega

/-- A session is expired if the seconds since its last activity are more than its timeout, unless no
difference can be more than that. -/
theorem isExpired_iff : s.isExpired now = true ↔
    ∃ startedAt, s.startedAt = some startedAt ∧
      (s.timeout.seconds.toNat : Int) < now.toInt - startedAt.toInt ∧
      (s.timeout.seconds.toNat : Int) < Int64.maxValue.toInt := by
  unfold isExpired
  cases s.startedAt with
  | none => simp
  | some startedAt =>
    simp only [decide_eq_true_eq, Int64.lt_iff_toInt_lt, toInt_timeoutSeconds, toInt_elapsed,
      Int64.toInt_maxValue, Option.some.injEq, exists_eq_left']
    omega

/-- At the instant of its last activity a session is not expired. -/
theorem not_isExpired_of_startedAt (active : s.startedAt = some now) : s.isExpired now = false := by
  rw [← Bool.not_eq_true, isExpired_iff]
  rintro ⟨startedAt, started, elapsed, -⟩
  obtain rfl := Option.some.inj (active.symm.trans started)
  omega

/-- Once expired, a session stays so, whatever else becomes of it. -/
theorem isExpired_mono {t : Session} (startedAt : t.startedAt = s.startedAt)
    (timeout : t.timeout = s.timeout) {later : Int64} (ordered : now ≤ later)
    (expired : s.isExpired now = true) : t.isExpired later = true := by
  obtain ⟨started, started_eq, elapsed, bounded⟩ := isExpired_iff.mp expired
  refine isExpired_iff.mpr ⟨started, startedAt.trans started_eq, ?_, ?_⟩
  · rw [timeout]
    have := Int64.le_iff_toInt_le.mp ordered
    omega
  · rw [timeout]
    exact bounded

/-- Timeouts that differ in nothing but the fraction of a second expire together. -/
theorem isExpired_setTimeout_of_seconds {timeout : Duration}
    (same : timeout.seconds = s.timeout.seconds) :
    (s.setTimeout timeout).isExpired now = s.isExpired now := by
  have same_bound : (s.setTimeout timeout).timeoutSeconds = s.timeoutSeconds := by
    simp only [timeoutSeconds, setTimeout, same]
  unfold isExpired
  rw [same_bound]
  rfl

/-- **Expiry is exact.** Whatever the instants and the timeout: below `2 ^ 63 - 1` seconds of timeout
a session is expired if its last activity lies more than those seconds back, in numbers without
bounds; with a timeout of `2 ^ 63 - 1` seconds or more, or without activity, it never is. Nothing
wraps on the way: what is compared is the difference and the timeout as they are, or the bound that
they pass, and it is the difference of the two words just where that one is the true one. Fractions
of a second in the timeout have no say. -/
theorem expiry_exact (now : Int64) (s : Session) :
    let timeout : Int := s.timeout.seconds.toNat
    (∀ startedAt, s.startedAt = some startedAt → timeout < 2 ^ 63 - 1 →
      (s.isExpired now = true ↔ timeout < now.toInt - startedAt.toInt)) ∧
    (2 ^ 63 - 1 ≤ timeout → s.isExpired now = false) ∧
    (s.startedAt = none → s.isExpired now = false) ∧
    (∀ startedAt : Int64,
      (elapsed now startedAt).toInt =
        max (-2 ^ 63) (min (now.toInt - startedAt.toInt) (2 ^ 63 - 1)) ∧
      (elapsed now startedAt = now - startedAt ↔
        (now - startedAt).toInt = now.toInt - startedAt.toInt)) ∧
    s.timeoutSeconds.toInt = min timeout (2 ^ 63 - 1) ∧
    ∀ d : Duration, d.seconds = s.timeout.seconds →
      (s.setTimeout d).isExpired now = s.isExpired now := by
  intro timeout
  refine ⟨?_, ?_, ?_, fun startedAt => ⟨toInt_elapsed .., elapsed_eq_sub_iff ..⟩,
    toInt_timeoutSeconds s, fun d => isExpired_setTimeout_of_seconds⟩
  · intro startedAt started bounded
    rw [isExpired_iff, Int64.toInt_maxValue]
    constructor
    · rintro ⟨_, started', elapsed, -⟩
      obtain rfl := Option.some.inj (started.symm.trans started')
      exact elapsed
    · intro elapsed
      exact ⟨startedAt, started, elapsed, bounded⟩
  · intro unbounded
    rw [← Bool.not_eq_true, isExpired_iff, Int64.toInt_maxValue]
    rintro ⟨_, -, -, bounded⟩
    omega
  · intro no_activity
    rw [← Bool.not_eq_true, isExpired_iff]
    rintro ⟨_, started, -⟩
    exact absurd (no_activity.symm.trans started) nofun

/-- The last activity as far back as can be, and the largest timeout that can pass, with nearly a
second more: the session is expired from the instant on that lies a second past the timeout, up to
the last instant, whose difference does not fit 64 bits. -/
theorem expiry_exact_at_bounds :
    let s : Session :=
      { tntId := none, thirdPartyId := none, edgeHost := none, id := "sid"
        startedAt := some Int64.minValue
        timeout := { seconds := 9223372036854775806, nanos := 999999999 } }
    let never := s.setTimeout (.ofSeconds 9223372036854775807)
    let unused : Session := { s with startedAt := none }
    s.isExpired (-2) = false ∧ s.isExpired (-1) = true ∧ s.isExpired Int64.maxValue = true ∧
      (s.setTimeout (.ofSeconds 9223372036854775806)).isExpired (-1) = true ∧
      never.isExpired Int64.maxValue = false ∧ unused.isExpired Int64.maxValue = false := by
  intro s never unused
  have exact_at (now : Int64) :
      s.isExpired now = true ↔ (9223372036854775806 : Int) < now.toInt - Int64.minValue.toInt :=
    (expiry_exact now s).1 Int64.minValue rfl (by decide)
  have before_last : s.isExpired (-1) = true := (exact_at (-1)).mpr (by decide)
  refine ⟨?_, before_last, (exact_at _).mpr (by decide), ?_, ?_, ?_⟩
  · rw [← Bool.not_eq_true, exact_at]
    decide
  · exact ((expiry_exact (-1) s).2.2.2.2.2 _ rfl).trans before_last
  · exact (expiry_exact Int64.maxValue never).2.1 (by decide)
  · exact (expiry_exact Int64.maxValue unused).2.2.1 rfl

end ContentDelivery.Session
