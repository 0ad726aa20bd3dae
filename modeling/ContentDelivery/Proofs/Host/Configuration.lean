/-
ContentDelivery.Proofs.Host.Configuration — what a configuration loses when it is written.

A configuration that is written and read is the same but for the fraction
of a second in its session timeout (`Configuration.ofJson?_toJson`), as
long as its network timeout is a whole number of seconds below `2 ^ 53`.
The network timeout goes through floating-point seconds. Whole numbers of
that size are floating-point numbers, so no step of that way rounds
(`Binary64.IsWhole`): not the conversion, not the quotient of no
nanoseconds, not the sum, and not the way back to nanoseconds.
-/
import ContentDelivery.Host.Configuration
import ContentDelivery.Proofs.Json.ReadBack
import ContentDelivery.Proofs.Number.Binary64

namespace ContentDelivery

open Json (Syntax)

/-! ## Durations as seconds -/

namespace Duration

/-- A whole number of seconds, small enough that all of them are floating-point numbers. -/
structure IsExact (d : Duration) : Prop where
  whole : d.nanos = 0
  small : d.seconds.toNat < 2 ^ 53

theorem IsExact.ofSeconds_seconds {d : Duration} (exact : d.IsExact) : ofSeconds d.seconds = d := by
  obtain ⟨seconds, nanos, nanos_lt⟩ := d
  obtain rfl : nanos = 0 := exact.whole
  rfl

theorem IsExact.isWhole_toBinary64 {d : Duration} (exact : d.IsExact) :
    Binary64.IsWhole d.seconds.toNat d.toBinary64 := by
  have seconds : Binary64.IsWhole d.seconds.toNat (.ofNat d.seconds.toNat) :=
    Binary64.isWhole_ofNat exact.small
  have nanos : Binary64.IsWhole 0 (.ofNat d.nanos) := by
    rw [exact.whole]
    exact Binary64.isWhole_ofNat (by decide)
  have perSecond : Binary64.IsWhole nanosPerSecond (.ofNat nanosPerSecond) :=
    Binary64.isWhole_ofNat (by decide)
  have fraction := nanos.divMagnitudes_of_zero perSecond (by decide)
  exact seconds.addMagnitudes fraction exact.small

/-- A whole number is read without being rounded. -/
theorem ofBinary64?_of_isWhole {n : Nat} {x : Binary64} (whole : Binary64.IsWhole n x)
    (fits : n < UInt64.size) : ofBinary64? x = some (ofSeconds (.ofNat n)) := by
  have nanos :
      roundHalfEven (x.units * nanosPerSecond) Binary64.unitsPerOne = n * nanosPerSecond := by
    rw [whole.units, Nat.mul_right_comm]
    exact roundHalfEven_mul _ Binary64.unitsPerOne_pos
  have seconds : n * nanosPerSecond / nanosPerSecond = n := Nat.mul_div_cancel n (by decide)
  have rest : n * nanosPerSecond % nanosPerSecond = 0 := Nat.mul_mod_left n nanosPerSecond
  unfold ofBinary64?
  rw [whole.finite, whole.nonnegative, nanos]
  simp [ofNanos?, seconds, rest, fits, ofSeconds]

theorem IsExact.ofBinary64?_toBinary64 {d : Duration} (exact : d.IsExact) :
    ofBinary64? d.toBinary64 = some d := by
  rw [ofBinary64?_of_isWhole exact.isWhole_toBinary64 d.seconds.toNat_lt_size, UInt64.ofNat_toNat,
    exact.ofSeconds_seconds]

/-- The first whole number of seconds that is no floating-point number is rounded to its even
neighbour. -/
example : ofBinary64? (ofSeconds 9007199254740993).toBinary64 =
    some (ofSeconds 9007199254740992) := by decide +kernel

/-- How a duration is read from a number of seconds. -/
theorem IsExact.readsBack {d : Duration} (exact : d.IsExact) :
    Json.ReadsBack (fun d => .float d.toBinary64)
      (fun s => s.readBinary64?.bind ofBinary64?) d := by
  have number : (Json.float d.toBinary64).toSyntax.readBinary64? = some d.toBinary64 :=
    Json.readsBack_float exact.isWhole_toBinary64.finite
  rw [Json.ReadsBack, number, Option.bind_some, exact.ofBinary64?_toBinary64]

end Duration

/-! ## Configurations -/

theorem Privacy.readsBack (p : Privacy) :
    Json.ReadsBack (fun p => .string p.name) Privacy.ofSyntax? p := Privacy.ofName?_name p

namespace Configuration

/-- The configuration without the fraction of a second in its session timeout. -/
def wholeSeconds (c : Configuration) : Configuration :=
  { c with sessionTimeout := c.sessionTimeout.map Duration.truncate }

/-- Written and read, a configuration is the same but for the fraction of its session timeout. -/
theorem ofJson?_toJson {c : Configuration} (exact : c.networkTimeout.IsExact) :
    ofJson? c.toJson = some c.wholeSeconds := by
  have record : c.toJson.toSyntax.readRecord? fieldNames = some c.toJson.toRecord :=
    Syntax.readRecord?_ofFields fieldNames _
  -- Every field is written, so each is found where its name stands in the list.
  have distinct : fieldNames.Nodup := by decide
  have clientCode : c.toJson.toRecord.required? "clientCode" Syntax.readText? = some c.clientCode :=
    Syntax.Record.required?_eq_some (Json.field?_ofFields_of_mem distinct (by simp))
      (Json.readsBack_text c.clientCode)
  have environmentId : c.toJson.toRecord.optional? "environmentId" Syntax.readInt64? 0 =
      some c.environmentId :=
    Syntax.Record.optional?_eq_some (Json.field?_ofFields_of_mem distinct (by simp))
      (Json.readsBack_int64 c.environmentId)
  have propertyToken : c.toJson.toRecord.nullable? "propertyToken" Syntax.readText? =
      some c.propertyToken :=
    Syntax.Record.nullable?_of_textOrNull (Json.field?_ofFields_of_mem distinct (by simp))
  have targetServer : c.toJson.toRecord.nullable? "targetServer" Syntax.readText? =
      some c.targetServer :=
    Syntax.Record.nullable?_of_textOrNull (Json.field?_ofFields_of_mem distinct (by simp))
  have privacy : c.toJson.toRecord.optional? "privacy" Privacy.ofSyntax? .unknown =
      some c.privacy :=
    Syntax.Record.optional?_eq_some (Json.field?_ofFields_of_mem distinct (by simp))
      (Privacy.readsBack c.privacy)
  have networkTimeout : c.toJson.toRecord.optional? "networkTimeout"
      (fun t => t.readBinary64?.bind Duration.ofBinary64?) (.ofSeconds 2) =
        some c.networkTimeout :=
    Syntax.Record.optional?_eq_some (Json.field?_ofFields_of_mem distinct (by simp))
      exact.readsBack
  have sessionTimeout : c.toJson.toRecord.nullable? "sessionTimeout"
      (fun t => t.readUInt64?.map Duration.ofSeconds) =
        some (c.sessionTimeout.map Duration.truncate) := by
    have written : c.toJson.field? "sessionTimeout" =
        some ((c.sessionTimeout.map fun d => Json.int d.seconds.toNat).getD .null) :=
      Json.field?_ofFields_of_mem distinct (by simp)
    refine Syntax.Record.nullable?_of_orNull written (fun _ _ => Json.noConfusion) fun d _ => ?_
    rw [Json.readsBack_uint64 d.seconds, Option.map_some, Duration.truncate]
  simp [ofJson?, ofSyntax?, record, clientCode, environmentId, propertyToken, targetServer,
    privacy, networkTimeout, sessionTimeout, wholeSeconds]

end Configuration

end ContentDelivery
