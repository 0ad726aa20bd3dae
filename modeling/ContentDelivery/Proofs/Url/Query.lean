/-
ContentDelivery.Proofs.Url.Query — pairs that are put into a query can be read from it.

`Url.queryPairs_appendPairs`: whatever the query of a URL held, reading it
after some pairs were put behind it gives what was read before, followed
by exactly these pairs. A name or a value may be any text.

From the pieces to the whole: a byte is read from its percent encoding, a
text from its encoded characters (`decodeText_encodeText`), and a pair
from its piece, since an encoded text holds neither an equals sign nor an
ampersand. `Url.value?` looks a name up; of a repeated name the last
value counts, so that pairs that a host brings along do not hide those
that were put behind them.
-/
import ContentDelivery.Exchange.Endpoint
import Mathlib.Data.List.Basic

namespace ContentDelivery

namespace Url

/-! ## Characters -/

namespace Percent

theorem decode_encodeByte (b : UInt8) (rest : List Char) :
    decode (encodeByte b ++ rest) = b :: decode rest := by
  have small : b.toNat < 256 := b.toNat_lt
  have high : b.toNat / 16 < 16 := by omega
  have low : b.toNat % 16 < 16 := by omega
  have recombined : b.toNat / 16 * 16 + b.toNat % 16 = b.toNat := by omega
  simp [encodeByte, Text.Hex.ofByte, decode, Text.Hex.digit?_upper high, Text.Hex.digit?_upper low,
    recombined]

theorem decode_cons_of_ne {c : Char} (not_percent : c ≠ '%') (rest : List Char) :
    decode (c :: rest) = String.utf8EncodeChar c ++ decode rest := by
  rw [decode]
  rintro _ _ _ rfl
  exact absurd rfl not_percent

/-- The capital digits are no separators and no plus signs. -/
theorem digit_ne {n : Nat} (h : n < 16) :
    Text.Hex.digit Text.Hex.upperDigits n ∉ ['+', '&', '='] := by
  have all : ∀ m ∈ List.range 16, Text.Hex.digit Text.Hex.upperDigits m ∉ ['+', '&', '='] := by
    decide
  exact all n (List.mem_range.mpr h)

theorem encodeByte_free {b : UInt8} {c : Char} (h : c ∈ encodeByte b) : c ∉ ['+', '&', '='] := by
  have small : b.toNat < 256 := b.toNat_lt
  simp only [encodeByte, Text.Hex.ofByte, List.mem_cons, List.not_mem_nil, or_false] at h
  rcases h with rfl | rfl | rfl
  · decide
  · exact digit_ne (by omega)
  · exact digit_ne (by omega)

end Percent

namespace Form

/-- What stands for itself is no mark of the encoding. -/
theorem ne_of_isKept {c : Char} (kept : isKept c = true) : c ∉ ['%', '+', '&', '='] := by
  intro mark
  simp only [List.mem_cons, List.not_mem_nil, or_false] at mark
  rcases mark with rfl | rfl | rfl | rfl <;> exact absurd kept (by decide)

/-- No separator occurs in an encoded text. -/
theorem encodeChar_free {c d : Char} (h : d ∈ encodeChar c) : d ≠ '&' ∧ d ≠ '=' := by
  unfold encodeChar Percent.encodeChar at h
  split at h
  · obtain rfl := List.mem_singleton.mp h
    decide
  · split at h
    · next kept =>
      obtain rfl := List.mem_singleton.mp h
      have free := ne_of_isKept kept
      simp only [List.mem_cons, List.not_mem_nil, or_false, not_or] at free
      exact free.2.2
    · obtain ⟨b, -, among⟩ := List.mem_flatMap.mp h
      have free := Percent.encodeByte_free among
      simp only [List.mem_cons, List.not_mem_nil, or_false, not_or] at free
      exact free.2

theorem encodeText_free {cs : List Char} {d : Char} (h : d ∈ encodeText cs) :
    d ≠ '&' ∧ d ≠ '=' := by
  obtain ⟨c, -, among⟩ := List.mem_flatMap.mp h
  exact encodeChar_free among

/-! ## Texts -/

/-- Plus signs are read as blanks before anything else. -/
def readPlus (c : Char) : Char := if c = '+' then ' ' else c

theorem decodeText_eq (cs : List Char) : decodeText cs = Percent.decode (cs.map readPlus) := rfl

theorem map_readPlus_encodeByte (b : UInt8) :
    (Percent.encodeByte b).map readPlus = Percent.encodeByte b := by
  have untouched : ∀ c ∈ Percent.encodeByte b, readPlus c = id c := by
    intro c among
    refine if_neg fun plus => ?_
    exact Percent.encodeByte_free among (by simp [plus])
  rw [List.map_congr_left untouched, List.map_id]

theorem decode_encodeBytes (bytes : List UInt8) (rest : List Char) :
    Percent.decode ((bytes.flatMap Percent.encodeByte).map readPlus ++ rest) =
      bytes ++ Percent.decode rest := by
  induction bytes with
  | nil => rfl
  | cons b bytes ih =>
    rw [List.flatMap_cons, List.map_append, map_readPlus_encodeByte, List.append_assoc,
      Percent.decode_encodeByte, ih, List.cons_append]

theorem decode_encodeChar (c : Char) (rest : List Char) :
    Percent.decode ((encodeChar c).map readPlus ++ rest) =
      String.utf8EncodeChar c ++ Percent.decode rest := by
  unfold encodeChar
  split
  · next blank =>
    rw [blank]
    exact Percent.decode_cons_of_ne (by decide) rest
  · unfold Percent.encodeChar
    split
    · next kept =>
      have free := ne_of_isKept kept
      simp only [List.mem_cons, List.not_mem_nil, or_false, not_or] at free
      have same : readPlus c = c := if_neg free.2.1
      rw [List.map_singleton, same, List.singleton_append]
      exact Percent.decode_cons_of_ne free.1 rest
    · exact decode_encodeBytes _ rest

theorem decodeText_encodeText (cs : List Char) :
    decodeText (encodeText cs) = cs.flatMap String.utf8EncodeChar := by
  rw [decodeText_eq]
  induction cs with
  | nil => rfl
  | cons c cs ih =>
    rw [encodeText, List.flatMap_cons, List.map_append, decode_encodeChar, ← encodeText, ih,
      List.flatMap_cons]

/-! ## Pairs -/

theorem decodePair_encodePair (pair : String × String) :
    decodePair (encodePair pair) = (utf8 pair.1, utf8 pair.2) := by
  have name_free : ∀ c ∈ encodeText pair.1.toList, (c != '=') = true := by
    intro c among
    exact bne_iff_ne.mpr (encodeText_free among).2
  have name_eq : (encodePair pair).takeWhile (· != '=') = encodeText pair.1.toList := by
    rw [encodePair, List.takeWhile_append_of_pos name_free]
    simp
  have value_eq : ((encodePair pair).dropWhile (· != '=')).drop 1 = encodeText pair.2.toList := by
    rw [encodePair, List.dropWhile_append_of_pos name_free]
    simp
  rw [decodePair, name_eq, value_eq, decodeText_encodeText, decodeText_encodeText]
  rfl

/-- The piece of a pair is one piece. -/
theorem splitPairs_encodePair (pair : String × String) :
    splitPairs (encodePair pair) = [encodePair pair] := by
  refine List.splitOnP_eq_singleton ?_
  intro c among
  rcases List.mem_append.mp among with in_name | behind
  · exact beq_eq_false_iff_ne.mpr (encodeText_free in_name).1
  · rcases List.mem_cons.mp behind with rfl | in_value
    · decide
    · exact beq_eq_false_iff_ne.mpr (encodeText_free in_value).1

theorem decode_encodePair (pair : String × String) :
    decode (encodePair pair) = [(utf8 pair.1, utf8 pair.2)] := by
  have says_something : (encodePair pair).isEmpty = false := by simp [encodePair]
  simp only [decode, splitPairs_encodePair, List.filter_cons, says_something, Bool.not_false,
    if_true, List.filter_nil, List.map_singleton, decodePair_encodePair]

/-- A pair that is put into a query is read last. -/
theorem decode_appendPair (query : List Char) (pair : String × String) :
    decode (appendPair query pair) = decode query ++ [(utf8 pair.1, utf8 pair.2)] := by
  unfold appendPair
  split
  · next empty =>
    rw [List.isEmpty_iff.mp empty, decode_encodePair]
    rfl
  · have pieces : splitPairs (query ++ '&' :: encodePair pair) =
        splitPairs query ++ splitPairs (encodePair pair) :=
      List.splitOnP_append_cons query (encodePair pair) (by decide)
    rw [← decode_encodePair, decode, pieces, List.filter_append, List.map_append]
    rfl

end Form

/-! ## Queries -/

/-- The pairs that the query of a URL holds, as bytes. -/
def queryPairs (u : Url) : List (List UInt8 × List UInt8) := Form.decode (u.query.getD [])

/-- The pairs that the query of a URL holds, as texts where they spell any. -/
def queryTexts (u : Url) : List (Option String × Option String) :=
  u.queryPairs.map fun pair => (text? pair.1, text? pair.2)

/-- The value of a name in the query, as bytes; of a repeated name the last one counts. -/
def value? (name : String) (u : Url) : Option (List UInt8) :=
  ((u.queryPairs.filter fun pair => pair.1 == utf8 name).getLast?).map (·.2)

/-- **Pairs that are put into a query are read from it**, behind what it held before. -/
theorem queryPairs_appendPairs (pairs : List (String × String)) (u : Url) :
    (u.appendPairs pairs).queryPairs =
      u.queryPairs ++ pairs.map fun pair => (utf8 pair.1, utf8 pair.2) := by
  unfold queryPairs appendPairs
  rw [Option.getD_some]
  generalize u.query.getD [] = query
  induction pairs generalizing query with
  | nil => simp
  | cons pair pairs ih =>
    rw [List.foldl_cons, ih, Form.decode_appendPair, List.map_cons, List.append_assoc]
    rfl

theorem queryTexts_appendPairs (pairs : List (String × String)) (u : Url) :
    (u.appendPairs pairs).queryTexts =
      u.queryTexts ++ pairs.map fun pair => (some pair.1, some pair.2) := by
  unfold queryTexts
  rw [queryPairs_appendPairs, List.map_append, List.map_map]
  simp only [Function.comp_def, text?_utf8]

end Url

/-- A request tells the session's id as the value of that name. -/
theorem Endpoint.value?_of_url? {configuration : Configuration} {edgeHost : Option String}
    {sessionId : String} {url : Url}
    (h : Endpoint.url? configuration edgeHost sessionId = some url) :
    url.value? "sessionId" = some (utf8 sessionId) := by
  obtain ⟨base, -, rfl⟩ := Option.map_eq_some_iff.mp h
  unfold Url.value?
  rw [Url.queryPairs_appendPairs, List.filter_append]
  simp [Endpoint.query]

end ContentDelivery
