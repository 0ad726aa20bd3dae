/-
ContentDelivery.Proofs.Url.Spelling — what is left of the end of a name.

Before its labels are read, a name is decoded, folded and composed. What
stands at its end in ASCII, spelled the way it is to be, goes through
all of this as it is, whatever characters precede it: no byte of another
character is one of ASCII (`exists_eq_append_of_text?`), characters are
folded one by one, and an ASCII character is neither a mark nor the last
part of a composite (`compose_append_ascii`).
-/
import ContentDelivery.Url.Host
import Mathlib.Data.List.Induction

namespace ContentDelivery

/-! ## Items read one by one -/

section

variable {α β : Type} {f : α → Option β} {xs ys : List α} {zs : List β}

theorem exists_of_mapM_append (read : (xs ++ ys).mapM f = some zs) :
    ∃ us vs, xs.mapM f = some us ∧ ys.mapM f = some vs ∧ zs = us ++ vs := by
  rw [List.mapM_append] at read
  obtain ⟨us, read_xs, read⟩ := Option.bind_eq_some_iff.mp read
  obtain ⟨vs, read_ys, read⟩ := Option.bind_eq_some_iff.mp read
  exact ⟨us, vs, read_xs, read_ys, (Option.some.inj read).symm⟩

theorem ne_nil_of_mapM (read : xs.mapM f = some zs) (something : xs ≠ []) : zs ≠ [] := by
  obtain ⟨x, xs, rfl⟩ := List.exists_cons_of_ne_nil something
  rw [List.mapM_cons] at read
  obtain ⟨z, -, read⟩ := Option.bind_eq_some_iff.mp read
  obtain ⟨others, -, read⟩ := Option.bind_eq_some_iff.mp read
  obtain rfl := Option.some.inj read
  exact List.cons_ne_nil z others

end

/-! ## Bytes -/

theorem utf8EncodeChar_of_ascii {c : Char} (ascii : c.toNat < 128) :
    String.utf8EncodeChar c = [UInt8.ofNat c.toNat] := by
  have small : c.val.toNat ≤ 127 := Nat.le_of_lt_succ ascii
  rw [String.utf8EncodeChar, if_pos small]
  rfl

/-- The bytes of a character beyond ASCII end in one that belongs to no character of ASCII. -/
theorem exists_utf8EncodeChar_eq_append {c : Char} (beyond : 128 ≤ c.toNat) :
    ∃ front last, String.utf8EncodeChar c = front ++ [last] ∧ 128 ≤ last.toNat := by
  have continued (v : Nat) : 128 ≤ (UInt8.ofNat (v % 64 + 128)).toNat := by
    rw [UInt8.toNat_ofNat']
    omega
  have large : ¬c.val.toNat ≤ 127 := Nat.not_le.mpr beyond
  unfold String.utf8EncodeChar
  dsimp only
  rw [if_neg large]
  split
  · exact ⟨[_], _, rfl, continued _⟩
  · split
    · exact ⟨[_, _], _, rfl, continued _⟩
    · exact ⟨[_, _, _], _, rfl, continued _⟩

/-- The byte of an ASCII character ends no other one. -/
theorem append_utf8EncodeChar_inj {c d : Char} {front rest : List UInt8} (ascii : c.toNat < 128)
    (same : front ++ String.utf8EncodeChar d = rest ++ String.utf8EncodeChar c) :
    front = rest ∧ d = c := by
  rw [utf8EncodeChar_of_ascii ascii] at same
  rcases Nat.lt_or_ge d.toNat 128 with also_ascii | beyond
  · rw [utf8EncodeChar_of_ascii also_ascii] at same
    obtain ⟨rfl, bytes⟩ := List.append_singleton_inj.mp same
    have codes := congrArg UInt8.toNat bytes
    rw [UInt8.toNat_ofNat', UInt8.toNat_ofNat'] at codes
    exact ⟨rfl, Char.toNat_inj.mp (by omega)⟩
  · obtain ⟨init, last, encoded, high⟩ := exists_utf8EncodeChar_eq_append beyond
    rw [encoded, ← List.append_assoc] at same
    have codes := congrArg UInt8.toNat (List.append_singleton_inj.mp same).2
    rw [UInt8.toNat_ofNat'] at codes
    omega

/-- Where bytes end in those of an ASCII text, the characters that they spell end in it. -/
theorem exists_eq_append_of_flatMap {cs tail : List Char} {front : List UInt8}
    (ascii : ∀ c ∈ tail, c.toNat < 128)
    (same : cs.flatMap String.utf8EncodeChar = front ++ tail.flatMap String.utf8EncodeChar) :
    ∃ text, cs = text ++ tail := by
  induction tail using List.reverseRecOn generalizing cs with
  | nil => exact ⟨cs, (List.append_nil cs).symm⟩
  | append_singleton tail c ih =>
    rw [List.flatMap_append, List.flatMap_singleton, ← List.append_assoc] at same
    rcases List.eq_nil_or_concat cs with rfl | ⟨cs, d, rfl⟩
    · rw [utf8EncodeChar_of_ascii (ascii c (by simp))] at same
      simp at same
    · rw [List.concat_eq_append] at same ⊢
      rw [List.flatMap_append, List.flatMap_singleton] at same
      obtain ⟨fronts_same, rfl⟩ := append_utf8EncodeChar_inj (ascii c (by simp)) same
      obtain ⟨text, rfl⟩ := ih (fun c among => ascii c (List.mem_append_left _ among)) fronts_same
      exact ⟨text, List.append_assoc ..⟩

theorem exists_eq_append_of_text? {front : List UInt8} {tail : List Char} {s : String}
    (ascii : ∀ c ∈ tail, c.toNat < 128)
    (read : text? (front ++ tail.flatMap String.utf8EncodeChar) = some s) :
    ∃ text, s.toList = text ++ tail :=
  exists_eq_append_of_flatMap ascii (text?_eq_some.mp read)

namespace Url.Label

open Text (combiningClass)

/-! ## Folding -/

/-- Characters are folded one by one. -/
theorem exists_of_foldAll?_append {front tail codePoints : List Nat}
    (folded : foldAll? (front ++ tail) = some codePoints) :
    ∃ first second, foldAll? front = some first ∧ foldAll? tail = some second ∧
      codePoints = first ++ second := by
  obtain ⟨_, read, rfl⟩ := Option.map_eq_some_iff.mp folded
  obtain ⟨firsts, seconds, read_front, read_tail, rfl⟩ := exists_of_mapM_append read
  exact ⟨firsts.flatten, seconds.flatten, by rw [foldAll?, read_front]; rfl,
    by rw [foldAll?, read_tail]; rfl, List.flatten_append⟩

/-! ## Composition -/

theorem combiningClass_of_ascii {codePoint : Nat} (ascii : codePoint < 128) :
    combiningClass codePoint = 0 :=
  if_pos (Nat.lt_trans ascii (by decide))

theorem parts_of_ascii {codePoint : Nat} (ascii : codePoint < 128) :
    parts codePoint = [codePoint] :=
  if_pos (Nat.lt_trans ascii (by decide))

/-- A character of ASCII is not the last part of a composite. -/
theorem ofParts?_append_ascii {codePoint : Nat} (ascii : codePoint < 128) (first : List Nat) :
    ofParts? (first ++ [codePoint]) = none := by
  have no_mark : codePoint < Text.firstMark := Nat.lt_trans ascii (by decide)
  exact if_pos (by simp [no_mark])

theorem insertByClass_append_ascii {tail : List Nat} (ascii : ∀ n ∈ tail, n < 128)
    (codePoint : Nat) (codePoints : List Nat) :
    insertByClass codePoint (codePoints ++ tail) = insertByClass codePoint codePoints ++ tail := by
  induction codePoints with
  | nil =>
    cases tail with
    | nil => rfl
    | cons next tail =>
      have no_mark := combiningClass_of_ascii (ascii next List.mem_cons_self)
      simp [insertByClass, no_mark]
  | cons next codePoints ih =>
    simp only [List.cons_append, insertByClass]
    split
    · rw [ih, List.cons_append]
    · rfl

theorem decompose_of_ascii {codePoints : List Nat} (ascii : ∀ n ∈ codePoints, n < 128) :
    decompose codePoints = codePoints := by
  induction codePoints with
  | nil => rfl
  | cons n ns ih =>
    obtain ⟨first, others⟩ := List.forall_mem_cons.mp ascii
    have step : decompose (n :: ns) = insertByClass n (decompose ns) := by
      rw [decompose, List.flatMap_cons, parts_of_ascii first]
      rfl
    rw [step, ih others]
    exact insertByClass_append_ascii others n []

theorem decompose_append_ascii (codePoints : List Nat) {tail : List Nat}
    (ascii : ∀ n ∈ tail, n < 128) :
    decompose (codePoints ++ tail) = decompose codePoints ++ tail := by
  have rest : (tail.flatMap parts).foldr insertByClass [] = tail := decompose_of_ascii ascii
  unfold decompose
  rw [List.flatMap_append, List.foldr_append, rest]
  induction codePoints.flatMap parts with
  | nil => rfl
  | cons n ns ih => rw [List.foldr_cons, ih, insertByClass_append_ascii ascii, List.foldr_cons]

/-- A letter is joined with no character of ASCII, and with nothing behind one. -/
theorem composeFrom_append_ascii (letter : Nat) (passed rest : List Nat) {tail : List Nat}
    (ascii : ∀ n ∈ tail, n < 128) :
    composeFrom letter passed (rest ++ tail) = composeFrom letter passed rest ++ tail := by
  induction rest generalizing letter passed with
  | nil =>
    induction tail generalizing letter passed with
    | nil => exact (List.append_nil _).symm
    | cons next tail ih =>
      obtain ⟨next_ascii, others⟩ := List.forall_mem_cons.mp ascii
      have no_mark := combiningClass_of_ascii next_ascii
      have stays := ih others next []
      simp only [List.nil_append] at stays ⊢
      simp [composeFrom, ofParts?_append_ascii next_ascii, no_mark, stays]
  | cons next rest ih =>
    simp only [List.cons_append, composeFrom]
    split
    · exact ih _ _
    · split
      · rw [ih, List.cons_append, List.append_assoc]
      · exact ih _ _

/-- **What stands at the end in ASCII is composed with nothing.** -/
theorem compose_append_ascii (codePoints : List Nat) {tail : List Nat}
    (ascii : ∀ n ∈ tail, n < 128) : compose (codePoints ++ tail) = compose codePoints ++ tail := by
  unfold compose
  rw [decompose_append_ascii codePoints ascii]
  cases decompose codePoints with
  | nil =>
    cases tail with
    | nil => rfl
    | cons letter tail =>
      exact composeFrom_append_ascii letter [] [] (List.forall_mem_cons.mp ascii).2
  | cons letter rest => exact composeFrom_append_ascii letter [] rest ascii

end Url.Label

end ContentDelivery
