/-
ContentDelivery.Proofs.Json.Numbers — the numbers that a JSON text can hold.

`Syntax.Sound` says of a tree that every number in it is one of these: a
whole number of 64 bits, signed or not, or a finite one. The tree of
every text is sound (`sound_of_ofText?`), because numerals beyond the
floating-point numbers stand for nothing; so is every part of a sound
tree, and what a record has under its names.
-/
import ContentDelivery.Json.Decoding
import ContentDelivery.Proofs.Number.Binary64
import Mathlib.Data.List.Induction

namespace ContentDelivery

/-- A number that JSON has. -/
def JsonNumber.IsJson : JsonNumber → Prop
  | .int n => -2 ^ 63 ≤ n ∧ n < 2 ^ 64
  | .float x => x.isFinite = true

namespace Json

/-! ## Numerals -/

namespace Numeral

/-- What of the digits does not fit 64 bits is dropped. -/
theorem wholeSignificand_lt (ds : List Nat) : (wholeSignificand ds).1 < significandLimit := by
  unfold wholeSignificand
  induction ds using List.reverseRecOn with
  | nil => exact Nat.two_pow_pos 64
  | append_singleton ds d ih =>
    rw [List.foldl_append, List.foldl_cons, List.foldl_nil]
    generalize ds.foldl _ _ = significand at ih
    simp only
    split
    · next fits => exact fits.2
    · exact ih

theorem appendFraction_lt {value : Nat} (exponent : Int) (ds : List Nat)
    (small : value < significandLimit) :
    (appendFraction value exponent ds).1 < significandLimit := by
  induction ds generalizing value exponent with
  | nil => exact small
  | cons d ds ih =>
    rw [appendFraction]
    split
    · next fits => exact ih _ fits
    · exact small

theorem isFinite_ofNat {value : Nat} (small : value < significandLimit) :
    (Binary64.ofNat value).isFinite = true := by
  have bits : (value : Int).natAbs < 2 ^ 64 := small
  have nonneg : ¬ (value : Int) < 0 := Int.not_lt.mpr (Int.natCast_nonneg value)
  have same : Binary64.ofInt value = Binary64.ofNat value := by
    rw [Binary64.ofInt, Binary64.ofNat, decide_eq_false nonneg, Int.natAbs_natCast]
  rw [← same]
  exact Binary64.isFinite_ofInt bits (by decide)

theorem isJson_of_value? {n : Numeral} {number : JsonNumber} (meant : n.value? = some number) :
    number.IsJson := by
  unfold value? at meant
  have small := wholeSignificand_lt n.whole
  generalize wholeSignificand n.whole = significand at meant small
  obtain ⟨value, dropped⟩ := significand
  simp only at meant small
  have limit : significandLimit = 2 ^ 64 := rfl
  split at meant
  · split at meant
    · cases meant
      constructor <;> omega
    · split at meant
      · next fits =>
        cases meant
        rw [Nat.one_shiftLeft] at fits
        constructor <;> omega
      · cases meant
        exact (Binary64.isFinite_withSign true _).trans (isFinite_ofNat small)
  · obtain ⟨x, scaled, rfl⟩ := Option.map_eq_some_iff.mp meant
    have finite := isFinite_ofNat (appendFraction_lt dropped n.fraction small)
    exact (Binary64.isFinite_withSign _ x).trans (Binary64.isFinite_of_scaleByTen finite scaled)

end Numeral

namespace Syntax

/-! ## Trees -/

/-- The number stands somewhere in the tree. -/
inductive Holds (n : JsonNumber) : Syntax → Prop
  | number : Holds n (.number (some n))
  | item {items : List Syntax} {item : Syntax} (among : item ∈ items) (inside : Holds n item) :
    Holds n (.array items)
  | field {fields : List (Option String × Syntax)} {field : Option String × Syntax}
    (among : field ∈ fields) (inside : Holds n field.2) : Holds n (.object fields)

/-- Every number in the tree is one that JSON has. -/
def Sound (s : Syntax) : Prop := ∀ n, Holds n s → n.IsJson

theorem sound_null : Sound .null := nofun

theorem sound_bool (b : Bool) : Sound (.bool b) := nofun

theorem sound_string (text : Option String) : Sound (.string text) := nofun

theorem sound_number {value : Option JsonNumber} (sound : ∀ n ∈ value, n.IsJson) :
    Sound (.number value) := by
  rintro n ⟨⟩
  exact sound n rfl

theorem sound_array {items : List Syntax} : Sound (.array items) ↔ ∀ item ∈ items, item.Sound := by
  constructor
  · exact fun sound item among n inside => sound n (.item among inside)
  · rintro sound n ⟨⟩
    exact sound _ ‹_› n ‹_›

theorem sound_object {fields : List (Option String × Syntax)} :
    Sound (.object fields) ↔ ∀ field ∈ fields, field.2.Sound := by
  constructor
  · exact fun sound field among n inside => sound n (.field among inside)
  · rintro sound n ⟨⟩
    exact sound _ ‹_› n ‹_›

theorem sound_items_cons {item : Syntax} {items : List Syntax} (first : item.Sound)
    (others : Sound (.array items)) : Sound (.array (item :: items)) :=
  sound_array.mpr (List.forall_mem_cons.mpr ⟨first, sound_array.mp others⟩)

theorem sound_fields_cons {name : Option String} {value : Syntax}
    {fields : List (Option String × Syntax)} (first : value.Sound)
    (others : Sound (.object fields)) : Sound (.object ((name, value) :: fields)) :=
  sound_object.mpr (List.forall_mem_cons.mpr ⟨first, sound_object.mp others⟩)

/-! ## Texts -/

theorem sound_of_readNumber {cs : List Char} {value : Option JsonNumber} {rest : Rest cs}
    (read : readNumber cs = some (value, rest)) : Sound (.number value) := by
  refine sound_number fun n among => ?_
  unfold readNumber at read
  split at read
  · cases read
    exact Numeral.isJson_of_value? among
  · cases read

/-- What is read at the head of a text as a value is sound. -/
def SoundValue (cs : List Char) : Prop := ∀ s rest, readValue cs = some (s, rest) → s.Sound

def SoundItems (cs : List Char) : Prop :=
  ∀ items rest, readItems cs = some (items, rest) → Sound (.array items)

def SoundFields (cs : List Char) : Prop :=
  ∀ fields rest, readFields cs = some (fields, rest) → Sound (.object fields)

variable {cs : List Char}

/-- A value is sound if the items and fields of shorter texts are. -/
theorem soundValue_of_shorter
    (items : ∀ tail : List Char, tail.length < cs.length → SoundItems tail)
    (fields : ∀ tail : List Char, tail.length < cs.length → SoundFields tail) : SoundValue cs := by
  intro s rest read
  unfold readValue at read
  split at read
  case h_1 => cases read
  case h_2 =>
    obtain ⟨⟨text, after⟩, -, found⟩ := Option.bind_eq_some_iff.mp read
    cases found
    exact sound_string text
  case h_3 _ tail =>
    split at read
    · cases read
      exact sound_array.mpr (List.forall_mem_nil _)
    · obtain ⟨⟨found_items, after⟩, items_read, found⟩ := Option.bind_eq_some_iff.mp read
      cases found
      exact items tail (Nat.lt_succ_self _) found_items after items_read
  case h_4 _ tail =>
    split at read
    · cases read
      exact sound_object.mpr (List.forall_mem_nil _)
    · obtain ⟨⟨found_fields, after⟩, fields_read, found⟩ := Option.bind_eq_some_iff.mp read
      cases found
      exact fields tail (Nat.lt_succ_self _) found_fields after fields_read
  case h_5 =>
    obtain ⟨after, -, found⟩ := Option.bind_eq_some_iff.mp read
    cases found
    exact sound_null
  case h_6 | h_7 =>
    obtain ⟨after, -, found⟩ := Option.bind_eq_some_iff.mp read
    cases found
    exact sound_bool _
  case h_8 =>
    obtain ⟨⟨value, after⟩, number_read, found⟩ := Option.bind_eq_some_iff.mp read
    cases found
    exact sound_of_readNumber number_read

/-- What is behind the mark after a blank is shorter. -/
theorem length_lt_of_skipBlank {c : Char} {rest tail : List Char}
    (after : skipBlank rest = c :: tail) : tail.length < rest.length := by
  have shorter := skipBlank_length_le rest
  rw [after] at shorter
  exact shorter

theorem soundItems_of_shorter
    (value : ∀ tail : List Char, tail.length ≤ cs.length → SoundValue tail)
    (items : ∀ tail : List Char, tail.length < cs.length → SoundItems tail) : SoundItems cs := by
  intro found_items rest read
  rw [readItems] at read
  obtain ⟨⟨item, after⟩, item_read, found⟩ := Option.bind_eq_some_iff.mp read
  have item_sound := value _ (skipBlank_length_le cs) _ _ item_read
  simp only at found
  split at found
  · cases found
    exact sound_items_cons item_sound (sound_array.mpr (List.forall_mem_nil _))
  · next tail comma =>
    obtain ⟨⟨others, after_others⟩, others_read, found⟩ := Option.bind_eq_some_iff.mp found
    cases found
    have shorter : tail.length < cs.length :=
      (length_lt_of_skipBlank comma).trans (after.2.trans_le (skipBlank_length_le cs))
    exact sound_items_cons item_sound (items tail shorter _ _ others_read)
  · cases found

theorem soundFields_of_shorter
    (value : ∀ tail : List Char, tail.length ≤ cs.length → SoundValue tail)
    (fields : ∀ tail : List Char, tail.length < cs.length → SoundFields tail) : SoundFields cs := by
  intro found_fields rest read
  rw [readFields] at read
  simp only at read
  split at read
  · next name_tail quote =>
    obtain ⟨⟨name, after⟩, -, found⟩ := Option.bind_eq_some_iff.mp read
    simp only at found
    split at found
    · next value_tail colon =>
      have value_shorter : value_tail.length < cs.length :=
        (length_lt_of_skipBlank colon).trans (after.2.trans (length_lt_of_skipBlank quote))
      have blank := skipBlank_length_le value_tail
      obtain ⟨⟨found_value, after_value⟩, value_read, found⟩ := Option.bind_eq_some_iff.mp found
      have value_sound := value _ (blank.trans value_shorter.le) _ _ value_read
      simp only at found
      split at found
      · cases found
        exact sound_fields_cons value_sound (sound_object.mpr (List.forall_mem_nil _))
      · next tail comma =>
        obtain ⟨⟨others, after_others⟩, others_read, found⟩ := Option.bind_eq_some_iff.mp found
        cases found
        have shorter : tail.length < cs.length :=
          (length_lt_of_skipBlank comma).trans ((after_value.2.trans_le blank).trans value_shorter)
        exact sound_fields_cons value_sound (fields tail shorter _ _ others_read)
      · cases found
    · cases found
  · cases read

/-- Whatever the text, what is read of it is sound. An item or a field begins with a value that may
be as long as the text itself, so values are first among the texts of one length. -/
theorem sound_of_read (cs : List Char) : SoundValue cs ∧ SoundItems cs ∧ SoundFields cs := by
  induction length : cs.length using Nat.strongRecOn generalizing cs with
  | ind n ih =>
    subst length
    have shorter (tail : List Char) (lt : tail.length < cs.length) := ih tail.length lt tail rfl
    have value : ∀ tail : List Char, tail.length ≤ cs.length → SoundValue tail := by
      intro tail le
      exact soundValue_of_shorter (fun part lt => (shorter part (lt.trans_le le)).2.1)
        fun part lt => (shorter part (lt.trans_le le)).2.2
    exact ⟨value cs le_rfl, soundItems_of_shorter value fun tail lt => (shorter tail lt).2.1,
      soundFields_of_shorter value fun tail lt => (shorter tail lt).2.2⟩

/-- The tree of every text is sound. -/
theorem sound_of_ofText? {text : String} {s : Syntax} (read : ofText? text = some s) : s.Sound := by
  obtain ⟨⟨value, rest, shorter⟩, value_read, found⟩ := Option.bind_eq_some_iff.mp read
  obtain ⟨-, -, same⟩ := Option.bind_eq_some_iff.mp found
  cases same
  exact (sound_of_read _).1 _ _ value_read

/-! ## Records -/

/-- Each item of a list that was read comes from one of the items that it was read from. -/
theorem exists_of_mem_mapM {f : α → Option β} {xs : List α} {ys : List β}
    (read : xs.mapM f = some ys) {y : β} (among : y ∈ ys) : ∃ x ∈ xs, f x = some y := by
  induction xs generalizing ys with
  | nil =>
    cases read
    cases among
  | cons x xs ih =>
    rw [List.mapM_cons] at read
    obtain ⟨first, first_read, rest⟩ := Option.bind_eq_some_iff.mp read
    obtain ⟨others, others_read, same⟩ := Option.bind_eq_some_iff.mp rest
    cases same
    rcases List.mem_cons.mp among with rfl | later
    · exact ⟨x, List.mem_cons_self, first_read⟩
    · obtain ⟨x', among', read'⟩ := ih others_read later
      exact ⟨x', .tail _ among', read'⟩

theorem Record.mem_of_ofPairs {pairs : List (String × Syntax)} {name : String} {value : Syntax}
    (found : Record.ofPairs pairs name = some value) : ∃ pair ∈ pairs, pair.2 = value := by
  obtain ⟨pair, first, same⟩ := Option.map_eq_some_iff.mp found
  exact ⟨pair, List.mem_of_find?_eq_some first, same⟩

/-- What a record has under a name is part of the tree that the record was read from. -/
theorem sound_of_readRecord? {s value : Syntax} {names : List String} {r : Record} {name : String}
    (sound : s.Sound) (read : s.readRecord? names = some r) (found : r name = some value) :
    value.Sound := by
  cases s with
  | object fields =>
    obtain ⟨pairs, pairs_eq, rest⟩ := Option.bind_eq_some_iff.mp read
    obtain ⟨-, -, same⟩ := Option.bind_eq_some_iff.mp rest
    cases same
    obtain ⟨pair, among, rfl⟩ := Record.mem_of_ofPairs found
    obtain ⟨field, field_among, named⟩ := exists_of_mem_mapM pairs_eq among
    obtain ⟨name', -, rfl⟩ := Option.map_eq_some_iff.mp named
    exact sound_object.mp sound field field_among
  | array items =>
    obtain ⟨-, -, same⟩ := Option.bind_eq_some_iff.mp read
    cases same
    obtain ⟨pair, among, rfl⟩ := Record.mem_of_ofPairs found
    exact sound_array.mp sound _ (List.of_mem_zip among).2
  | _ => cases read

theorem Record.exists_of_required? {r : Record} {name : String} {read : Syntax → Option α} {x : α}
    (found : r.required? name read = some x) : ∃ value, r name = some value ∧ read value = some x :=
  Option.bind_eq_some_iff.mp found

theorem Record.exists_of_nullable? {r : Record} {name : String} {read : Syntax → Option α}
    {option : Option α} (found : r.nullable? name read = some option) {x : α}
    (among : x ∈ option) : ∃ value, r name = some value ∧ read value = some x := by
  rw [Option.mem_def] at among
  subst among
  unfold nullable? optional? at found
  split at found
  · cases found
  · next value present =>
    unfold readNullable? at found
    split at found
    · cases found
    · obtain ⟨y, read_value, same⟩ := Option.map_eq_some_iff.mp found
      cases same
      exact ⟨value, present, read_value⟩

/-- The whole numbers of JSON are far below the largest floating-point number. -/
theorem isFinite_of_readBinary64? {s : Syntax} {x : Binary64} (sound : s.Sound)
    (read : s.readBinary64? = some x) : x.isFinite = true := by
  unfold readBinary64? at read
  split at read
  · cases read
    exact sound _ .number
  · next n =>
    cases read
    have bounds : -2 ^ 63 ≤ n ∧ n < 2 ^ 64 := sound _ .number
    have small : n.natAbs < 2 ^ 64 := by omega
    exact Binary64.isFinite_ofInt small (by decide)
  · cases read

end Syntax

end Json

end ContentDelivery
