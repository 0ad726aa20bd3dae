/-
ContentDelivery.Json.Syntax — JSON texts, read by the grammar alone.

`Syntax.ofText?` accepts exactly the texts of the JSON grammar, at any
depth. What the grammar leaves open is kept: the fields of an object
stand in the order of the text, repetitions included; a numeral too
large for any number and a string with half a surrogate pair are there
as `none`. Which of these are harmful is for the reader of the tree to
say: a part that nobody reads does no harm.

Each reader returns the rest of the text with a proof that it is
shorter, which is why reading ends.
-/
import ContentDelivery.Json.Numeral
import ContentDelivery.Json.StringLiteral

namespace ContentDelivery.Json

inductive Syntax where
  | null
  | bool (b : Bool)
  | number (value : Option JsonNumber)
  | string (text : Option String)
  | array (items : List Syntax)
  | object (fields : List (Option String × Syntax))
deriving Inhabited

namespace Syntax

/-- What remains of a text after something was read. -/
abbrev Rest (cs : List Char) := { rest : List Char // rest.length < cs.length }

/-! ## Blanks and leaves -/

def isBlank (c : Char) : Bool := c = ' ' || c = '\n' || c = '\t' || c = '\r'

def skipBlank (cs : List Char) : List Char := cs.dropWhile isBlank

theorem skipBlank_length_le (cs : List Char) : (skipBlank cs).length ≤ cs.length :=
  (List.dropWhile_suffix _).length_le

/-- Takes the given word from the head of a text. -/
def dropWord? : (word cs : List Char) → Option { rest : List Char // rest.length ≤ cs.length }
  | [], cs => some ⟨cs, Nat.le_refl _⟩
  | w :: word, c :: cs =>
    if w = c then (dropWord? word cs).map fun ⟨rest, h⟩ => ⟨rest, Nat.le_succ_of_le h⟩ else none
  | _ :: _, [] => none

/-- The text of a string literal, after its opening quote. -/
def readString (cs : List Char) : Option (Option String × Rest cs) :=
  match h : StringLiteral.scan cs with
  | some (pieces, rest) =>
    some ((StringLiteral.text? pieces).map String.ofList, ⟨rest, StringLiteral.scan_length_lt h⟩)
  | none => none

def readNumber (cs : List Char) : Option (Option JsonNumber × Rest cs) :=
  match h : Numeral.scan cs with
  | some (numeral, rest) => some (numeral.value?, ⟨rest, Numeral.scan_length_lt h⟩)
  | none => none

/-! ## Values -/

mutual

/-- The value at the head of a text that does not begin with a blank. -/
def readValue (cs : List Char) : Option (Syntax × Rest cs) :=
  match cs with
  | [] => none
  | '"' :: tail => do
    let (text, ⟨rest, h⟩) ← readString tail
    return (.string text, ⟨rest, Nat.lt_succ_of_lt h⟩)
  | '[' :: tail =>
    match h : skipBlank tail with
    | ']' :: rest => some (.array [], ⟨rest, by
        have := skipBlank_length_le tail; simp only [h, List.length_cons] at *; omega⟩)
    | _ => do
      let (items, ⟨rest, h⟩) ← readItems tail
      return (.array items, ⟨rest, Nat.lt_succ_of_lt h⟩)
  | '{' :: tail =>
    match h : skipBlank tail with
    | '}' :: rest => some (.object [], ⟨rest, by
        have := skipBlank_length_le tail; simp only [h, List.length_cons] at *; omega⟩)
    | _ => do
      let (fields, ⟨rest, h⟩) ← readFields tail
      return (.object fields, ⟨rest, Nat.lt_succ_of_lt h⟩)
  | 'n' :: tail => do
    let ⟨rest, h⟩ ← dropWord? ['u', 'l', 'l'] tail
    return (.null, ⟨rest, Nat.lt_succ_of_le h⟩)
  | 't' :: tail => do
    let ⟨rest, h⟩ ← dropWord? ['r', 'u', 'e'] tail
    return (.bool true, ⟨rest, Nat.lt_succ_of_le h⟩)
  | 'f' :: tail => do
    let ⟨rest, h⟩ ← dropWord? ['a', 'l', 's', 'e'] tail
    return (.bool false, ⟨rest, Nat.lt_succ_of_le h⟩)
  | cs => do
    let (value, rest) ← readNumber cs
    return (.number value, rest)
termination_by 2 * cs.length
decreasing_by all_goals simp only [List.length_cons]; omega

/-- One item or more, up to and with the closing bracket. -/
def readItems (cs : List Char) : Option (List Syntax × Rest cs) := do
  have hcs := skipBlank_length_le cs
  let (item, ⟨rest, h⟩) ← readValue (skipBlank cs)
  match h' : skipBlank rest with
  | ']' :: rest' => some ([item], ⟨rest', by
      have := skipBlank_length_le rest; simp only [h', List.length_cons] at *; omega⟩)
  | ',' :: rest' =>
    have h'' : rest'.length < cs.length := by
      have := skipBlank_length_le rest; simp only [h', List.length_cons] at *; omega
    let (items, ⟨rest, h⟩) ← readItems rest'
    return (item :: items, ⟨rest, Nat.lt_trans h h''⟩)
  | _ => none
termination_by 2 * cs.length + 1
decreasing_by all_goals omega

/-- One field or more, up to and with the closing brace. -/
def readFields (cs : List Char) : Option (List (Option String × Syntax) × Rest cs) := do
  have hcs := skipBlank_length_le cs
  match h : skipBlank cs with
  | '"' :: tail =>
    let (name, ⟨rest, h1⟩) ← readString tail
    have h2 := skipBlank_length_le rest
    match h3 : skipBlank rest with
    | ':' :: tail' =>
      have h4 : tail'.length < cs.length := by simp only [h, h3, List.length_cons] at *; omega
      have h5 := skipBlank_length_le tail'
      let (value, ⟨rest, h6⟩) ← readValue (skipBlank tail')
      have h7 := skipBlank_length_le rest
      match h8 : skipBlank rest with
      | '}' :: rest' => some ([(name, value)], ⟨rest', by
          simp only [h8, List.length_cons] at *; omega⟩)
      | ',' :: rest' =>
        have h9 : rest'.length < cs.length := by simp only [h8, List.length_cons] at *; omega
        let (fields, ⟨rest, h10⟩) ← readFields rest'
        return ((name, value) :: fields, ⟨rest, Nat.lt_trans h10 h9⟩)
      | _ => none
    | _ => none
  | _ => none
termination_by 2 * cs.length + 1
decreasing_by all_goals omega

end

/-- The tree of a whole text: one value, with blanks around it. -/
def ofChars? (cs : List Char) : Option Syntax := do
  let (value, ⟨rest, _⟩) ← readValue (skipBlank cs)
  guard (skipBlank rest = [])
  return value

def ofText? (text : String) : Option Syntax := ofChars? text.toList

end Syntax

end ContentDelivery.Json
