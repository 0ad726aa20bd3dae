/-
ContentDelivery.Json.StringLiteral — the string literals of JSON.

A literal is read in two steps. `scan` takes it apart by the grammar
alone: characters, and four-digit escapes as the 16-bit units they name.
`text?` joins the units: a high surrogate and the low one after it are
one character, and half a pair is no text.
-/
import ContentDelivery.Text.Hex

namespace ContentDelivery.Json.StringLiteral

/-- A part of a literal: a character, or a 16-bit unit given by an escape. -/
inductive Piece where
  | char (c : Char)
  | unit (u : Nat)
deriving DecidableEq, Repr

/-! ## Grammar -/

/-- The unit of four hexadecimal digits. -/
def hexUnit? (a b c d : Char) : Option Nat := do
  let digits ← [a, b, c, d].mapM Text.Hex.digit?
  return digits.foldl (fun n d => n * 16 + d) 0

/-- The character that a backslash and the given character stand for. -/
def escaped? : Char → Option Char
  | '"' => some '"'
  | '\\' => some '\\'
  | '/' => some '/'
  | 'b' => some '\x08'
  | 'f' => some '\x0c'
  | 'n' => some '\n'
  | 'r' => some '\r'
  | 't' => some '\t'
  | _ => none

/-- Reads to the closing quote, which is taken too. Control characters must be escaped. -/
def scan : List Char → Option (List Piece × List Char)
  | [] => none
  | '"' :: rest => some ([], rest)
  | '\\' :: 'u' :: a :: b :: c :: d :: rest => do
    let u ← hexUnit? a b c d
    let (pieces, rest) ← scan rest
    return (.unit u :: pieces, rest)
  | '\\' :: e :: rest => do
    let c ← escaped? e
    let (pieces, rest) ← scan rest
    return (.char c :: pieces, rest)
  | c :: rest =>
    if ' ' ≤ c then do
      let (pieces, rest) ← scan rest
      return (.char c :: pieces, rest)
    else none

/-- A literal has a closing quote at least. -/
theorem scan_length_lt {cs pieces rest} (h : scan cs = some (pieces, rest)) :
    rest.length < cs.length := by
  fun_induction scan cs generalizing pieces rest with
  | case1 => simp at h
  | case2 => simp_all
  | case3 a b c d tail ih =>
    simp only [Option.bind_eq_bind, Option.pure_def, Option.bind_eq_some_iff, Prod.exists,
      Option.some.injEq, Prod.mk.injEq] at h
    obtain ⟨_, _, _, _, hs, _, rfl⟩ := h
    have := ih hs
    simp only [List.length_cons]
    omega
  | case4 e tail _ ih =>
    simp only [Option.bind_eq_bind, Option.pure_def, Option.bind_eq_some_iff, Prod.exists,
      Option.some.injEq, Prod.mk.injEq] at h
    obtain ⟨_, _, _, _, hs, _, rfl⟩ := h
    have := ih hs
    simp only [List.length_cons]
    omega
  | case5 c tail _ _ _ _ ih =>
    simp only [Option.bind_eq_bind, Option.pure_def, Option.bind_eq_some_iff, Prod.exists,
      Option.some.injEq, Prod.mk.injEq] at h
    obtain ⟨_, _, hs, _, rfl⟩ := h
    have := ih hs
    simp only [List.length_cons]
    omega
  | case6 => simp at h

/-! ## Meaning -/

def isHighSurrogate (u : Nat) : Bool := 0xD800 ≤ u && u < 0xDC00

def isLowSurrogate (u : Nat) : Bool := 0xDC00 ≤ u && u < 0xE000

/-- The character of a surrogate pair. -/
def ofSurrogates (high low : Nat) : Char :=
  Char.ofNat (0x10000 + (high - 0xD800) * 0x400 + (low - 0xDC00))

/-- The characters of a literal; none if a surrogate has no partner. -/
def text? : List Piece → Option (List Char)
  | [] => some []
  | .char c :: rest => (text? rest).map (c :: ·)
  | .unit high :: .unit low :: rest =>
    if isHighSurrogate high then
      if isLowSurrogate low then (text? rest).map (ofSurrogates high low :: ·) else none
    else if isLowSurrogate high then none
    else (text? (.unit low :: rest)).map (Char.ofNat high :: ·)
  | .unit u :: rest =>
    if isHighSurrogate u || isLowSurrogate u then none
    else (text? rest).map (Char.ofNat u :: ·)

end ContentDelivery.Json.StringLiteral
