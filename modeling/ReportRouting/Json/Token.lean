import ReportRouting.Json.Basic

/-!
The words of JSON.

`takeWord?` takes one word from the front of a text. What is left is shorter than the text, so
taking words comes to an end.
-/

namespace ReportRouting.Json

open Text (hexValue?)

inductive Token where
  | openArray
  | closeArray
  | openObject
  | closeObject
  | comma
  | colon
  | null
  | bool (b : Bool)
  | number (n : Numeral)
  /-- A text, or nothing if half of a surrogate pair is in it. -/
  | text (s : Option String)
  deriving DecidableEq, Repr

def isSpace (c : Char) : Bool :=
  c == ' ' || c == '\n' || c == '\t' || c == '\r'

/-! ### Texts -/

/-- The character behind a backslash that stands for one character. -/
def escaped? (c : Char) : Option Char :=
  if c = '"' ∨ c = '\\' ∨ c = '/' then some c
  else if c = 'b' then some '\x08'
  else if c = 'f' then some '\x0c'
  else if c = 'n' then some '\n'
  else if c = 'r' then some '\r'
  else if c = 't' then some '\t'
  else none

/-- One unit of a text between its quotes: a character, or a 16-bit unit written as an escape. -/
inductive Piece where
  | char (c : Char)
  | unit (n : Nat)
  deriving DecidableEq, Repr

/-- The pieces up to the closing quote, latest first, and the rest behind it. -/
def takePieces? (done : List Piece) : List Char → Option (List Piece × List Char)
  | '"' :: rest => some (done, rest)
  | '\\' :: 'u' :: a :: b :: c :: d :: rest =>
    match hexValue? a, hexValue? b, hexValue? c, hexValue? d with
    | some a, some b, some c, some d =>
      takePieces? (.unit (((a * 16 + b) * 16 + c) * 16 + d) :: done) rest
    | _, _, _, _ => none
  | '\\' :: c :: rest =>
    match escaped? c with
    | some e => takePieces? (.char e :: done) rest
    | none => none
  | c :: rest => if c.toNat < 0x20 ∨ c = '\\' then none else takePieces? (.char c :: done) rest
  | [] => none

/-- Joins pieces, latest first, in front of a text; units make characters alone or in pairs. -/
def joinPieces? (after : List Char) : List Piece → Option (List Char)
  | [] => some after
  | .char c :: rest => joinPieces? (c :: after) rest
  | .unit low :: rest =>
    if 0xDC00 ≤ low ∧ low < 0xE000 then
      match rest with
      | .unit high :: rest =>
        if 0xD800 ≤ high ∧ high < 0xDC00 then
          joinPieces?
            (Char.ofNat (0x10000 + (high - 0xD800) * 0x400 + (low - 0xDC00)) :: after) rest
        else none
      | _ => none
    else if 0xD800 ≤ low ∧ low < 0xDC00 then none
    else joinPieces? (Char.ofNat low :: after) rest

/-! ### Numbers -/

def takeDigits (s : List Char) : List Char × List Char :=
  (s.takeWhile Char.isDigit, s.dropWhile Char.isDigit)

/-- Digits without a needless zero in front. -/
def takeWhole? (s : List Char) : Option (List Char × List Char) :=
  match takeDigits s with
  | ([], _) => none
  | ('0' :: _ :: _, _) => none
  | (ds, rest) => some (ds, rest)

def takeFraction? : List Char → Option (List Char × List Char)
  | '.' :: rest =>
    match takeDigits rest with
    | ([], _) => none
    | (ds, rest) => some (ds, rest)
  | s => some ([], s)

def takeSignedDigits? (negative : Bool) (s : List Char) :
    Option ((Bool × List Char) × List Char) :=
  match takeDigits s with
  | ([], _) => none
  | (ds, rest) => some ((negative, ds), rest)

/-- The sign and the digits of an exponent. -/
def takeExponentDigits? : List Char → Option ((Bool × List Char) × List Char)
  | '-' :: rest => takeSignedDigits? true rest
  | '+' :: rest => takeSignedDigits? false rest
  | s => takeSignedDigits? false s

def takeExponent? : List Char → Option (Option (Bool × List Char) × List Char)
  | c :: rest =>
    if c = 'e' ∨ c = 'E' then (takeExponentDigits? rest).map fun p => (some p.1, p.2)
    else some (none, c :: rest)
  | [] => some (none, [])

def takeUnsigned? (negative : Bool) (s : List Char) : Option (Numeral × List Char) := do
  let (whole, s) ← takeWhole? s
  let (fraction, s) ← takeFraction? s
  let (exponent, s) ← takeExponent? s
  return (⟨negative, whole, fraction, exponent⟩, s)

def takeNumeral? : List Char → Option (Numeral × List Char)
  | '-' :: rest => takeUnsigned? true rest
  | s => takeUnsigned? false s

/-! ### Words -/

def takeWord? (s : List Char) : Option (Token × List Char) :=
  match s with
  | '[' :: rest => some (.openArray, rest)
  | ']' :: rest => some (.closeArray, rest)
  | '{' :: rest => some (.openObject, rest)
  | '}' :: rest => some (.closeObject, rest)
  | ',' :: rest => some (.comma, rest)
  | ':' :: rest => some (.colon, rest)
  | '"' :: rest =>
    (takePieces? [] rest).map fun p => (.text ((joinPieces? [] p.1).map String.ofList), p.2)
  | 'n' :: 'u' :: 'l' :: 'l' :: rest => some (.null, rest)
  | 't' :: 'r' :: 'u' :: 'e' :: rest => some (.bool true, rest)
  | 'f' :: 'a' :: 'l' :: 's' :: 'e' :: rest => some (.bool false, rest)
  | s => (takeNumeral? s).map fun p => (.number p.1, p.2)

/-! ### Words are taken from the front -/

theorem length_of_takePieces? {done p : List Piece} {s rest : List Char}
    (h : takePieces? done s = some (p, rest)) : rest.length < s.length := by
  fun_induction takePieces? done s <;> grind

theorem length_takeDigits (s : List Char) :
    (takeDigits s).1.length + (takeDigits s).2.length = s.length := by
  rw [takeDigits, ← List.length_append, List.takeWhile_append_dropWhile]

theorem length_of_takeWhole? {s ds rest : List Char} (h : takeWhole? s = some (ds, rest)) :
    rest.length < s.length := by
  have := length_takeDigits s
  unfold takeWhole? at h
  split at h <;> grind [List.length_pos_iff]

theorem length_of_takeFraction? {s ds rest : List Char} (h : takeFraction? s = some (ds, rest)) :
    rest.length ≤ s.length := by
  unfold takeFraction? at h
  split at h
  · next r =>
    have := length_takeDigits r
    split at h <;> grind
  · grind

theorem length_of_takeSignedDigits? {b : Bool} {s rest : List Char} {e : Bool × List Char}
    (h : takeSignedDigits? b s = some (e, rest)) : rest.length ≤ s.length := by
  have := length_takeDigits s
  unfold takeSignedDigits? at h
  split at h <;> grind

theorem length_of_takeExponent? {s rest : List Char} {e : Option (Bool × List Char)}
    (h : takeExponent? s = some (e, rest)) : rest.length ≤ s.length := by
  unfold takeExponent? takeExponentDigits? at h
  grind [Option.map_eq_some_iff, → length_of_takeSignedDigits?]

theorem length_of_takeUnsigned? {b : Bool} {s rest : List Char} {n : Numeral}
    (h : takeUnsigned? b s = some (n, rest)) : rest.length < s.length := by
  simp only [takeUnsigned?, Option.bind_eq_bind, Option.bind_eq_some_iff, Option.pure_def,
    Option.some.injEq, Prod.mk.injEq] at h
  obtain ⟨⟨w, s₁⟩, h₁, ⟨f, s₂⟩, h₂, ⟨e, s₃⟩, h₃, h⟩ := h
  have := length_of_takeWhole? h₁
  have := length_of_takeFraction? h₂
  have := length_of_takeExponent? h₃
  grind

theorem length_of_takeNumeral? {s rest : List Char} {n : Numeral}
    (h : takeNumeral? s = some (n, rest)) : rest.length < s.length := by
  unfold takeNumeral? at h
  grind [→ length_of_takeUnsigned?]

theorem length_of_takeWord? {s rest : List Char} {t : Token}
    (h : takeWord? s = some (t, rest)) : rest.length < s.length := by
  unfold takeWord? at h
  split at h <;> grind [Option.map_eq_some_iff, → length_of_takePieces?, → length_of_takeNumeral?]

end ReportRouting.Json
