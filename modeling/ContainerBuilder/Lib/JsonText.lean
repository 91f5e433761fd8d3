/-!
# JSON strings

The text between the quotes of a JSON string, as bytes. `escape` writes a byte that may not stand
there as a backslash and a letter, or as `\u` and four hexadecimal digits; `readString` reads up to
the closing quote and gives back what was escaped, whatever ASCII text it is.
-/

namespace Lib.JsonText

def quote : UInt8 := 34
def backslash : UInt8 := 92

/-- White space between the tokens. -/
def isSpace (b : UInt8) : Bool := b == 32 || b == 9 || b == 10 || b == 13

def skipSpace (text : List UInt8) : List UInt8 := text.dropWhile isSpace

theorem skipSpace_append {ws : List UInt8} (h : ∀ b ∈ ws, isSpace b = true) (text : List UInt8) :
    skipSpace (ws ++ text) = skipSpace text :=
  List.dropWhile_append_of_pos h

theorem skipSpace_cons {b : UInt8} (h : isSpace b = false) (text : List UInt8) :
    skipSpace (b :: text) = b :: text := by
  simp [skipSpace, h]

/-- Reads a token of one byte, after white space. -/
def expect (b : UInt8) (text : List UInt8) : Option (List UInt8) :=
  match skipSpace text with
  | [] => none
  | c :: text => if c = b then some text else none

theorem expect_append {ws : List UInt8} (h : ∀ b ∈ ws, isSpace b = true) (b : UInt8)
    (text : List UInt8) : expect b (ws ++ text) = expect b text := by
  unfold expect
  rw [skipSpace_append h]

theorem expect_cons {c : UInt8} (h : isSpace c = false) (b : UInt8) (text : List UInt8) :
    expect b (c :: text) = if c = b then some text else none := by
  unfold expect
  rw [skipSpace_cons h]

/-! ## Hexadecimal digits -/

def hexDigit (n : Nat) : UInt8 := if n < 10 then (48 + n).toUInt8 else (55 + n).toUInt8

def hexValue (b : UInt8) : Option Nat :=
  if 48 ≤ b.toNat ∧ b.toNat ≤ 57 then some (b.toNat - 48)
  else if 65 ≤ b.toNat ∧ b.toNat ≤ 70 then some (b.toNat - 55)
  else if 97 ≤ b.toNat ∧ b.toNat ≤ 102 then some (b.toNat - 87)
  else none

theorem hexValue_hexDigit : ∀ n < 16, hexValue (hexDigit n) = some n := by decide

/-- The code point of four digits, if it is ASCII. -/
def codePoint (d₁ d₂ d₃ d₄ : UInt8) : Option UInt8 :=
  match hexValue d₁, hexValue d₂, hexValue d₃, hexValue d₄ with
  | some 0, some 0, some h, some l => if h < 8 then some (16 * h + l).toUInt8 else none
  | _, _, _, _ => none

theorem codePoint_hexDigit {b : UInt8} (h : b.toNat < 128) :
    codePoint (hexDigit 0) (hexDigit 0) (hexDigit (b.toNat / 16)) (hexDigit (b.toNat % 16)) =
      some b := by
  have hhigh : b.toNat / 16 < 8 := by omega
  have hlow : b.toNat % 16 < 16 := by omega
  have hb : 16 * (b.toNat / 16) + b.toNat % 16 = b.toNat := by omega
  unfold codePoint
  rw [hexValue_hexDigit 0 (by decide), hexValue_hexDigit _ (by omega : b.toNat / 16 < 16),
    hexValue_hexDigit _ hlow]
  simp [hhigh, hb]

/-! ## Escapes -/

/-- The escapes of a backslash and one letter: `\b`, `\f`, `\n`, `\r`, `\t`, `\/`, `\"` and `\\`. -/
def letters : List (UInt8 × UInt8) :=
  [(8, 98), (12, 102), (10, 110), (13, 114), (9, 116), (47, 47), (34, 34), (92, 92)]

/-- The byte that a backslash and this letter stand for. -/
def unescape (c : UInt8) : Option UInt8 := (letters.find? (·.2 == c)).map (·.1)

def escapeByte (b : UInt8) : List UInt8 :=
  match letters.lookup b with
  | some c => [backslash, c]
  | none =>
    if 32 ≤ b.toNat then [b]
    else [backslash, 117, hexDigit 0, hexDigit 0, hexDigit (b.toNat / 16), hexDigit (b.toNat % 16)]

def escape (s : List UInt8) : List UInt8 := s.flatMap escapeByte

/-- Reads a string after its opening quote: what it stands for, and the text after the closing
quote. -/
def readString : List UInt8 → Option (List UInt8 × List UInt8)
  | [] => none
  | b :: text =>
    if b = quote then some ([], text)
    else if b = backslash then
      match text with
      | [] => none
      | c :: text =>
        if c = 117 then
          match text with
          | d₁ :: d₂ :: d₃ :: d₄ :: text =>
            (codePoint d₁ d₂ d₃ d₄).bind fun b =>
              (readString text).map fun r => (b :: r.1, r.2)
          | _ => none
        else
          (unescape c).bind fun b => (readString text).map fun r => (b :: r.1, r.2)
    else if 32 ≤ b.toNat ∧ b.toNat < 128 then (readString text).map fun r => (b :: r.1, r.2)
    else none

def Ascii (s : List UInt8) : Prop := ∀ b ∈ s, b.toNat < 128

instance (s : List UInt8) : Decidable (Ascii s) :=
  List.decidableBAll (fun b : UInt8 => b.toNat < 128) s

theorem unescape_letter {e : UInt8 × UInt8} (h : e ∈ letters) :
    e.2 ≠ 117 ∧ unescape e.2 = some e.1 := by
  have hall : letters.all (fun e => e.2 != 117 && unescape e.2 == some e.1) = true := by decide
  simpa using List.all_eq_true.1 hall e h

theorem mem_letters_of_lookup {b c : UInt8} (h : letters.lookup b = some c) :
    (b, c) ∈ letters := by
  obtain ⟨l₁, l₂, hl, -⟩ := List.lookup_eq_some_iff.1 h
  rw [hl]
  exact List.mem_append_right _ (List.mem_cons_self ..)

/-- A byte without a letter ends no string and starts no escape. -/
theorem plain_of_lookup {b : UInt8} (h : letters.lookup b = none) : b ≠ quote ∧ b ≠ backslash := by
  constructor
  · rintro rfl
    cases h
  · rintro rfl
    cases h

theorem readString_escapeByte {b : UInt8} (h : b.toNat < 128) (text : List UInt8) :
    readString (escapeByte b ++ text) = (readString text).map fun r => (b :: r.1, r.2) := by
  unfold escapeByte
  cases hl : letters.lookup b with
  | some c =>
    obtain ⟨hc, hb⟩ := unescape_letter (mem_letters_of_lookup hl)
    rw [readString.eq_def]
    simp [quote, backslash, hc, hb]
  | none =>
    obtain ⟨hquote, hbackslash⟩ := plain_of_lookup hl
    by_cases hb : 32 ≤ b.toNat
    · rw [readString.eq_def]
      simp [hquote, hbackslash, hb, h]
    · rw [readString.eq_def]
      simp [quote, backslash, hb, codePoint_hexDigit h]

theorem readString_quote (text : List UInt8) : readString (quote :: text) = some ([], text) := by
  rw [readString.eq_def]
  simp

/-- **Round trip** of an ASCII string. -/
theorem readString_escape {s : List UInt8} (h : Ascii s) (text : List UInt8) :
    readString (escape s ++ quote :: text) = some (s, text) := by
  induction s with
  | nil => exact readString_quote text
  | cons b s ih =>
    have hs : Ascii s := fun c hc => h c (List.mem_cons_of_mem _ hc)
    rw [escape, List.flatMap_cons, List.append_assoc,
      readString_escapeByte (h b (List.mem_cons_self ..)), ← escape, ih hs]
    rfl

end Lib.JsonText
