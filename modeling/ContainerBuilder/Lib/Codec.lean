import ContainerBuilder.Lib.Decimal

/-!
# Self-delimiting text codecs

Values written one after the other without tags: each starts with a space, and a numeral ends where
something other than a digit follows. A `Codec` carries the proof that what it writes is read back
and that the text after it is left alone, so codecs can be composed; a string may hold any bytes,
since its length stands before it.
-/

namespace Lib

open Decimal

/-- Nothing here prolongs a numeral that stands before it. -/
def Delimited (rest : List UInt8) : Prop := ∀ b, rest.head? = some b → isDigit b = false

theorem delimited_nil : Delimited [] := by
  intro b h
  cases h

theorem delimited_space (rest : List UInt8) : Delimited (32 :: rest) := by
  intro b h
  obtain rfl : 32 = b := Option.some.inj h
  rfl

structure Codec (β : Type) where
  save : β → List UInt8
  load : List UInt8 → Option (β × List UInt8)
  delimited : ∀ b rest, Delimited (save b ++ rest)
  load_save : ∀ b rest, Delimited rest → load (save b ++ rest) = some (b, rest)

namespace Codec

variable {β γ : Type}

def loadNat : List UInt8 → Option (Nat × List UInt8)
  | [] => none
  | b :: rest => if b = 32 then readNat rest else none

theorem loadNat_decimal (n : Nat) {rest : List UInt8} (h : Delimited rest) :
    loadNat (32 :: decimal n ++ rest) = some (n, rest) := by
  simp only [loadNat, List.cons_append, if_true]
  exact readNat_decimal n h

def nat : Codec Nat where
  save n := 32 :: decimal n
  load := loadNat
  delimited _ _ := delimited_space _
  load_save n _ h := loadNat_decimal n h

def loadString (bs : List UInt8) : Option (List UInt8 × List UInt8) :=
  match loadNat bs with
  | some (n, b :: rest) => if b = 32 ∧ n ≤ rest.length then some (rest.take n, rest.drop n) else none
  | _ => none

/-- The length, a space and the bytes. -/
def string : Codec (List UInt8) where
  save s := 32 :: decimal s.length ++ 32 :: s
  load := loadString
  delimited _ _ := delimited_space _
  load_save s rest _ := by
    have hlen : loadNat (32 :: decimal s.length ++ (32 :: s ++ rest)) =
        some (s.length, 32 :: s ++ rest) := loadNat_decimal _ (delimited_space _)
    rw [List.append_assoc, loadString, hlen]
    simp

/-- Values with a number each. -/
def number (toNat : β → Nat) (ofNat : Nat → Option β) (h : ∀ b, ofNat (toNat b) = some b) :
    Codec β where
  save b := nat.save (toNat b)
  load bs := (nat.load bs).bind fun r => (ofNat r.1).map fun b => (b, r.2)
  delimited b rest := nat.delimited (toNat b) rest
  load_save b rest hrest := by
    rw [nat.load_save _ _ hrest]
    simp [h]

/-- One value after the other. -/
def seq (c : Codec β) (d : Codec γ) : Codec (β × γ) where
  save b := c.save b.1 ++ d.save b.2
  load bs := (c.load bs).bind fun r => (d.load r.2).map fun r' => ((r.1, r'.1), r'.2)
  delimited b rest := by
    rw [List.append_assoc]
    exact c.delimited _ _
  load_save b rest hrest := by
    rw [List.append_assoc, c.load_save _ _ (d.delimited _ _), Option.bind_some,
      d.load_save _ _ hrest]
    rfl

/-- The same texts for the values of a record. -/
def map (c : Codec β) (mk : β → γ) (fields : γ → β) (h : ∀ g, mk (fields g) = g) : Codec γ where
  save g := c.save (fields g)
  load bs := (c.load bs).map fun r => (mk r.1, r.2)
  delimited g rest := c.delimited (fields g) rest
  load_save g rest hrest := by
    rw [c.load_save _ _ hrest]
    simp [h]

end Codec

end Lib
