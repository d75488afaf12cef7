import Mathlib.Algebra.Group.Nat.Defs
import Mathlib.Data.List.FinRange
import Mathlib.Data.Nat.Basic
import Wotemu.Foundation.Separated

/-! IPv4 addresses, and the blocks of addresses that share their first bits.

An address is written as four decimal bytes. A block is written as an address
and the number of bits that its members share, and may be given by a mask.
-/

set_option autoImplicit false

namespace Wotemu.Foundation

abbrev Ipv4 := Fin (2 ^ 32)

namespace Ipv4

def bytes (address : Ipv4) : List Nat :=
  [address.val / 2 ^ 24, address.val / 2 ^ 16 % 256, address.val / 2 ^ 8 % 256, address.val % 256]

def ofBytes : List Nat → Option Ipv4
  | [a, b, c, d] =>
    if inside : a < 256 ∧ b < 256 ∧ c < 256 ∧ d < 256 then
      some ⟨a * 2 ^ 24 + b * 2 ^ 16 + c * 2 ^ 8 + d, by omega⟩
    else none
  | _ => none

def text (address : Ipv4) : String := String.intercalate "." (address.bytes.map toString)

def readNumber (text : String) : Option Nat :=
  if text.toList ≠ [] ∧ text.toList.all Char.isDigit then some (Nat.ofDigitChars 10 text.toList 0) else none

def read (text : String) : Option Ipv4 := ((split '.' text).mapM readNumber).bind ofBytes

theorem readNumber_toString (n : Nat) : readNumber (toString n) = some n := by
  have digits : (toString n).toList = Nat.toDigits 10 n := Nat.toList_repr
  have all : (Nat.toDigits 10 n).all Char.isDigit = true :=
    List.all_eq_true.mpr fun c member => Nat.isDigit_of_mem_toDigits (by decide) (by decide) member
  rw [readNumber, digits, if_pos ⟨Nat.toDigits_ne_nil, all⟩, Nat.ofDigitChars_ten_toDigits]

theorem mapM_readNumber (numbers : List Nat) : (numbers.map toString).mapM readNumber = some numbers := by
  induction numbers with
  | nil => rfl
  | cons n rest ih =>
    rw [List.map_cons, List.mapM_cons, readNumber_toString, ih]
    rfl

theorem ofBytes_bytes (address : Ipv4) : ofBytes address.bytes = some address := by
  have bound := address.isLt
  have inside : address.val / 2 ^ 24 < 256 ∧ address.val / 2 ^ 16 % 256 < 256 ∧ address.val / 2 ^ 8 % 256 < 256 ∧
      address.val % 256 < 256 := by omega
  simp only [ofBytes, bytes, dif_pos inside, Option.some.injEq]
  apply Fin.ext
  simp only
  omega

theorem free_toDigits {sep : Char} (other : sep.isDigit = false) (n : Nat) : sep ∉ Nat.toDigits 10 n := by
  intro member
  have digit := Nat.isDigit_of_mem_toDigits (by decide) (by decide) member
  rw [other] at digit
  cases digit

theorem free_toString {sep : Char} (other : sep.isDigit = false) (n : Nat) : sep ∉ (toString n).toList := by
  have digits : (toString n).toList = Nat.toDigits 10 n := Nat.toList_repr
  rw [digits]
  exact free_toDigits other n

@[simp] theorem read_text (address : Ipv4) : read address.text = some address := by
  have free : ∀ part ∈ address.bytes.map toString, '.' ∉ part.toList := by
    intro part member
    obtain ⟨n, -, rfl⟩ := List.mem_map.mp member
    exact free_toString rfl n
  have parts : split '.' address.text = address.bytes.map toString :=
    split_intercalate rfl free (by simp [bytes])
  rw [read, parts, mapM_readNumber, Option.bind_some, ofBytes_bytes]

theorem free_text {sep : Char} (other : sep.isDigit = false) (noDot : sep ≠ '.') (address : Ipv4) :
    sep ∉ address.text.toList := by
  simp [text, bytes, free_toDigits other, noDot]

end Ipv4

/-- The addresses that share the first `length` bits with `address`. -/
structure Block where
  address : Ipv4
  length : Fin 33
  deriving DecidableEq

namespace Block

def hostBits (block : Block) : Nat := 32 - block.length.val

def holds (block : Block) (address : Ipv4) : Bool :=
  address.val / 2 ^ block.hostBits = block.address.val / 2 ^ block.hostBits

def cidr (block : Block) : Block where
  address := ⟨block.address.val / 2 ^ block.hostBits * 2 ^ block.hostBits,
    Nat.lt_of_le_of_lt (Nat.div_mul_le_self _ _) block.address.isLt⟩
  length := block.length

def maskLength (mask : Ipv4) : Option (Fin 33) :=
  (List.finRange 33).find? fun length => mask.val = 2 ^ 32 - 2 ^ (32 - length.val)

def ofMask (address mask : String) : Option Block := do
  let address ← Ipv4.read address
  let length ← maskLength (← Ipv4.read mask)
  return ⟨address, length⟩

theorem read_of_ofMask {address mask : String} {block : Block} (given : ofMask address mask = some block) :
    Ipv4.read address = some block.address := by
  obtain ⟨found, read, given⟩ := Option.bind_eq_some_iff.mp given
  obtain ⟨_, -, given⟩ := Option.bind_eq_some_iff.mp given
  obtain ⟨_, -, given⟩ := Option.bind_eq_some_iff.mp given
  cases given
  exact read

def text (block : Block) : String := block.address.text ++ "/" ++ toString block.length.val

def read (text : String) : Option Block :=
  match split '/' text with
  | [address, length] => do
    let address ← Ipv4.read address
    let length ← Ipv4.readNumber length
    if inside : length < 33 then return ⟨address, ⟨length, inside⟩⟩ else none
  | _ => none

@[simp] theorem read_text (block : Block) : read block.text = some block := by
  have parts : split '/' block.text = [block.address.text, toString block.length.val] := by
    rw [text, split_append rfl, split_of_free (Ipv4.free_text rfl (by decide) _),
      split_of_free (Ipv4.free_toString rfl _)]
    rfl
  unfold read
  rw [parts]
  simp only [Ipv4.read_text, Ipv4.readNumber_toString]
  exact dif_pos block.length.isLt

@[simp] theorem holds_cidr (block : Block) : block.cidr.holds = block.holds := by
  funext address
  have bits : block.cidr.hostBits = block.hostBits := rfl
  have first : block.cidr.address.val / 2 ^ block.hostBits = block.address.val / 2 ^ block.hostBits :=
    Nat.mul_div_cancel _ (Nat.two_pow_pos _)
  simp only [holds, bits, first]

theorem holds_self (block : Block) : block.holds block.address = true := decide_eq_true rfl

/-- A block says which of its members are in the blocks of the same length that share one with it. -/
theorem holds_of_shared {first second : Block} (same : first.length = second.length) {address : Ipv4}
    (left : first.holds address = true) (right : second.holds address = true) : first.holds = second.holds := by
  have bits : first.hostBits = second.hostBits := by rw [hostBits, hostBits, same]
  have shared := (of_decide_eq_true left).symm.trans ((bits ▸ of_decide_eq_true right) : _)
  funext other
  simp only [holds, bits] at shared ⊢
  rw [shared]

end Block

end Wotemu.Foundation
