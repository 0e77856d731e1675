import TransactionV1.Foundations.LittleEndian

/-! # Base58

The text form of addresses and signatures: a byte string as a big-endian number
in base 58, with a `1` for every leading zero byte. Strings of one length have
different text forms.
-/

namespace Base58

def alphabet : List Char :=
  "123456789ABCDEFGHJKLMNPQRSTUVWXYZabcdefghijkmnopqrstuvwxyz".toList

def digitChar (d : ℕ) : Char := alphabet.getD d '1'

/-- The number a byte string denotes, most significant byte first. -/
def value (bs : List UInt8) : ℕ := LittleEndian.value bs.reverse

def digits (bs : List UInt8) : List ℕ :=
  Nat.digits 58 (value bs) ++ List.replicate (bs.takeWhile (· = 0)).length 0

def encode (bs : List UInt8) : String := String.ofList ((digits bs).map digitChar).reverse

theorem idxOf_digitChar : ∀ d < 58, alphabet.idxOf (digitChar d) = d := by decide +kernel

theorem digits_lt {bs : List UInt8} {d : ℕ} (h : d ∈ digits bs) : d < 58 := by
  rw [digits, List.mem_append, List.mem_replicate] at h
  rcases h with h | ⟨-, rfl⟩
  · exact Nat.digits_lt_base (by decide) h
  · decide

theorem ofDigits_digits (bs : List UInt8) : Nat.ofDigits 58 (digits bs) = value bs := by
  rw [digits, Nat.ofDigits_append_replicate_zero, Nat.ofDigits_digits]

theorem map_idxOf_map_digitChar (bs : List UInt8) :
    ((digits bs).map digitChar).map (alphabet.idxOf ·) = digits bs := by
  rw [List.map_map]
  calc (digits bs).map ((alphabet.idxOf ·) ∘ digitChar)
      = (digits bs).map id := List.map_congr_left fun d hd => idxOf_digitChar d (digits_lt hd)
    _ = digits bs := List.map_id _

theorem value_eq_of_encode_eq {bs bs' : List UInt8} (h : encode bs = encode bs') :
    value bs = value bs' := by
  have hm : (digits bs).map digitChar = (digits bs').map digitChar :=
    List.reverse_injective (String.ofList_injective h)
  rw [← ofDigits_digits, ← ofDigits_digits, ← map_idxOf_map_digitChar bs, hm,
    map_idxOf_map_digitChar]

theorem encode_inj {bs bs' : List UInt8} (hl : bs.length = bs'.length)
    (h : encode bs = encode bs') : bs = bs' :=
  List.reverse_injective
    (LittleEndian.value_inj (by simpa using hl) (value_eq_of_encode_eq h))

end Base58
