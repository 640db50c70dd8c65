/-!
# Byte strings and 16-bit words

Everything that crosses a link is a list of octets. Words travel least significant
octet first; `word_wordBytes` and `wordBytes_word` say that reading and writing a word
undo each other. `packets` cuts a byte string into pieces of a given size, the last
one possibly shorter, and `flatten_packets` says that no octet is lost.
-/

namespace PeripheralBridge

abbrev Bytes := List UInt8

/-- The two octets of a word, least significant first. -/
def wordBytes (w : UInt16) : Bytes :=
  [UInt8.ofNat (w.toNat % 256), UInt8.ofNat (w.toNat / 256)]

/-- The word whose octets are `low` and `high`. -/
def word (low high : UInt8) : UInt16 :=
  UInt16.ofNat (low.toNat + 256 * high.toNat)

@[simp] theorem length_wordBytes (w : UInt16) : (wordBytes w).length = 2 := rfl

theorem toNat_word (low high : UInt8) : (word low high).toNat = low.toNat + 256 * high.toNat := by
  have hl : low.toNat < 256 := low.toNat_lt
  have hh : high.toNat < 256 := high.toNat_lt
  simp only [word, UInt16.toNat_ofNat']
  omega

theorem word_wordBytes (w : UInt16) :
    word (UInt8.ofNat (w.toNat % 256)) (UInt8.ofNat (w.toNat / 256)) = w := by
  have hw : w.toNat < 65536 := w.toNat_lt
  apply UInt16.toNat_inj.mp
  simp only [toNat_word, UInt8.toNat_ofNat']
  omega

theorem wordBytes_word (low high : UInt8) : wordBytes (word low high) = [low, high] := by
  have hl : low.toNat < 256 := low.toNat_lt
  have hh : high.toNat < 256 := high.toNat_lt
  simp only [wordBytes, toNat_word, List.cons.injEq, and_true]
  constructor <;> apply UInt8.toNat_inj.mp <;> simp only [UInt8.toNat_ofNat'] <;> omega

/-- Pieces of `size` octets in order, the last one shorter when the length is no
multiple of `size`. An empty byte string has no pieces, and neither has any when
`size` is zero. -/
def packets (size : Nat) (data : Bytes) : List Bytes :=
  if _h : size = 0 ∨ data = [] then []
  else data.take size :: packets size (data.drop size)
termination_by data.length
decreasing_by
  have : data.length ≠ 0 := fun hz => _h (Or.inr (List.length_eq_zero_iff.mp hz))
  simp only [List.length_drop]
  omega

@[simp] theorem packets_nil (size : Nat) : packets size [] = [] := by
  rw [packets]; simp

theorem packets_of_ne_nil {size : Nat} {data : Bytes} (hs : size ≠ 0) (hd : data ≠ []) :
    packets size data = data.take size :: packets size (data.drop size) := by
  rw [packets]; simp [hs, hd]

theorem flatten_packets {size : Nat} (hs : size ≠ 0) (data : Bytes) :
    (packets size data).flatten = data := by
  induction h : data.length using Nat.strongRecOn generalizing data with
  | ind n ih =>
    by_cases hd : data = []
    · simp [hd]
    · have hn : data.length ≠ 0 := fun hz => hd (List.length_eq_zero_iff.mp hz)
      rw [packets_of_ne_nil hs hd, List.flatten_cons,
        ih (data.drop size).length (by simp only [List.length_drop]; omega) _ rfl,
        List.take_append_drop]

end PeripheralBridge
