/-
  ConnPool.Conn.Id

  Connection ids.  An id pairs a slot of the connection arena with the
  generation that the slot had when the connection was put there, so an id
  that outlives its connection stops resolving instead of naming whatever
  takes the slot next.

  Event loops carry one 64-bit word of user data per socket; `toUInt64` and
  `ofUInt64` pack an id into such a word and unpack it again, and
  `ofUInt64_toUInt64` with `toUInt64_ofUInt64` say that nothing is lost.
-/

namespace ConnPool

/-- Names one connection of an execution context: a slot and its generation. -/
structure ConnId where
  index : UInt32
  generation : UInt32
  deriving DecidableEq

namespace ConnId

/-- The id as one word: generation in the high half, slot in the low half. -/
def toUInt64 (id : ConnId) : UInt64 :=
  (id.generation.toUInt64 <<< 32) ||| id.index.toUInt64

/-- The id packed in a word; every word holds one. -/
def ofUInt64 (word : UInt64) : ConnId where
  index := word.toUInt32
  generation := (word >>> 32).toUInt32

/-- The id as people read it, for instance `conn#3.1`. -/
def text (id : ConnId) : String :=
  s!"conn#{id.index}.{id.generation}"

/-! ## Packing -/

/-- The two halves of a packed id do not overlap, so the word is their sum. -/
theorem toNat_toUInt64 (id : ConnId) :
    id.toUInt64.toNat = id.generation.toNat <<< 32 + id.index.toNat := by
  have hi := id.index.toNat_lt
  have hg := id.generation.toNat_lt
  have hs : (id.generation.toUInt64 <<< 32).toNat = id.generation.toNat <<< 32 := by
    simp only [UInt64.toNat_shiftLeft, UInt32.toNat_toUInt64, Nat.shiftLeft_eq,
      show (32 : UInt64).toNat % 64 = 32 from rfl]
    omega
  rw [toUInt64, UInt64.toNat_or, hs, UInt32.toNat_toUInt64,
    ← Nat.shiftLeft_add_eq_or_of_lt (by omega)]

/-- Unpacking what was packed gives the id back. -/
@[simp] theorem ofUInt64_toUInt64 (id : ConnId) : ofUInt64 id.toUInt64 = id := by
  have h := toNat_toUInt64 id
  have hi := id.index.toNat_lt
  have hg := id.generation.toNat_lt
  obtain ⟨i, g⟩ := id
  simp only [ofUInt64, mk.injEq, ← UInt32.toNat_inj, UInt64.toNat_toUInt32,
    UInt64.toNat_shiftRight, Nat.shiftRight_eq_div_pow, show (32 : UInt64).toNat % 64 = 32 from rfl]
  simp only at h hi hg
  omega

/-- Packing what was unpacked gives the word back. -/
@[simp] theorem toUInt64_ofUInt64 (word : UInt64) : (ofUInt64 word).toUInt64 = word := by
  have hw := word.toNat_lt
  rw [← UInt64.toNat_inj, toNat_toUInt64]
  simp only [ofUInt64, UInt64.toNat_toUInt32,
    UInt64.toNat_shiftRight, Nat.shiftRight_eq_div_pow, show (32 : UInt64).toNat % 64 = 32 from rfl]
  omega

end ConnId

end ConnPool
