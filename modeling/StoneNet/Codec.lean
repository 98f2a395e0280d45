import Mathlib.Data.UInt
import Mathlib.Logic.Equiv.Defs

/-! Byte strings and the binserde wire format as the SSTP layer uses it: `serialize`,
`deserialize_with_trailing` and `serialized_size`. A codec is canonical, its decoder takes
exactly the encoding of the value it returns; the source relies on this wherever it uses
`serialized_size` of a decoded value as the offset of what follows it. -/
namespace StoneNet

abbrev Bytes := List UInt8

/-- A fixed-size byte array `[u8; n]`, serialized as its bytes with no length prefix. -/
structure FixedBytes (n : Nat) where
  bytes : Bytes
  length_eq : bytes.length = n
  deriving DecidableEq

attribute [simp] FixedBytes.length_eq

/-- An array of `n` copies of one byte. -/
def FixedBytes.replicate (n : Nat) (byte : UInt8) : FixedBytes n := ⟨List.replicate n byte, List.length_replicate _ _⟩

structure Codec (α : Type) where
  encode : α → Bytes
  decode : Bytes → Option (α × Bytes)
  decode_encode : ∀ a rest, decode (encode a ++ rest) = some (a, rest)
  encode_of_decode : ∀ {bytes a rest}, decode bytes = some (a, rest) → bytes = encode a ++ rest

namespace Codec

variable {α β : Type}

/-- `binserde::serialized_size`. -/
def serializedSize (c : Codec α) (a : α) : Nat := (c.encode a).length

/-- `binserde::deserialize`: the value has to take up the whole buffer. -/
def deserialize (c : Codec α) (bytes : Bytes) : Option α :=
  match c.decode bytes with
  | some (a, []) => some a
  | _ => none

theorem decode_encode_nil (c : Codec α) (a : α) : c.decode (c.encode a) = some (a, []) := by
  simpa using c.decode_encode a []

@[simp] theorem deserialize_encode (c : Codec α) (a : α) : c.deserialize (c.encode a) = some a := by
  simp [deserialize,decode_encode_nil]

theorem deserialize_some {c : Codec α} {bytes : Bytes} {a : α}
    (h : c.deserialize bytes = some a) : c.decode bytes = some (a, []) := by
  unfold deserialize at h
  split at h <;> simp_all

theorem decode_length {c : Codec α} {bytes rest : Bytes} {a : α}
    (h : c.decode bytes = some (a, rest)) :
    bytes.length = c.serializedSize a + rest.length := by
  simp [c.encode_of_decode h,serializedSize]

/-- Encodings are prefix-free: a value and what follows it are read back from their
concatenation. -/
theorem encode_append_inj {c : Codec α} {a b : α} {rest rest' : Bytes}
    (same : c.encode a ++ rest = c.encode b ++ rest') : a = b ∧ rest = rest' := by
  have decoded := c.decode_encode a rest
  rw [same,c.decode_encode] at decoded
  simp only [Option.some.injEq,Prod.mk.injEq] at decoded
  exact ⟨decoded.1.symm, decoded.2.symm⟩

/-- What follows an encoding starts `serialized_size` bytes in. -/
@[simp] theorem drop_encode (c : Codec α) (a : α) (rest : Bytes) :
    (c.encode a ++ rest).drop (c.serializedSize a) = rest :=
  List.drop_left' rfl

@[simp] theorem length_encode_append (c : Codec α) (a : α) (rest : Bytes) :
    (c.encode a ++ rest).length = c.serializedSize a + rest.length :=
  List.length_append _ _

/-- What follows two encodings starts at the sum of their sizes. -/
@[simp] theorem drop_encode_encode (c : Codec α) (d : Codec β) (a : α) (b : β) (rest : Bytes) :
    (c.encode a ++ (d.encode b ++ rest)).drop (c.serializedSize a + d.serializedSize b) = rest := by
  rw [← List.drop_drop,drop_encode,drop_encode]

@[simp] theorem length_encode_encode (c : Codec α) (d : Codec β) (a : α) (b : β) (rest : Bytes) :
    (c.encode a ++ (d.encode b ++ rest)).length = c.serializedSize a + d.serializedSize b + rest.length := by
  simp only [List.length_append,serializedSize,Nat.add_assoc]

/-- Bytes that decode are the encoding of what they decode to, so a decoder applied to
fewer bytes than an encoding can only return a value with a shorter encoding. -/
theorem decode_shorter {c : Codec α} {a b : α} {bytes rest : Bytes}
    (shorter : bytes.length < c.serializedSize a) (h : c.decode bytes = some (b, rest)) :
    c.serializedSize b < c.serializedSize a := by
  have := decode_length h
  omega

/-- `[u8; n]`. -/
def fixed (n : Nat) : Codec (FixedBytes n) where
  encode a := a.bytes
  decode bytes :=
    if h : n ≤ bytes.length then some (⟨bytes.take n, List.length_take_of_le h⟩, bytes.drop n) else none
  decode_encode a rest := by
    have := a.length_eq
    simp only [List.length_append,this,Nat.le_add_right,↓reduceDIte,List.take_left',List.drop_left']
  encode_of_decode := by
    intro bytes a rest h
    dsimp only at h
    split at h
    · cases h; exact (List.take_append_drop _ _).symm
    · cases h

@[simp] theorem fixed_encode {n : Nat} (a : FixedBytes n) : (fixed n).encode a = a.bytes := rfl

/-- `u16`, little-endian. -/
def u16 : Codec UInt16 where
  encode x := [UInt8.ofNat (x.toNat % 256), UInt8.ofNat (x.toNat / 256)]
  decode
    | lo :: hi :: rest => some (UInt16.ofNat (lo.toNat + 256 * hi.toNat), rest)
    | _ => none
  decode_encode x rest := by
    have bound : x.toNat < 65536 := x.toNat_lt_size
    have lo : (UInt8.ofNat (x.toNat % 256)).toNat = x.toNat % 256 :=
      UInt8.toNat_ofNat_of_lt (by unfold UInt8.size; omega)
    have hi : (UInt8.ofNat (x.toNat / 256)).toNat = x.toNat / 256 :=
      UInt8.toNat_ofNat_of_lt (by unfold UInt8.size; omega)
    simp only [List.cons_append,List.nil_append,Option.some.injEq,Prod.mk.injEq,and_true]
    apply UInt16.toNat.inj
    rw [UInt16.toNat_ofNat_of_lt (by unfold UInt16.size; omega),lo,hi]
    omega
  encode_of_decode := by
    intro bytes x rest h
    match bytes, h with
    | lo :: hi :: rest', h =>
      simp only [Option.some.injEq, Prod.mk.injEq] at h
      obtain ⟨rfl, rfl⟩ := h
      have hlo : lo.toNat < 256 := lo.toNat_lt_size
      have hhi : hi.toNat < 256 := hi.toNat_lt_size
      have value : (UInt16.ofNat (lo.toNat + 256 * hi.toNat)).toNat = lo.toNat + 256 * hi.toNat :=
        UInt16.toNat_ofNat_of_lt (by unfold UInt16.size; omega)
      simp only [value,List.cons_append,List.nil_append,List.cons.injEq,and_true]
      constructor <;> apply UInt8.toNat.inj <;>
        rw [UInt8.toNat_ofNat_of_lt (by unfold UInt8.size; omega)] <;> omega

/-- A unit variant: nothing on the wire. -/
def unit : Codec Unit where
  encode _ := []
  decode bytes := some ((), bytes)
  decode_encode _ _ := rfl
  encode_of_decode h := by cases h; rfl

/-- A struct of two fields: serde writes the fields one after the other. -/
def pair (ca : Codec α) (cb : Codec β) : Codec (α × β) where
  encode p := ca.encode p.1 ++ cb.encode p.2
  decode bytes := (ca.decode bytes).bind fun (a, rest) =>
    (cb.decode rest).map fun (b, rest) => ((a, b), rest)
  decode_encode p rest := by simp [ca.decode_encode,cb.decode_encode]
  encode_of_decode := by
    intro bytes p rest h
    simp only [Option.bind_eq_some,Option.map_eq_some'] at h
    obtain ⟨⟨a, middle⟩, ha, ⟨b, rest'⟩, hb, same⟩ := h
    cases same
    simp only at hb ⊢
    rw [ca.encode_of_decode ha,cb.encode_of_decode hb,List.append_assoc]

theorem pair_decode_encode (ca : Codec α) (cb : Codec β) (a : α) (rest : Bytes) :
    (ca.pair cb).decode (ca.encode a ++ rest) = (cb.decode rest).map fun (b, r) => ((a, b), r) := by
  simp [pair,ca.decode_encode]

/-- A type with the same wire form as `α`, such as a struct as the tuple of its fields. -/
def map (c : Codec α) (e : α ≃ β) : Codec β where
  encode b := c.encode (e.symm b)
  decode bytes := (c.decode bytes).map fun (a, rest) => (e a, rest)
  decode_encode b rest := by simp [c.decode_encode]
  encode_of_decode := by
    intro bytes b rest h
    simp only [Option.map_eq_some',Prod.mk.injEq] at h
    obtain ⟨⟨a, rest'⟩, ha, rfl, rfl⟩ := h
    simpa using c.encode_of_decode ha

@[simp] theorem map_encode (c : Codec α) (e : α ≃ β) (b : β) : (c.map e).encode b = c.encode (e.symm b) := rfl

@[simp] theorem map_decode (c : Codec α) (e : α ≃ β) (bytes : Bytes) :
    (c.map e).decode bytes = (c.decode bytes).map fun (a, rest) => (e a, rest) := rfl

/-- An enum of two variants, tagged by its variant index as a little-endian `u32`. -/
def sum (ca : Codec α) (cb : Codec β) : Codec (α ⊕ β) where
  encode
    | .inl a => [0, 0, 0, 0] ++ ca.encode a
    | .inr b => [1, 0, 0, 0] ++ cb.encode b
  decode
    | 0 :: 0 :: 0 :: 0 :: rest => (ca.decode rest).map fun (a, rest) => (.inl a, rest)
    | 1 :: 0 :: 0 :: 0 :: rest => (cb.decode rest).map fun (b, rest) => (.inr b, rest)
    | _ => none
  decode_encode v rest := by
    cases v <;> simp [ca.decode_encode,cb.decode_encode]
  encode_of_decode := by
    intro bytes v rest h
    dsimp only at h
    split at h
    · simp only [Option.map_eq_some',Prod.mk.injEq] at h
      obtain ⟨⟨a, rest'⟩, ha, rfl, rfl⟩ := h
      simp [ca.encode_of_decode ha]
    · simp only [Option.map_eq_some',Prod.mk.injEq] at h
      obtain ⟨⟨b, rest'⟩, hb, rfl, rfl⟩ := h
      simp [cb.encode_of_decode hb]
    · cases h

/-- `Option<T>`, tagged by one byte. -/
def option (c : Codec α) : Codec (Option α) where
  encode
    | none => [0]
    | some a => 1 :: c.encode a
  decode
    | 0 :: rest => some (none, rest)
    | 1 :: rest => (c.decode rest).map fun (a, rest) => (some a, rest)
    | _ => none
  decode_encode v rest := by
    cases v <;> simp [c.decode_encode]
  encode_of_decode := by
    intro bytes v rest h
    dsimp only at h
    split at h
    · cases h; rfl
    · simp only [Option.map_eq_some',Prod.mk.injEq] at h
      obtain ⟨⟨a, rest'⟩, ha, rfl, rfl⟩ := h
      simp [c.encode_of_decode ha]
    · cases h

@[simp] theorem u16_encode_length (x : UInt16) : (u16.encode x).length = 2 := rfl

@[simp] theorem pair_encode (ca : Codec α) (cb : Codec β) (p : α × β) :
    (ca.pair cb).encode p = ca.encode p.1 ++ cb.encode p.2 := rfl

end Codec

/-- `buffer[offset..][..bytes.len()].copy_from_slice(bytes)`, which is also what
`serialize_into` does to the slice it is given. -/
def overwrite (buffer : Bytes) (offset : Nat) (bytes : Bytes) : Bytes :=
  buffer.take offset ++ bytes ++ buffer.drop (offset + bytes.length)

@[simp] theorem overwrite_length (buffer bytes : Bytes) (offset : Nat)
    (fits : offset + bytes.length ≤ buffer.length) :
    (overwrite buffer offset bytes).length = buffer.length := by
  simp [overwrite]; omega

end StoneNet
