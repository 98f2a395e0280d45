import StoneNet.Codec

/-! Key material and the primitives the SSTP layer calls: Ed25519 signatures, the SHA-256
node address, X25519 and the session stream cipher. They are outside the repository and
enter as a `Crypto` record with the laws the layer relies on; the cipher is the keystream
XOR of the spec. -/
namespace StoneNet

/-- `identity::PublicKey`, an Ed25519 verifying key. -/
abbrev PublicKey := FixedBytes 32
/-- `identity::PrivateKey`, an Ed25519 signing key. -/
abbrev PrivateKey := FixedBytes 32
abbrev Signature := FixedBytes 64
/-- A 256-bit node address or value id. -/
abbrev IdType := FixedBytes 32
/-- `x25519::PublicKey`. -/
abbrev DhPublicKey := FixedBytes 32
/-- `x25519::StaticSecret`. -/
abbrev DhPrivateKey := FixedBytes 32
/-- What `KeyState::calculate_initial_key` derives from a Diffie-Hellman exchange. -/
abbrev SharedKey := FixedBytes 32

structure Crypto where
  public : PrivateKey → PublicKey
  sign : PrivateKey → Bytes → Signature
  verify : PublicKey → Bytes → Signature → Bool
  generateAddress : PublicKey → IdType
  dhPublic : DhPrivateKey → DhPublicKey
  calculateInitialKey : DhPrivateKey → DhPublicKey → SharedKey
  keystream : UInt16 → UInt16 → UInt16 → SharedKey → Nat → Bytes
  verify_sign : ∀ k message, verify (public k) message (sign k message) = true
  agreement : ∀ a b, calculateInitialKey a (dhPublic b) = calculateInitialKey b (dhPublic a)
  keystream_length : ∀ sessionId ksSeq seq key n, (keystream sessionId ksSeq seq key n).length = n

def xorBytes (data stream : Bytes) : Bytes := List.zipWith (· ^^^ ·) data stream

theorem xor_xor_cancel (a b : UInt8) : (a ^^^ b) ^^^ b = a := by
  apply UInt8.eq_of_toBitVec_eq
  show (a.toBitVec ^^^ b.toBitVec) ^^^ b.toBitVec = a.toBitVec
  rw [BitVec.xor_assoc,BitVec.xor_self,BitVec.xor_zero]

theorem xorBytes_involutive (data stream : Bytes) (covers : data.length ≤ stream.length) :
    xorBytes (xorBytes data stream) stream = data := by
  induction data generalizing stream with
  | nil => rfl
  | cons byte data ih =>
    cases stream with
    | nil => simp at covers
    | cons s stream =>
      simp only [xorBytes,List.zipWith_cons_cons,xor_xor_cancel,List.cons.injEq,true_and] at ih ⊢
      exact ih stream (by simpa using covers)

@[simp] theorem xorBytes_length (data stream : Bytes) (covers : data.length ≤ stream.length) :
    (xorBytes data stream).length = data.length := by
  simp [xorBytes,covers]

namespace Crypto

variable (C : Crypto)

/-- The session cipher: `encrypt(session_id, ks_seq, seq, buffer, key)` XORs the buffer
with the keystream of that position. -/
def encrypt (sessionId ksSeq seq : UInt16) (data : Bytes) (key : SharedKey) : Bytes :=
  xorBytes data (C.keystream sessionId ksSeq seq key data.length)

/-- `decrypt` is the same keystream XOR. -/
def decrypt (sessionId ksSeq seq : UInt16) (data : Bytes) (key : SharedKey) : Bytes :=
  C.encrypt sessionId ksSeq seq data key

@[simp] theorem encrypt_length (sessionId ksSeq seq : UInt16) (data : Bytes) (key : SharedKey) :
    (C.encrypt sessionId ksSeq seq data key).length = data.length := by
  simp [encrypt,C.keystream_length]

theorem decrypt_encrypt (sessionId ksSeq seq : UInt16) (data : Bytes) (key : SharedKey) :
    C.decrypt sessionId ksSeq seq (C.encrypt sessionId ksSeq seq data key) key = data := by
  have covers : data.length ≤ (C.keystream sessionId ksSeq seq key data.length).length := by
    simp [C.keystream_length]
  unfold decrypt encrypt
  rw [xorBytes_length _ _ covers]
  exact xorBytes_involutive _ _ covers

end Crypto

theorem xor_comm' (a b : UInt8) : a ^^^ b = b ^^^ a := by
  apply UInt8.eq_of_toBitVec_eq
  exact BitVec.xor_comm _ _

/-- A concrete and deliberately insecure instance, used only to evaluate runs on
concrete inputs: keys are their own public halves and addresses, a signature is the
signer's key twice, and the keystream is zero. -/
def Crypto.insecure : Crypto where
  public k := k
  sign k _ := ⟨k.bytes ++ k.bytes, by simp [k.length_eq]⟩
  verify pk _ signature := signature.bytes = pk.bytes ++ pk.bytes
  generateAddress pk := pk
  dhPublic k := k
  calculateInitialKey a b := ⟨List.zipWith (· ^^^ ·) a.bytes b.bytes, by simp [a.length_eq,b.length_eq]⟩
  keystream _ _ _ _ n := List.replicate n 0
  verify_sign _ _ := by simp
  agreement a b := by
    simp only [FixedBytes.mk.injEq]
    rw [List.zipWith_comm]
    simp [xor_comm']
  keystream_length _ _ _ _ _ := List.length_replicate _ _

end StoneNet
