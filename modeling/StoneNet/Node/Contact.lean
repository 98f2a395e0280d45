import StoneNet.Sstp.Packet
import Mathlib.Data.Nat.Bitwise
import Mathlib.Tactic.Ring

/-! Ids, the XOR metric and how a node picks a way to reach a contact. `distance` and
`differs_at_bit` are declared outside the source files and follow the spec: the distance is the
XOR of the big-endian numbers of two ids, and `differs_at_bit` is the highest bit at which
they differ. `pick_contact_option` is the one of `SocketCollection` in `server.rs`. -/
namespace StoneNet

/-- The big-endian number an id's 32 bytes spell, as `BigUint::from_bytes_be`. -/
def IdType.toNat (id : IdType) : Nat := id.bytes.foldl (fun acc byte => acc * 256 + byte.toNat) 0

theorem foldl_bigEndian_lt (bytes : Bytes) {acc k : Nat} (below : acc < 256 ^ k) :
    bytes.foldl (fun acc byte => acc * 256 + byte.toNat) acc < 256 ^ (k + bytes.length) := by
  induction bytes generalizing acc k with
  | nil => exact below
  | cons byte bytes ih =>
    have step : acc * 256 + byte.toNat < 256 ^ (k + 1) := by
      have := byte.toNat_lt_size
      rw [Nat.pow_succ]
      simp only [UInt8.size] at this
      omega
    simpa only [List.foldl_cons,List.length_cons,Nat.add_assoc,Nat.add_comm 1] using ih step

theorem foldl_bigEndian (bytes : Bytes) (acc : Nat) :
    bytes.foldl (fun acc byte => acc * 256 + byte.toNat) acc =
      acc * 256 ^ bytes.length + bytes.foldl (fun acc byte => acc * 256 + byte.toNat) 0 := by
  induction bytes generalizing acc with
  | nil => simp
  | cons byte bytes ih =>
    rw [List.foldl_cons,List.foldl_cons,ih,ih (0 * 256 + byte.toNat),List.length_cons]
    ring

/-- Byte strings of one length spell different numbers. -/
theorem foldl_bigEndian_injective {l₁ l₂ : Bytes} (same : l₁.length = l₂.length)
    (eq : l₁.foldl (fun acc byte => acc * 256 + byte.toNat) 0 = l₂.foldl (fun acc byte => acc * 256 + byte.toNat) 0) :
    l₁ = l₂ := by
  induction l₁ generalizing l₂ with
  | nil => exact (List.length_eq_zero.mp same.symm).symm
  | cons b₁ l₁ ih =>
    obtain _ | ⟨b₂, l₂⟩ := l₂
    · cases same
    have same : l₁.length = l₂.length := Nat.succ.inj same
    have r₁ := foldl_bigEndian_lt l₁ (show 0 < 256 ^ 0 by decide)
    have r₂ := foldl_bigEndian_lt l₂ (show 0 < 256 ^ 0 by decide)
    rw [List.foldl_cons,List.foldl_cons,foldl_bigEndian,foldl_bigEndian l₂,Nat.zero_mul,Nat.zero_add,Nat.zero_add,
      Nat.mul_comm,Nat.mul_comm b₂.toNat,← same] at eq
    rw [Nat.zero_add,← same] at r₂
    rw [Nat.zero_add] at r₁
    have pos : 0 < 256 ^ l₁.length := Nat.pos_pow_of_pos _ (by omega)
    have high := congrArg (· / 256 ^ l₁.length) eq
    have low := congrArg (· % 256 ^ l₁.length) eq
    simp only [Nat.mul_add_div pos,Nat.div_eq_of_lt r₁,Nat.div_eq_of_lt r₂,Nat.add_zero,Nat.mul_add_mod,
      Nat.mod_eq_of_lt r₁,Nat.mod_eq_of_lt r₂] at high low
    rw [UInt8.toNat.inj high,ih same low]

theorem IdType.toNat_injective : Function.Injective IdType.toNat := fun a b eq => by
  obtain ⟨a, ha⟩ := a
  obtain ⟨b, hb⟩ := b
  cases foldl_bigEndian_injective (ha.trans hb.symm) eq
  rfl

theorem IdType.toNat_lt (id : IdType) : id.toNat < 2 ^ 256 := by
  have bound := foldl_bigEndian_lt id.bytes (Nat.zero_lt_one.trans_eq (Nat.pow_zero 256).symm)
  rwa [id.length_eq,Nat.zero_add,show (256 : Nat) ^ 32 = 2 ^ 256 by rfl] at bound

/-- `distance(a, b)`: the XOR of the two ids as a big-endian number. -/
def distance (a b : IdType) : Nat := a.toNat ^^^ b.toNat

theorem distance_lt (a b : IdType) : distance a b < 2 ^ 256 :=
  Nat.xor_lt_two_pow a.toNat_lt b.toNat_lt

@[simp] theorem distance_self (a : IdType) : distance a a = 0 := Nat.xor_self _

theorem distance_comm (a b : IdType) : distance a b = distance b a := Nat.xor_comm _ _

/-- The distance from `t` to `f` is what their distances from a third id `o` XOR to. -/
theorem distance_eq_xor (o t f : IdType) : distance t f = distance o t ^^^ distance o f :=
  Nat.eq_of_testBit_eq fun i => by
    simp only [distance,Nat.testBit_xor]
    cases o.toNat.testBit i <;> simp

/-- The highest set bit of `n` below bit `w`. -/
def highestBit (n : Nat) : (w : Nat) → Option (Fin w)
  | 0 => none
  | w + 1 => if n.testBit w then some (Fin.last w) else (highestBit n w).map Fin.castSucc

theorem highestBit_zero (w : Nat) : highestBit 0 w = none := by
  induction w with
  | zero => rfl
  | succ w ih => simp [highestBit,ih]

theorem lt_two_pow_of_testBit_false {n w : Nat} (below : n < 2 ^ (w + 1)) (top : n.testBit w = false) :
    n < 2 ^ w :=
  Nat.lt_pow_two_of_testBit n fun j above => by
    rcases Nat.eq_or_lt_of_le above with rfl | higher
    · exact top
    · exact Nat.testBit_lt_two_pow (below.trans_le (Nat.pow_le_pow_right (by omega) higher))

theorem highestBit_eq_none_iff {n w : Nat} (below : n < 2 ^ w) : highestBit n w = none ↔ n = 0 := by
  induction w with
  | zero => simp only [highestBit,true_iff]; omega
  | succ w ih =>
    by_cases top : n.testBit w
    · simp only [highestBit,top,if_true,reduceCtorEq,false_iff]
      rintro rfl
      simp at top
    · simp only [highestBit,top,Bool.false_eq_true,if_false,Option.map_eq_none']
      exact ih (lt_two_pow_of_testBit_false below (by simpa using top))

/-- For a number below `2 ^ w`, `highestBit` finds bit `i` exactly when it is set and nothing
above it is. -/
theorem highestBit_eq_some_iff {n w : Nat} (below : n < 2 ^ w) {i : Fin w} :
    highestBit n w = some i ↔ n.testBit i ∧ n < 2 ^ (i.val + 1) := by
  induction w with
  | zero => exact i.elim0
  | succ w ih =>
    by_cases top : n.testBit w
    · simp only [highestBit,top,if_true,Option.some.injEq]
      constructor
      · rintro rfl; exact ⟨top, below⟩
      · rintro ⟨-, within⟩
        have low := Nat.testBit_implies_ge top
        have : ¬ i.val + 1 ≤ w := fun le =>
          absurd (within.trans_le (Nat.pow_le_pow_right (by omega) le)) (Nat.not_lt.mpr low)
        have := i.isLt
        exact Fin.ext (by simp only [Fin.val_last]; omega)
    · have lower := lt_two_pow_of_testBit_false below (by simpa using top)
      simp only [highestBit,top,Bool.false_eq_true,if_false,Option.map_eq_some']
      constructor
      · rintro ⟨j, found, rfl⟩
        exact (ih lower).mp found
      · rintro ⟨set, within⟩
        have inside : i.val < w := by
          by_contra outside
          have : i.val = w := by omega
          exact top (this ▸ set)
        exact ⟨⟨i.val, inside⟩, (ih lower).mpr ⟨set, within⟩, rfl⟩

/-- `differs_at_bit(a, b)`: the index of the highest bit at which the ids differ, bit 255 the
most significant, or `none` when they are equal. A `u8` is exactly an index of the 256 buckets.
It is irreducible: proofs go through `differsAtBit_eq_some_iff`, never through evaluating it. -/
@[irreducible] def differsAtBit (a b : IdType) : Option (Fin 256) := highestBit (distance a b) 256

@[simp] theorem differsAtBit_self (a : IdType) : differsAtBit a a = none := by
  unfold differsAtBit; simp [highestBit_zero]

/-- The distance law of the spec: two ids differ at some bit exactly when they are not equal. -/
theorem differsAtBit_eq_none_iff {a b : IdType} : differsAtBit a b = none ↔ a = b := by
  unfold differsAtBit
  exact (highestBit_eq_none_iff (distance_lt a b)).trans (Nat.xor_eq_zero.trans IdType.toNat_injective.eq_iff)

theorem differsAtBit_eq_some_iff {a b : IdType} {i : Fin 256} :
    differsAtBit a b = some i ↔ (distance a b).testBit i ∧ distance a b < 2 ^ (i.val + 1) := by
  unfold differsAtBit
  exact highestBit_eq_some_iff (distance_lt a b)

/-! ## Distance between buckets

Seen from an id `o` with a target `t` in bucket `p` (the bit at which `t` first differs from
`o`), an id in a lower bucket is less than `2 ^ (p + 1)` from `t`, and an id in a higher bucket
`j` is at least `2 ^ j` from it. -/

section Buckets

variable {o t f g : IdType} {p i j : Fin 256}

theorem distance_lt_of_lower_bucket (target : differsAtBit o t = some p) (lower : differsAtBit o f = some i)
    (below : i < p) : distance t f < 2 ^ (p.val + 1) := by
  rw [distance_eq_xor o]
  have ft := (differsAtBit_eq_some_iff.mp lower).2.trans_le
    (Nat.pow_le_pow_right (by omega) (show i.val + 1 ≤ p.val + 1 by omega))
  exact Nat.xor_lt_two_pow (differsAtBit_eq_some_iff.mp target).2 ft

theorem two_pow_le_distance_of_higher_bucket (target : differsAtBit o t = some p)
    (higher : differsAtBit o g = some j) (above : p < j) : 2 ^ j.val ≤ distance t g := by
  rw [distance_eq_xor o]
  apply Nat.testBit_implies_ge
  have clear : (distance o t).testBit j = false := Nat.testBit_lt_two_pow
    ((differsAtBit_eq_some_iff.mp target).2.trans_le (Nat.pow_le_pow_right (by omega) above))
  simp [clear,(differsAtBit_eq_some_iff.mp higher).1]

/-- An id in the target's own bucket is less than `2 ^ p` from it: both differ from `o` first at
bit `p`, so their distance has no bit from `p` up. -/
theorem distance_lt_of_same_bucket (target : differsAtBit o t = some p) (same : differsAtBit o f = some p) :
    distance t f < 2 ^ p.val := by
  rw [distance_eq_xor o]
  obtain ⟨tBit, tBelow⟩ := differsAtBit_eq_some_iff.mp target
  obtain ⟨fBit, fBelow⟩ := differsAtBit_eq_some_iff.mp same
  refine Nat.lt_pow_two_of_testBit _ fun k atLeast => ?_
  rw [Nat.testBit_xor]
  rcases Nat.eq_or_lt_of_le atLeast with here | above
  · subst here; simp [tBit,fBit]
  · have high {n : Nat} (below : n < 2 ^ (p.val + 1)) : n.testBit k = false :=
      Nat.testBit_lt_two_pow (below.trans_le (Nat.pow_le_pow_right (by omega) above))
    rw [high tBelow,high fBelow]; rfl

/-- The node itself is at least `2 ^ p` from a target in its bucket `p`. -/
theorem two_pow_le_distance_of_bucket (target : differsAtBit o t = some p) : 2 ^ p.val ≤ distance t o :=
  distance_comm o t ▸ Nat.testBit_implies_ge (differsAtBit_eq_some_iff.mp target).1

/-- An id in the target's bucket or one below it is less than `2 ^ (p + 1)` from the target. -/
theorem distance_lt_of_bucket_le (target : differsAtBit o t = some p) (held : differsAtBit o f = some i)
    (atMost : i ≤ p) : distance t f < 2 ^ (p.val + 1) := by
  rcases Nat.lt_or_eq_of_le atMost with below | same
  · exact distance_lt_of_lower_bucket target held below
  · rw [Fin.ext same] at held
    exact (distance_lt_of_same_bucket target held).trans (Nat.pow_lt_pow_right (by omega) (Nat.lt_succ_self _))

/-- A contact in a bucket below the target's is strictly closer to the target than one in a
bucket above it. -/
theorem distance_lt_of_buckets_around (target : differsAtBit o t = some p)
    (lower : differsAtBit o f = some i) (higher : differsAtBit o g = some j) (below : i < p) (above : p < j) :
    distance t f < distance t g :=
  calc distance t f < 2 ^ (p.val + 1) := distance_lt_of_lower_bucket target lower below
    _ ≤ 2 ^ j.val := Nat.pow_le_pow_right (by omega) above
    _ ≤ distance t g := two_pow_le_distance_of_higher_bucket target higher above

end Buckets

/-- `NodeContactInfo`. -/
structure NodeContactInfo where
  nodeId : IdType
  contactInfo : ContactInfo
  deriving DecidableEq

/-- `ContactOption`: an address to dial, and whether over TCP. -/
structure ContactOption where
  target : SocketAddr
  useTcp : Bool
  deriving DecidableEq

/-- `SstpSocketServers`, as which of its two servers are bound. -/
structure SstpSocketServers where
  udp : Bool
  tcp : Bool
  deriving DecidableEq

/-- `SocketCollection`, as far as `pick_contact_option` reads it. -/
structure SocketCollection where
  ipv4 : Option SstpSocketServers
  ipv6 : Option SstpSocketServers
  deriving DecidableEq

/-- One transport of one IP version in `pick_contact_option_at_openness`: picked when the
server has that socket and the target offers the transport at `openness`. -/
def pickTransport (bound : Bool) (transport : Option TransportOption) (addr : UInt16 → SocketAddr)
    (useTcp : Bool) (openness : Openness) : Option ContactOption :=
  if bound then
    match transport with
    | some option => if option.openness = openness then some ⟨addr option.port, useTcp⟩ else none
    | none => none
  else none

/-- The UDP and then the TCP transport of one IP version. -/
def pickEntry {Addr : Type} (servers : Option SstpSocketServers) (entry : Option (ContactInfoEntry Addr))
    (addr : Addr → UInt16 → SocketAddr) (openness : Openness) : Option ContactOption :=
  match servers, entry with
  | some servers, some entry =>
    (pickTransport servers.udp entry.availability.udp (addr entry.addr) false openness).orElse fun _ =>
      pickTransport servers.tcp entry.availability.tcp (addr entry.addr) true openness
  | _, _ => none

/-- `SocketCollection::pick_contact_option_at_openness`: IPv6 before IPv4, UDP before TCP. -/
def SocketCollection.pickContactOptionAtOpenness (sockets : SocketCollection) (target : ContactInfo)
    (openness : Openness) : Option ContactOption :=
  (pickEntry sockets.ipv6 target.ipv6 .v6 openness).orElse fun _ => pickEntry sockets.ipv4 target.ipv4 .v4 openness

/-- `SocketCollection::pick_contact_option`: the most open option the target offers. -/
def SocketCollection.pickContactOption (sockets : SocketCollection) (target : ContactInfo) :
    Option (ContactOption × Openness) :=
  let atOpenness := fun openness => (sockets.pickContactOptionAtOpenness target openness).map (·, openness)
  (atOpenness .bidirectional).orElse fun _ => (atOpenness .punchable).orElse fun _ => atOpenness .unidirectional

/-- `SocketCollection::connect`: the server of the target's IP version dials it, over UDP
unless `use_tcp`; `NoConnectionOptions` when that server or that socket is not bound.
`dialUdp` and `dialTcp` stand for the bound link servers' own `connect`, with their I/O
errors. -/
def SocketCollection.connect {Socket : Type} (sockets : SocketCollection) (dialUdp dialTcp : SocketAddr → Except Error Socket)
    (contact : ContactOption) : Except Error Socket :=
  let servers := match contact.target with
    | .v4 .. => sockets.ipv4
    | .v6 .. => sockets.ipv6
  match servers with
  | none => .error .noConnectionOptions
  | some servers =>
    if !contact.useTcp then
      if servers.udp then dialUdp contact.target else .error .noConnectionOptions
    else if servers.tcp then dialTcp contact.target else .error .noConnectionOptions

inductive ContactStrategyMethod where
  | direct
  | holePunch
  | relay
  deriving DecidableEq

/-- `ContactStrategy`: the option to dial and how. -/
structure ContactStrategy where
  contact : ContactOption
  method : ContactStrategyMethod
  deriving DecidableEq

/-- `ContactStrategy::new`: the method follows the target's openness alone. -/
def ContactStrategy.new (contact : ContactOption) (openness : Openness) : Option ContactStrategy :=
  some ⟨contact, match openness with
    | .bidirectional => .direct
    | .punchable => .holePunch
    | .unidirectional => .relay⟩

/-- `Node::pick_contact_strategy`. `ownOpenness` is `openness_at_option` of the node's own
contact info, declared outside the source files: a target reachable only one way is hole
punched unless the node itself is reachable only one way there too. -/
def pickContactStrategy (sockets : SocketCollection) (ownOpenness : ContactOption → Option Openness)
    (target : ContactInfo) : Option ContactStrategy := do
  let (option, openness) ← sockets.pickContactOption target
  let method ← match openness with
    | .bidirectional => some .direct
    | .punchable => some .holePunch
    | .unidirectional => do
      let own ← ownOpenness option
      pure (if own ≠ .unidirectional then .holePunch else .relay)
  pure ⟨option, method⟩

end StoneNet
