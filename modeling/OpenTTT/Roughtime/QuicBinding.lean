import OpenTTT.Runtime.Buffer
import Mathlib.Data.List.GetD

/-!
# The binding of records to a TLS session

`quic_transport.rs`: a frame with a binding key and a record. The key is an HMAC, with the secret of
the session, of the record without its signature, which is taken to be the last 64 bytes. Neither
`from_bytes` nor `verify` asks how long the record is: of a record that is shorter than a signature
nothing is bound, `binding_covers_record_iff`.

HMAC-SHA256 is a parameter, from a secret and a message to 32 bytes.
-/

namespace OpenTTT

namespace Roughtime

/-- `HmacSha256::new_from_slice(secret)`, updated with a message and finalized. -/
abbrev Mac := List UInt8 → List UInt8 → Vector UInt8 32

def TLS_EXPORTER_LABEL : List UInt8 := Buffer.ofAscii "EXPORTER-tttps-pot-binding"

def BINDING_KEY_LEN : ℕ := 32

/-- What the binding key of a context is the HMAC of: the label, a separator, the length of the
context as an `u32`, and the context. -/
def bindingMessage (potWithoutSig : List UInt8) : List UInt8 :=
  TLS_EXPORTER_LABEL ++ [0x00] ++ toBeBytes 4 (potWithoutSig.length % 2 ^ 32) ++ potWithoutSig

/-- The context is the end of the message, behind 31 bytes. -/
theorem bindingMessage_injective : Function.Injective bindingMessage := by
  intro a b h
  exact (List.append_inj h (by simp)).2

/-- A comparison of lists of the same length, element by element. -/
theorem all_zip_eq_iff {α : Type*} [BEq α] [LawfulBEq α] {l l' : List α}
    (h : l.length = l'.length) : (l.zip l').all (fun p => p.1 == p.2) = true ↔ l = l' := by
  induction l generalizing l' with
  | nil => rw [List.length_eq_zero_iff.1 h.symm, List.zip_nil_left, List.all_nil]; simp
  | cons x l ih =>
    cases l' with
    | nil => cases h
    | cons y l' =>
      rw [List.zip_cons_cons, List.all_cons, Bool.and_eq_true, beq_iff_eq, List.cons.injEq,
        ih (Nat.succ.inj h)]

section Keys

variable (hmac : Mac)

/-- `derive_binding_key`. -/
def deriveBindingKey (tlsMasterSecret potWithoutSig : List UInt8) : Vector UInt8 32 :=
  hmac tlsMasterSecret (bindingMessage potWithoutSig)

/-- `verify_binding_key`, which compares byte by byte. -/
def verifyBindingKey (tlsMasterSecret potWithoutSig : List UInt8)
    (receivedBindingKey : Vector UInt8 32) : Bool :=
  ((deriveBindingKey hmac tlsMasterSecret potWithoutSig).toList.zip receivedBindingKey.toList).all
    fun p => p.1 == p.2

theorem verifyBindingKey_iff {secret potWithoutSig : List UInt8} {received : Vector UInt8 32} :
    verifyBindingKey hmac secret potWithoutSig received = true ↔
      deriveBindingKey hmac secret potWithoutSig = received := by
  rw [verifyBindingKey, all_zip_eq_iff (by simp), Vector.toList_inj]

end Keys

/-! ## Frames -/

/-- An extended frame. -/
structure PotFrameExtended where
  bindingKey : Vector UInt8 32
  potRecord : List UInt8
  deriving DecidableEq

/-- `pot_record[..pot_record.len().saturating_sub(64)]`. -/
def withoutSig (potRecord : List UInt8) : List UInt8 := potRecord.take (potRecord.length - 64)

namespace PotFrameExtended

variable (hmac : Mac)

def build (tlsMasterSecret potRecord : List UInt8) : PotFrameExtended :=
  ⟨deriveBindingKey hmac tlsMasterSecret (withoutSig potRecord), potRecord⟩

def toBytes (self : PotFrameExtended) : List UInt8 := self.bindingKey.toList ++ self.potRecord

/-- `from_bytes`. -/
def fromBytes (bytes : List UInt8) : Option PotFrameExtended :=
  if bytes.length < BINDING_KEY_LEN then none
  else some ⟨Vector.ofFn fun i => bytes.getD i 0, bytes.drop BINDING_KEY_LEN⟩

def verify (self : PotFrameExtended) (tlsMasterSecret : List UInt8) : Bool :=
  verifyBindingKey hmac tlsMasterSecret (withoutSig self.potRecord) self.bindingKey

@[simp] theorem fromBytes_toBytes (self : PotFrameExtended) :
    fromBytes self.toBytes = some self := by
  have hlen : self.bindingKey.toList.length = BINDING_KEY_LEN := Vector.length_toList
  have hkey : (Vector.ofFn fun i : Fin 32 => self.toBytes.getD i 0) = self.bindingKey := by
    ext i hi
    have hi' : i < self.bindingKey.toList.length := by rwa [Vector.length_toList]
    have hlt : i < (self.bindingKey.toList ++ self.potRecord).length := by
      rw [List.length_append]
      exact Nat.lt_add_right _ hi'
    rw [Vector.getElem_ofFn, toBytes, List.getD_eq_getElem _ _ hlt, List.getElem_append_left hi',
      Vector.getElem_toList]
  rw [fromBytes, if_neg (by rw [toBytes, List.length_append, hlen]; omega), hkey, toBytes, ← hlen,
    List.drop_left]

/-- The record of an accepted frame. -/
theorem potRecord_of_fromBytes {bytes : List UInt8} {frame : PotFrameExtended}
    (h : fromBytes bytes = some frame) : frame.potRecord = bytes.drop 32 := by
  unfold fromBytes at h
  split at h
  · cases h
  · rw [← Option.some.inj h]
    rfl

variable {hmac}

/-- A frame verifies if its key is that of its record. -/
theorem verify_iff {self : PotFrameExtended} {secret : List UInt8} :
    self.verify hmac secret = true ↔
      deriveBindingKey hmac secret (withoutSig self.potRecord) = self.bindingKey :=
  verifyBindingKey_iff hmac

/-- What is built verifies, however long the record is. -/
theorem verify_build (secret potRecord : List UInt8) :
    (build hmac secret potRecord).verify hmac secret = true :=
  verify_iff.2 rfl

/-- Frames that verify have the same key if the same is bound. -/
theorem bindingKey_eq_iff {a b : PotFrameExtended} {secret : List UInt8}
    (ha : a.verify hmac secret = true) (hb : b.verify hmac secret = true)
    (hinj : Set.InjOn (hmac secret)
      {bindingMessage (withoutSig a.potRecord), bindingMessage (withoutSig b.potRecord)}) :
    a.bindingKey = b.bindingKey ↔ withoutSig a.potRecord = withoutSig b.potRecord := by
  rw [← verify_iff.1 ha, ← verify_iff.1 hb, deriveBindingKey, deriveBindingKey,
    hinj.eq_iff (Set.mem_insert _ _) (Set.mem_insert_of_mem _ rfl)]
  exact bindingMessage_injective.eq_iff

end PotFrameExtended

/-! ## What a binding covers -/

/-- The records are the same, but for a signature of 64 bytes at the end. -/
def EqualUpToSignature (a b : List UInt8) : Prop :=
  a = b ∨ ∃ unsigned sig sig' : List UInt8, sig.length = 64 ∧ sig'.length = 64 ∧
    a = unsigned ++ sig ∧ b = unsigned ++ sig'

/-- The part of a signed record before its signature. -/
@[simp] theorem withoutSig_append {unsigned sig : List UInt8} (h : sig.length = 64) :
    withoutSig (unsigned ++ sig) = unsigned := by
  rw [withoutSig, List.length_append, h, Nat.add_sub_cancel, List.take_left]

/-- Records that are long enough for a signature. -/
theorem equalUpToSignature_of_withoutSig {a b : List UInt8} (ha : 64 ≤ a.length)
    (hb : 64 ≤ b.length) (h : withoutSig a = withoutSig b) : EqualUpToSignature a b := by
  refine Or.inr ⟨withoutSig a, a.drop (a.length - 64), b.drop (b.length - 64), ?_, ?_, ?_, ?_⟩
  · rw [List.length_drop]
    omega
  · rw [List.length_drop]
    omega
  · exact (List.take_append_drop _ a).symm
  · rw [h]
    exact (List.take_append_drop _ b).symm

/-- The lengths of records with the same part before the signature. -/
theorem length_sub_eq {a b : List UInt8} (h : withoutSig a = withoutSig b) :
    a.length - 64 = b.length - 64 := by
  have hlen := congrArg List.length h
  rw [withoutSig, withoutSig, List.length_take, List.length_take] at hlen
  omega

/-- When the part before the signature determines the record up to the signature. -/
theorem withoutSig_covers_iff {a b : List UInt8} :
    (withoutSig a = withoutSig b → EqualUpToSignature a b) ↔
      (64 ≤ a.length ∧ 64 ≤ b.length) ∨ 64 < a.length ∨ 64 < b.length ∨ a = b := by
  constructor
  · intro hcovers
    by_contra hcond
    simp only [not_or, not_lt] at hcond
    obtain ⟨hshort, ha, hb, hne⟩ := hcond
    -- nothing is before the signature in either of them
    have hempty : withoutSig a = withoutSig b := by
      rw [withoutSig, withoutSig, Nat.sub_eq_zero_of_le ha, Nat.sub_eq_zero_of_le hb,
        List.take_zero, List.take_zero]
    rcases hcovers hempty with heq | ⟨unsigned, sig, sig', hsig, hsig', rfl, rfl⟩
    · exact hne heq
    · rw [List.length_append, List.length_append] at hshort
      omega
  · intro hcond h
    have hlen := length_sub_eq h
    rcases hcond with ⟨ha, hb⟩ | ha | hb | heq
    · exact equalUpToSignature_of_withoutSig ha hb h
    · exact equalUpToSignature_of_withoutSig (by omega) (by omega) h
    · exact equalUpToSignature_of_withoutSig (by omega) (by omega) h
    · exact Or.inl heq

/-- **What a binding key covers.** Frames that are accepted and verify under a secret, and have the
same binding key, have the same record up to a signature, exactly if neither of the two records is
shorter than a signature, or one of them is longer, or they are the same. -/
theorem binding_covers_record_iff (hmac : Mac) (secret a b : List UInt8)
    (fa fb : PotFrameExtended) (ha : PotFrameExtended.fromBytes a = some fa)
    (hb : PotFrameExtended.fromBytes b = some fb) (hva : fa.verify hmac secret = true)
    (hvb : fb.verify hmac secret = true)
    (hinj : Set.InjOn (hmac secret)
      {bindingMessage (withoutSig fa.potRecord), bindingMessage (withoutSig fb.potRecord)}) :
    (fa.bindingKey = fb.bindingKey → EqualUpToSignature fa.potRecord fb.potRecord) ↔
      (64 ≤ (a.drop 32).length ∧ 64 ≤ (b.drop 32).length) ∨ 64 < (a.drop 32).length ∨
        64 < (b.drop 32).length ∨ a.drop 32 = b.drop 32 := by
  rw [PotFrameExtended.bindingKey_eq_iff hva hvb hinj, withoutSig_covers_iff,
    PotFrameExtended.potRecord_of_fromBytes ha, PotFrameExtended.potRecord_of_fromBytes hb]

/-- That a binding key covers the whole record before the signature, for all frames. -/
def BindingCoversRecord : Prop :=
  ∀ (hmac : Mac) (secret a b : List UInt8) (fa fb : PotFrameExtended),
    PotFrameExtended.fromBytes a = some fa → PotFrameExtended.fromBytes b = some fb →
    fa.verify hmac secret = true → fb.verify hmac secret = true →
    Set.InjOn (hmac secret)
      {bindingMessage (withoutSig fa.potRecord), bindingMessage (withoutSig fb.potRecord)} →
    fa.bindingKey = fb.bindingKey → EqualUpToSignature fa.potRecord fb.potRecord

/-! ### Records without anything to bind -/

namespace QuicBinding.Sample

def secret : List UInt8 := Buffer.ofAscii "tttps_mock_tls_master_secret_v02"

/-- The HMAC of the message without a context, and of the one with 79 zero bytes. -/
def hmac : Mac := fun _ message =>
  if message = bindingMessage [] then
    #v[50, 92, 3, 73, 11, 187, 39, 67, 41, 183, 171, 205, 155, 90, 105, 201, 54, 105, 97, 96, 49,
      205, 90, 162, 21, 237, 139, 194, 30, 127, 185, 165]
  else
    #v[107, 250, 62, 203, 167, 124, 179, 86, 80, 93, 120, 203, 250, 123, 77, 201, 59, 200, 113, 67,
      212, 177, 129, 192, 6, 238, 250, 90, 65, 184, 178, 74]

/-- A frame of a record. -/
def frame (potRecord : List UInt8) : PotFrameExtended :=
  PotFrameExtended.build hmac secret potRecord

/-- A record of 79 zero bytes with a signature. -/
def record (sig : UInt8) : List UInt8 := List.replicate 79 0 ++ List.replicate 64 sig

end QuicBinding.Sample

open QuicBinding.Sample in
/-- Two records of less than 64 bytes. -/
theorem not_bindingCoversRecord : ¬ BindingCoversRecord := by
  intro h
  have hinj : Set.InjOn (hmac secret)
      {bindingMessage (withoutSig (frame [1, 2, 3]).potRecord),
        bindingMessage (withoutSig (frame [9]).potRecord)} := by
    rw [show withoutSig (frame [1, 2, 3]).potRecord = withoutSig (frame [9]).potRecord from rfl,
      Set.pair_eq_singleton]
    exact Set.injOn_singleton _ _
  have hequal := h hmac secret (frame [1, 2, 3]).toBytes (frame [9]).toBytes (frame [1, 2, 3])
    (frame [9]) (by simp) (by simp) (PotFrameExtended.verify_build _ _)
    (PotFrameExtended.verify_build _ _) hinj rfl
  rcases hequal with heq | ⟨unsigned, sig, sig', hsig, -, heq, -⟩
  · exact absurd heq (by decide)
  · have hlen := congrArg List.length heq
    rw [List.length_append, hsig] at hlen
    change 3 = unsigned.length + 64 at hlen
    omega

open QuicBinding.Sample in
/-- Two records of 143 bytes that differ in their signatures. -/
theorem binding_covers_record_143 :
    ((frame (record 1)).bindingKey = (frame (record 2)).bindingKey →
      EqualUpToSignature (frame (record 1)).potRecord (frame (record 2)).potRecord) ↔
      (64 ≤ ((frame (record 1)).toBytes.drop 32).length ∧
          64 ≤ ((frame (record 2)).toBytes.drop 32).length) ∨
        64 < ((frame (record 1)).toBytes.drop 32).length ∨
        64 < ((frame (record 2)).toBytes.drop 32).length ∨
        (frame (record 1)).toBytes.drop 32 = (frame (record 2)).toBytes.drop 32 := by
  refine binding_covers_record_iff hmac secret _ _ _ _ (PotFrameExtended.fromBytes_toBytes _)
    (PotFrameExtended.fromBytes_toBytes _) (PotFrameExtended.verify_build _ _)
    (PotFrameExtended.verify_build _ _) ?_
  have hsig (sig : UInt8) : withoutSig (frame (record sig)).potRecord = List.replicate 79 0 :=
    withoutSig_append List.length_replicate
  rw [hsig, hsig, Set.pair_eq_singleton]
  exact Set.injOn_singleton _ _

end Roughtime

end OpenTTT
