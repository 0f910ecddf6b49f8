import Mathlib.Data.Nat.Pairing

/-! What contracts take from the machine they run on: 32-byte words, hashing and signer recovery. -/

namespace Unified

/-- Account addresses; `0` is the zero address. -/
abbrev Address := Nat

/-- One static field of an ABI encoding. -/
inductive Datum (W : Type) where
  | bytes32 (w : W)
  | uint (n : Nat)
  | address (a : Address)
  deriving DecidableEq, Repr

/-- Machine primitives over a type of 32-byte words. `keccak256 tag data` hashes
    `abi.encode(tag, data...)`; an empty tag stands for an encoding without a leading string.
    `ecrecover digest r s parity` is the signer of a signature, if there is one. -/
class Evm (W : Type) extends Zero W where
  decEq : DecidableEq W
  keccak256 : String → List (Datum W) → W
  ecrecover : W → Nat → Nat → Bool → Option Address

export Evm (keccak256 ecrecover)

instance (priority := low) {W : Type} [Evm W] : DecidableEq W := Evm.decEq

instance (priority := low) {W : Type} [Evm W] : Inhabited W := ⟨0⟩

@[simp] theorem word_default {W : Type} [Evm W] : (default : W) = 0 := rfl

/-- A machine on which no two encodings collide and no encoding hashes to the zero word. -/
class CollisionFree (W : Type) extends Evm W where
  keccak256_inj : ∀ {tag tag' : String} {data data' : List (Datum W)},
    keccak256 tag data = keccak256 tag' data' → tag = tag' ∧ data = data'
  keccak256_ne_zero : ∀ (tag : String) (data : List (Datum W)), keccak256 tag data ≠ 0

/-- Words as terms: literals, and hashes that keep what was hashed. -/
inductive Term where
  | lit (n : Nat)
  | tag (text : String)
  | bytes32 (w rest : Term)
  | uint (n : Nat) (rest : Term)
  | address (a : Address) (rest : Term)
  deriving DecidableEq, Repr

namespace Term

def hash (text : String) : List (Datum Term) → Term
  | [] => .tag text
  | .bytes32 w :: data => .bytes32 w (hash text data)
  | .uint n :: data => .uint n (hash text data)
  | .address a :: data => .address a (hash text data)

theorem hash_ne_lit (text : String) (data : List (Datum Term)) (n : Nat) : hash text data ≠ .lit n := by
  rcases data with _ | ⟨_ | _ | _, data⟩ <;> simp [hash]

theorem hash_inj {text text' : String} {data data' : List (Datum Term)}
    (h : hash text data = hash text' data') : text = text' ∧ data = data' := by
  induction data generalizing data' with
  | nil => rcases data' with _ | ⟨_ | _ | _, data'⟩ <;> simp_all [hash]
  | cons d data ih =>
    rcases data' with _ | ⟨d', data'⟩
    · cases d <;> simp [hash] at h
    · have tails : hash text data = hash text' data' ∧ d = d' := by
        cases d <;> cases d' <;> simp_all [hash]
      exact ⟨(ih tails.1).1, by rw [tails.2, (ih tails.1).2]⟩

/-- On terms a signature names its signer in `r`. -/
instance : CollisionFree Term where
  zero := .lit 0
  decEq := inferInstance
  keccak256 := hash
  ecrecover _ r _ _ := if r = 0 then none else some r
  keccak256_inj := hash_inj
  keccak256_ne_zero text data := hash_ne_lit text data 0

def spell : List Char → Nat
  | [] => 0
  | c :: text => Nat.pair c.toNat (spell text) + 1

theorem spell_injective : Function.Injective spell := by
  intro text
  induction text with
  | nil =>
    intro text' h
    cases text' with
    | nil => rfl
    | cons => simp [spell] at h
  | cons _ _ ih =>
    intro text' h
    cases text' with
    | nil => simp [spell] at h
    | cons =>
      simp only [spell, Nat.add_right_cancel_iff, Nat.pair_eq_pair] at h
      rw [Char.toNat_inj.mp h.1, ih h.2]

/-- Every term has its own number. -/
def number : Term → Nat
  | .lit n => 5 * n
  | .tag text => 5 * spell text.toList + 1
  | .bytes32 w rest => 5 * Nat.pair w.number rest.number + 2
  | .uint n rest => 5 * Nat.pair n rest.number + 3
  | .address a rest => 5 * Nat.pair a rest.number + 4

private theorem of_five {m n k : Nat} (h : 5 * m + k = 5 * n + k) : m = n := by omega

theorem number_injective : Function.Injective number := by
  intro x
  induction x with
  | lit =>
    intro y h
    cases y <;> simp only [number] at h <;> try omega
    rw [of_five (k := 0) h]
  | tag =>
    intro y h
    cases y <;> simp only [number] at h <;> try omega
    rw [String.toList_inj.mp (spell_injective (of_five h))]
  | bytes32 _ _ ihw ihrest =>
    intro y h
    cases y <;> simp only [number] at h <;> try omega
    obtain ⟨hw, hrest⟩ := Nat.pair_eq_pair.mp (of_five h)
    rw [ihw hw, ihrest hrest]
  | uint _ _ ihrest | address _ _ ihrest =>
    intro y h
    cases y <;> simp only [number] at h <;> try omega
    obtain ⟨rfl, hrest⟩ := Nat.pair_eq_pair.mp (of_five h)
    rw [ihrest hrest]

end Term

end Unified
