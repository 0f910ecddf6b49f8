import Unified.Lib.Bytes
import Unified.Lib.Evm

/-! The contract ABI at the level of bytes: words, strings, and the encoding of a list of arguments as
    its heads followed by its tails. -/

namespace Unified

def WORD_BYTES : Nat := 32

def uintWord (n : Nat) : List UInt8 := toBigEndian WORD_BYTES n

@[simp] theorem length_uintWord (n : Nat) : (uintWord n).length = WORD_BYTES := length_toBigEndian _ _

theorem uintWord_inj {n m : Nat} (hn : n < 2 ^ 256) (hm : m < 2 ^ 256) (h : uintWord n = uintWord m) : n = m := by
  have bound : 2 ^ 256 = 256 ^ WORD_BYTES := by norm_num [WORD_BYTES]
  rw [bound] at hn hm
  exact toBigEndian_inj hn hm h

inductive AbiValue where
  | static (word : List UInt8)
  | dynamic (data : List UInt8)

/-- The bytes that fill a string up to a whole number of words. -/
def wordPadding (length : Nat) : List UInt8 := List.replicate ((WORD_BYTES - length % WORD_BYTES) % WORD_BYTES) 0

/-- The tail of a dynamic argument: its length, and its data padded on the right. -/
def dynamicTail (data : List UInt8) : List UInt8 := uintWord data.length ++ data ++ wordPadding data.length

def abiHeads (offset : Nat) : List AbiValue → List UInt8
  | [] => []
  | .static word :: rest => word ++ abiHeads offset rest
  | .dynamic data :: rest => uintWord offset ++ abiHeads (offset + (dynamicTail data).length) rest

def abiTails : List AbiValue → List UInt8
  | [] => []
  | .static _ :: rest => abiTails rest
  | .dynamic data :: rest => dynamicTail data ++ abiTails rest

/-- `abi.encode` of arguments that take one word each in the head. -/
def abiEncode (args : List AbiValue) : List UInt8 := abiHeads (args.length * WORD_BYTES) args ++ abiTails args

theorem abiHeads_static (offset : Nat) (words : List (List UInt8)) :
    abiHeads offset (words.map .static) = words.flatten := by
  induction words with
  | nil => rfl
  | cons _ _ ih => rw [List.map_cons, abiHeads, ih, List.flatten_cons]

theorem abiTails_static (words : List (List UInt8)) : abiTails (words.map .static) = [] := by
  induction words with
  | nil => rfl
  | cons _ _ ih => rw [List.map_cons, abiTails, ih]

theorem abiEncode_static (words : List (List UInt8)) : abiEncode (words.map .static) = words.flatten := by
  rw [abiEncode, abiHeads_static, abiTails_static, List.append_nil]

/-- A leading string puts its offset first and its tail last. -/
theorem abiEncode_string (data : List UInt8) (words : List (List UInt8)) :
    abiEncode (.dynamic data :: words.map .static) =
      uintWord ((words.length + 1) * WORD_BYTES) ++ words.flatten ++ dynamicTail data := by
  rw [abiEncode, abiHeads, abiTails, abiHeads_static, abiTails_static, List.length_cons, List.length_map,
    List.append_nil]

theorem abiEncode_string_inj {data : List UInt8} {words words' : List (List UInt8)}
    (hw : ∀ w ∈ words, w.length = WORD_BYTES) (hw' : ∀ w ∈ words', w.length = WORD_BYTES)
    (h : abiEncode (.dynamic data :: words.map .static) = abiEncode (.dynamic data :: words'.map .static)) :
    words = words' := by
  rw [abiEncode_string, abiEncode_string] at h
  have hflat := (List.append_inj (List.append_cancel_right h) (by simp)).2
  have hlen := congrArg List.length hflat
  rw [length_flatten_of_forall hw, length_flatten_of_forall hw'] at hlen
  exact flatten_inj hw hw' (Nat.eq_of_mul_eq_mul_left (by decide) hlen) hflat

def Datum.word : Datum (BitVec 256) → List UInt8
  | .bytes32 w => uintWord w.toNat
  | .uint n => uintWord n
  | .address a => uintWord a

@[simp] theorem Datum.length_word (d : Datum (BitVec 256)) : d.word.length = WORD_BYTES := by
  cases d <;> exact length_uintWord _

def abiEncodeStatic (data : List (Datum (BitVec 256))) : List UInt8 := abiEncode (data.map fun d => .static d.word)

theorem abiEncodeStatic_eq (data : List (Datum (BitVec 256))) : abiEncodeStatic data = (data.map Datum.word).flatten := by
  rw [← abiEncode_static, List.map_map]
  rfl

/-- `abi.encode` of a leading string and static fields. -/
def abiEncodeTagged (tag : String) (data : List (Datum (BitVec 256))) : List UInt8 :=
  abiEncode (.dynamic tag.toUTF8.toList :: data.map fun d => .static d.word)

theorem abiEncodeTagged_eq (tag : String) (data : List (Datum (BitVec 256))) :
    abiEncodeTagged tag data = uintWord ((data.length + 1) * WORD_BYTES) ++ (data.map Datum.word).flatten ++
      dynamicTail tag.toUTF8.toList := by
  have h := abiEncode_string tag.toUTF8.toList (data.map Datum.word)
  rwa [List.map_map, List.length_map] at h

/-- Under one tag the encoding determines the words of its fields. -/
theorem abiEncodeTagged_inj {tag : String} {data data' : List (Datum (BitVec 256))}
    (h : abiEncodeTagged tag data = abiEncodeTagged tag data') : data.map Datum.word = data'.map Datum.word := by
  have length_word : ∀ data : List (Datum (BitVec 256)), ∀ w ∈ data.map Datum.word, w.length = WORD_BYTES := by
    intro data w hw
    obtain ⟨d, -, rfl⟩ := List.mem_map.mp hw
    exact d.length_word
  apply abiEncode_string_inj (length_word data) (length_word data')
  rw [List.map_map, List.map_map]
  exact h

end Unified
