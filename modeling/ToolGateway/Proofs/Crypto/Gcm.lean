import Mathlib.Tactic
import ToolGateway.Crypto.Gcm

/-!
Decryption undoes encryption, and how long a ciphertext is.

Nothing of this depends on what the cipher computes, only on the lengths: a key of thirty-two octets makes round keys of
sixteen, so a block stays a block through all rounds, the mask covers the whole text, and the tag has sixteen octets.

- `length_encryptBlock`: an enciphered block is a block.
- `decrypt_encrypt`: what `encrypt` gives is deciphered to the plaintext, whatever its length.
- `length_encrypt`: it is sixteen octets longer.
-/

namespace ToolGateway

namespace Aes256

@[simp] theorem length_xor (a b : Bytes) : (xor a b).length = min a.length b.length := by
  simp [xor]

/-- masking twice with the same octets gives back what was masked -/
theorem xor_xor_cancel {a b : Bytes} (h : a.length ≤ b.length) : xor (xor a b) b = a := by
  induction a generalizing b with
  | nil => rfl
  | cons x a ih =>
    cases b with
    | nil => simp at h
    | cons y b =>
      have htail : xor (xor a b) b = a := ih (Nat.le_of_succ_le_succ h)
      have hhead : x ^^^ y ^^^ y = x := by
        rw [UInt8.xor_assoc, UInt8.xor_self, UInt8.xor_zero]
      change (x ^^^ y ^^^ y) :: xor (xor a b) b = x :: a
      rw [hhead, htail]

/-! ## The round keys -/

theorem length_quads (bytes : Bytes) : (quads bytes).length = bytes.length / 4 := by
  induction bytes using quads.induct with
  | case1 p q r s rest ih =>
    rw [quads, List.length_cons, ih]
    simp only [List.length_cons]
    omega
  | case2 bytes hshort =>
    have hlt : bytes.length < 4 := by
      match bytes, hshort with
      | [], _ | [_], _ | [_, _], _ | [_, _, _], _ => simp
      | p :: q :: r :: s :: rest, hshort => exact absurd rfl (hshort p q r s rest)
    rw [quads, List.length_nil]
    · omega
    · exact hshort

theorem length_of_mem_quads {bytes word : Bytes} (h : word ∈ quads bytes) : word.length = 4 := by
  induction bytes using quads.induct with
  | case1 p q r s rest ih =>
    rw [quads] at h
    rcases List.mem_cons.1 h with rfl | h
    · rfl
    · exact ih h
  | case2 bytes hshort =>
    rw [quads] at h
    · cases h
    · exact hshort

/-- a schedule that can be extended: words of four octets, and eight of them to look back on -/
structure IsSchedule (schedule : List Bytes) : Prop where
  eight : 8 ≤ schedule.length
  words : ∀ word ∈ schedule, word.length = 4

theorem length_mixFirst {word : Bytes} (constant : UInt8) (h : word.length = 4) :
    (mixFirst constant word).length = 4 := by
  match word, h with
  | [_, _, _, _], _ => rfl

theorem extendKey_isSchedule {schedule : List Bytes} (h : IsSchedule schedule) (count : Nat) :
    IsSchedule (extendKey schedule count) := by
  have hlast : (schedule.headD []).length = 4 := by
    match schedule, h with
    | [], h => exact absurd h.eight (by decide)
    | word :: rest, h => exact h.words word List.mem_cons_self
  have hback : (schedule.getD 7 []).length = 4 := by
    have hlt : 7 < schedule.length := h.eight
    rw [List.getD_eq_getElem?_getD, List.getElem?_eq_getElem hlt, Option.getD_some]
    exact h.words _ (List.getElem_mem hlt)
  refine ⟨Nat.le_succ_of_le h.eight, fun word hword => ?_⟩
  rcases List.mem_cons.1 hword with rfl | hold
  · rw [length_xor, hback]
    split_ifs
    · rw [length_mixFirst _ hlast]
      rfl
    · rw [List.length_map, hlast]
      rfl
    · rw [hlast]
      rfl
  · exact h.words word hold

theorem expanded_isSchedule {schedule : List Bytes} (h : IsSchedule schedule) (counts : List Nat) :
    IsSchedule (counts.foldl (fun schedule i => extendKey schedule (i + 8)) schedule) := by
  induction counts generalizing schedule with
  | nil => exact h
  | cons i counts ih => exact ih (extendKey_isSchedule h (i + 8))

theorem length_of_mem_roundKeys {words : List Bytes} (h : ∀ word ∈ words, word.length = 4) {key : Bytes}
    (hkey : key ∈ roundKeys words) : key.length = 16 := by
  induction words using roundKeys.induct with
  | case1 p q r s rest ih =>
    rw [roundKeys] at hkey
    simp only [List.mem_cons, forall_eq_or_imp] at h
    obtain ⟨hp, hq, hr, hs, hrest⟩ := h
    rcases List.mem_cons.1 hkey with rfl | hkey
    · simp only [List.length_append, hp, hq, hr, hs]
    · exact ih hrest hkey
  | case2 words hshort =>
    rw [roundKeys] at hkey
    · cases hkey
    · exact hshort

/-- **A key of the right size makes round keys of one block.** -/
theorem length_of_mem_expand {key : Bytes} (hkey : key.length = 32) : ∀ k ∈ expand key, k.length = 16 := by
  intro k hk
  have hstart : IsSchedule (quads key).reverse := by
    refine ⟨?_, fun word hword => length_of_mem_quads (List.mem_reverse.1 hword)⟩
    rw [List.length_reverse, length_quads, hkey]
  have hschedule := expanded_isSchedule hstart (List.range 52)
  exact length_of_mem_roundKeys (fun word hword => hschedule.words word (List.mem_reverse.1 hword)) hk

/-! ## The rounds -/

@[simp] theorem length_shiftRows (block : Bytes) : (shiftRows block).length = 16 := by
  simp [shiftRows]

theorem length_mixColumns {block : Bytes} (h : block.length = 16) : (mixColumns block).length = 16 := by
  have hquads : (quads block).length = 4 := by rw [length_quads, h]
  rw [mixColumns, List.length_flatMap]
  calc ((quads block).map _).sum = ((quads block).map fun _ => 4).sum := by
        congr 1
        refine List.map_congr_left fun column hcolumn => ?_
        match column, length_of_mem_quads hcolumn with
        | [_, _, _, _], _ => rfl
    _ = 16 := by simp [hquads]

theorem length_rounds {keys : List Bytes} (hkeys : ∀ k ∈ keys, k.length = 16) {block : Bytes}
    (h : block.length = 16) : (rounds block keys).length = 16 := by
  induction block, keys using rounds.induct with
  | case1 block => exact h
  | case2 block key =>
    rw [rounds, length_xor, length_shiftRows, hkeys key List.mem_cons_self]
    rfl
  | case3 block key rest hrest ih =>
    rw [rounds]
    · refine ih (fun k hk => hkeys k (List.mem_cons_of_mem _ hk)) ?_
      rw [length_xor, length_mixColumns (length_shiftRows _), hkeys key List.mem_cons_self]
      rfl
    · exact hrest

/-- **An enciphered block is a block.** -/
theorem length_encryptBlock {keys : List Bytes} (hkeys : ∀ k ∈ keys, k.length = 16) {block : Bytes}
    (h : block.length = 16) : (encryptBlock keys block).length = 16 := by
  cases keys with
  | nil => exact h
  | cons first rest =>
    refine length_rounds (fun k hk => hkeys k (List.mem_cons_of_mem _ hk)) ?_
    rw [length_xor, h, hkeys first List.mem_cons_self]
    rfl

end Aes256

namespace Gcm

variable {key nonce : Bytes}

/-! ## Lengths -/

@[simp] theorem length_ofNumber (size n : Nat) : (ofNumber size n).length = size := by
  simp [ofNumber]

theorem length_counterBlock (hnonce : nonce.length = 12) (counter : Nat) :
    (counterBlock nonce counter).length = 16 := by
  rw [counterBlock, List.length_append, hnonce, length_ofNumber]

/-- the mask is as long as it is asked to be -/
theorem length_mask (hkey : key.length = 32) (hnonce : nonce.length = 12) (length : Nat) :
    (mask (Aes256.expand key) nonce length).length = length := by
  have hblock : ∀ i, (Aes256.encryptBlock (Aes256.expand key) (counterBlock nonce (i + 2))).length = 16 := fun i =>
    Aes256.length_encryptBlock (Aes256.length_of_mem_expand hkey) (length_counterBlock hnonce _)
  rw [mask, List.length_take, List.length_flatMap]
  simp only [hblock, List.map_const', List.length_range, List.sum_replicate, smul_eq_mul]
  omega

theorem length_tag (hkey : key.length = 32) (hnonce : nonce.length = 12) (ciphertext : Bytes) :
    (tag (Aes256.expand key) nonce ciphertext).length = tagSize := by
  rw [tag, Aes256.length_xor, length_ofNumber,
    Aes256.length_encryptBlock (Aes256.length_of_mem_expand hkey) (length_counterBlock hnonce 1)]
  rfl

/-- a ciphertext with its tag is sixteen octets longer than the plaintext -/
theorem length_encrypt (hkey : key.length = 32) (hnonce : nonce.length = 12) (plaintext : Bytes) :
    (encrypt key nonce plaintext).length = plaintext.length + 16 := by
  rw [encrypt, List.length_append, length_tag hkey hnonce, Aes256.length_xor, length_mask hkey hnonce, Nat.min_self]
  rfl

/-- so it is never empty -/
theorem encrypt_ne_nil (hkey : key.length = 32) (hnonce : nonce.length = 12) (plaintext : Bytes) :
    encrypt key nonce plaintext ≠ [] := by
  have hlength := length_encrypt hkey hnonce plaintext
  exact List.ne_nil_of_length_pos (by omega)

/-! ## Main result -/

/-- **Decryption undoes encryption.** -/
theorem decrypt_encrypt (hkey : key.length = 32) (hnonce : nonce.length = 12) (plaintext : Bytes) :
    decrypt key nonce (encrypt key nonce plaintext) = some plaintext := by
  have hmask := length_mask hkey hnonce plaintext.length
  obtain ⟨masked, hmasked⟩ :
      ∃ masked, masked = Aes256.xor plaintext (mask (Aes256.expand key) nonce plaintext.length) := ⟨_, rfl⟩
  have hlength : masked.length = plaintext.length := by
    rw [hmasked, Aes256.length_xor, hmask, Nat.min_self]
  have htag := length_tag hkey hnonce masked
  have hencrypt : encrypt key nonce plaintext = masked ++ tag (Aes256.expand key) nonce masked := by
    rw [hmasked]
    rfl
  have hfront : (masked ++ tag (Aes256.expand key) nonce masked).length - tagSize = masked.length := by
    rw [List.length_append, htag, Nat.add_sub_cancel]
  have hunmask : Aes256.xor masked (mask (Aes256.expand key) nonce masked.length) = plaintext := by
    rw [hlength, hmasked]
    exact Aes256.xor_xor_cancel hmask.ge
  rw [hencrypt, decrypt, if_neg (by rw [List.length_append, htag]; omega), hfront, List.take_left, List.drop_left]
  simp only [if_true, hunmask]

end Gcm

end ToolGateway
