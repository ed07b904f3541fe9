import Mathlib
import Remedy.Program.Fingerprint
/-!
# Proofs.Text.Bytes — texts and numbers as bytes

Two texts with the same bytes are the same (`bytesOf_inj`), and a byte below 128 is found in a text only where the
character with that number is (`mem_bytesOf`).  Of a number that is not too large only the first three bytes matter
(`bytes8_eq`).
-/
namespace Remedy

/-! ## Texts -/

theorem toList_loop (bs : ByteArray) (i : Nat) (r : List UInt8) :
    ByteArray.toList.loop bs i r = r.reverse ++ bs.data.toList.drop i := by
  fun_induction ByteArray.toList.loop bs i r with
  | case1 i r hlt ih =>
    have hi : i < bs.data.toList.length := hlt
    rw [ih, List.drop_eq_getElem_cons hi]
    simp [ByteArray.get!, hlt]
  | case2 i r hge =>
    have hi : bs.data.toList.length ≤ i := Nat.le_of_not_lt hge
    rw [List.drop_eq_nil_of_le hi, List.append_nil]

theorem bytesOf_eq (s : String) : bytesOf s = s.toList.flatMap String.utf8EncodeChar := by
  have hdata : s.toUTF8.data = (s.toList.flatMap String.utf8EncodeChar).toArray := by
    rw [String.toUTF8_eq_toByteArray, ← String.utf8Encode_toList, List.utf8Encode, List.data_toByteArray]
  unfold bytesOf ByteArray.toList
  rw [toList_loop, hdata]
  simp

/-- **The bytes of a text are those of no other text.** -/
theorem bytesOf_inj {s t : String} (h : bytesOf s = bytesOf t) : s = t := by
  rw [bytesOf_eq, bytesOf_eq] at h
  rw [← String.toByteArray_inj, ← String.utf8Encode_toList, ← String.utf8Encode_toList, List.utf8Encode,
    List.utf8Encode, h]

theorem bytesOf_ne_nil {s : String} (h : s ≠ "") : bytesOf s ≠ [] := by
  intro hs
  refine h (bytesOf_inj (hs.trans ?_))
  rw [bytesOf_eq]
  rfl

theorem mem_utf8EncodeChar {c : Char} {x : UInt8} (hx : x ∈ String.utf8EncodeChar c) (hlt : x.toNat < 128) :
    c.toNat = x.toNat := by
  unfold String.utf8EncodeChar at hx
  simp only at hx
  have hhigh : ∀ m, 128 ≤ m % 256 → x ≠ UInt8.ofNat m := by
    intro m hm heq
    rw [heq, UInt8.toNat_ofNat'] at hlt
    exact absurd hlt (Nat.not_lt.2 hm)
  split at hx
  · rename_i hle
    rcases List.mem_singleton.1 hx with rfl
    have hsmall : c.val.toNat < 256 := by omega
    exact (Nat.mod_eq_of_lt hsmall).symm
  · -- every byte of a longer character has its highest bit set
    exfalso
    split at hx
    · simp only [List.mem_cons, List.not_mem_nil, or_false] at hx
      rcases hx with hx | hx
      · exact hhigh _ (by omega) hx
      · exact hhigh _ (by omega) hx
    · split at hx
      · simp only [List.mem_cons, List.not_mem_nil, or_false] at hx
        rcases hx with hx | hx | hx
        · exact hhigh _ (by omega) hx
        · exact hhigh _ (by omega) hx
        · exact hhigh _ (by omega) hx
      · simp only [List.mem_cons, List.not_mem_nil, or_false] at hx
        rcases hx with hx | hx | hx | hx
        · exact hhigh _ (by omega) hx
        · exact hhigh _ (by omega) hx
        · exact hhigh _ (by omega) hx
        · exact hhigh _ (by omega) hx

theorem mem_bytesOf {s : String} {x : UInt8} (hx : x ∈ bytesOf s) (hlt : x.toNat < 128) :
    ∃ c ∈ s.toList, c.toNat = x.toNat := by
  rw [bytesOf_eq] at hx
  obtain ⟨c, hc, hx⟩ := List.mem_flatMap.1 hx
  exact ⟨c, hc, mem_utf8EncodeChar hx hlt⟩

/-! ## Numbers -/

/-- **A number below 2²⁴ has three bytes**, and zeros after them. -/
theorem bytes8_eq {n : Nat} (h : n < 2 ^ 24) :
    bytes8 n = [(n % 256).toUInt8, (n / 256 % 256).toUInt8, (n / 65536 % 256).toUInt8, 0, 0, 0, 0, 0] := by
  have hzero : ∀ i, 3 ≤ i → (n / Nat.pow 256 i % 256).toUInt8 = 0 := by
    intro i hi
    have hpow : Nat.pow 256 3 ≤ Nat.pow 256 i := Nat.pow_le_pow_right (by decide) hi
    have hbound : n < Nat.pow 256 3 := h
    rw [Nat.div_eq_of_lt (by omega)]
    rfl
  have hone : n / Nat.pow 256 0 % 256 = n % 256 := congrArg (· % 256) (Nat.div_one n)
  have hlist : List.range 8 = [0, 1, 2, 3, 4, 5, 6, 7] := rfl
  unfold bytes8
  rw [hlist]
  simp only [List.map_cons, List.map_nil, hone, hzero 3 (by decide), hzero 4 (by decide), hzero 5 (by decide),
    hzero 6 (by decide), hzero 7 (by decide)]

theorem eq_of_bytes8 {m n : Nat} (hm : m < 2 ^ 24) (hn : n < 2 ^ 24) (h : bytes8 m = bytes8 n) : m = n := by
  have hbyte : ∀ {i j : Nat}, (i % 256).toUInt8 = (j % 256).toUInt8 → i % 256 = j % 256 := by
    intro i j hij
    have hnat := congrArg UInt8.toNat hij
    simpa using hnat
  rw [bytes8_eq hm, bytes8_eq hn] at h
  obtain ⟨hfirst, h⟩ := List.cons.inj h
  obtain ⟨hsecond, h⟩ := List.cons.inj h
  obtain ⟨hthird, -⟩ := List.cons.inj h
  have hfirst := hbyte hfirst
  have hsecond := hbyte hsecond
  have hthird := hbyte hthird
  omega

end Remedy
