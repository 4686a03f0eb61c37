import Mathlib.Data.List.TakeWhile
import Mathlib.Tactic.SplitIfs
import Newswire.Message

/-!
Messages made of bytes. In the usual encoding the bytes of any characters are read as these
characters, so a message can be made of a text or of its bytes alike.
-/

namespace Newswire.Charset

/-! ### The bytes of one character -/

theorem payload_eq (b : UInt8) : payload b = b.toNat % 64 := by
  rw [payload, UInt8.toNat_and]
  exact Nat.and_two_pow_sub_one_eq_mod b.toNat 6

theorem continues_iff (b : UInt8) : continues b = true ↔ 128 ≤ b.toNat ∧ b.toNat < 192 := by
  have hall : ∀ n < 256,
      continues (UInt8.ofNat n) = true ↔ 128 ≤ (UInt8.ofNat n).toNat ∧ (UInt8.ofNat n).toNat < 192 := by
    decide +kernel
  have h := hall b.toNat b.toNat_lt
  rwa [UInt8.ofNat_toNat] at h

theorem mayFollow_iff (first second : UInt8) : mayFollow first second = true ↔
    (128 ≤ second.toNat ∧ second.toNat < 192) ∧ (first.toNat = 224 → 160 ≤ second.toNat) ∧
      (first.toNat = 237 → second.toNat < 160) ∧ (first.toNat = 240 → 144 ≤ second.toNat) ∧
      (first.toNat = 244 → second.toNat < 144) := by
  rw [mayFollow, Bool.and_eq_true, continues_iff]
  refine and_congr_right fun _ => ?_
  simp only [← UInt8.toNat_inj, UInt8.reduceToNat]
  split_ifs
  all_goals
    simp only [decide_eq_true_eq, UInt8.le_iff_toNat_le, UInt8.lt_iff_toNat_lt, UInt8.reduceToNat,
      true_iff]
    omega

theorem utf8_of_follow {b second : UInt8} {others : List UInt8} (needed : Nat)
    (hlow : 194 ≤ b.toNat) (hhigh : b.toNat ≤ 244)
    (hneeded : (if b.toNat < 224 then 1 else if b.toNat < 240 then 2 else 3) = needed)
    (hsecond : mayFollow b second = true) (hothers : ∀ o ∈ others, continues o = true)
    (hlength : others.length = needed - 1) (rest : List UInt8) :
    utf8 b (second :: (others ++ rest)) = .code ((second :: others).foldl
      (fun n c => n * 64 + payload c) (b.toNat % Nat.pow 2 (6 - needed))) needed := by
  have hnext : ((others ++ rest).take (needed - 1)).takeWhile continues = others := by
    rw [← hlength, List.take_left]
    exact List.takeWhile_eq_self_iff.mpr hothers
  have hmore : ¬ b.toNat < 128 := by omega
  have hlead : (decide (b.toNat < 194) || decide (244 < b.toNat)) = false := by
    rw [Bool.or_eq_false_iff, decide_eq_false_iff_not, decide_eq_false_iff_not]
    omega
  simp only [utf8, UInt8.lt_iff_toNat_lt, UInt8.reduceToNat, if_neg hmore, hlead,
    Bool.false_eq_true, if_false, hneeded, hsecond, Bool.not_true, hnext, hlength, if_true]

theorem utf8_encoded (c : Char) (rest : List UInt8) : ∃ b more,
    String.utf8EncodeChar c = b :: more ∧ utf8 b (more ++ rest) = .char c more.length := by
  have hvalid : c.val.toNat < 0xD800 ∨ 0xDFFF < c.val.toNat ∧ c.val.toNat < 0x110000 := c.valid
  have hbyte {n : Nat} (hn : n < 256) : (UInt8.ofNat n).toNat = n := UInt8.toNat_ofNat_of_lt' hn
  have htail (n : Nat) : (UInt8.ofNat (n % 64 + 128)).toNat = n % 64 + 128 := hbyte (by omega)
  have hcontinues (n : Nat) : continues (UInt8.ofNat (n % 64 + 128)) = true := by
    rw [continues_iff, htail]
    omega
  simp only [String.utf8EncodeChar, Front.char, Char.toNat]
  generalize c.val.toNat = v at hvalid ⊢
  split_ifs with h₁ h₂ h₃
  · refine ⟨_, _, rfl, ?_⟩
    have hb : UInt8.ofNat v < 0x80 := by
      rw [UInt8.lt_iff_toNat_lt, hbyte (by omega)]
      exact Nat.lt_succ_of_le h₁
    rw [utf8, if_pos hb, hbyte (by omega), Front.char, Text.toNat_ofNat (by omega)]
    · rfl
    · rw [Text.isHalf_iff]
      omega
  · have hlead : (UInt8.ofNat (v / 64 % 32 + 192)).toNat = v / 64 % 32 + 192 := hbyte (by omega)
    refine ⟨_, _, rfl, (utf8_of_follow 1 (by omega) (by omega) ?_ ?_ ?_ rfl rest).trans ?_⟩
    · exact if_pos (by omega)
    · rw [mayFollow_iff, hlead, htail]
      omega
    · exact fun _ ho => nomatch ho
    · simp only [List.foldl_cons, List.foldl_nil, payload_eq, hlead, htail]
      refine congrArg (Front.code · 1) ?_
      show (v / 64 % 32 + 192) % 32 * 64 + (v % 64 + 128) % 64 = v
      omega
  · have hlead : (UInt8.ofNat (v / 4096 % 16 + 224)).toNat = v / 4096 % 16 + 224 := hbyte (by omega)
    refine ⟨_, _, rfl, (utf8_of_follow 2 (by omega) (by omega) ?_ ?_ ?_ rfl rest).trans ?_⟩
    · rw [if_neg (by omega), if_pos (by omega)]
    · rw [mayFollow_iff, hlead, htail]
      omega
    · exact List.forall_mem_singleton.mpr (hcontinues v)
    · simp only [List.foldl_cons, List.foldl_nil, payload_eq, hlead, htail]
      refine congrArg (Front.code · 2) ?_
      show ((v / 4096 % 16 + 224) % 16 * 64 + (v / 64 % 64 + 128) % 64) * 64 + (v % 64 + 128) % 64 = v
      omega
  · have hlead : (UInt8.ofNat (v / 262144 % 8 + 240)).toNat = v / 262144 % 8 + 240 :=
      hbyte (by omega)
    refine ⟨_, _, rfl, (utf8_of_follow 3 (by omega) (by omega) ?_ ?_ ?_ rfl rest).trans ?_⟩
    · rw [if_neg (by omega), if_neg (by omega)]
    · rw [mayFollow_iff, hlead, htail]
      omega
    · exact List.forall_mem_cons.mpr ⟨hcontinues _, List.forall_mem_singleton.mpr (hcontinues v)⟩
    · simp only [List.foldl_cons, List.foldl_nil, payload_eq, hlead, htail]
      refine congrArg (Front.code · 3) ?_
      show (((v / 262144 % 8 + 240) % 8 * 64 + (v / 4096 % 64 + 128) % 64) * 64
        + (v / 64 % 64 + 128) % 64) * 64 + (v % 64 + 128) % 64 = v
      omega

/-! ### Messages -/

theorem decodeFrom_encoded (cs : List Char) (position : Nat) :
    decodeFrom utf8 position (cs.flatMap String.utf8EncodeChar)
      = .ok (cs.flatMap fun c => Text.spell c.toNat) := by
  unfold decodeFrom
  induction cs generalizing position with
  | nil =>
    rw [List.flatMap_nil, decodeIn]
    rfl
  | cons c rest ih =>
    obtain ⟨b, more, hbytes, hfront⟩ := utf8_encoded c (rest.flatMap String.utf8EncodeChar)
    rw [List.flatMap_cons, hbytes, List.cons_append, decodeIn]
    simp only [hfront, Front.char, Front.code, List.drop_left, ih]
    rfl

theorem decode_usual (bytes : List UInt8) : decode Message.usualEncoding bytes
    = ((decodeFrom utf8 0 bytes).mapError (.invalid "utf-8")).map String.ofList := by
  have hhalves : Text.loneHalves? Message.usualEncoding = none := by decide
  have hfind : find? Message.usualEncoding = some "utf_8" := by decide +kernel
  have hnul : '\x00' ∉ Message.usualEncoding.toList := by decide
  simp only [decode, hhalves, hfind, if_neg hnul]
  split
  · next hempty =>
    rw [List.isEmpty_iff.mp hempty, decodeFrom, decodeIn]
    rfl
  · rfl

end Newswire.Charset

namespace Newswire.Draft

/-- A message can be made of a text or of its bytes in the usual encoding, with the same result. -/
theorem message_of_bytes (cs : List Char) (draft : Draft) :
    let usual := { draft with encoding := Message.usualEncoding }
    Draft.message { usual with content := .bytes (cs.flatMap String.utf8EncodeChar) }
      = Draft.message { usual with content := .text (Text.ofCodes (cs.map Char.toNat)) } := by
  have hread : Charset.decode Message.usualEncoding (cs.flatMap String.utf8EncodeChar)
      = .ok (Text.ofCodes (cs.map Char.toNat)) := by
    rw [Charset.decode_usual, Charset.decodeFrom_encoded, Text.ofCodes, List.flatMap_map]
    rfl
  simp only [message, Content.read, hread]

end Newswire.Draft
