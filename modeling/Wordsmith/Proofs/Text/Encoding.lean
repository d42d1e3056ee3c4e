import Wordsmith.Proofs.Markup.Encodable
import Wordsmith.Text.Percent

/-!
# Texts read back from bytes

The bytes of a text without surrogates are read as this text (`Utf8.decode_flatMap_utf8`). A
percent-encoded text is read by undoing each `%` with its two digits (`Text.percentDecode?`), which
gives the bytes of the text back (`Text.percentDecode?_percentEncode`).

* `Utf8.decodeFrom_utf8` — one code point, by the four lengths that its sequence can have.
* `Utf8.decode_flatMap_utf8` — a whole text.
* `Text.percentDecode?` — a reader for percent-encoding, with the code points that it lets stand as a
  parameter.
-/

namespace Wordsmith

namespace Utf8

variable {position : Nat} {done : Text} {rest : List UInt8}

/-! ## UTF-8

The decoder goes through the bytes with a state: it is between sequences, or inside of one with a
number of bytes missing and bounds for the next byte. The bounds keep out overlong sequences,
surrogates and what lies beyond Unicode. -/

/-- A byte that continues a sequence. -/
theorem decodeFrom_continuation {missing seen bits lo hi n : Nat} (hn : n < 0x100)
    (hrange : lo ≤ n ∧ n ≤ hi) :
    decodeFrom position done (.inside missing seen bits lo hi) (n.toUInt8 :: rest)
      = if missing ≤ 1 then
          decodeFrom (position + 1) (.ofNat (bits * 64 + n % 64) :: done) .between rest
        else
          decodeFrom (position + 1) done
            (.inside (missing - 1) (seen + 1) (bits * 64 + n % 64) 0x80 0xBF) rest := by
  have hbyte : n.toUInt8.toNat = n := by
    show n % 256 = n
    omega
  rw [decodeFrom]
  simp only [hbyte]
  rw [if_neg (by simp; omega)]

/-- A byte that announces others. -/
theorem decodeFrom_lead {n following bits lo hi : Nat} (hn : n < 0x100)
    (hlead : lead? n = some ⟨following, bits, lo, hi⟩) (hfollowing : following ≠ 0) :
    decodeFrom position done .between (n.toUInt8 :: rest)
      = decodeFrom (position + 1) done (.inside following 1 bits lo hi) rest := by
  have hbyte : n.toUInt8.toNat = n := by
    show n % 256 = n
    omega
  rw [decodeFrom]
  simp only [hbyte, hlead]
  rw [if_neg hfollowing]

/-- A code point is made again from its number. -/
theorem ofNat_val (c : CodePoint) : CodePoint.ofNat c.val = c := dif_pos c.val_lt

/-- What a code point is written as is read as this code point, unless it is a surrogate. -/
theorem decodeFrom_utf8 {c : CodePoint} (hc : c.isSurrogate = false) :
    decodeFrom position done .between (c.utf8 ++ rest)
      = decodeFrom (position + c.utf8.length) (c :: done) .between rest := by
  have hval : c.val < 0x110000 := c.val_lt
  -- outside of the surrogates
  have hsurrogate : c.val < 0xD800 ∨ 0xE000 ≤ c.val := by
    unfold CodePoint.isSurrogate at hc
    simp at hc
    omega
  -- the bits of the bytes, put together again, are the number of the code point
  have hread : ∀ n, n = c.val → CodePoint.ofNat n = c := fun n hn => hn ▸ ofNat_val c
  unfold CodePoint.utf8
  dsimp only
  split
  · -- one byte, which is the code point
    rename_i hone
    have hbyte : c.val.toUInt8.toNat = c.val := by
      show c.val % 256 = c.val
      omega
    rw [List.cons_append, List.nil_append, decodeFrom]
    simp only [hbyte, lead?, if_pos hone, ofNat_val]
    rfl
  split
  · -- two bytes, the first of which brings the upper bits
    have hlead : lead? (0xC0 + c.val / 64) = some ⟨1, c.val / 64, 0x80, 0xBF⟩ := by
      unfold lead?
      rw [if_neg (by omega), if_neg (by omega), if_pos (by omega), Nat.add_sub_cancel_left]
    rw [List.cons_append, List.cons_append, List.nil_append, decodeFrom_lead (by omega) hlead nofun,
      decodeFrom_continuation (by omega) (by omega), if_pos (by decide), hread _ (by omega)]
    rfl
  split
  · -- three bytes
    have hlead : lead? (0xE0 + c.val / 4096) = some ⟨2, c.val / 4096,
        if 0xE0 + c.val / 4096 = 0xE0 then 0xA0 else 0x80,
        if 0xE0 + c.val / 4096 = 0xED then 0x9F else 0xBF⟩ := by
      unfold lead?
      rw [if_neg (by omega), if_neg (by omega), if_neg (by omega), if_pos (by omega),
        Nat.add_sub_cancel_left]
    -- the second byte keeps clear of overlong sequences and of surrogates
    have hsecond : (if 0xE0 + c.val / 4096 = 0xE0 then 0xA0 else 0x80) ≤ 0x80 + c.val / 64 % 64 ∧
        0x80 + c.val / 64 % 64 ≤ if 0xE0 + c.val / 4096 = 0xED then 0x9F else 0xBF := by
      constructor <;> split <;> omega
    rw [List.cons_append, List.cons_append, List.cons_append, List.nil_append,
      decodeFrom_lead (by omega) hlead nofun, decodeFrom_continuation (by omega) hsecond,
      if_neg (by decide), decodeFrom_continuation (by omega) (by omega), if_pos (by decide),
      hread _ (by omega)]
    rfl
  · -- four bytes
    have hlead : lead? (0xF0 + c.val / 262144) = some ⟨3, c.val / 262144,
        if 0xF0 + c.val / 262144 = 0xF0 then 0x90 else 0x80,
        if 0xF0 + c.val / 262144 = 0xF4 then 0x8F else 0xBF⟩ := by
      unfold lead?
      rw [if_neg (by omega), if_neg (by omega), if_neg (by omega), if_neg (by omega),
        if_pos (by omega), Nat.add_sub_cancel_left]
    -- the second byte keeps clear of overlong sequences and of what lies beyond Unicode
    have hsecond :
        (if 0xF0 + c.val / 262144 = 0xF0 then 0x90 else 0x80) ≤ 0x80 + c.val / 4096 % 64 ∧
        0x80 + c.val / 4096 % 64 ≤ if 0xF0 + c.val / 262144 = 0xF4 then 0x8F else 0xBF := by
      constructor <;> split <;> omega
    rw [List.cons_append, List.cons_append, List.cons_append, List.cons_append, List.nil_append,
      decodeFrom_lead (by omega) hlead nofun, decodeFrom_continuation (by omega) hsecond,
      if_neg (by decide), decodeFrom_continuation (by omega) (by omega), if_neg (by decide),
      decodeFrom_continuation (by omega) (by omega), if_pos (by decide), hread _ (by omega)]
    rfl

/-- A text is read code point by code point, and what was read before stays in front. -/
theorem decodeFrom_flatMap_utf8 {t : Text} (ht : t.IsEncodable) :
    decodeFrom position done .between (t.flatMap CodePoint.utf8) = .ok (done.reverse ++ t) := by
  induction t generalizing position done with
  | nil => rw [List.flatMap_nil, decodeFrom, List.append_nil]
  | cons c t ih =>
    rw [Text.IsEncodable, List.forall_mem_cons] at ht
    rw [List.flatMap_cons, decodeFrom_utf8 ht.1, ih ht.2, List.reverse_cons, List.append_assoc]
    rfl

/-- The bytes of a text without surrogates are read as this text. -/
theorem decode_flatMap_utf8 {t : Text} (ht : t.IsEncodable) :
    decode (t.flatMap CodePoint.utf8) = .ok t :=
  decodeFrom_flatMap_utf8 ht

end Utf8

namespace Text

/-- The bytes of a percent-encoded text: `%` and two digits are read as one byte, a code point that
may stand for itself as its own bytes. -/
def percentDecode? (plain : CodePoint → Bool) : Text → Option (List UInt8)
  | [] => some []
  | c :: t =>
    if c = '%' then
      match t with
      | d :: e :: t => do
        let high ← d.hexValue?
        let low ← e.hexValue?
        return (high * 16 + low).toUInt8 :: (← percentDecode? plain t)
      | _ => none
    else if plain c then (percentDecode? plain t).map (c.utf8 ++ ·)
    else none

variable {plain keep : CodePoint → Bool}

/-! ## Percent-encoding

Bytes are written as `%` and two digits. A reader has its own idea of which code points may stand for
themselves (`plain`), and the writer another (`keep`); it is enough that the reader accepts what the
writer lets stand. -/

/-- What may stand for itself is read as its own bytes. -/
theorem percentDecode?_cons_of_plain {c : CodePoint} (hc : c ≠ '%') (hplain : plain c = true)
    (t : Text) : percentDecode? plain (c :: t) = (percentDecode? plain t).map (c.utf8 ++ ·) := by
  rw [percentDecode?.eq_def]
  exact (if_neg hc).trans (if_pos hplain)

/-- A byte is written in two digits, the upper one first. -/
theorem percentByte_eq (b : UInt8) :
    percentByte b
      = (.ofChar '%' :: [hexDigit false (b.toNat / 16), hexDigit false (b.toNat % 16)] : Text) := by
  have hb : b.toNat < 0x100 := b.toNat_lt
  simp only [percentByte, hex, List.nil_append, List.cons_append,
    Nat.mod_eq_of_lt (show b.toNat / 16 < 16 by omega)]

/-- A digit is read as its value. -/
theorem hexValue?_hexDigit : ∀ n < 16, (hexDigit false n).hexValue? = some n := by decide

/-- An encoded byte is read as this byte. -/
theorem percentDecode?_percentByte (b : UInt8) (t : Text) :
    percentDecode? plain (percentByte b ++ t) = (percentDecode? plain t).map (b :: ·) := by
  have hb : b.toNat < 0x100 := b.toNat_lt
  have hbyte : (b.toNat / 16 * 16 + b.toNat % 16).toUInt8 = b := by
    rw [Nat.div_add_mod', Nat.toUInt8_eq, UInt8.ofNat_toNat]
  rw [percentByte_eq, List.cons_append, List.cons_append, List.cons_append, List.nil_append,
    percentDecode?, if_pos rfl]
  simp only [hexValue?_hexDigit _ (show b.toNat / 16 < 16 by omega),
    hexValue?_hexDigit _ (show b.toNat % 16 < 16 by omega), Option.bind_eq_bind, Option.bind_some,
    hbyte]
  cases percentDecode? plain t <;> rfl

/-- And so are the bytes of a code point, one after the other. -/
theorem percentDecode?_flatMap_percentByte (bytes : List UInt8) (t : Text) :
    percentDecode? plain (bytes.flatMap percentByte ++ t)
      = (percentDecode? plain t).map (bytes ++ ·) := by
  induction bytes with
  | nil =>
    rw [List.flatMap_nil, List.nil_append]
    exact Option.map_id'.symm
  | cons b bytes ih =>
    rw [List.flatMap_cons, List.append_assoc, percentDecode?_percentByte, ih, Option.map_map]
    rfl

/-- A percent-encoded text is read as the bytes of the text by any reader that lets stand what was
left standing, as long as `%` was not. -/
theorem percentDecode?_percentEncode {t : Text} (hpercent : keep '%' = false)
    (hplain : ∀ c ∈ t, keep c = true → plain c = true) :
    percentDecode? plain (percentEncode keep t) = some (t.flatMap CodePoint.utf8) := by
  unfold percentEncode
  induction t with
  | nil => rfl
  | cons c t ih =>
    rw [List.forall_mem_cons] at hplain
    rw [List.flatMap_cons, List.flatMap_cons]
    -- what is kept is no percent sign, so it is read as itself
    by_cases hkeep : keep c = true
    · have hc : c ≠ '%' := by
        rintro rfl
        rw [hpercent] at hkeep
        exact Bool.noConfusion hkeep
      rw [if_pos hkeep, List.cons_append, List.nil_append,
        percentDecode?_cons_of_plain hc (hplain.1 hkeep), ih hplain.2]
      rfl
    · rw [if_neg hkeep, percentDecode?_flatMap_percentByte, ih hplain.2]
      rfl

/-- What stands in a percent-encoded text. -/
theorem mem_percentEncode {c : CodePoint} {t : Text} (h : c ∈ percentEncode keep t) :
    keep c = true ∧ c ∈ t ∨ c = '%' ∨ ∃ n < 16, c = hexDigit false n := by
  obtain ⟨d, hd, h⟩ := List.mem_flatMap.mp h
  split at h
  · rename_i hkeep
    obtain rfl := List.mem_singleton.mp h
    exact .inl ⟨hkeep, hd⟩
  · obtain ⟨b, -, h⟩ := List.mem_flatMap.mp h
    have hb : b.toNat < 0x100 := b.toNat_lt
    rw [percentByte_eq] at h
    simp only [List.mem_cons, List.not_mem_nil, or_false] at h
    obtain h | h | h := h
    · exact .inr (.inl h)
    · exact .inr (.inr ⟨_, by omega, h⟩)
    · exact .inr (.inr ⟨_, by omega, h⟩)

/-- What is kept stands in the encoded text. -/
theorem mem_percentEncode_of_keep {c : CodePoint} {t : Text} (hkeep : keep c = true) (h : c ∈ t) :
    c ∈ percentEncode keep t :=
  List.mem_flatMap.mpr ⟨c, h, by rw [if_pos hkeep]; exact List.mem_singleton_self c⟩

end Text

end Wordsmith
