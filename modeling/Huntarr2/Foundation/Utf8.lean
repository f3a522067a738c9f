import Huntarr2.Foundation.Text

/-!
# Text as bytes

A parser that looks at single bytes reads each of them as the character with its code. On encoded text
it does what it does on the text, if it accepts nothing but ASCII.
-/

namespace Huntarr2

/-- The UTF-8 encoding. -/
def utf8 (text : Text) : List UInt8 := text.flatMap String.utf8EncodeChar

/-- Each byte as the character with its code. -/
def byteText (bytes : List UInt8) : Text := bytes.map fun byte ↦ Char.ofNat byte.toNat

/-- Text of characters below 128. -/
def Ascii (text : Text) : Prop := ∀ c ∈ text, c.toNat < 128

theorem toNat_byteChar (byte : UInt8) : (Char.ofNat byte.toNat).toNat = byte.toNat := by
  have hvalid : byte.toNat.isValidChar := Or.inl (byte.toNat_lt.trans (by decide))
  unfold Char.ofNat
  rw [dif_pos hvalid]
  rfl

/-- An ASCII character is encoded as one byte, its code. -/
theorem utf8EncodeChar_of_ascii {c : Char} (hc : c.toNat < 128) :
    String.utf8EncodeChar c = [UInt8.ofNat c.toNat] := by
  unfold String.utf8EncodeChar
  exact if_pos (Nat.lt_succ_iff.mp hc)

/-- Every other character is encoded with a byte above ASCII in front. -/
theorem exists_mem_utf8EncodeChar {c : Char} (hc : ¬c.toNat < 128) :
    ∃ byte ∈ String.utf8EncodeChar c, 128 ≤ byte.toNat := by
  have hlarge : ¬c.val.toNat ≤ 0x7f := fun h ↦ hc (Nat.lt_succ_of_le h)
  unfold String.utf8EncodeChar
  dsimp only
  rw [if_neg hlarge]
  split_ifs <;> refine ⟨_, List.mem_cons_self, ?_⟩ <;> simp <;> omega

theorem byteText_utf8_of_ascii {text : Text} (h : Ascii text) : byteText (utf8 text) = text := by
  induction text with
  | nil => rfl
  | cons c text ih =>
    obtain ⟨hc, htext⟩ := List.forall_mem_cons.mp h
    unfold byteText utf8 at ih ⊢
    rw [List.flatMap_cons, utf8EncodeChar_of_ascii hc, List.singleton_append, List.map_cons, ih htext,
      UInt8.toNat_ofNat', Nat.mod_eq_of_lt (hc.trans (by decide)), Char.ofNat_toNat]

/-- Text that is encoded with ASCII bytes only is ASCII. -/
theorem ascii_of_byteText_utf8 {text : Text} (h : Ascii (byteText (utf8 text))) : Ascii text := by
  intro c hc
  by_contra hlarge
  obtain ⟨byte, hbyte, hhigh⟩ := exists_mem_utf8EncodeChar hlarge
  have hmem : Char.ofNat byte.toNat ∈ byteText (utf8 text) :=
    List.mem_map_of_mem (List.mem_flatMap.mpr ⟨c, hc, hbyte⟩)
  have hlow := h _ hmem
  rw [toNat_byteChar] at hlow
  omega

/-- A parser that accepts only ASCII does the same on text and on its encoding. -/
theorem parse_utf8 {β : Type*} {parse : Text → Option β}
    (hascii : ∀ text value, parse text = some value → Ascii text) (text : Text) :
    parse (byteText (utf8 text)) = parse text := by
  by_cases h : Ascii text
  · rw [byteText_utf8_of_ascii h]
  · have hnone {text : Text} (hnot : ¬Ascii text) : parse text = none :=
      Option.eq_none_iff_forall_ne_some.mpr fun value hvalue ↦ hnot (hascii text value hvalue)
    rw [hnone h, hnone fun hbytes ↦ h (ascii_of_byteText_utf8 hbytes)]

end Huntarr2
