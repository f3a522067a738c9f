import Huntarr2.Foundation.Text

/-!
# Percent-encoded texts

A `%` with two hexadecimal digits stands for one byte. A text stands for its bytes here, one character
for each; decoding fails at a `%` without two digits, and reads back what was encoded.
-/

namespace Huntarr2.Percent

/-- The value of a hexadecimal digit in either case. -/
def hexValue (c : Char) : Option ℕ :=
  if '0' ≤ c ∧ c ≤ '9' then some (c.toNat - 48)
  else if 'a' ≤ c ∧ c ≤ 'f' then some (c.toNat - 87)
  else if 'A' ≤ c ∧ c ≤ 'F' then some (c.toNat - 55)
  else none

theorem hexValue_lt {c : Char} {value : ℕ} (h : hexValue c = some value) : value < 16 := by
  unfold hexValue at h
  split at h
  case isTrue hdigit =>
    have hle : c.toNat ≤ '9'.toNat := hdigit.2
    rw [← Option.some.inj h]
    exact Nat.lt_of_le_of_lt (Nat.sub_le_sub_right hle 48) (by decide)
  case isFalse =>
    split at h
    case isTrue hlower =>
      have hle : c.toNat ≤ 'f'.toNat := hlower.2
      rw [← Option.some.inj h]
      exact Nat.lt_of_le_of_lt (Nat.sub_le_sub_right hle 87) (by decide)
    case isFalse =>
      split at h
      case isTrue hupper =>
        have hle : c.toNat ≤ 'F'.toNat := hupper.2
        rw [← Option.some.inj h]
        exact Nat.lt_of_le_of_lt (Nat.sub_le_sub_right hle 55) (by decide)
      case isFalse => cases h

/-- Decoding, where a character that is not part of an escape stands for `plain` of it. -/
def decode (plain : Char → Char) : Text → Option Text
  | [] => some []
  | c :: text =>
    if c = '%' then
      match text with
      | high :: low :: rest =>
        match hexValue high, hexValue low with
        | some h, some l => (decode plain rest).map (Char.ofNat (h * 16 + l) :: ·)
        | _, _ => none
      | _ => none
    else (decode plain text).map (plain c :: ·)

/-- The texts that decode, with what they stand for. -/
inductive Decodes (plain : Char → Char) : Text → Text → Prop
  | nil : Decodes plain [] []
  | plain {c : Char} {text value : Text} (hc : c ≠ '%') (h : Decodes plain text value) :
    Decodes plain (c :: text) (plain c :: value)
  | escape {high low : Char} {text value : Text} {n m : ℕ} (hhigh : hexValue high = some n)
    (hlow : hexValue low = some m) (h : Decodes plain text value) :
    Decodes plain ('%' :: high :: low :: text) (Char.ofNat (n * 16 + m) :: value)

section Decode

variable {plain : Char → Char} {text value : Text}

theorem decode_of_decodes (h : Decodes plain text value) : decode plain text = some value := by
  induction h with
  | nil => rw [decode]
  | plain hc _ ih =>
    rw [decode.eq_def]
    simp only [if_neg hc, ih, Option.map_some]
  | escape hhigh hlow _ ih =>
    rw [decode.eq_def]
    simp only [if_pos, hhigh, hlow, ih, Option.map_some]

theorem decodes_of_decode (h : decode plain text = some value) : Decodes plain text value := by
  fun_induction decode plain text generalizing value
  case case1 =>
    rw [← Option.some.inj h]
    exact .nil
  case case2 high low rest n m hlow hhigh ih =>
    obtain ⟨decoded, hdecoded, rfl⟩ := Option.map_eq_some_iff.mp h
    exact .escape hhigh hlow (ih hdecoded)
  case case5 c rest hc ih =>
    obtain ⟨decoded, hdecoded, rfl⟩ := Option.map_eq_some_iff.mp h
    exact .plain hc (ih hdecoded)
  all_goals cases h

theorem decode_eq_some_iff : decode plain text = some value ↔ Decodes plain text value :=
  ⟨decodes_of_decode, decode_of_decodes⟩

theorem Decodes.append {first second firstValue secondValue : Text}
    (hfirst : Decodes plain first firstValue) (hsecond : Decodes plain second secondValue) :
    Decodes plain (first ++ second) (firstValue ++ secondValue) := by
  induction hfirst with
  | nil => exact hsecond
  | plain hc _ ih => exact .plain hc ih
  | escape hhigh hlow _ ih => exact .escape hhigh hlow ih

/-- A text without escapes stands for its characters. -/
theorem decodes_map (h : '%' ∉ text) : Decodes plain text (text.map plain) := by
  induction text with
  | nil => exact .nil
  | cons c text ih =>
    rw [List.mem_cons, not_or] at h
    exact .plain (Ne.symm h.1) (ih h.2)

theorem byte_lt {byte : ℕ} (h : byte < 256) : (Char.ofNat byte).toNat < 256 := by
  have hvalid : byte.isValidChar := Or.inl (h.trans (by decide))
  unfold Char.ofNat
  rw [dif_pos hvalid]
  exact h

/-- Bytes stand for bytes. -/
theorem Decodes.bytes_lt (h : Decodes plain text value) (hplain : ∀ c ∈ text, (plain c).toNat < 256) :
    ∀ c ∈ value, c.toNat < 256 := by
  induction h with
  | nil => exact fun c hc ↦ absurd hc List.not_mem_nil
  | plain _ _ ih =>
    rw [List.forall_mem_cons] at hplain ⊢
    exact ⟨hplain.1, ih hplain.2⟩
  | @escape high low _ _ n m hhigh hlow _ ih =>
    simp only [List.forall_mem_cons] at hplain ⊢
    have hbyte : n * 16 + m < 256 := by
      have hn := hexValue_lt hhigh
      have hm := hexValue_lt hlow
      omega
    refine ⟨?_, ih hplain.2.2.2⟩
    exact byte_lt hbyte

theorem decode_cons {c : Char} (hc : c ≠ '%') :
    decode plain (c :: text) = (decode plain text).map (plain c :: ·) := by
  rw [decode.eq_def]
  exact if_neg hc

/-- Plain characters in front stand for themselves, and what follows stands for the rest. -/
theorem decode_append {first : Text} (hfirst : '%' ∉ first) :
    decode plain (first ++ text) = (decode plain text).map (first.map plain ++ ·) := by
  induction first with
  | nil => exact Option.map_id'.symm
  | cons c first ih =>
    rw [List.mem_cons, not_or] at hfirst
    rw [List.cons_append, decode_cons (Ne.symm hfirst.1), ih hfirst.2, Option.map_map]
    rfl

/-- A character that no escape contains splits a text where it splits what the text stands for. -/
theorem Decodes.split {separator : Char} (hpercent : separator ≠ '%')
    (hhex : hexValue separator = none) {first second : Text}
    (h : Decodes plain (first ++ separator :: second) value) :
    ∃ firstValue secondValue, Decodes plain first firstValue ∧ Decodes plain second secondValue ∧
      value = firstValue ++ plain separator :: secondValue := by
  generalize htext : first ++ separator :: second = text at h
  induction h generalizing first with
  | nil => exact absurd htext (by simp)
  | @plain c text value hc hrest ih =>
    cases first with
    | nil =>
      obtain ⟨rfl, rfl⟩ := List.cons.inj htext
      exact ⟨[], value, .nil, hrest, rfl⟩
    | cons d first =>
      obtain ⟨rfl, htail⟩ := List.cons.inj htext
      obtain ⟨firstValue, secondValue, hfirst, hsecond, rfl⟩ := ih htail
      exact ⟨_, secondValue, .plain hc hfirst, hsecond, rfl⟩
  | @escape high low text value n m hhigh hlow hrest ih =>
    match first with
    | [] => exact absurd (List.cons.inj htext).1 hpercent
    | [d] =>
      obtain ⟨rfl, -⟩ := List.cons.inj (List.cons.inj htext).2
      rw [hhex] at hhigh
      cases hhigh
    | [d, e] =>
      obtain ⟨rfl, -⟩ := List.cons.inj (List.cons.inj (List.cons.inj htext).2).2
      rw [hhex] at hlow
      cases hlow
    | d :: e :: f :: first =>
      obtain ⟨rfl, hthird⟩ := List.cons.inj htext
      obtain ⟨rfl, hfourth⟩ := List.cons.inj hthird
      obtain ⟨rfl, hrest'⟩ := List.cons.inj hfourth
      obtain ⟨firstValue, secondValue, hfirst, hsecond, rfl⟩ := ih hrest'
      exact ⟨_, secondValue, .escape hhigh hlow hfirst, hsecond, rfl⟩

end Decode

/-! ## Encoding -/

/-- The hexadecimal digit of a value. -/
def hexDigit (value : ℕ) : Char := Char.ofNat (if value < 10 then 48 + value else 55 + value)

theorem hexValue_hexDigit : ∀ value < 16, hexValue (hexDigit value) = some value := by decide

/-- The encoding of one byte, which has a character of its own if `shown` says so. -/
def encodeByte (shown : Char → Option Char) (c : Char) : Text :=
  match shown c with
  | some d => [d]
  | none => ['%', hexDigit (c.toNat / 16), hexDigit (c.toNat % 16)]

def encode (shown : Char → Option Char) (text : Text) : Text := text.flatMap (encodeByte shown)

section Encode

variable {shown : Char → Option Char} {plain : Char → Char} {text : Text}

theorem encode_append (first second : Text) :
    encode shown (first ++ second) = encode shown first ++ encode shown second :=
  List.flatMap_append

/-- A text whose characters show themselves is its own encoding. -/
theorem encode_eq_self (h : ∀ c ∈ text, shown c = some c) : encode shown text = text := by
  induction text with
  | nil => rfl
  | cons c text ih =>
    rw [List.forall_mem_cons] at h
    have hrest := ih h.2
    unfold encode encodeByte at hrest ⊢
    rw [List.flatMap_cons, hrest, h.1]
    rfl

/-- What was encoded is read back, if every shown character is read as the byte it shows. -/
theorem decodes_encode (hshown : ∀ c d, shown c = some d → d ≠ '%' ∧ plain d = c)
    (hbytes : ∀ c ∈ text, c.toNat < 256) : Decodes plain (encode shown text) text := by
  induction text with
  | nil => exact .nil
  | cons c text ih =>
    rw [List.forall_mem_cons] at hbytes
    have hrest := ih hbytes.2
    unfold encode encodeByte at hrest ⊢
    rw [List.flatMap_cons]
    cases hc : shown c with
    | some d =>
      obtain ⟨hd, hplain⟩ := hshown c d hc
      have hself := Decodes.plain hd hrest
      rwa [hplain] at hself
    | none =>
      have hhigh : c.toNat / 16 < 16 := Nat.div_lt_of_lt_mul hbytes.1
      have hlow : c.toNat % 16 < 16 := Nat.mod_lt _ (by decide)
      have hescape := Decodes.escape (hexValue_hexDigit _ hhigh) (hexValue_hexDigit _ hlow) hrest
      rwa [Nat.div_add_mod', Char.ofNat_toNat] at hescape

end Encode

end Huntarr2.Percent
