import Huntarr2.Foundation.Percent
import Huntarr2.Foundation.Utf8

/-!
# Query strings

`URLSearchParams` writes pairs of texts in the form encoding, over their UTF-8 bytes. Go's `ParseQuery`
splits such a text at its separators first and decodes the parts then; the encoding has no separators
of its own, so it reads back what was written.
-/

namespace Huntarr2.GoStd

open Percent

/-! ## Bytes -/

/-- The bytes of a text, each as the character with its code. -/
def textBytes (text : Text) : Text := byteText (utf8 text)

/-- The text that bytes encode. -/
def bytesText? (bytes : Text) : Option Text :=
  ((bytes.map fun c ↦ UInt8.ofNat c.toNat).toByteArray.utf8Decode?).map Array.toList

theorem textBytes_lt (text : Text) : ∀ c ∈ textBytes text, c.toNat < 256 := by
  intro c hc
  obtain ⟨byte, -, rfl⟩ := List.mem_map.mp hc
  rw [toNat_byteChar]
  exact byte.toNat_lt

theorem bytesText?_textBytes (text : Text) : bytesText? (textBytes text) = some text := by
  have hbytes : (textBytes text).map (fun c ↦ UInt8.ofNat c.toNat) = utf8 text := by
    unfold textBytes byteText
    rw [List.map_map]
    refine (List.map_congr_left fun byte _ ↦ ?_).trans (List.map_id _)
    change UInt8.ofNat (Char.ofNat byte.toNat).toNat = byte
    rw [toNat_byteChar, UInt8.ofNat_toNat]
  have hencode : (utf8 text).toByteArray = text.utf8Encode := rfl
  unfold bytesText?
  rw [hbytes, hencode, List.utf8Decode?_utf8Encode]
  rfl

/-! ## The form encoding -/

/-- The characters that the form encoding shows; a blank is shown as a plus. -/
def formByte (c : Char) : Option Char :=
  if c = ' ' then some '+'
  else if c.isAlphanum ∨ c ∈ ("*-._" : Text) then some c
  else none

/-- `QueryUnescape` reads a plus as a blank. -/
def plusByte (c : Char) : Char := if c = '+' then ' ' else c

theorem formByte_spec (c d : Char) (h : formByte c = some d) : d ≠ '%' ∧ plusByte d = c := by
  unfold formByte at h
  split at h
  case isTrue hblank =>
    obtain rfl := Option.some.inj h
    exact ⟨by decide, hblank.symm⟩
  case isFalse =>
    split at h
    case isTrue hkept =>
      obtain rfl := Option.some.inj h
      have hnot {e : Char} (he : ¬(e.isAlphanum = true ∨ e ∈ ("*-._" : Text))) : c ≠ e :=
        fun heq ↦ he (heq ▸ hkept)
      exact ⟨hnot (by decide), if_neg (hnot (by decide))⟩
    case isFalse => cases h

/-- The separators of a query. -/
def separators : Text := "&;="

theorem separator_notMem_encode {text : Text} (hbytes : ∀ c ∈ text, c.toNat < 256) {separator : Char}
    (hseparator : separator ∈ separators) : separator ∉ encode formByte text := by
  have hseparators : ∀ separator ∈ separators, ¬(separator.isAlphanum = true ∨
      separator ∈ ("*-._" : Text)) ∧ separator ≠ '+' ∧ separator ≠ '%' := forall_mem_of_all (by decide)
  have hnone : ∀ separator ∈ separators, hexValue separator = none := forall_mem_of_all (by decide)
  have hdigits (value : ℕ) (hvalue : value < 16) : separator ≠ hexDigit value := by
    rintro rfl
    exact Option.some_ne_none value
      ((hexValue_hexDigit value hvalue).symm.trans (hnone _ hseparator))
  obtain ⟨hhidden, hplus, hpercent⟩ := hseparators separator hseparator
  intro hmem
  obtain ⟨c, hc, hbyte⟩ := List.mem_flatMap.mp hmem
  unfold encodeByte at hbyte
  cases hshown : formByte c with
  | some d =>
    rw [hshown, List.mem_singleton] at hbyte
    subst hbyte
    unfold formByte at hshown
    split at hshown
    case isTrue => exact hplus (Option.some.inj hshown).symm
    case isFalse =>
      split at hshown
      case isTrue hkept => exact hhidden (Option.some.inj hshown ▸ hkept)
      case isFalse => cases hshown
  | none =>
    rw [hshown] at hbyte
    have hhigh : c.toNat / 16 < 16 := Nat.div_lt_of_lt_mul (hbytes c hc)
    have hlow : c.toNat % 16 < 16 := Nat.mod_lt _ (by decide)
    simp only [List.mem_cons, List.not_mem_nil, or_false] at hbyte
    rcases hbyte with rfl | heq | heq
    · exact hpercent rfl
    · exact hdigits _ hhigh heq
    · exact hdigits _ hlow heq

/-! ## Queries -/

/-- `strings.Cut`, without the separator where there is none. -/
def cut (separator : Char) (text : Text) : Text × Text :=
  (text.takeWhile (· ≠ separator), (text.dropWhile (· ≠ separator)).tail)

theorem cut_append {separator : Char} {first : Text} (hfirst : separator ∉ first) (second : Text) :
    cut separator (first ++ separator :: second) = (first, second) := by
  have hletters : ∀ c ∈ first, decide (c ≠ separator) = true :=
    fun c hc ↦ decide_eq_true fun heq ↦ hfirst (heq ▸ hc)
  unfold cut
  rw [List.takeWhile_append_of_pos hletters, List.dropWhile_append_of_pos hletters,
    List.takeWhile_cons_of_neg (by simp), List.dropWhile_cons_of_neg (by simp), List.append_nil]
  rfl

/-- A part of a query; a malformed one is dropped. -/
def queryPair (part : Text) : Option (Text × Text) :=
  if ';' ∈ part ∨ part = [] then none
  else
    (decode plusByte (cut '=' part).1).bind fun key ↦
      (decode plusByte (cut '=' part).2).map fun value ↦ (key, value)

/-- `URL.Query`. -/
def parseQuery (query : Text) : List (Text × Text) := (query.splitOn '&').filterMap queryPair

/-- `Values.Get`. -/
def getValue (query : List (Text × Text)) (key : Text) : Text :=
  ((query.find? fun pair ↦ pair.1 = key).map (·.2)).getD []

/-- A pair as `URLSearchParams` writes it. -/
def encodePair (pair : Text × Text) : Text :=
  encode formByte pair.1 ++ '=' :: encode formByte pair.2

/-- `URLSearchParams.toString`. -/
def encodeQuery (query : List (Text × Text)) : Text := ['&'].intercalate (query.map encodePair)

section RoundTrip

variable {pair : Text × Text}

/-- The bytes of a pair. -/
def BytePair (pair : Text × Text) : Prop :=
  (∀ c ∈ pair.1, c.toNat < 256) ∧ ∀ c ∈ pair.2, c.toNat < 256

theorem separator_notMem_encodePair (h : BytePair pair) {separator : Char}
    (hseparator : separator ∈ separators) (hequals : separator ≠ '=') :
    separator ∉ encodePair pair := by
  unfold encodePair
  rw [List.mem_append, List.mem_cons]
  rintro (hkey | heq | hvalue)
  · exact separator_notMem_encode h.1 hseparator hkey
  · exact hequals heq
  · exact separator_notMem_encode h.2 hseparator hvalue

theorem queryPair_encodePair (h : BytePair pair) : queryPair (encodePair pair) = some pair := by
  have hsemicolon : ';' ∉ encodePair pair :=
    separator_notMem_encodePair h (by decide) (by decide)
  have hnonempty : encodePair pair ≠ [] := by simp [encodePair]
  have hequals : '=' ∉ encode formByte pair.1 := separator_notMem_encode h.1 (by decide)
  have hcut : cut '=' (encodePair pair) = (encode formByte pair.1, encode formByte pair.2) :=
    cut_append hequals _
  unfold queryPair
  rw [if_neg (not_or.mpr ⟨hsemicolon, hnonempty⟩), hcut,
    decode_of_decodes (decodes_encode formByte_spec h.1),
    decode_of_decodes (decodes_encode formByte_spec h.2)]
  rfl

/-- A query is read back as it was written. -/
theorem parseQuery_encodeQuery {query : List (Text × Text)} (h : ∀ pair ∈ query, BytePair pair) :
    parseQuery (encodeQuery query) = query := by
  unfold parseQuery encodeQuery
  cases query with
  | nil => rfl
  | cons pair query =>
    have hparts : ∀ part ∈ (pair :: query).map encodePair, '&' ∉ part :=
      List.forall_mem_map.mpr fun other hother ↦
        separator_notMem_encodePair (h other hother) (by decide) (by decide)
    rw [List.splitOn_intercalate _ hparts (List.cons_ne_nil _ _), List.filterMap_map]
    refine (List.filterMap_congr fun other hother ↦ ?_).trans List.filterMap_some
    exact queryPair_encodePair (h other hother)

end RoundTrip

/-! ## Fields -/

/-- ASCII text is its own bytes. -/
theorem textBytes_of_ascii {text : Text} (h : Ascii text) : textBytes text = text :=
  byteText_utf8_of_ascii h

/-- The query of some fields, of which those without a value are left out. -/
def fieldsQuery (fields : List (Text × Option Text)) : List (Text × Text) :=
  fields.filterMap fun (key, value) ↦ value.map fun value ↦ (textBytes key, textBytes value)

theorem bytePair_fieldsQuery (fields : List (Text × Option Text)) :
    ∀ pair ∈ fieldsQuery fields, BytePair pair := by
  intro pair hpair
  obtain ⟨field, -, hfield⟩ := List.mem_filterMap.mp hpair
  obtain ⟨value, -, rfl⟩ := Option.map_eq_some_iff.mp hfield
  exact ⟨textBytes_lt _, textBytes_lt _⟩

/-- Each field has its value in the query. -/
theorem getValue_fieldsQuery {fields : List (Text × Option Text)}
    (hkeys : ∀ field ∈ fields, Ascii field.1) (hnodup : (fields.map Prod.fst).Nodup)
    {key : Text} {value : Option Text} (hmem : (key, value) ∈ fields) :
    getValue (fieldsQuery fields) key = (value.map textBytes).getD [] := by
  induction fields with
  | nil => exact absurd hmem List.not_mem_nil
  | cons field fields ih =>
    obtain ⟨firstKey, firstValue⟩ := field
    rw [List.forall_mem_cons] at hkeys
    rw [List.map_cons, List.nodup_cons] at hnodup
    have hfirst : textBytes firstKey = firstKey := textBytes_of_ascii hkeys.1
    unfold getValue fieldsQuery at ih ⊢
    rw [List.filterMap_cons]
    rcases List.mem_cons.mp hmem with heq | hrest
    · obtain ⟨rfl, rfl⟩ := Prod.mk.inj heq
      cases value with
      | some value =>
        dsimp only [Option.map_some]
        rw [List.find?_cons_of_pos (by simpa using hfirst)]
        rfl
      | none =>
        have hnone : (fieldsQuery fields).find? (fun pair ↦ pair.1 = key) = none := by
          refine List.find?_eq_none.mpr fun pair hpair hsame ↦ hnodup.1 ?_
          obtain ⟨other, hother, hwritten⟩ := List.mem_filterMap.mp hpair
          obtain ⟨text, -, rfl⟩ := Option.map_eq_some_iff.mp hwritten
          have hkey : textBytes other.1 = key := of_decide_eq_true hsame
          rw [textBytes_of_ascii (hkeys.2 other hother)] at hkey
          exact List.mem_map.mpr ⟨other, hother, hkey⟩
        dsimp only [Option.map_none]
        exact congrArg (fun found ↦ (Option.map Prod.snd found).getD []) hnone
    · have hdiffers : firstKey ≠ key := fun heq ↦
        hnodup.1 (List.mem_map.mpr ⟨(key, value), hrest, heq.symm⟩)
      cases firstValue with
      | none => exact ih hkeys.2 hnodup.2 hrest
      | some text =>
        dsimp only [Option.map_some]
        rw [List.find?_cons_of_neg (by simpa [hfirst] using hdiffers)]
        exact ih hkeys.2 hnodup.2 hrest

end Huntarr2.GoStd
