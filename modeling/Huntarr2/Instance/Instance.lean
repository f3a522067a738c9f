import Mathlib.Data.List.Nodup
import Mathlib.Tactic

/-!
# Configured instances

A configured connection to an *arr application, and the list the instances table returns: its
primary key makes the IDs distinct.
-/

namespace Huntarr2

abbrev UUID := BitVec 128

/-- `uuid.UUID.String`: lower-case hexadecimal digits in groups of 8, 4, 4, 4 and 12. -/
def uuidText (id : UUID) : String :=
  String.ofList ((List.range 32).flatMap fun index ↦
    (if index ∈ [8, 12, 16, 20] then ['-'] else []) ++
      ["0123456789abcdef".toList.getD (id.toNat / 16 ^ (31 - index) % 16) '0'])

/-- The hexadecimal digits in their order. -/
def hexDigits : List Char :=
  ['0', '1', '2', '3', '4', '5', '6', '7', '8', '9', 'a', 'b', 'c', 'd', 'e', 'f']

theorem getD_hexDigits_ne : ∀ value < 16, hexDigits.getD value '0' ≠ '-' := by decide

theorem idxOf_getD_hexDigits : ∀ value < 16, hexDigits.idxOf (hexDigits.getD value '0') = value := by
  decide

/-- The digits of a UUID, without the hyphens. -/
theorem filter_uuidText (id : UUID) :
    (uuidText id).toList.filter (· ≠ '-') = (List.range 32).map fun index ↦
      hexDigits.getD (id.toNat / 16 ^ (31 - index) % 16) '0' := by
  have hdigits : "0123456789abcdef".toList = hexDigits := rfl
  unfold uuidText
  rw [String.toList_ofList, List.filter_flatMap, List.map_eq_flatMap, hdigits]
  refine congrArg (List.flatMap · (List.range 32)) (funext fun index ↦ ?_)
  have hkept := getD_hexDigits_ne _ (Nat.mod_lt (id.toNat / 16 ^ (31 - index)) (by decide : 0 < 16))
  have hhyphen : (if index ∈ [8, 12, 16, 20] then ['-'] else []).filter (· ≠ '-') = [] := by
    split <;> rfl
  rw [List.filter_append, hhyphen, List.nil_append, List.filter_singleton,
    decide_eq_true hkept]
  rfl

/-- The characters of a UUID. -/
theorem mem_uuidText {id : UUID} {c : Char} (h : c ∈ (uuidText id).toList) : c ∈ '-' :: hexDigits := by
  have hdigits : ∀ value < 16, "0123456789abcdef".toList.getD value '0' ∈ hexDigits := by decide
  unfold uuidText at h
  rw [String.toList_ofList] at h
  obtain ⟨index, -, hmem⟩ := List.mem_flatMap.mp h
  rw [List.mem_append, List.mem_singleton] at hmem
  cases hmem with
  | inl hgroup =>
    split at hgroup
    · exact List.mem_cons.mpr (Or.inl (List.mem_singleton.mp hgroup))
    · exact absurd hgroup List.not_mem_nil
  | inr hdigit =>
    rw [hdigit]
    exact List.mem_cons_of_mem _ (hdigits _ (Nat.mod_lt _ (by decide)))

theorem uuidText_ne_nil (id : UUID) : (uuidText id).toList ≠ [] := by
  intro hnil
  have hfilter := congrArg List.length (filter_uuidText id)
  rw [hnil, List.length_map, List.length_range] at hfilter
  cases hfilter

/-- Numbers with the same lower hexadecimal digits. -/
theorem mod_pow_eq_of_digits {first second n : ℕ}
    (h : ∀ index < n, first / 16 ^ index % 16 = second / 16 ^ index % 16) :
    first % 16 ^ n = second % 16 ^ n := by
  induction n with
  | zero => rw [Nat.pow_zero, Nat.mod_one, Nat.mod_one]
  | succ n ih =>
    rw [Nat.mod_pow_succ, Nat.mod_pow_succ, h n (Nat.lt_succ_self n),
      ih fun index hindex ↦ h index (Nat.lt_succ_of_lt hindex)]

/-- Different UUIDs have different texts. -/
theorem uuidText_injective : Function.Injective uuidText := by
  intro first second h
  have hdigits : ∀ index < 32, first.toNat / 16 ^ index % 16 = second.toNat / 16 ^ index % 16 := by
    have hlists := filter_uuidText first
    rw [h, filter_uuidText second] at hlists
    intro index hindex
    have hreflect : 31 - (31 - index) = index := by omega
    have hchar := List.map_inj_left.mp hlists.symm (31 - index) (List.mem_range.mpr (by omega))
    rw [hreflect] at hchar
    rw [← idxOf_getD_hexDigits _ (Nat.mod_lt _ (by decide)), hchar,
      idxOf_getD_hexDigits _ (Nat.mod_lt _ (by decide))]
  have hmod := mod_pow_eq_of_digits hdigits
  have hbound : (16 : ℕ) ^ 32 = 2 ^ 128 := by decide
  rw [hbound, Nat.mod_eq_of_lt first.isLt, Nat.mod_eq_of_lt second.isLt] at hmod
  exact BitVec.eq_of_toNat_eq hmod

/-- The fields of a configured instance that the scheduler reads. -/
structure Instance where
  id : UUID
  name : String
  baseURL : String
  deriving DecidableEq, Repr

/-- The rows of the instances table in the order the query returns them. -/
structure InstanceList where
  insts : List Instance
  nodup : (insts.map Instance.id).Nodup

end Huntarr2
