import Huntarr2.Clock.Timestamp

/-!
# Times that SQLite writes

SQLite's `strftime` writes a time in UTC with three digits of a second. The texts have a fixed width,
so they compare as the milliseconds do, and an RFC 3339 reader accepts them.
-/

namespace Huntarr2.Clock

/-- `strftime('%Y-%m-%dT%H:%M:%fZ')` of milliseconds counted from the start of year 0. -/
def strftime (wallMillis : ℕ) : Text :=
  dateTimeText (wallMillis / 1000) ++ '.' :: (pad 3 (wallMillis % 1000) ++ ['Z'])

/-- Up to year 9999 the stored texts compare as the milliseconds do. -/
theorem strftime_lt_iff {first second : ℕ} (hfirst : first / 1000 < maxWall)
    (hsecond : second / 1000 < maxWall) : strftime first < strftime second ↔ first < second := by
  unfold strftime
  have hmod (n : ℕ) : n % 1000 < 10 ^ 3 := Nat.mod_lt n (by norm_num)
  rw [append_lt_append_iff (by simp), dateTimeText_lt_iff hfirst hsecond, List.cons_lt_cons_self,
    pad_append_lt_iff (hmod first) (hmod second)]
  have hdiv (n : ℕ) : 1000 * (n / 1000) + n % 1000 = n := Nat.div_add_mod n 1000
  have hdiv' := hdiv first
  have hdiv'' := hdiv second
  have hmod' := hmod first
  have hmod'' := hmod second
  constructor
  · rintro (hlt | ⟨hsame, hlt | ⟨_, hlt⟩⟩)
    · omega
    · have heq := dateTimeText_injective hfirst hsecond hsame
      omega
    · exact absurd hlt (lt_irrefl _)
  · intro hlt
    by_cases hseconds : first / 1000 = second / 1000
    · exact Or.inr ⟨by rw [hseconds], Or.inl (by omega)⟩
    · exact Or.inl (by omega)

theorem readFraction_millis {millis : ℕ} (hmillis : millis < 1000) :
    readFraction ('.' :: (pad 3 millis ++ ['Z'])) = some (millis * 1000000, ['Z']) := by
  have htake : (pad 3 millis ++ ['Z']).takeWhile (fun c ↦ (digitValue c).isSome) = pad 3 millis := by
    have hend : (['Z'] : Text).takeWhile (fun c ↦ (digitValue c).isSome) = [] := by decide
    rw [List.takeWhile_append_of_pos, hend, List.append_nil]
    exact fun c hc ↦ isSome_digitValue_of_mem_pad hc
  have hzeros : List.replicate 6 '0' = pad 6 0 := by decide
  have hfront := readDigits_pad_zero 3 millis (pad 6 0) hmillis
  have hback : readDigits 6 millis (pad 6 0) = some (millis * 10 ^ 6 + 0, []) := by
    have hread := readDigits_pad 6 0 millis [] (by norm_num)
    rw [List.append_nil] at hread
    exact hread
  have hread : readDigits 9 0 (pad 3 millis ++ List.replicate 6 '0') = some (millis * 1000000, []) := by
    rw [hzeros, readDigits_append 3 6 0 _ hfront, hback]
    norm_num
  have hdrop : (pad 3 millis ++ ['Z']).drop 3 = ['Z'] := List.drop_left' (length_pad 3 millis)
  unfold readFraction
  simp only [htake, length_pad, true_or, if_true]
  rw [if_neg (by decide), take_append_zeros (by rw [length_pad]; decide), length_pad, hread,
    Option.map_some, hdrop]

/-- What SQLite writes is read back as a UTC time. -/
theorem parse_strftime {wallMillis : ℕ} (hwall : wallMillis / 1000 < maxWall) :
    ∃ reading, parseRFC3339Nano (strftime wallMillis) = some reading := by
  have hmillis : wallMillis % 1000 < 1000 := Nat.mod_lt _ (by norm_num)
  have hzone : readZone ['Z'] = some 0 := rfl
  unfold strftime parseRFC3339Nano
  rw [readDateTime_dateTimeText hwall]
  simp only [Option.bind_eq_bind, Option.bind_some, readFraction_millis hmillis, hzone]
  rw [dif_pos ⟨hwall, by omega, by decide⟩]
  exact ⟨_, rfl⟩

/-- The UTC reading of milliseconds counted from the start of year 0. -/
def Timestamp.ofMillis (wallMillis : ℕ) (hwall : wallMillis / 1000 < maxWall) : Timestamp where
  wall := wallMillis / 1000
  nanos := wallMillis % 1000 * 1000000
  offset := 0
  wall_lt := hwall
  nanos_lt := by omega
  offset_le := zero_offset_le

/-- It is the reading that the text of the milliseconds is parsed as. -/
theorem parse_strftime_eq {wallMillis : ℕ} (hwall : wallMillis / 1000 < maxWall) :
    parseRFC3339Nano (strftime wallMillis) = some (Timestamp.ofMillis wallMillis hwall) := by
  have hmillis : wallMillis % 1000 < 1000 := Nat.mod_lt _ (by norm_num)
  have hzone : readZone ['Z'] = some 0 := rfl
  unfold strftime parseRFC3339Nano
  rw [readDateTime_dateTimeText hwall]
  simp only [Option.bind_eq_bind, Option.bind_some, readFraction_millis hmillis, hzone]
  exact dif_pos ⟨hwall, by omega, by decide⟩

end Huntarr2.Clock
