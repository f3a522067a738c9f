import Huntarr2.Activity.LogPages
import Huntarr2.Foundation.Pattern

/-!
# Text search of the activity log

The query of a listing is put together from the conditions that are set, each with one argument, and
the search text becomes part of a `LIKE` pattern. The listing is exact unless the search text is longer
than a pattern may be or holds a character that is special there, or a message ends for `LIKE` before
it does.
-/

namespace Huntarr2.Activity

open Clock

/-! ## The query -/

/-- The text of a level in the table. -/
def Level.text : Level → Text
  | .debug => "debug"
  | .info => "info"
  | .warn => "warn"
  | .error => "error"

/-- The text of an action in the table. -/
def Action.text : Action → Text
  | .searchCycle => "search_cycle"
  | .searchSkip => "search_skip"
  | .rateLimit => "rate_limit"
  | .healthCheck => "health_check"
  | .upgradeDetected => "upgrade_detected"
  | .downloadDetected => "download_detected"

theorem Level.text_injective : Function.Injective Level.text := by
  intro first second h
  cases first <;> cases second <;> first | rfl | exact absurd h (by decide)

theorem Action.text_injective : Function.Injective Action.text := by
  intro first second h
  cases first <;> cases second <;> first | rfl | exact absurd h (by decide)

/-- A condition of the WHERE clause, with one placeholder. -/
inductive Condition
  | level
  | instanceID
  | action
  | search
  | since
  | untilTime
  deriving DecidableEq, Repr

def Condition.text : Condition → Text
  | .level => "level = ?"
  | .instanceID => "instance_id = ?"
  | .action => "action = ?"
  | .search => "message LIKE '%' || ? || '%'"
  | .since => "created_at >= ?"
  | .untilTime => "created_at < ?"

/-- The condition of a row, with an argument for its placeholder. -/
def Condition.Holds (arg : Text) (row : Row) : Condition → Bool
  | .level => row.level.text = arg
  | .instanceID => row.instanceID.any fun id ↦ (uuidText id).toList = arg
  | .action => row.action.text = arg
  | .search => likeMatch ('%' :: (arg ++ ['%'])) row.message.toList
  | .since => arg ≤ row.createdAt
  | .untilTime => row.createdAt < arg

/-- The conditions in the order in which `buildListQuery` appends them. -/
def listConditions (params : ListParams) : List Condition :=
  (if params.level.isSome then [Condition.level] else []) ++
    (if params.instanceID.isSome then [Condition.instanceID] else []) ++
    (if params.action.isSome then [Condition.action] else []) ++
    (if params.search ≠ "" then [Condition.search] else []) ++
    (if params.since.isSome then [Condition.since] else []) ++
    (if params.untilTime.isSome then [Condition.untilTime] else [])

/-- The arguments in the order in which `buildListQuery` appends them. -/
def listArgs (params : ListParams) : List Text :=
  (params.level.map Level.text).toList ++
    (params.instanceID.map fun id ↦ (uuidText id).toList).toList ++
    (params.action.map Action.text).toList ++
    (if params.search ≠ "" then [params.search.toList] else []) ++
    (params.since.map Timestamp.formatRFC3339Nano).toList ++
    (params.untilTime.map Timestamp.formatRFC3339Nano).toList

/-- The text of the query. -/
def listQuery (selectClause : Text) (params : ListParams) : Text :=
  selectClause ++ " FROM activity_log".toList ++
    if listConditions params = [] then []
    else " WHERE ".toList ++
      List.intercalate " AND ".toList ((listConditions params).map Condition.text)

/-- The row satisfies the conditions when their placeholders take the arguments one by one. -/
def evaluate (row : Row) : List Condition → List Text → Bool
  | [], args => args.isEmpty
  | _ :: _, [] => false
  | condition :: conditions, arg :: args => condition.Holds arg row && evaluate row conditions args

theorem evaluate_append (row : Row) {first : List Condition} {firstArgs : List Text}
    (hlength : first.length = firstArgs.length) (second : List Condition) (secondArgs : List Text) :
    evaluate row (first ++ second) (firstArgs ++ secondArgs) =
      (evaluate row first firstArgs && evaluate row second secondArgs) := by
  induction first generalizing firstArgs with
  | nil =>
    rw [List.length_eq_zero_iff.mp hlength.symm]
    rfl
  | cons condition first ih =>
    cases firstArgs with
    | nil => cases hlength
    | cons arg firstArgs =>
      rw [List.cons_append, List.cons_append, evaluate, evaluate, ih (Nat.succ.inj hlength),
        Bool.and_assoc]

/-! Each parameter contributes nothing, or one condition with its argument. -/

section Optional

variable {α : Type*} (condition : Condition) (text : α → Text) (value : Option α)

theorem length_optional : (if value.isSome then [condition] else []).length =
    (value.map text).toList.length := by
  cases value <;> rfl

theorem evaluate_optional (row : Row) :
    evaluate row (if value.isSome then [condition] else []) (value.map text).toList =
      value.all fun value ↦ condition.Holds (text value) row := by
  cases value with
  | none => rfl
  | some value => exact Bool.and_true _

end Optional

theorem length_search (search : String) : (if search ≠ "" then [Condition.search] else []).length =
    (if search ≠ "" then [search.toList] else []).length := by
  split <;> rfl

theorem evaluate_search (row : Row) (search : String) :
    evaluate row (if search ≠ "" then [.search] else [])
        (if search ≠ "" then [search.toList] else []) =
      (search.isEmpty || likeMatch ('%' :: (search.toList ++ ['%'])) row.message.toList) := by
  by_cases hempty : search = ""
  · simp [hempty, evaluate]
  · have hnot : search.isEmpty = false := by simpa using hempty
    rw [if_pos hempty, if_pos hempty, hnot, Bool.false_or]
    exact Bool.and_true _

theorem length_listConditions (params : ListParams) :
    (listConditions params).length = (listArgs params).length := by
  unfold listConditions listArgs
  simp only [List.length_append, length_search]
  rw [length_optional _ Level.text, length_optional _ fun id ↦ (uuidText id).toList,
    length_optional _ Action.text, length_optional _ Timestamp.formatRFC3339Nano,
    length_optional _ Timestamp.formatRFC3339Nano]

theorem count_text (condition : Condition) : condition.text.count '?' = 1 := by
  cases condition <;> decide

/-- The query has as many placeholders as arguments. -/
theorem count_listQuery {selectClause : Text} (hselect : selectClause.count '?' = 0)
    (params : ListParams) : (listQuery selectClause params).count '?' = (listArgs params).length := by
  have hfrom : " FROM activity_log".toList.count '?' = 0 := by decide
  have hwhere : " WHERE ".toList.count '?' = 0 := by decide
  have hones : ((listConditions params).map Condition.text).map (List.count '?') =
      List.replicate (listConditions params).length 1 := by
    rw [List.map_map]
    exact List.map_eq_replicate_iff.mpr fun condition _ ↦ count_text condition
  unfold listQuery
  rw [List.count_append, List.count_append, hselect, hfrom, Nat.zero_add,
    ← length_listConditions]
  split
  case isTrue hnone =>
    rw [hnone]
    rfl
  case isFalse =>
    rw [List.count_append, hwhere, count_intercalate (by decide), hones, List.sum_replicate,
      smul_eq_mul, mul_one, Nat.zero_add]

/-- Every placeholder gets its argument: the query selects the rows that satisfy what is set. -/
theorem evaluate_listQuery (params : ListParams) (row : Row) :
    evaluate row (listConditions params) (listArgs params) = buildListQuery params row := by
  have hlevelText (level : Level) :
      Condition.level.Holds level.text row = decide (row.level = level) :=
    decide_eq_decide.mpr Level.text_injective.eq_iff
  have hactionText (action : Action) :
      Condition.action.Holds action.text row = decide (row.action = action) :=
    decide_eq_decide.mpr Action.text_injective.eq_iff
  have hinstanceText (id : UUID) :
      Condition.instanceID.Holds (uuidText id).toList row = decide (row.instanceID = some id) := by
    unfold Condition.Holds
    cases row.instanceID with
    | none => rfl
    | some other =>
      refine decide_eq_decide.mpr ?_
      rw [String.toList_inj, uuidText_injective.eq_iff, Option.some.injEq]
  unfold listConditions listArgs
  rw [evaluate_append, evaluate_append, evaluate_append, evaluate_append, evaluate_append,
    evaluate_search]
  · rw [evaluate_optional, evaluate_optional, evaluate_optional, evaluate_optional,
      evaluate_optional]
    simp only [hlevelText, hinstanceText, hactionText]
    exact Bool.and_assoc _ _ _
  · exact length_optional _ _ _
  all_goals simp only [List.length_append, length_search]
  · rw [length_optional _ Level.text, length_optional _ fun id ↦ (uuidText id).toList]
  · rw [length_optional _ Level.text, length_optional _ fun id ↦ (uuidText id).toList,
      length_optional _ Action.text]
  · rw [length_optional _ Level.text, length_optional _ fun id ↦ (uuidText id).toList,
      length_optional _ Action.text]
  · rw [length_optional _ Level.text, length_optional _ fun id ↦ (uuidText id).toList,
      length_optional _ Action.text, length_optional _ Timestamp.formatRFC3339Nano]

/-! ## The search text as a pattern -/

/-- How `LIKE` reads a character of its pattern. -/
def likeSymbol (c : Char) : Symbol Char :=
  if c = '%' then .many else if c = '_' then .one else .letter c

/-- The same letter in either case, for ASCII letters. -/
def SameLetter (first second : Char) : Prop := asciiLower first = asciiLower second

instance : DecidableRel SameLetter := fun _ _ ↦ inferInstanceAs (Decidable (_ = _))

theorem patternCompare_many (pattern text : Text) :
    patternCompare ('%' :: pattern) text = text.tails.any (patternCompare pattern) := by
  rw [patternCompare]

theorem patternCompare_one (pattern text : Text) :
    patternCompare ('_' :: pattern) text = true ↔
      ∃ d rest, text = d :: rest ∧ patternCompare pattern rest = true := by
  cases text with
  | nil => simp [patternCompare]
  | cons d rest => simp [patternCompare]

theorem patternCompare_letter {c : Char} (hmany : c ≠ '%') (hone : c ≠ '_') (pattern text : Text) :
    patternCompare (c :: pattern) text = true ↔
      ∃ d rest, text = d :: rest ∧ SameLetter c d ∧ patternCompare pattern rest = true := by
  cases text with
  | nil => simp [patternCompare]
  | cons d rest => simp [patternCompare, SameLetter]

/-- A comparison accepts the texts that fit its pattern. -/
theorem patternCompare_iff (pattern text : Text) :
    patternCompare pattern text = true ↔ Pattern.Fits SameLetter (pattern.map likeSymbol) text := by
  induction pattern generalizing text with
  | nil =>
    rw [List.map_nil, Pattern.fits_nil_iff]
    exact List.isEmpty_iff
  | cons c pattern ih =>
    by_cases hmany : c = '%'
    · have hsymbol : likeSymbol c = .many := if_pos hmany
      rw [List.map_cons, hsymbol, Pattern.fits_many_iff, hmany, patternCompare_many,
        List.any_eq_true]
      simp only [List.mem_tails, ih]
    · by_cases hone : c = '_'
      · have hsymbol : likeSymbol c = .one := (if_neg hmany).trans (if_pos hone)
        rw [List.map_cons, hsymbol, Pattern.fits_one_iff, hone, patternCompare_one]
        simp only [ih]
      · have hsymbol : likeSymbol c = .letter c := (if_neg hmany).trans (if_neg hone)
        rw [List.map_cons, hsymbol, Pattern.fits_letter_iff, patternCompare_letter hmany hone]
        simp only [ih]

/-! ## What `LIKE` reads -/

theorem likeChar_eq_self_iff (c : Char) :
    likeChar c = c ↔ c.toNat ≠ 0xFFFE ∧ c.toNat ≠ 0xFFFF := by
  unfold likeChar
  rw [← not_or, ite_eq_right_iff]
  refine ⟨fun h hc ↦ ?_, fun h hc ↦ absurd hc h⟩
  have hcode : (Char.ofNat 0xFFFD).toNat = c.toNat := congrArg Char.toNat (h hc)
  have hreplacement : (Char.ofNat 0xFFFD).toNat = 0xFFFD := by decide
  omega

theorem likeChar_idem (c : Char) : likeChar (likeChar c) = likeChar c := by
  by_cases hc : c.toNat = 0xFFFE ∨ c.toNat = 0xFFFF
  · have hread : likeChar c = Char.ofNat 0xFFFD := if_pos hc
    rw [hread, likeChar_eq_self_iff]
    decide
  · exact congrArg likeChar ((likeChar_eq_self_iff c).mpr (not_or.mp hc))

theorem likeChar_toNat_ne_zero {c : Char} (hc : c.toNat ≠ 0) : (likeChar c).toNat ≠ 0 := by
  unfold likeChar
  split_ifs
  · decide
  · exact hc

/-- The text has no NUL, so `LIKE` reads it to its end. -/
def ReadToEnd (text : Text) : Prop := ∀ c ∈ text, c.toNat ≠ 0

theorem readToEnd_iff (text : Text) :
    ReadToEnd text ↔ text.takeWhile (fun c ↦ decide (c.toNat ≠ 0)) = text := by
  rw [List.takeWhile_eq_self_iff]
  exact forall₂_congr fun c _ ↦ decide_eq_true_iff.symm

theorem ReadToEnd.likeText {text : Text} (h : ReadToEnd text) :
    likeText text = text.map likeChar :=
  congrArg (List.map likeChar) ((readToEnd_iff text).mp h)

theorem mem_likeText {text : Text} {c : Char} (h : c ∈ likeText text) :
    c.toNat ≠ 0 ∧ likeChar c = c := by
  obtain ⟨d, hd, rfl⟩ := List.mem_map.mp h
  have hread : decide (d.toNat ≠ 0) = true :=
    List.mem_takeWhile_imp (p := fun c : Char ↦ decide (c.toNat ≠ 0)) hd
  exact ⟨likeChar_toNat_ne_zero (of_decide_eq_true hread), likeChar_idem d⟩

theorem likeText_percent (text : Text) : likeText ('%' :: text) = '%' :: likeText text := by
  have hpercent : likeChar '%' = '%' := by decide
  have htake : ('%' :: text).takeWhile (fun c ↦ decide (c.toNat ≠ 0)) =
      '%' :: text.takeWhile fun c ↦ decide (c.toNat ≠ 0) := rfl
  unfold likeText
  rw [htake, List.map_cons, hpercent]

/-- What comes after a text is read if the text is read to its end. -/
theorem ReadToEnd.likeText_append {front : Text} (h : ReadToEnd front) (back : Text) :
    Activity.likeText (front ++ back) = Activity.likeText front ++ Activity.likeText back := by
  unfold Activity.likeText
  rw [List.takeWhile_append, (readToEnd_iff front).mp h, if_pos rfl, List.map_append]

theorem likeText_append_of_nul {front : Text} (h : ¬ReadToEnd front) (back : Text) :
    likeText (front ++ back) = likeText front := by
  have hstops : ¬(front.takeWhile fun c ↦ decide (c.toNat ≠ 0)).length = front.length :=
    fun hlength ↦ h ((readToEnd_iff front).mpr ((List.takeWhile_prefix _).eq_of_length hlength))
  unfold likeText
  rw [List.takeWhile_append, if_neg hstops]

/-! ## What a search means -/

/-- The row satisfies every filter that is set, besides the search text and the time bounds. -/
def Satisfies (params : ListParams) (row : Row) : Prop :=
  (∀ level ∈ params.level, row.level = level) ∧
    (∀ instanceID ∈ params.instanceID, row.instanceID = some instanceID) ∧
    ∀ action ∈ params.action, row.action = action

/-- The message contains the search text, in any case of its ASCII letters. -/
def Mentions (search : String) (row : Row) : Prop :=
  search.toList.map asciiLower <:+: row.message.toList.map asciiLower

/-- The message as `LIKE` reads it has a stretch that fits the search text with its wildcards; a search
text with a NUL ends there, and the message with it. -/
def Fitting (search : String) (row : Row) : Prop :=
  ∃ part, part <:+: likeText row.message.toList ∧
    (¬ReadToEnd search.toList → part <:+ likeText row.message.toList) ∧
    Pattern.Fits SameLetter ((likeText search.toList).map likeSymbol) part

instance (params : ListParams) : DecidablePred (Satisfies params) :=
  fun _ ↦ inferInstanceAs (Decidable (_ ∧ _ ∧ _))

instance (search : String) : DecidablePred (Mentions search) :=
  fun _ ↦ inferInstanceAs (Decidable (_ <:+: _))

/-- The rows a listing with a search text means. -/
def searched (log : List Row) (params : ListParams) : List Row :=
  log.filter fun row ↦ Satisfies params row ∧ Mentions params.search row

/-- The limit lets all rows through. -/
def Sufficient (log : List Row) (params : ListParams) : Prop :=
  params.limit ≤ 0 ∨ log.length ≤ params.limit

/-- `List` returns the rows that are meant, and `Count` their number. -/
def SearchExact (listPlan countPlan : Plan) (log : List Row) (params : ListParams) : Prop :=
  (∃ entries, list listPlan log params = .ok entries ∧
    entries.Perm ((searched log params).map Row.recorded)) ∧
  count countPlan log params = .ok (searched log params).length

theorem mentions_iff (search : String) (row : Row) :
    Mentions search row ↔
      ∃ part, part <:+: row.message.toList ∧ List.Forall₂ SameLetter search.toList part := by
  have hsame (part : Text) : List.Forall₂ SameLetter search.toList part ↔
      search.toList.map asciiLower = part.map asciiLower := by
    rw [← List.forall₂_eq_eq_eq, List.forall₂_map_left_iff, List.forall₂_map_right_iff]
    rfl
  unfold Mentions
  simp only [hsame]
  constructor
  · rintro ⟨before, after, h⟩
    obtain ⟨front, back, hmessage, hfront, hback⟩ := List.map_eq_append_iff.mp h.symm
    obtain ⟨skipped, part, rfl, hskipped, hpart⟩ := List.map_eq_append_iff.mp hfront
    exact ⟨part, ⟨skipped, back, hmessage.symm⟩, hpart.symm⟩
  · rintro ⟨part, hpart, heq⟩
    rw [heq]
    exact hpart.map asciiLower

theorem fits_of_sameLetters {letters part : Text} (h : List.Forall₂ SameLetter letters part) :
    Pattern.Fits SameLetter (letters.map likeSymbol) part := by
  induction h with
  | nil => exact .nil
  | @cons c d letters part hsame h ih =>
    rw [List.map_cons]
    unfold likeSymbol
    split_ifs
    · exact .many [d] ih
    · exact .one ih
    · exact .letter hsame ih

theorem fieldsMatch_iff (params : ListParams) (row : Row) :
    fieldsMatch params row = true ↔ Satisfies params row := by
  unfold fieldsMatch Satisfies
  rw [Bool.and_eq_true, Bool.and_eq_true, ← and_assoc]
  simp only [Option.all_eq_true, decide_eq_true_eq, Option.mem_def]

/-- A search finds the messages that fit it. -/
theorem likeMatch_search_iff (search : String) (row : Row) :
    likeMatch ('%' :: (search.toList ++ ['%'])) row.message.toList = true ↔ Fitting search row := by
  have hmany : likeSymbol '%' = .many := if_pos rfl
  unfold likeMatch Fitting
  rw [patternCompare_iff, likeText_percent, List.map_cons, hmany]
  by_cases hnul : ReadToEnd search.toList
  · have hpercent : likeText ['%'] = ['%'] := by decide
    rw [hnul.likeText_append, hpercent, List.map_append, List.map_singleton, hmany,
      Pattern.fits_between_iff]
    simp only [not_true, hnul, false_implies, true_and]
  · rw [likeText_append_of_nul hnul, Pattern.fits_many_iff]
    refine exists_congr fun part ↦ ⟨fun ⟨hpart, hfits⟩ ↦ ⟨hpart.isInfix, fun _ ↦ hpart, hfits⟩,
      fun ⟨_, hpart, hfits⟩ ↦ ⟨hpart hnul, hfits⟩⟩

theorem filtersMatch_iff {params : ListParams} (hsearch : params.search ≠ "") (row : Row) :
    filtersMatch params row = true ↔ Satisfies params row ∧ Fitting params.search row := by
  have hnonempty : params.search.isEmpty = false := by simpa using hsearch
  unfold filtersMatch
  rw [Bool.and_eq_true, fieldsMatch_iff, hnonempty, Bool.false_or, likeMatch_search_iff]

/-- Without a second page `List` returns all selected rows. -/
theorem list_of_sufficient {plan : Plan} {log : List Row} {params : ListParams}
    (hworks : searchFails plan log params = false) (hoffset : params.offset = 0)
    (hlimit : Sufficient log params) :
    list plan log params = .ok ((newestFirst log params).map Row.recorded) := by
  have hlength : (newestFirst log params).length ≤ log.length := by
    unfold newestFirst
    rw [List.length_insertionSort]
    exact List.length_filter_le _ _
  unfold list
  dsimp only
  rw [hoffset, if_neg fun h ↦ absurd h.2 (lt_irrefl 0), if_neg (Bool.eq_false_iff.mp hworks),
    Int.toNat_zero, List.drop_zero]
  split
  case isTrue => exact mapM_scanEntry _
  case isFalse hlimited =>
    have hroom := hlimit.resolve_left hlimited
    change ((newestFirst log params).take params.limit.toNat).mapM scanEntry = _
    rw [List.take_of_length_le (by omega), mapM_scanEntry]

section Exact

variable {params : ListParams} (hsearch : params.search ≠ "") (hsince : params.since = none)
  (huntil : params.untilTime = none) (hoffset : params.offset = 0)

include hsearch hsince huntil hoffset

/-- When the search works, it is exact if what fits is what is meant. -/
theorem searchExact_iff_of_works {listPlan countPlan : Plan} {log : List Row}
    (hlist : searchFails listPlan log params = false)
    (hcount : searchFails countPlan log params = false) (hlimit : Sufficient log params) :
    SearchExact listPlan countPlan log params ↔
      ∀ row ∈ log, Satisfies params row → (Fitting params.search row ↔ Mentions params.search row) := by
  have hfound (row : Row) : row ∈ matching log params ↔
      row ∈ log ∧ Satisfies params row ∧ Fitting params.search row := by
    rw [matching, List.mem_filter, filtersMatch_iff hsearch]
  have hmeant (row : Row) : row ∈ searched log params ↔
      row ∈ log ∧ Satisfies params row ∧ Mentions params.search row := by
    rw [searched, List.mem_filter, decide_eq_true_iff]
  have hperm : (newestFirst log params).Perm (matching log params) :=
    selected_eq_matching hsince huntil log ▸ List.perm_insertionSort _ _
  unfold SearchExact
  rw [list_of_sufficient hlist hoffset hlimit, count_eq hcount,
    selected_eq_matching hsince huntil log]
  constructor
  · rintro ⟨⟨_, ⟨⟩, hentries⟩, -⟩ row hrow hsatisfies
    -- An entry has the message of its row, so the entries say which messages were found.
    have hsame := ((hperm.map Row.recorded).symm.trans hentries).mem_iff (a := row.recorded)
    constructor
    · intro hfits
      obtain ⟨other, hother, heq⟩ := List.mem_map.mp
        (hsame.mp (List.mem_map_of_mem ((hfound row).mpr ⟨hrow, hsatisfies, hfits⟩)))
      have hmessage : other.message = row.message := congrArg (·.message) heq
      have hmentions := ((hmeant other).mp hother).2.2
      unfold Mentions at hmentions ⊢
      rwa [hmessage] at hmentions
    · intro hmentions
      obtain ⟨other, hother, heq⟩ := List.mem_map.mp
        (hsame.mpr (List.mem_map_of_mem ((hmeant row).mpr ⟨hrow, hsatisfies, hmentions⟩)))
      have hmessage : other.message = row.message := congrArg (·.message) heq
      have hfits := ((hfound other).mp hother).2.2
      unfold Fitting at hfits ⊢
      rwa [hmessage] at hfits
  · intro hexact
    have hsame : matching log params = searched log params := by
      refine (filter_eq_filter_iff _ _ log).mpr fun row hrow ↦ ?_
      rw [filtersMatch_iff hsearch, decide_eq_true_iff]
      exact and_congr_right (hexact row hrow)
    rw [← hsame]
    exact ⟨⟨_, rfl, hperm.map _⟩, rfl⟩

/-- A search is exact when it works and what fits is what is meant. -/
theorem searchExact_iff (listPlan countPlan : Plan) {log : List Row}
    (hlimit : Sufficient log params) :
    SearchExact listPlan countPlan log params ↔
      (params.search.utf8ByteSize ≤ 49998 ∨ ∀ row ∈ log, ¬Satisfies params row) ∧
        ∀ row ∈ log, Satisfies params row →
          (Fitting params.search row ↔ Mentions params.search row) := by
  have hworks (plan : Plan) : searchFails plan log params = false ↔
      params.search.utf8ByteSize ≤ 49998 ∨ ∀ row ∈ log, ¬Satisfies params row := by
    rw [searchFails_eq_false_iff hsince huntil]
    simp only [← fieldsMatch_iff, Bool.not_eq_true]
  have hexact (h : searchFails listPlan log params = false) :=
    searchExact_iff_of_works hsearch hsince huntil hoffset h ((hworks countPlan).mpr
      ((hworks listPlan).mp h)) hlimit
  rw [← hworks listPlan]
  constructor
  · intro h
    have hlist : searchFails listPlan log params = false := by
      refine Bool.eq_false_iff.mpr fun hfails ↦ ?_
      obtain ⟨⟨entries, hentries, -⟩, -⟩ := h
      unfold list at hentries
      dsimp only at hentries
      rw [hoffset, if_neg fun h ↦ absurd h.2 (lt_irrefl 0), if_pos hfails] at hentries
      cases hentries
    exact ⟨hlist, (hexact hlist).mp h⟩
  · rintro ⟨hlist, h⟩
    exact (hexact hlist).mpr h

end Exact

/-! ## Special characters -/

/-- The character stands for itself alone: it is no wildcard, ends no text, and is read as no other. -/
def Plain (c : Char) : Prop := c ≠ '%' ∧ c ≠ '_' ∧ c.toNat ∉ [0, 0xFFFD, 0xFFFE, 0xFFFF]

instance : DecidablePred Plain := fun _ ↦ inferInstanceAs (Decidable (_ ∧ _ ∧ _))

theorem Plain.likeChar {c : Char} (h : Plain c) : likeChar c = c := by
  refine (likeChar_eq_self_iff c).mpr ⟨fun hc ↦ h.2.2 ?_, fun hc ↦ h.2.2 ?_⟩ <;> simp [hc]

theorem Plain.toNat_ne_zero {c : Char} (h : Plain c) : c.toNat ≠ 0 :=
  fun hc ↦ h.2.2 (by simp [hc])

/-- No letter is the lower-case form of another character unless it is a lower-case one. -/
theorem eq_of_asciiLower_eq {c d : Char} (hc : c.toNat < 97 ∨ 122 < c.toNat)
    (h : asciiLower d = c) : d = c := by
  unfold asciiLower at h
  split_ifs at h with hletter
  · exfalso
    have hbounds : 65 ≤ d.toNat ∧ d.toNat ≤ 90 := hletter
    have hvalid : (d.toNat + 32).isValidChar := Or.inl (by omega)
    have hcode : (Char.ofNat (d.toNat + 32)).toNat = d.toNat + 32 := by
      unfold Char.ofNat
      rw [dif_pos hvalid]
      rfl
    rw [h] at hcode
    omega
  · exact h

theorem asciiLower_eq_self {c : Char} (hc : c.toNat < 65 ∨ 90 < c.toNat) : asciiLower c = c := by
  refine if_neg fun hletter ↦ ?_
  have hbounds : 65 ≤ c.toNat ∧ c.toNat ≤ 90 := hletter
  omega

/-- A plain letter is the same as another one exactly when it is the same as that one is read. -/
theorem sameLetter_likeChar {c : Char} (hc : Plain c) (d : Char) :
    SameLetter c (likeChar d) ↔ SameLetter c d := by
  have hspecial {e : Char} (he : e.toNat ∈ [0xFFFD, 0xFFFE, 0xFFFF]) : ¬SameLetter c e := by
    intro hsame
    have hbig : 122 < e.toNat := by
      simp only [List.mem_cons, List.not_mem_nil, or_false] at he
      omega
    have heq : c = e := eq_of_asciiLower_eq (Or.inr hbig)
      (hsame.trans (asciiLower_eq_self (Or.inr (by omega))))
    exact hc.2.2 (heq ▸ List.mem_cons_of_mem 0 he)
  by_cases hd : d.toNat = 0xFFFE ∨ d.toNat = 0xFFFF
  · have hread : likeChar d = Char.ofNat 0xFFFD := if_pos hd
    rw [hread]
    refine iff_of_false (hspecial (by decide)) (hspecial ?_)
    rcases hd with hd | hd <;> simp [hd]
  · rw [(likeChar_eq_self_iff d).mpr (not_or.mp hd)]

theorem forall₂_sameLetter_likeChar {letters part : Text} (hletters : ∀ c ∈ letters, Plain c) :
    List.Forall₂ SameLetter letters (part.map likeChar) ↔ List.Forall₂ SameLetter letters part := by
  induction letters generalizing part with
  | nil => rw [List.forall₂_nil_left_iff, List.forall₂_nil_left_iff, List.map_eq_nil_iff]
  | cons c letters ih =>
    obtain ⟨hc, hrest⟩ := List.forall_mem_cons.mp hletters
    cases part with
    | nil => exact Iff.rfl
    | cons d part =>
      rw [List.map_cons, List.forall₂_cons, List.forall₂_cons, ih hrest, sameLetter_likeChar hc]

/-- A text of plain characters fits the messages that mention it, if they are read to their end. -/
theorem fitting_iff_mentions {search : String} (hplain : ∀ c ∈ search.toList, Plain c) {row : Row}
    (hmessage : ReadToEnd row.message.toList) : Fitting search row ↔ Mentions search row := by
  have hnul : ReadToEnd search.toList := fun c hc ↦ (hplain c hc).toNat_ne_zero
  have hread : likeText search.toList = search.toList := by
    rw [hnul.likeText]
    exact List.map_congr_left (fun c hc ↦ (hplain c hc).likeChar) |>.trans (List.map_id _)
  have hletters : search.toList.map likeSymbol = search.toList.map .letter := by
    refine List.map_congr_left fun c hc ↦ ?_
    unfold likeSymbol
    rw [if_neg (hplain c hc).1, if_neg (hplain c hc).2.1]
  unfold Fitting
  rw [hread, hletters, hmessage.likeText, mentions_iff]
  simp only [not_true, hnul, false_implies, true_and, Pattern.fits_letters_iff, List.infix_map_iff]
  constructor
  · rintro ⟨_, ⟨part, hpart, rfl⟩, hsame⟩
    exact ⟨part, hpart, (forall₂_sameLetter_likeChar hplain).mp hsame⟩
  · rintro ⟨part, hpart, hsame⟩
    exact ⟨_, ⟨part, hpart, rfl⟩, (forall₂_sameLetter_likeChar hplain).mpr hsame⟩

/-- An entry with this message that satisfies the other filters. -/
def probe (params : ListParams) (message : Text) : Row where
  instanceID := params.instanceID
  level := params.level.getD .info
  action := params.action.getD .rateLimit
  message := String.ofList message
  details := none
  id := 0
  createdAt := halfPastTen.formatRFC3339Nano
  created_utc := ⟨halfPastTen, rfl, rfl⟩

theorem satisfies_probe (params : ListParams) (message : Text) :
    Satisfies params (probe params message) := by
  refine ⟨fun level hlevel ↦ ?_, fun id hid ↦ hid, fun action haction ↦ ?_⟩
  · unfold probe
    rw [Option.mem_def.mp hlevel]
    rfl
  · unfold probe
    rw [Option.mem_def.mp haction]
    rfl

/-- A message that mentions the text has its characters, but for the case of letters. -/
theorem mem_of_mentions {params : ListParams} {search : String} {message : Text}
    (h : Mentions search (probe params message)) {c : Char} (hc : c ∈ search.toList)
    (hletter : c.toNat < 65 ∨ 90 < c.toNat ∧ c.toNat < 97 ∨ 122 < c.toNat) : c ∈ message := by
  have hmessage : (probe params message).message.toList = message := String.toList_ofList
  unfold Mentions at h
  rw [hmessage] at h
  have hfound : c ∈ message.map asciiLower :=
    h.subset (List.mem_map.mpr ⟨c, hc, asciiLower_eq_self (by omega)⟩)
  obtain ⟨d, hd, hdc⟩ := List.mem_map.mp hfound
  exact eq_of_asciiLower_eq (by omega) hdc ▸ hd

/-- A message fits if the whole of what is read of it does. -/
theorem fitting_probe {params : ListParams} {search : String} {message read : Text}
    (hread : likeText message = read)
    (hfits : Pattern.Fits SameLetter ((likeText search.toList).map likeSymbol) read) :
    Fitting search (probe params message) := by
  have hmessage : (probe params message).message.toList = message := String.toList_ofList
  unfold Fitting
  rw [hmessage, hread]
  exact ⟨read, List.infix_rfl, fun _ ↦ List.suffix_rfl, hfits⟩

theorem likeText_eq_self {text : Text} (h : ∀ c ∈ text, c.toNat ≠ 0 ∧ likeChar c = c) :
    likeText text = text := by
  have hread : ReadToEnd text := fun c hc ↦ (h c hc).1
  rw [hread.likeText]
  exact (List.map_congr_left fun c hc ↦ (h c hc).2).trans (List.map_id _)

section Plain

variable {params : ListParams} {search : String}
  (hexact : ∀ message : Text, ReadToEnd message →
    Fitting search (probe params message) → Mentions search (probe params message))

include hexact

/-- A text that messages without NUL fit only if they mention it is read as it is, without wildcards. -/
theorem literal_of_exact :
    ∀ c ∈ search.toList, (c ≠ '%' ∧ c ≠ '_') ∧ c.toNat ≠ 0 ∧ likeChar c = c := by
  have hsame : ∀ c, SameLetter c c := fun _ ↦ rfl
  -- A text that fits the pattern has none of its special characters but U+FFFD.
  let filled := Pattern.fill '-' ((likeText search.toList).map likeSymbol)
  have hfilled : ∀ c ∈ filled, (c ≠ '%' ∧ c ≠ '_') ∧ c.toNat ≠ 0 ∧ likeChar c = c := by
    intro c hc
    rcases Pattern.mem_fill hc with hletter | rfl
    · obtain ⟨d, hd, hsymbol⟩ := List.mem_map.mp hletter
      unfold likeSymbol at hsymbol
      split_ifs at hsymbol with hmany hone
      obtain rfl := Symbol.letter.inj hsymbol
      exact ⟨⟨hmany, hone⟩, mem_likeText hd⟩
    · decide
  have hmentions : Mentions search (probe params filled) :=
    hexact filled (fun c hc ↦ (hfilled c hc).2.1)
      (fitting_probe (likeText_eq_self fun c hc ↦ (hfilled c hc).2) (Pattern.fits_fill hsame '-' _))
  intro c hc
  by_contra hspecial
  refine hspecial (hfilled c (mem_of_mentions hmentions hc ?_))
  by_contra hletter
  refine hspecial ⟨⟨?_, ?_⟩, by omega, (likeChar_eq_self_iff c).mpr (by omega)⟩
  · rintro rfl
    exact hletter (by decide)
  · rintro rfl
    exact hletter (by decide)

/-- U+FFFD is found where U+FFFE stands, so it is not in such a text. -/
theorem noReplacement_of_exact : ∀ c ∈ search.toList, c.toNat ≠ 0xFFFD := by
  have hliteral := literal_of_exact hexact
  let replaced := search.toList.map fun c ↦ if c.toNat = 0xFFFD then Char.ofNat 0xFFFE else c
  have hcodes : ∀ c ∈ replaced, c.toNat ≠ 0 ∧ c.toNat ≠ 0xFFFD := by
    intro c hc
    obtain ⟨d, hd, rfl⟩ := List.mem_map.mp hc
    split_ifs with hcode
    · decide
    · exact ⟨(hliteral d hd).2.1, hcode⟩
  have hreplaced : ReadToEnd replaced := fun c hc ↦ (hcodes c hc).1
  have hread : likeText replaced = search.toList := by
    rw [hreplaced.likeText, List.map_map]
    refine (List.map_congr_left fun c hc ↦ ?_).trans (List.map_id _)
    dsimp only [Function.comp_apply, id_eq]
    split_ifs with hcode
    · have heq : c = Char.ofNat 0xFFFD := Char.toNat_inj.mp hcode
      rw [heq]
      decide
    · exact (hliteral c hc).2.2
  have hfits : Pattern.Fits SameLetter ((likeText search.toList).map likeSymbol) search.toList := by
    rw [likeText_eq_self fun c hc ↦ (hliteral c hc).2]
    exact fits_of_sameLetters (List.forall₂_same.mpr fun _ _ ↦ rfl)
  have hmentions : Mentions search (probe params replaced) :=
    hexact replaced hreplaced (fitting_probe hread hfits)
  intro c hc hcode
  exact (hcodes c (mem_of_mentions hmentions hc (by omega))).2 hcode

theorem plain_of_exact : ∀ c ∈ search.toList, Plain c := by
  intro c hc
  obtain ⟨⟨hmany, hone⟩, hnul, hself⟩ := literal_of_exact hexact c hc
  have hnot := noReplacement_of_exact hexact c hc
  have hkept := (likeChar_eq_self_iff c).mp hself
  exact ⟨hmany, hone, by simp [hnul, hnot, hkept]⟩

end Plain

/-- A listing with a search text is exact unless the text has more than 49998 bytes and some row gets as
far as it, or some row that satisfies the other filters fits the text and does not mention it, or the
other way round. It is exact on every table of messages without NUL if and only if the text has no more
bytes and only plain characters. -/
theorem search_exact_iff {params : ListParams} (hsearch : params.search ≠ "")
    (hsince : params.since = none) (huntil : params.untilTime = none)
    (hoffset : params.offset = 0) (listPlan countPlan : Plan) :
    (∀ log, Sufficient log params → (SearchExact listPlan countPlan log params ↔
      (params.search.utf8ByteSize ≤ 49998 ∨ ∀ row ∈ log, ¬Satisfies params row) ∧
        ∀ row ∈ log, Satisfies params row →
          (Fitting params.search row ↔ Mentions params.search row))) ∧
    ((∀ log, (∀ row ∈ log, ReadToEnd row.message.toList) → Sufficient log params →
        SearchExact listPlan countPlan log params) ↔
      params.search.utf8ByteSize ≤ 49998 ∧ ∀ c ∈ params.search.toList, Plain c) := by
  have hexact (log : List Row) (hlimit : Sufficient log params) :=
    searchExact_iff hsearch hsince huntil hoffset listPlan countPlan hlimit
  refine ⟨hexact, fun h ↦ ?_, fun h log hmessages hlimit ↦ ?_⟩
  · have hprobe (message : Text) (hmessage : ReadToEnd message) := by
      have hroom : Sufficient [probe params message] params := by
        unfold Sufficient
        rw [List.length_singleton]
        omega
      refine (hexact _ hroom).mp (h _ (fun row hrow ↦ ?_) hroom)
      obtain rfl := List.mem_singleton.mp hrow
      exact String.toList_ofList ▸ hmessage
    constructor
    · have hshort := (hprobe [] fun _ ↦ by simp).1
      exact hshort.resolve_right fun hnone ↦
        hnone _ List.mem_cons_self (satisfies_probe params [])
    · exact plain_of_exact fun message hmessage ↦
        ((hprobe message hmessage).2 _ List.mem_cons_self (satisfies_probe params message)).mp
  · exact (hexact log hlimit).mpr ⟨Or.inl h.1, fun row hrow _ ↦
      fitting_iff_mentions h.2 (hmessages row hrow)⟩

/-- A table with one cycle that searched a number of items. -/
def cycleLog (items : String) : List Row :=
  [{ entryAt ⟨halfPastTen, rfl⟩ with
      action := .searchCycle
      message := "searched " ++ items ++ " items for Sonarr" }]

/-- A search among the cycles, with room for ten entries. -/
def cycleSearch (search : String) : ListParams :=
  ⟨some .info, none, some .searchCycle, search, none, none, 10, 0⟩

theorem search_exact_plain :
    SearchExact .asWritten .asWritten (cycleLog "5") (cycleSearch "SEARCHED 5") := by
  have hplain : (cycleSearch "SEARCHED 5").search.utf8ByteSize ≤ 49998 ∧
      ∀ c ∈ (cycleSearch "SEARCHED 5").search.toList, Plain c :=
    ⟨by decide, forall_mem_of_all (by decide)⟩
  have hmessages : ∀ row ∈ cycleLog "5", ReadToEnd row.message.toList :=
    List.forall_mem_singleton.mpr (forall_mem_of_all (by decide))
  have hroom : Sufficient (cycleLog "5") (cycleSearch "SEARCHED 5") := Or.inr (by decide)
  exact (search_exact_iff (by decide : (cycleSearch "SEARCHED 5").search ≠ "") rfl rfl rfl _ _).2.mpr
    hplain _ hmessages hroom

/-- The search for a text with a percent sign finds an entry that does not contain it. -/
theorem search_finds_unmentioned :
    Sufficient (cycleLog "1000") (cycleSearch "d 1%0") ∧
      count .asWritten (cycleLog "1000") (cycleSearch "d 1%0") = .ok 1 ∧
      ¬SearchExact .asWritten .asWritten (cycleLog "1000") (cycleSearch "d 1%0") := by
  have hcount : count .asWritten (cycleLog "1000") (cycleSearch "d 1%0") = .ok 1 := by
    decide +kernel
  have hmentions : ¬"d 1%0".toList.map asciiLower <:+:
      ("searched 1000 items for Sonarr".toList.map asciiLower) := by decide
  have hnone : searched (cycleLog "1000") (cycleSearch "d 1%0") = [] := by
    refine List.filter_eq_nil_iff.mpr fun row hrow hmeant ↦ hmentions ?_
    obtain rfl := List.mem_singleton.mp hrow
    exact (of_decide_eq_true hmeant).2
  refine ⟨Or.inr (by decide), hcount, fun h ↦ ?_⟩
  have hsame := h.2
  rw [hcount, hnone] at hsame
  exact absurd (Except.ok.inj hsame) (by decide)

end Huntarr2.Activity
