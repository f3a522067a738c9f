import Huntarr2.Api.Activity

/-!
# The Logs page

The page asks for the entries that its filters select, fifty at a time. What it asks for is read as it
was meant, whatever is searched for, up to the last offset that the API accepts and the longest search
text that SQLite takes.
-/

namespace Huntarr2.Web

open Activity Api Clock GoStd

/-! ## Filters -/

/-- A chosen time, in milliseconds from the start of year 0. -/
abbrev Millis := { wallMillis : ℕ // wallMillis / 1000 < maxWall }

/-- The filters as the page offers them; nothing chosen is `none`, nothing searched for is empty. -/
structure Filters where
  level : Option Level
  instanceID : Option UUID
  action : Option Action
  search : Text
  since : Option Millis
  untilTime : Option Millis

def perPage : ℕ := 50

/-- What the filters and the page mean. -/
def Filters.params (filters : Filters) (page : ℕ) : ListParams where
  level := filters.level
  instanceID := filters.instanceID
  action := filters.action
  search := String.ofList filters.search
  since := filters.since.map fun millis ↦ Timestamp.ofMillis millis.1 millis.2
  untilTime := filters.untilTime.map fun millis ↦ Timestamp.ofMillis millis.1 millis.2
  limit := perPage
  offset := ((page - 1) * perPage : ℕ)

/-- The fields of the request. `toISOString` writes a time as SQLite does. -/
def Filters.fields (filters : Filters) (page : ℕ) : List (Text × Option Text) :=
  [("limit", some (decimal perPage)), ("offset", some (decimal ((page - 1) * perPage))),
    ("level", filters.level.map Level.text),
    ("instanceId", filters.instanceID.map fun id ↦ (uuidText id).toList),
    ("action", filters.action.map Action.text),
    ("search", if filters.search = [] then none else some filters.search),
    ("since", filters.since.map fun millis ↦ strftime millis.1),
    ("until", filters.untilTime.map fun millis ↦ strftime millis.1)]

/-- The query string of the request. -/
def Filters.query (filters : Filters) (page : ℕ) : Text :=
  encodeQuery (fieldsQuery (filters.fields page))

/-! ## What the API lists -/

/-- The rows that the filters select, in the order of `List`. -/
def Filters.newestFirst (filters : Filters) (log : List Row) : List Row :=
  Activity.newestFirst log (filters.params 1)

/-- SQLite refuses the search of the filters. -/
def Filters.refused (filters : Filters) (plan : Plan) (log : List Row) : Bool :=
  searchFails plan log (filters.params 1)

/-- A search text of at most 49998 bytes is not refused. -/
theorem refused_of_short {filters : Filters}
    (hshort : (String.ofList filters.search).utf8ByteSize ≤ 49998) (plan : Plan) (log : List Row) :
    filters.refused plan log = false := by
  have hfits : patternTooLong (filters.params 1) = false := by
    refine Bool.and_eq_false_iff.mpr (Or.inr (decide_eq_false fun hlong ↦ ?_))
    have hlonger : 50000 < (String.ofList filters.search).utf8ByteSize + 2 := hlong
    omega
  exact congrArg (· && _) hfits

section Listing

variable {filters : Filters} {page : ℕ} {plan : Plan} {log : List Row}

/-- The page does not matter to the search. -/
theorem searchFails_params (refused : Bool) (h : filters.refused plan log = refused) :
    searchFails plan log (filters.params page) = refused := h

theorem list_params (h : filters.refused plan log = false) :
    Service.list plan log (filters.params page) =
      .ok ((((filters.newestFirst log).map Row.recorded).drop
        ((page - 1) * perPage)).take perPage) := by
  have hlimit : Service.list plan log (filters.params page) =
      listPage plan log (filters.params page) perPage (page - 1) := rfl
  rw [hlimit]
  exact listPage_eq (searchFails_params false h) (by decide) (page - 1)

theorem list_params_refused (h : filters.refused plan log = true) :
    ∃ err, Service.list plan log (filters.params page) = .error err :=
  listPage_error (searchFails_params true h) (by decide : 0 < perPage) (page - 1)

theorem count_params (h : filters.refused plan log = false) :
    count plan log (filters.params page) = .ok (filters.newestFirst log).length :=
  (count_eq (searchFails_params false h)).trans
    (congrArg Except.ok (List.perm_insertionSort _ _).length_eq.symm)

theorem count_params_refused (h : filters.refused plan log = true) :
    ∃ err, count plan log (filters.params page) = .error err := ⟨_, if_pos h⟩

end Listing

/-! ## What the API reads -/

theorem ascii_decimal (value : ℕ) : Ascii (decimal value) := by
  intro c hc
  have hdigit := isSome_of_digitsValue (digitsValue_decimal value) c hc
  unfold digitValue at hdigit
  split at hdigit
  case isTrue hrange => exact hrange.2.trans_lt (by decide)
  case isFalse => cases hdigit

theorem ascii_level (level : Level) : Ascii level.text := by
  cases level <;> exact forall_mem_of_all (by decide)

theorem ascii_action (action : Action) : Ascii action.text := by
  cases action <;> exact forall_mem_of_all (by decide)

theorem ascii_uuidText (id : UUID) : Ascii (uuidText id).toList := by
  have hascii : ∀ c ∈ '-' :: hexDigits, c.toNat < 128 := forall_mem_of_all (by decide)
  exact fun c hc ↦ hascii c (mem_uuidText hc)

theorem ascii_pad (width value : ℕ) : Ascii (pad width value) := by
  have hdigits : ∀ d < 10, (digit d).toNat < 128 := by decide
  intro c hc
  obtain ⟨d, hd, rfl⟩ := mem_pad hc
  exact hdigits d hd

theorem ascii_strftime (millis : ℕ) : Ascii (strftime millis) := by
  have hpart (width value : ℕ) (separator : Char) (hseparator : separator.toNat < 128) {rest : Text}
      (hrest : Ascii rest) : Ascii (pad width value ++ separator :: rest) :=
    List.forall_mem_append.mpr ⟨ascii_pad width value, List.forall_mem_cons.mpr ⟨hseparator, hrest⟩⟩
  have hmillis : Ascii ('.' :: (pad 3 (millis % 1000) ++ ['Z'])) :=
    List.forall_mem_cons.mpr ⟨by decide, hpart 3 _ 'Z' (by decide) (List.forall_mem_nil _)⟩
  refine List.forall_mem_append.mpr ⟨?_, hmillis⟩
  exact hpart 4 _ '-' (by decide) (hpart 2 _ '-' (by decide) (hpart 2 _ 'T' (by decide)
    (hpart 2 _ ':' (by decide) (hpart 2 _ ':' (by decide) (ascii_pad 2 _)))))

theorem strftime_ne_nil (millis : ℕ) : strftime millis ≠ [] :=
  List.append_ne_nil_of_right_ne_nil _ (List.cons_ne_nil _ _)

/-- A field that is read back from its text. -/
theorem optionalParameter_field {α β : Type} {query : List (Text × Text)} {key : Text}
    {read : Text → Option β} {message : String} (value : Option α) (text : α → Text) (meant : α → β)
    (hfield : getValue query key = ((value.map text).map textBytes).getD [])
    (hascii : ∀ value, Ascii (text value)) (hnonempty : ∀ value, text value ≠ [])
    (hread : ∀ value, read (text value) = some (meant value)) :
    optionalParameter query key read message = .ok (value.map meant) := by
  cases value with
  | none => exact optionalParameter_missing hfield
  | some value =>
    have hvalue : getValue query key = text value :=
      hfield.trans (textBytes_of_ascii (hascii value))
    exact optionalParameter_read (hvalue ▸ hnonempty value) (hvalue ▸ hread value)

section Request

variable {parseUUID : Text → Option UUID} (hparse : ∀ id, parseUUID (uuidText id).toList = some id)
  (filters : Filters) (page : ℕ)

/-- Each field of the request is what the API finds under its key. -/
theorem getValue_query {key : Text} {value : Option Text} (hmem : (key, value) ∈ filters.fields page) :
    getValue (parseQuery (filters.query page)) key = (value.map textBytes).getD [] := by
  have hkeys : ∀ field ∈ filters.fields page, Ascii field.1 := by
    have hall : (filters.fields page).all
        (fun field ↦ field.1.all fun c ↦ decide (c.toNat < 128)) = true := rfl
    exact fun field hfield ↦ forall_mem_of_all (List.all_eq_true.mp hall field hfield)
  have hnodup : ((filters.fields page).map Prod.fst).Nodup := by
    simp only [Filters.fields, List.map_cons, List.map_nil]
    decide
  unfold Filters.query
  rw [parseQuery_encodeQuery (bytePair_fieldsQuery _)]
  exact getValue_fieldsQuery hkeys hnodup hmem

/-- The search text is searched for as it was typed. -/
theorem searchParameter_query :
    searchParameter (parseQuery (filters.query page)) = String.ofList filters.search := by
  have hfield : getValue (parseQuery (filters.query page)) "search" =
      ((if filters.search = [] then none else some filters.search).map textBytes).getD [] :=
    getValue_query filters page (List.mem_of_getElem? (i := 5) rfl)
  unfold searchParameter
  dsimp only
  rw [hfield]
  by_cases hempty : filters.search = []
  · rw [if_pos hempty, hempty]
    rfl
  · rw [if_neg hempty, Option.map_some, Option.getD_some, bytesText?_textBytes, Option.getD_some]

include hparse

/-- Up to the last offset the API reads of the request what it means, and refuses it after that. -/
theorem listParams_query :
    ((page - 1) * perPage ≤ 100000 →
      listParams parseUUID (parseQuery (filters.query page)) = .ok (filters.params page)) ∧
    (100000 < (page - 1) * perPage →
      ∃ message, listParams parseUUID (parseQuery (filters.query page)) =
        .error (badRequest message)) := by
  have hlevel : optionalParameter (parseQuery (filters.query page)) "level" levelOfText
      "unrecognised level" = .ok (filters.level.map id) :=
    optionalParameter_field filters.level Level.text id
      (getValue_query filters page (List.mem_of_getElem? (i := 2) rfl)) ascii_level
      (by intro level; cases level <;> exact List.cons_ne_nil _ _) levelOfText_text
  have hinstance : optionalParameter (parseQuery (filters.query page)) "instanceId" parseUUID
      "invalid UUID" = .ok (filters.instanceID.map id) :=
    optionalParameter_field filters.instanceID (fun id ↦ (uuidText id).toList) id
      (getValue_query filters page (List.mem_of_getElem? (i := 3) rfl)) ascii_uuidText
      uuidText_ne_nil hparse
  have haction : optionalParameter (parseQuery (filters.query page)) "action" actionOfText
      "unrecognised action" = .ok (filters.action.map id) :=
    optionalParameter_field filters.action Action.text id
      (getValue_query filters page (List.mem_of_getElem? (i := 4) rfl)) ascii_action
      (by intro action; cases action <;> exact List.cons_ne_nil _ _) actionOfText_text
  have htime (key : Text) (message : String) (millis : Option Millis)
      (hfield : getValue (parseQuery (filters.query page)) key =
        ((millis.map fun millis ↦ strftime millis.1).map textBytes).getD []) :
      optionalParameter (parseQuery (filters.query page)) key parseRFC3339Nano message =
        .ok (millis.map fun millis ↦ Timestamp.ofMillis millis.1 millis.2) :=
    optionalParameter_field millis (fun millis ↦ strftime millis.1) _ hfield
      (fun millis ↦ ascii_strftime millis.1) (fun millis ↦ strftime_ne_nil millis.1)
      fun millis ↦ parse_strftime_eq millis.2
  have hsince := htime "since" "invalid since timestamp" filters.since
    (getValue_query filters page (List.mem_of_getElem? (i := 6) rfl))
  have huntil := htime "until" "invalid until timestamp" filters.untilTime
    (getValue_query filters page (List.mem_of_getElem? (i := 7) rfl))
  have hlimit : numberParameter (parseQuery (filters.query page)) "limit" 1 maxActivityLimit =
      .ok (perPage : ℤ) := by
    refine numberParameter_decimal ?_ (by decide) (by decide) (by decide)
    exact (getValue_query filters page (List.mem_of_getElem? (i := 0) rfl)).trans
      (textBytes_of_ascii (ascii_decimal _))
  have hoffset : getValue (parseQuery (filters.query page)) "offset" = decimal ((page - 1) * perPage) :=
    (getValue_query filters page (List.mem_of_getElem? (i := 1) rfl)).trans
      (textBytes_of_ascii (ascii_decimal _))
  unfold listParams
  rw [hlevel, hinstance, haction, hsince, huntil, hlimit, searchParameter_query]
  simp only [Option.map_id, id_eq]
  constructor
  · intro hbound
    have hmost : ((page - 1) * perPage : ℕ) ≤ maxActivityOffset := Int.ofNat_le.mpr hbound
    rw [numberParameter_decimal hoffset (Int.natCast_nonneg _) hmost (by decide)]
    rfl
  · intro hbound
    have hexceeds : maxActivityOffset < ((page - 1) * perPage : ℕ) := Int.ofNat_lt.mpr hbound
    obtain ⟨message, herror⟩ : ∃ message, numberParameter (parseQuery (filters.query page)) "offset" 0
        maxActivityOffset = .error (badRequest message) := numberParameter_exceeds hoffset hexceeds
    rw [herror]
    exact ⟨message, rfl⟩

/-- What the API replies to a request of the page: exactly when neither query fails, SQLite takes the
search in both, and the page is not past the last offset, the entries of the page and the number of all
of them. -/
theorem handleListActivity_query {listed counted : List Row} {listing counting : QueryRun}
    {reply : ActivityListResponse} :
    handleListActivity listed counted parseUUID (parseQuery (filters.query page)) listing counting =
        .ok reply ↔
      (listing.failure = none ∧ counting.failure = none) ∧
        (filters.refused listing.plan listed = false ∧
          filters.refused counting.plan counted = false) ∧
        (page - 1) * perPage ≤ 100000 ∧
        reply = ⟨(((filters.newestFirst listed).map Row.recorded).drop
          ((page - 1) * perPage)).take perPage, (filters.newestFirst counted).length⟩ := by
  obtain ⟨hread, hrefused⟩ := listParams_query hparse filters page
  unfold handleListActivity
  rcases le_or_gt ((page - 1) * perPage) 100000 with hbound | hbound
  · rw [hread hbound, and_iff_right hbound]
    simp only [bind, Except.bind]
    cases hlisted : filters.refused listing.plan listed with
    | true =>
      obtain ⟨err, herr⟩ := list_params_refused hlisted
      rw [herr]
      cases listing.failure <;> simp
    | false =>
      rw [list_params hlisted]
      cases hcounted : filters.refused counting.plan counted with
      | true =>
        obtain ⟨err, herr⟩ := count_params_refused hcounted
        rw [herr]
        cases listing.failure <;> cases counting.failure <;> simp
      | false =>
        rw [count_params hcounted]
        cases listing.failure <;> cases counting.failure <;> simp [eq_comm]
  · obtain ⟨message, herror⟩ := hrefused hbound
    rw [herror]
    exact iff_of_false (fun h ↦ nomatch h) fun h ↦ absurd h.2.2.1 (not_le.mpr hbound)

end Request

/-! ## An example -/

/-- The number that the digits of a UUID stand for. -/
def digitsNumber (digits : Text) : ℕ :=
  digits.foldl (fun number c ↦ number * 16 + hexDigits.idxOf c) 0

/-- `uuid.Parse`, for the form in which UUIDs are written. -/
def readUUID (text : Text) : Option UUID :=
  let id : UUID := BitVec.ofNat 128 (digitsNumber (text.filter (· ≠ '-')))
  if (uuidText id).toList = text then some id else none

theorem foldl_digits (number n : ℕ) :
    (List.range n).foldl (fun value index ↦ value * 16 + number / 16 ^ (n - 1 - index) % 16) 0 =
      number % 16 ^ n := by
  induction n generalizing number with
  | zero => exact (Nat.mod_one number).symm
  | succ n ih =>
    have hhigher : (List.range n).foldl
        (fun value index ↦ value * 16 + number / 16 ^ (n + 1 - 1 - index) % 16) 0 =
          number / 16 % 16 ^ n := by
      rw [← ih (number / 16)]
      refine List.foldl_ext _ _ 0 fun value index hindex ↦ ?_
      have hshift : n + 1 - 1 - index = n - 1 - index + 1 := by
        have := List.mem_range.mp hindex
        omega
      rw [hshift, Nat.pow_succ', Nat.div_div_eq_div_mul]
    rw [List.range_succ, List.foldl_append, hhigher, List.foldl_cons, List.foldl_nil,
      Nat.add_sub_cancel, Nat.sub_self, Nat.pow_zero, Nat.div_one, Nat.pow_succ', Nat.mod_mul]
    omega

theorem readUUID_uuidText (id : UUID) : readUUID (uuidText id).toList = some id := by
  have hnumber : digitsNumber ((uuidText id).toList.filter (· ≠ '-')) = id.toNat := by
    have hbound : (16 : ℕ) ^ 32 = 2 ^ 128 := by decide
    unfold digitsNumber
    rw [filter_uuidText, List.foldl_map]
    refine (List.foldl_ext _ _ 0 fun value index _ ↦ ?_).trans
      ((foldl_digits id.toNat 32).trans (by rw [hbound, Nat.mod_eq_of_lt id.isLt]))
    rw [idxOf_getD_hexDigits _ (Nat.mod_lt _ (by decide))]
  unfold readUUID
  dsimp only
  rw [hnumber, BitVec.ofNat_toNat, BitVec.setWidth_eq, if_pos rfl]

/-- A search for a text with blanks, a percent sign and a letter outside of ASCII. -/
def sampleFilters : Filters :=
  ⟨some .info, some 7, some .searchCycle, "à 100 %", some ⟨0, by decide⟩, none⟩

theorem halfPastTen_offset : halfPastTen.offset = 0 := rfl

theorem halfPastTen_utc : ∃ time : Timestamp, time.offset = 0 ∧
    time.formatRFC3339Nano = halfPastTen.formatRFC3339Nano := ⟨halfPastTen, halfPastTen_offset, rfl⟩

/-- An entry that the search finds. -/
def sampleRow (id : UUID) : Row where
  instanceID := some 7
  level := .info
  action := .searchCycle
  message := "recherche à 100 % finie"
  details := none
  id := id
  createdAt := halfPastTen.formatRFC3339Nano
  created_utc := halfPastTen_utc

/-- A log with so many such entries. -/
def sampleLog (length : ℕ) : List Row :=
  (List.range length).map fun index ↦ sampleRow (BitVec.ofNat 128 index)

theorem newestFirst_sampleLog (length : ℕ) :
    sampleFilters.newestFirst (sampleLog length) = sampleLog length := by
  have hfound (id : UUID) : buildListQuery (sampleFilters.params 1) (sampleRow id) = true :=
    (rfl : _ = buildListQuery (sampleFilters.params 1) (sampleRow 0)).trans (by decide +kernel)
  have hselected : selected (sampleLog length) (sampleFilters.params 1) = sampleLog length := by
    refine List.filter_eq_self.mpr fun row hrow ↦ ?_
    obtain ⟨index, -, rfl⟩ := List.mem_map.mp hrow
    exact hfound _
  have hsorted : (sampleLog length).Pairwise fun first second ↦
      second.createdAt ≤ first.createdAt :=
    List.pairwise_map.mpr (List.pairwise_of_forall fun _ _ ↦ le_rfl)
  unfold Filters.newestFirst newestFirst
  rw [hselected]
  exact hsorted.insertionSort_eq

theorem short_sampleFilters : (String.ofList sampleFilters.search).utf8ByteSize ≤ 49998 := by decide

/-- The second page of the search. -/
theorem handleListActivity_query_sample :
    handleListActivity (sampleLog 120) (sampleLog 121) readUUID (parseQuery (sampleFilters.query 2))
        ⟨.boundsFirst, none⟩ ⟨.asWritten, none⟩ =
      .ok ⟨(((sampleLog 120).map Row.recorded).drop 50).take 50, 121⟩ := by
  refine (handleListActivity_query readUUID_uuidText sampleFilters 2).mpr ⟨⟨rfl, rfl⟩,
    ⟨refused_of_short short_sampleFilters _ _, refused_of_short short_sampleFilters _ _⟩, by decide, ?_⟩
  rw [newestFirst_sampleLog, newestFirst_sampleLog]
  rfl

end Huntarr2.Web
