import Huntarr2.GoStd.RequestURL

/-!
# Routing of HTTP requests

`http.ServeMux` matches the segments of an escaped path with the segments of its patterns, after it has
redirected paths that are not clean. What a pattern accepts decodes to the path the pattern describes,
so a decision that was made on the decoded path agrees with the one that routing makes.
-/

namespace Huntarr2.GoStd

open Percent

/-! ## Patterns -/

/-- A segment of a pattern; `rest` is `{name...}`, or the slash at a pattern's end, which has no name.
`{$}` is the literal segment `/`. -/
inductive Segment
  | literal (text : Text)
  | wildcard
  | rest (named : Bool)
  deriving DecidableEq, Repr

/-- A registered pattern. -/
structure Route (η : Type*) where
  method : Option String
  segments : List Segment
  handler : η

/-- `pathUnescape`; a malformed text is taken as it is. -/
def pathUnescape (text : Text) : Text := (decode id text).getD text

/-- `firstSegment`: the first segment of a path and what follows it. -/
def firstSegment (path : Text) : Text × Text :=
  if path = ['/'] then (['/'], [])
  else (pathUnescape (path.tail.takeWhile (· ≠ '/')), path.tail.dropWhile (· ≠ '/'))

/-- Matches a path with the segments of a pattern: the values of the wildcards. -/
def matchSegments : List Segment → Text → Option (List Text)
  | [], path => if path = [] then some [] else none
  | .literal text :: segments, path =>
    if path ≠ [] ∧ (firstSegment path).1 = text then matchSegments segments (firstSegment path).2
    else none
  | .wildcard :: segments, path =>
    if path ≠ [] ∧ (firstSegment path).1 ≠ ['/'] then
      (matchSegments segments (firstSegment path).2).map ((firstSegment path).1 :: ·)
    else none
  | .rest named :: _, path =>
    if path ≠ [] then some (if named then [pathUnescape path.tail] else []) else none

/-- A pattern without a method has every method; one with GET has HEAD too. -/
def Route.hasMethod {η : Type*} (route : Route η) (method : String) : Bool :=
  route.method.all fun required ↦ required = method || required = "GET" && method = "HEAD"

/-- The values of a route's wildcards for a request. -/
def Route.matches? {η : Type*} (route : Route η) (method : String) (path : Text) :
    Option (List Text) :=
  if route.hasMethod method then matchSegments route.segments path else none

/-- The route of a request and the values of its wildcards. -/
def findRoute {η : Type*} (routes : List (Route η)) (method : String) (path : Text) :
    Option (Route η × List Text) :=
  routes.findSome? fun route ↦ (route.matches? method path).map (route, ·)

section Match

variable {path value text : Text} {segments : List Segment}

theorem pathUnescape_of_decodes (h : Decodes id path value) : pathUnescape path = value := by
  unfold pathUnescape
  rw [decode_of_decodes h]
  rfl

theorem pathUnescape_append {first second : Text} (h : '%' ∉ first) :
    pathUnescape (first ++ second) = first ++ pathUnescape second := by
  unfold pathUnescape
  rw [decode_append h, List.map_id]
  cases decode id second <;> rfl

theorem pathUnescape_eq_self (h : '%' ∉ text) : pathUnescape text = text := by
  have happend : pathUnescape (text ++ []) = text ++ pathUnescape [] := pathUnescape_append h
  rwa [List.append_nil, show pathUnescape [] = [] from rfl, List.append_nil] at happend

theorem eq_nil_of_pathUnescape (h : pathUnescape text = []) : text = [] := by
  unfold pathUnescape at h
  cases hdecoded : decode id text with
  | none =>
    rw [hdecoded] at h
    exact h
  | some value =>
    rw [hdecoded] at h
    have hdecodes := decodes_of_decode hdecoded
    rw [show value = [] from h] at hdecodes
    cases hdecodes with
    | nil => rfl

/-- What is left after a segment starts with a slash, or it is empty. -/
theorem dropWhile_slash (text : Text) :
    text.dropWhile (· ≠ '/') = [] ∨ ∃ rest, text.dropWhile (· ≠ '/') = '/' :: rest := by
  induction text with
  | nil => exact Or.inl rfl
  | cons c text ih =>
    by_cases hc : c = '/'
    · rw [hc]
      exact Or.inr ⟨text, rfl⟩
    · rw [List.dropWhile_cons, if_pos (decide_eq_true hc)]
      exact ih

theorem literal_of_match (hmatch : (matchSegments (.literal text :: segments) path).isSome = true) :
    path ≠ [] ∧ (firstSegment path).1 = text ∧
      (matchSegments segments (firstSegment path).2).isSome = true := by
  rw [matchSegments] at hmatch
  split at hmatch
  case isTrue hboth => exact ⟨hboth.1, hboth.2, hmatch⟩
  case isFalse => cases hmatch

/-- A literal that matches is the first segment of the path that the escaped path stands for. -/
theorem eq_append_of_literal (hdecodes : Decodes id path value) (hroot : path.head? = some '/')
    (hmatch : (matchSegments (.literal text :: segments) path).isSome = true) :
    value = ['/'] ∨ ∃ rest, value = '/' :: (text ++ rest) ∧ (rest = [] ∨ rest.head? = some '/') := by
  obtain ⟨-, hfirst, -⟩ := literal_of_match hmatch
  have hdecoded := decode_of_decodes hdecodes
  cases path with
  | nil => cases hroot
  | cons c tail =>
    obtain rfl := Option.some.inj hroot
    rw [decode_cons (by decide)] at hdecoded
    obtain ⟨tailValue, htail, rfl⟩ := Option.map_eq_some_iff.mp hdecoded
    unfold firstSegment at hfirst
    split at hfirst
    case isTrue halone =>
      rw [(List.cons.inj halone).2] at htail
      exact Or.inl (congrArg _ (Option.some.inj htail).symm)
    case isFalse =>
      have htail := decodes_of_decode htail
      rw [List.tail_cons] at hfirst
      have hsplit : tail.takeWhile (· ≠ '/') ++ tail.dropWhile (· ≠ '/') = tail :=
        List.takeWhile_append_dropWhile
      rw [← hsplit] at htail
      refine Or.inr ?_
      rcases dropWhile_slash tail with hnil | ⟨rest, hrest⟩
      · rw [hnil, List.append_nil] at htail
        refine ⟨[], ?_, Or.inl rfl⟩
        rw [List.append_nil, ← hfirst, pathUnescape_of_decodes htail]
        rfl
      · rw [hrest] at htail
        obtain ⟨segment, following, hsegment, -, rfl⟩ := htail.split (by decide) (by decide)
        refine ⟨'/' :: following, ?_, Or.inr rfl⟩
        rw [← hfirst, pathUnescape_of_decodes hsegment]
        rfl

theorem firstSegment_append {following : Text} (hslash : '/' ∉ text) (htext : text ≠ []) :
    firstSegment ('/' :: (text ++ following)) =
      (pathUnescape (text ++ following.takeWhile (· ≠ '/')), following.dropWhile (· ≠ '/')) := by
  have hletters : ∀ c ∈ text, decide (c ≠ '/') = true :=
    fun c hc ↦ decide_eq_true fun heq ↦ hslash (heq ▸ hc)
  have hlong : '/' :: (text ++ following) ≠ ['/'] :=
    fun heq ↦ htext (List.append_eq_nil_iff.mp (List.cons.inj heq).2).1
  unfold firstSegment
  rw [if_neg hlong, List.tail_cons, List.takeWhile_append_of_pos hletters,
    List.dropWhile_append_of_pos hletters]

/-- What follows a literal that matches starts with a slash, or it is empty. -/
theorem rooted_of_literal {following : Text} (hpercent : '%' ∉ text) (hslash : '/' ∉ text)
    (htext : text ≠ [])
    (hmatch : (matchSegments (.literal text :: segments) ('/' :: (text ++ following))).isSome = true) :
    (following = [] ∨ following.head? = some '/') ∧
      (matchSegments segments following).isSome = true := by
  obtain ⟨-, hfirst, hrest⟩ := literal_of_match hmatch
  rw [firstSegment_append hslash htext] at hfirst hrest
  have hnil : following.takeWhile (· ≠ '/') = [] := by
    apply eq_nil_of_pathUnescape
    rw [pathUnescape_append hpercent] at hfirst
    exact List.append_cancel_left (hfirst.trans (List.append_nil text).symm)
  have hwhole : following.dropWhile (· ≠ '/') = following := by
    have hsplit : following.takeWhile (· ≠ '/') ++ following.dropWhile (· ≠ '/') = following :=
      List.takeWhile_append_dropWhile
    rwa [hnil] at hsplit
  rw [← hwhole]
  refine ⟨(dropWhile_slash following).imp_right ?_, hrest⟩
  rintro ⟨rest, heq⟩
  rw [heq]
  rfl

end Match

/-! ## Dispatch -/

/-- The segments of a rooted path that `path.Clean` keeps. -/
def cleanSegments (segments : List Text) : List Text :=
  (segments.foldl (fun kept segment ↦
    if segment = [] ∨ segment = ['.'] then kept
    else if segment = ['.', '.'] then kept.tail
    else segment :: kept) []).reverse

/-- The path of some segments. -/
def pathText (segments : List Text) : Text := segments.flatMap ('/' :: ·)

/-- `cleanPath`. -/
def cleanPath (path : Text) : Text :=
  let rooted := if path.head? = some '/' then path else '/' :: path
  let cleaned := pathText (cleanSegments (rooted.splitOn '/'))
  if cleaned = [] then ['/']
  else if rooted.getLast? = some '/' then cleaned ++ ['/'] else cleaned

/-- `exactMatch`: the match of a trailing slash is not exact when more than the slash remains. -/
def exactMatch (segments : List Segment) (path : Text) : Bool :=
  match segments.getLast? with
  | some (.rest _) => path.getLast? = some '/' && segments.length = path.count '/'
  | _ => true

/-- What a mux does with a request. -/
inductive Dispatch (η : Type*)
  | handled (handler : η) (values : List Text)
  | redirected
  | notFound
  | methodNotAllowed
  | badRequest
  deriving DecidableEq, Repr

/-- The path matches exactly with a slash at its end, and not without. -/
def wantsSlash {η : Type*} (routes : List (Route η)) (method : String) (path : Text) : Bool :=
  let exactly (path : Text) := (findRoute routes method path).any fun found ↦
    exactMatch found.1.segments path
  !exactly path && path.getLast? ≠ some '/' && exactly (path ++ ['/'])

/-- Some pattern matches, whatever its method. -/
def matchesPath {η : Type*} (routes : List (Route η)) (path : Text) : Bool :=
  routes.any fun route ↦ (matchSegments route.segments path).isSome ||
    path.getLast? ≠ some '/' && (matchSegments route.segments (path ++ ['/'])).isSome

/-- `ServeMux.findHandler`. -/
def dispatch {η : Type*} (routes : List (Route η)) (method : String) (escapedPath : Text) :
    Dispatch η :=
  let path := if method = "CONNECT" then escapedPath else cleanPath escapedPath
  if wantsSlash routes method path then .redirected
  else if path ≠ escapedPath then .redirected
  else match findRoute routes method path with
    | some (route, values) => .handled route.handler values
    | none => if matchesPath routes path then .methodNotAllowed else .notFound

section Dispatch

variable {η : Type*} {routes : List (Route η)} {method : String} {path : Text}

theorem findRoute_eq_some {route : Route η} {values : List Text}
    (h : findRoute routes method path = some (route, values)) :
    route ∈ routes ∧ route.hasMethod method = true ∧
      matchSegments route.segments path = some values := by
  obtain ⟨found, hfound, hmatches⟩ := List.exists_of_findSome?_eq_some h
  obtain ⟨_, hvalues, hsame⟩ := Option.map_eq_some_iff.mp hmatches
  obtain ⟨rfl, rfl⟩ := Prod.mk.inj hsame
  unfold Route.matches? at hvalues
  split at hvalues
  case isTrue hmethod => exact ⟨hfound, hmethod, hvalues⟩
  case isFalse => cases hvalues

/-- A handler runs for a request only if its pattern matches the escaped path as it is. -/
theorem findRoute_of_handled {handler : η} {values : List Text}
    (h : dispatch routes method path = .handled handler values) :
    ∃ route, findRoute routes method path = some (route, values) ∧ route.handler = handler := by
  unfold dispatch at h
  dsimp only at h
  generalize (if method = "CONNECT" then path else cleanPath path) = cleaned at h
  by_cases hslash : wantsSlash routes method cleaned = true
  · rw [if_pos hslash] at h
    cases h
  · by_cases hcleaned : cleaned ≠ path
    · rw [if_neg hslash, if_pos hcleaned] at h
      cases h
    · rw [if_neg hslash, if_neg hcleaned, not_not.mp hcleaned] at h
      cases hfound : findRoute routes method path with
      | some found =>
        rw [hfound] at h
        obtain ⟨rfl, rfl⟩ := Dispatch.handled.inj h
        exact ⟨found.1, rfl, rfl⟩
      | none =>
        rw [hfound] at h
        dsimp only at h
        split at h <;> cases h

/-- A pattern that matches exactly leaves no redirect to a slash. -/
theorem wantsSlash_of_exact {found : Route η × List Text}
    (hfound : findRoute routes method path = some found)
    (hexact : exactMatch found.1.segments path = true) : wantsSlash routes method path = false := by
  unfold wantsSlash
  dsimp only
  rw [hfound, Option.any_some, hexact]
  rfl

/-- Neither does one that does not match exactly with the slash. -/
theorem wantsSlash_of_inexact (hslash : ∀ found, findRoute routes method (path ++ ['/']) = some found →
    exactMatch found.1.segments (path ++ ['/']) = false) : wantsSlash routes method path = false := by
  unfold wantsSlash
  dsimp only
  cases hfound : findRoute routes method (path ++ ['/']) with
  | none => rw [Option.any_none, Bool.and_false]
  | some found => rw [Option.any_some, hslash found hfound, Bool.and_false]

/-- Every route starts with a literal. -/
def Opens (routes : List (Route η)) (accepts : Text → η → Bool) : Bool :=
  routes.all fun route ↦
    match route.segments with
    | .literal text :: _ => accepts text route.handler
    | _ => false

/-- The first literal of the route that handles a request opens the path. -/
theorem open_of_handled {accepts : Text → η → Bool} (hopens : Opens routes accepts = true)
    {value : Text} (hdecodes : Decodes id path value) (hroot : path.head? = some '/')
    (hvalue : value ≠ ['/'])
    {handler : η} {values : List Text}
    (h : dispatch routes method path = .handled handler values) :
    ∃ text segments rest, accepts text handler = true ∧ value = '/' :: (text ++ rest) ∧
      (rest = [] ∨ rest.head? = some '/') ∧
      matchSegments (.literal text :: segments) path = some values := by
  obtain ⟨route, hfound, rfl⟩ := findRoute_of_handled h
  obtain ⟨hmem, -, hmatch⟩ := findRoute_eq_some hfound
  have hroute := List.all_eq_true.mp hopens route hmem
  split at hroute
  case h_1 text segments hsegments =>
    rw [hsegments] at hmatch
    have hsome := congrArg Option.isSome hmatch
    obtain ⟨rest, hrest, hends⟩ := (eq_append_of_literal hdecodes hroot hsome).resolve_left hvalue
    exact ⟨text, segments, rest, hroute, hrest, hends, hmatch⟩
  case h_2 => cases hroute

end Dispatch

/-! ## Plain paths -/

/-- A segment that is its own escape and that `path.Clean` keeps. -/
structure Plain (segment : Text) : Prop where
  nonempty : segment ≠ []
  kept : ∀ c ∈ segment, pathByte c = some c
  slash : '/' ∉ segment
  dot : segment ≠ ['.']
  dots : segment ≠ ['.', '.']

section Plain

variable {segment : Text} {texts : List Text} {segments : List Segment}

theorem Plain.percent (h : Plain segment) : '%' ∉ segment :=
  fun hpercent ↦ absurd (h.kept _ hpercent) (by decide)

theorem pathText_cons (segment : Text) (texts : List Text) :
    pathText (segment :: texts) = '/' :: (segment ++ pathText texts) := rfl

theorem pathText_ne_nil (segment : Text) (texts : List Text) : pathText (segment :: texts) ≠ [] :=
  List.cons_ne_nil _ _

theorem percent_notMem_pathText (h : ∀ text ∈ texts, Plain text) : '%' ∉ pathText texts := by
  intro hpercent
  obtain ⟨text, htext, hmem⟩ := List.mem_flatMap.mp hpercent
  exact (List.mem_cons.mp hmem).elim (by decide) (h text htext).percent

/-- The path of some segments, with or without a slash at its end. -/
def slashedText (slash : Bool) (texts : List Text) : Text :=
  pathText texts ++ if slash then ['/'] else []

/-- Matching on the segments of a path. -/
def matchTexts (slash : Bool) : List Segment → List Text → Option (List Text)
  | [], [] => if slash then none else some []
  | [], _ :: _ => none
  | .literal literal :: segments, [] =>
    if slash ∧ literal = ['/'] then matchSegments segments [] else none
  | .literal literal :: segments, text :: texts =>
    if text = literal then matchTexts slash segments texts else none
  | .wildcard :: _, [] => none
  | .wildcard :: segments, text :: texts => (matchTexts slash segments texts).map (text :: ·)
  | .rest named :: _, [] => if slash then some (if named then [[]] else []) else none
  | .rest named :: _, text :: texts =>
    some (if named then [text ++ slashedText slash texts] else [])

theorem firstSegment_slashed (h : Plain segment) (slash : Bool) (texts : List Text) :
    firstSegment (slashedText slash (segment :: texts)) = (segment, slashedText slash texts) := by
  have hrest : (slashedText slash texts).takeWhile (· ≠ '/') = [] ∧
      (slashedText slash texts).dropWhile (· ≠ '/') = slashedText slash texts := by
    cases texts <;> cases slash <;> exact ⟨rfl, rfl⟩
  have hcons : slashedText slash (segment :: texts) =
      '/' :: (segment ++ slashedText slash texts) := congrArg _ (List.append_assoc _ _ _)
  rw [hcons, firstSegment_append h.slash h.nonempty, hrest.1, hrest.2, List.append_nil,
    pathUnescape_eq_self h.percent]

/-- A path of plain segments is matched segment by segment. -/
theorem matchSegments_slashed (h : ∀ text ∈ texts, Plain text) (slash : Bool)
    (segments : List Segment) :
    matchSegments segments (slashedText slash texts) = matchTexts slash segments texts := by
  induction segments generalizing texts with
  | nil => cases texts <;> cases slash <;> rfl
  | cons segment segments ih =>
    cases texts with
    | nil =>
      cases segment with
      | literal literal =>
        cases slash with
        | false => rfl
        | true =>
          rw [matchSegments, matchTexts]
          exact if_congr (and_congr (iff_of_true (List.cons_ne_nil _ _) rfl) eq_comm) rfl rfl
      | wildcard => cases slash <;> rfl
      | rest named => cases slash <;> rfl
    | cons text texts =>
      obtain ⟨htext, htexts⟩ := List.forall_mem_cons.mp h
      have hnonempty : slashedText slash (text :: texts) ≠ [] := List.cons_ne_nil _ _
      cases segment with
      | literal literal =>
        rw [matchSegments, firstSegment_slashed htext, matchTexts, ih htexts]
        exact if_congr (and_iff_right hnonempty) rfl rfl
      | wildcard =>
        have hslash : text ≠ ['/'] := fun heq ↦ htext.slash (heq ▸ List.mem_singleton_self _)
        rw [matchSegments, firstSegment_slashed htext, matchTexts, ih htexts]
        exact if_pos ⟨hnonempty, hslash⟩
      | rest named =>
        have hpercent : '%' ∉ text ++ slashedText slash texts := by
          unfold slashedText
          simp only [List.mem_append, not_or]
          refine ⟨htext.percent, percent_notMem_pathText htexts, ?_⟩
          cases slash <;> decide
        have htail : (slashedText slash (text :: texts)).tail = text ++ slashedText slash texts :=
          List.append_assoc _ _ _
        rw [matchSegments, if_pos hnonempty, matchTexts, htail, pathUnescape_eq_self hpercent]

theorem foldl_cleanSegments (h : ∀ text ∈ texts, Plain text) (kept : List Text) :
    texts.foldl (fun kept segment ↦
      if segment = [] ∨ segment = ['.'] then kept
      else if segment = ['.', '.'] then kept.tail
      else segment :: kept) kept = texts.reverse ++ kept := by
  induction texts generalizing kept with
  | nil => rfl
  | cons text texts ih =>
    rw [List.forall_mem_cons] at h
    rw [List.foldl_cons, if_neg (not_or.mpr ⟨h.1.nonempty, h.1.dot⟩), if_neg h.1.dots, ih h.2,
      List.reverse_cons, List.append_assoc]
    rfl

theorem intercalate_pathText (first : Text) (texts : List Text) :
    ['/'].intercalate (first :: texts) = first ++ pathText texts := by
  induction texts generalizing first with
  | nil => simp [pathText]
  | cons text texts ih =>
    rw [pathText_cons, ← ih text]
    simp [List.intercalate, List.intersperse]

theorem splitOn_pathText (h : ∀ text ∈ texts, Plain text) :
    (pathText texts).splitOn '/' = [] :: texts := by
  have hslash : ∀ text ∈ [] :: texts, '/' ∉ text :=
    List.forall_mem_cons.mpr ⟨List.not_mem_nil, fun text htext ↦ (h text htext).slash⟩
  have hintercalate := intercalate_pathText [] texts
  rw [List.nil_append] at hintercalate
  rw [← hintercalate, List.splitOn_intercalate]
  · exact hslash
  · exact List.cons_ne_nil _ _

theorem getLast?_pathText (h : ∀ text ∈ texts, Plain text) :
    (pathText texts).getLast? ≠ some '/' := by
  intro hlast
  cases texts.eq_nil_or_concat' with
  | inl hnil =>
    rw [hnil] at hlast
    cases hlast
  | inr hconcat =>
    obtain ⟨init, last, rfl⟩ := hconcat
    have hplain := h last (List.mem_append_right _ (List.mem_singleton_self _))
    unfold pathText at hlast
    rw [List.flatMap_append, List.flatMap_singleton, List.getLast?_append_of_ne_nil _
      (List.cons_ne_nil _ _), List.getLast?_cons_of_ne_nil hplain.nonempty] at hlast
    exact hplain.slash (List.mem_of_getLast? hlast)

/-- Cleaning leaves a path of plain segments alone. -/
theorem cleanPath_pathText (h : ∀ text ∈ segment :: texts, Plain text) :
    cleanPath (pathText (segment :: texts)) = pathText (segment :: texts) := by
  have hroot : (pathText (segment :: texts)).head? = some '/' := rfl
  have hclean : pathText (cleanSegments ([] :: segment :: texts)) = pathText (segment :: texts) := by
    unfold cleanSegments
    rw [List.foldl_cons, if_pos (Or.inl rfl), foldl_cleanSegments h, List.append_nil,
      List.reverse_reverse]
  unfold cleanPath
  dsimp only
  rw [if_pos hroot, splitOn_pathText h, hclean, if_neg (pathText_ne_nil _ _),
    if_neg (getLast?_pathText h)]

/-- The route of a path of plain segments. -/
def findTexts {η : Type*} (routes : List (Route η)) (method : String) (slash : Bool)
    (texts : List Text) : Option (Route η × List Text) :=
  routes.findSome? fun route ↦
    if route.hasMethod method then (matchTexts slash route.segments texts).map (route, ·) else none

theorem findRoute_slashed {η : Type*} (routes : List (Route η)) (method : String)
    (h : ∀ text ∈ texts, Plain text) (slash : Bool) :
    findRoute routes method (slashedText slash texts) = findTexts routes method slash texts := by
  unfold findRoute findTexts
  congr
  funext route
  unfold Route.matches?
  split
  · rw [matchSegments_slashed h]
  · rfl

theorem count_pathText (h : ∀ text ∈ texts, Plain text) :
    (pathText texts).count '/' = texts.length := by
  induction texts with
  | nil => rfl
  | cons text texts ih =>
    rw [List.forall_mem_cons] at h
    rw [pathText_cons, List.count_cons_self, List.count_append,
      List.count_eq_zero_of_not_mem h.1.slash, ih h.2, Nat.zero_add, List.length_cons]

/-- A pattern that ends with the rest of a path matches exactly only where nothing is left. -/
theorem exactMatch_slashed (h : ∀ text ∈ texts, Plain text) {named : Bool}
    (hlast : segments.getLast? = some (.rest named)) (hlength : segments.length ≠ texts.length + 1) :
    exactMatch segments (slashedText true texts) = false := by
  have hcount : (slashedText true texts).count '/' = texts.length + 1 := by
    unfold slashedText
    rw [List.count_append, count_pathText h]
    rfl
  unfold exactMatch
  rw [hlast, hcount]
  dsimp only
  rw [decide_eq_false hlength, Bool.and_false]

/-- A path of plain segments is handled by the route that its segments lead to, if this matches
exactly, or if it leaves more than a slash to the rest. -/
theorem dispatch_texts {η : Type*} {routes : List (Route η)} {method : String}
    (h : ∀ text ∈ segment :: texts, Plain text) {route : Route η} {values : List Text}
    (hfound : findTexts routes method false (segment :: texts) = some (route, values))
    (hslash : exactMatch route.segments (pathText (segment :: texts)) = true ∨
      ∀ found, findTexts routes method true (segment :: texts) = some found →
        ∃ named, found.1.segments.getLast? = some (.rest named) ∧
          found.1.segments.length ≠ (segment :: texts).length + 1) :
    dispatch routes method (pathText (segment :: texts)) = .handled route.handler values := by
  have hpath : slashedText false (segment :: texts) = pathText (segment :: texts) := List.append_nil _
  have hroute := findRoute_slashed routes method h false
  rw [hpath, hfound] at hroute
  have hredirect : wantsSlash routes method (pathText (segment :: texts)) = false := by
    cases hslash with
    | inl hexact => exact wantsSlash_of_exact hroute hexact
    | inr hrest =>
      apply wantsSlash_of_inexact
      intro found hslashed
      obtain ⟨named, hlast, hlength⟩ :=
        hrest found ((findRoute_slashed routes method h true).symm.trans hslashed)
      exact exactMatch_slashed h hlast hlength
  unfold dispatch
  rw [cleanPath_pathText h, ite_self]
  dsimp only
  rw [hredirect, if_neg Bool.false_ne_true, if_neg (not_not.mpr rfl), hroute]

theorem toNat_lt_of_isAlphanum {c : Char} (h : c.isAlphanum = true) : c.toNat < 256 := by
  have hbelow (bound : UInt32) (hbound : bound.toNat < 256) (hle : c.val ≤ bound) : c.toNat < 256 :=
    Nat.lt_of_le_of_lt hle hbound
  rcases (Bool.or_eq_true _ _).mp h with hletter | hdigit
  · rcases (Bool.or_eq_true _ _).mp hletter with hupper | hlower
    · exact hbelow 90 (by decide) (of_decide_eq_true hupper).2
    · exact hbelow 122 (by decide) (of_decide_eq_true ((Bool.and_eq_true _ _).mp hlower).2)
  · exact hbelow 57 (by decide) (of_decide_eq_true ((Bool.and_eq_true _ _).mp hdigit).2)

theorem pathByte_lt {c : Char} (h : pathByte c = some c) : c.toNat < 256 := by
  unfold pathByte at h
  split at h
  case isTrue hkept =>
    cases hkept with
    | inl hletter => exact toNat_lt_of_isAlphanum hletter
    | inr hmark =>
      have hmarks : ∀ c ∈ ("-_.~$&+,/:;=@" : Text), c.toNat < 256 := forall_mem_of_all (by decide)
      exact hmarks c hmark
  case isFalse => cases h

theorem pathByte_of_mem_pathText (h : ∀ text ∈ texts, Plain text) :
    ∀ c ∈ pathText texts, pathByte c = some c := by
  intro c hc
  obtain ⟨text, htext, hmem⟩ := List.mem_flatMap.mp hc
  cases List.mem_cons.mp hmem with
  | inl hslash =>
    rw [hslash]
    decide
  | inr hletter => exact (h text htext).kept c hletter

/-- The URL whose path has the segments. -/
def plainURL (texts : List Text) (h : ∀ text ∈ texts, Plain text) : RequestURL where
  path := pathText texts
  rawPath := []
  decoded := fun hraw ↦ absurd rfl hraw
  bytes := fun c hc ↦ pathByte_lt (pathByte_of_mem_pathText h c hc)

/-- A request for the path is read as the URL. -/
theorem ofText?_pathText (h : ∀ text ∈ texts, Plain text) :
    RequestURL.ofText? (pathText texts) (plainURL texts h).bytes = some (plainURL texts h) := by
  have hdecoded : decode id (pathText texts) = some (pathText texts) := by
    have hdecodes : Decodes id (pathText texts) ((pathText texts).map id) :=
      decodes_map (percent_notMem_pathText h)
    rw [List.map_id] at hdecodes
    exact decode_of_decodes hdecodes
  have hencode : encode pathByte (pathText texts) = pathText texts :=
    encode_eq_self (pathByte_of_mem_pathText h)
  unfold RequestURL.ofText?
  split
  case h_1 hnone => cases hnone.symm.trans hdecoded
  case h_2 path hpath =>
    obtain rfl := Option.some.inj (hpath.symm.trans hdecoded)
    exact congrArg some (RequestURL.ext rfl (if_pos hencode.symm))

theorem escapedPath_plainURL (h : ∀ text ∈ texts, Plain text) :
    (plainURL texts h).escapedPath = pathText texts := by
  have hencode : encode pathByte (pathText texts) = pathText texts :=
    encode_eq_self (pathByte_of_mem_pathText h)
  unfold RequestURL.escapedPath
  rw [if_neg fun hraw ↦ hraw.1 rfl]
  exact (congrArg (ite _ _) hencode).trans (ite_self _)

end Plain

end Huntarr2.GoStd
