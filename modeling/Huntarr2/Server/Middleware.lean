import Huntarr2.Server.ResponseWriter
import Huntarr2.Foundation.Utf8

/-!
# What the client gets and what the log says

Whatever a handler does with its writer (headers, status codes and data in any order, a panic at any
point), the status in the log is the one that was sent unless the handler begins with a code that is not
a final one. The headers of the middleware are sent with every response, and a file is cached only by a
response that begins with a code below 400.
-/

namespace Huntarr2.Middleware

/-! ## Serving a request -/

structure Request where
  method : String
  path : Text

def staticCacheHeader : String := "public, max-age=31536000, immutable"

def appCacheHeader : String := "no-cache"

/-- The expression `\d+\.\d+` matches where a dot stands between two digits. -/
def versionedFile : Text → Bool
  | [] => false
  | first :: rest =>
    (match rest with
      | '.' :: next :: _ => first.isDigit && next.isDigit
      | _ => false) || versionedFile rest

/-- The `Cache-Control` of a file, by what follows the last slash of its path. -/
def cacheHeader (path : Text) : String :=
  if versionedFile (path.reverse.takeWhile (· ≠ '/')).reverse then staticCacheHeader
  else appCacheHeader

def withStaticCacheHeaders (path : Text) (handler : Handler) (rw : ResponseWriter) :
    Outcome ResponseWriter :=
  (handler.run StaticCacheWriter.call ⟨rw, cacheHeader path, false⟩).map StaticCacheWriter.inner

/-- The mux runs a handler as it is, or the file server with the cache headers around it. -/
def serveHTTP (request : Request) (static : Bool) (handler : Handler) (rw : ResponseWriter) :
    Outcome ResponseWriter :=
  if static then withStaticCacheHeaders request.path handler rw
  else handler.run ResponseWriter.call rw

/-- What `withBasicAuth` answers without the credentials. -/
def unauthorised : Handler where
  calls :=
    [.setHeader fun header ↦ (header.insert "WWW-Authenticate" ["Basic realm=\"Huntarr2\""]).insert
        "Content-Type" ["application/json"],
      .writeHeader 401, .write (utf8 "\x7b\"error\":\"unauthorised\"\x7d")]
  panics := false

/-- The headers that `http.Error` sets. -/
def errorHeader (header : Header) : Header :=
  ((header.erase "Content-Length").insert "Content-Type" ["text/plain; charset=utf-8"]).insert
    "X-Content-Type-Options" ["nosniff"]

/-- `http.Error` with the status 500. -/
def httpError (rw : ResponseWriter) : ResponseWriter :=
  ((rw.setHeader errorHeader).writeHeader 500).writer.write (utf8 "internal server error\n")

def withPanicRecovery : Outcome ResponseWriter → ResponseWriter
  | .returned rw => rw
  | .panicked rw => httpError rw

/-- What the handler leaves and the answer to a panic keeps is left. -/
theorem withPanicRecovery_of {P : ResponseWriter → Prop} {outcome : Outcome ResponseWriter}
    (h : P outcome.writer) (herror : ∀ rw, P rw → P (httpError rw)) : P (withPanicRecovery outcome) := by
  cases outcome with
  | returned rw => exact h
  | panicked rw => exact herror rw h

/-- The headers that `withSecurityHeaders` sets. -/
def securityHeaders : List (String × List String) :=
  [("X-Content-Type-Options", ["nosniff"]), ("X-Frame-Options", ["DENY"]),
    ("Referrer-Policy", ["strict-origin-when-cross-origin"]),
    ("Content-Security-Policy", ["default-src 'self'; " ++
      "script-src 'self' 'unsafe-inline' 'unsafe-eval'; " ++ "style-src 'self' 'unsafe-inline'"])]

/-- The response before the handler. -/
def withSecurityHeaders : Response := ⟨KeyedTable.ofPairs securityHeaders, [], none, ∅, []⟩

/-- The writer of `withRequestLogging`. -/
def newResponseWriter (response : Response) : ResponseWriter := ⟨response, 200, false⟩

/-- That writer after a request. -/
def served (request : Request) (static : Bool) (handler : Handler) : ResponseWriter :=
  withPanicRecovery (serveHTTP request static handler (newResponseWriter withSecurityHeaders))

inductive Level
  | debug
  | info
  deriving DecidableEq, Repr

/-- The entry `request handled`. -/
structure RequestLog where
  level : Level
  method : String
  path : Text
  status : ℤ

/-- `withRequestLogging`. -/
def requestLog (request : Request) (static : Bool) (handler : Handler) : RequestLog where
  level := if "/static/".toList.isPrefixOf request.path then .debug else .info
  method := request.method
  path := request.path
  status := (served request static handler).status

/-- What the client gets: the server sends the header at the end if no handler did. -/
def serve (request : Request) (static : Bool) (handler : Handler) : Response :=
  (served request static handler).response.commit

/-- What the mux runs on the writer of the middleware. -/
def mounted (request : Request) (static : Bool) (handler : Handler) : Handler :=
  if static then { handler with calls := cacheCalls (cacheHeader request.path) handler.calls }
  else handler

/-- Static files are served like by a handler that makes the calls of the static writer. -/
theorem serveHTTP_eq (request : Request) (static : Bool) (handler : Handler) (rw : ResponseWriter) :
    serveHTTP request static handler rw =
      (mounted request static handler).run ResponseWriter.call rw := by
  cases static with
  | false => rfl
  | true =>
    change ((runCalls StaticCacheWriter.call ⟨rw, cacheHeader request.path, false⟩ handler.calls).bind
      fun writer ↦ if handler.panics then .panicked writer else .returned writer).map
        StaticCacheWriter.inner =
      (runCalls ResponseWriter.call rw (cacheCalls (cacheHeader request.path) handler.calls)).bind
        fun writer ↦ if handler.panics then .panicked writer else .returned writer
    rw [← runCalls_static]
    cases runCalls StaticCacheWriter.call ⟨rw, cacheHeader request.path, false⟩ handler.calls with
    | returned writer => cases hpanics : handler.panics <;> rfl
    | panicked writer => rfl

/-! ## The status -/

/-- The code that a handler begins with; a write without one begins with 200. -/
def firstCode : List WriterCall → Option ℤ
  | [] => none
  | .setHeader _ :: rest => firstCode rest
  | .writeHeader code :: _ => some code
  | .write _ :: _ => some 200

theorem firstCode_cacheCalls (cacheHeader : String) (calls : List WriterCall) :
    firstCode (cacheCalls cacheHeader calls) = firstCode calls := by
  induction calls with
  | nil => rfl
  | cons first rest ih =>
    cases first with
    | setHeader change => exact ih
    | writeHeader code =>
      unfold cacheCalls
      split <;> rfl
    | write data => rfl

/-- The status that is sent after a first code: one that is not final leaves it to the server. -/
def sentCode (code : ℤ) : ℤ := if Final code then code else 200

/-- The handler began, the log has its status, and the client gets one. -/
structure Settled (logged sent : ℤ) (rw : ResponseWriter) : Prop where
  wroteHeader : rw.wroteHeader = true
  status : rw.status = logged
  sent : rw.response.status.getD 200 = sent

/-- No handler began. -/
structure Fresh (rw : ResponseWriter) : Prop where
  wroteHeader : rw.wroteHeader = false
  status : rw.status = 200
  unsent : rw.response.status = none

theorem commit_status (response : Response) :
    response.commit.status = some (response.status.getD 200) := by
  unfold Response.commit
  cases hstatus : response.status with
  | none => rfl
  | some code => exact hstatus

theorem write_status (response : Response) (data : List UInt8) :
    (response.write data).status = some (response.status.getD 200) := by
  unfold Response.write
  split <;> exact commit_status response

namespace Settled

variable {logged sent : ℤ} {rw : ResponseWriter} (h : Settled logged sent rw)

include h

theorem setHeader (change : Header → Header) : Settled logged sent (rw.setHeader change) := { h with }

theorem write (data : List UInt8) : Settled logged sent (rw.write data) where
  wroteHeader := rfl
  status := h.status
  sent := (congrArg (Option.getD · 200) (write_status rw.response data)).trans h.sent

theorem writeHeader (code : ℤ) : rw.writeHeader code = .returned rw := if_pos h.wroteHeader

theorem call (next : WriterCall) : Settled logged sent (rw.call next).writer := by
  cases next with
  | setHeader change => exact h.setHeader change
  | writeHeader code => exact (congrArg Outcome.writer (h.writeHeader code)).symm ▸ h
  | write data => exact h.write data

/-- No later call changes either status. -/
theorem runCalls (calls : List WriterCall) :
    Settled logged sent (runCalls ResponseWriter.call rw calls).writer :=
  runCalls_writer h fun next _ _ hwriter ↦ hwriter.call next

theorem httpError : Settled logged sent (httpError rw) := by
  unfold Middleware.httpError
  rw [(h.setHeader errorHeader).writeHeader]
  exact (h.setHeader errorHeader).write _

end Settled

/-- The first code settles both statuses, and panics only if it is not final. -/
theorem Fresh.writeHeader {rw : ResponseWriter} (h : Fresh rw) (code : ℤ) :
    Settled code (sentCode code) (rw.writeHeader code).writer := by
  have hnot : ¬rw.wroteHeader = true := ne_true_of_eq_false h.wroteHeader
  have hunsent : ¬rw.response.status.isSome = true := by rw [h.unsent]; exact Bool.false_ne_true
  have hdefault : rw.response.status.getD 200 = 200 := congrArg (Option.getD · 200) h.unsent
  unfold ResponseWriter.writeHeader Response.writeHeader
  rw [if_neg hnot, if_neg hunsent]
  by_cases hinvalid : code < 100 ∨ 999 < code
  · have hfinal : ¬Final code := by unfold Final; omega
    rw [if_pos hinvalid]
    exact ⟨rfl, rfl, hdefault.trans (if_neg hfinal).symm⟩
  · rw [if_neg hinvalid]
    by_cases hinformational : code ≤ 199 ∧ code ≠ 101
    · have hfinal : ¬Final code := by unfold Final; omega
      rw [if_pos hinformational]
      exact ⟨rfl, rfl, hdefault.trans (if_neg hfinal).symm⟩
    · have hfinal : Final code := by unfold Final; omega
      rw [if_neg hinformational]
      exact ⟨rfl, rfl, (if_pos hfinal).symm⟩

theorem Fresh.write {rw : ResponseWriter} (h : Fresh rw) (data : List UInt8) :
    Settled 200 200 (rw.write data) where
  wroteHeader := rfl
  status := h.status
  sent := by
    have hstatus := write_status rw.response data
    rw [h.unsent] at hstatus
    exact congrArg (Option.getD · 200) hstatus

/-- The calls leave the writer fresh if none of them begins, and settled by the first that does. -/
theorem Fresh.runCalls {rw : ResponseWriter} (h : Fresh rw) (calls : List WriterCall) :
    match firstCode calls with
    | none => ∃ after, runCalls ResponseWriter.call rw calls = .returned after ∧ Fresh after
    | some code => Settled code (sentCode code) (runCalls ResponseWriter.call rw calls).writer := by
  induction calls generalizing rw with
  | nil => exact ⟨rw, rfl, h⟩
  | cons first rest ih =>
    cases first with
    | setHeader change => exact ih { h with }
    | writeHeader code =>
      exact Outcome.writer_bind (h.writeHeader code) fun _ hnext ↦ hnext.runCalls rest
    | write data => exact (h.write data).runCalls rest

theorem Fresh.httpError {rw : ResponseWriter} (h : Fresh rw) : Settled 500 500 (httpError rw) := by
  have herror : Fresh (rw.setHeader errorHeader) := { h with }
  exact (herror.writeHeader 500).write _

/-- The writer after a handler and the recovery from its panic. -/
theorem Fresh.recovered {rw : ResponseWriter} (h : Fresh rw) (handler : Handler) :
    match firstCode handler.calls with
    | none => if handler.panics
        then Settled 500 500 (withPanicRecovery (handler.run ResponseWriter.call rw))
        else Fresh (withPanicRecovery (handler.run ResponseWriter.call rw))
    | some code =>
      Settled code (sentCode code) (withPanicRecovery (handler.run ResponseWriter.call rw)) := by
  have hcalls := h.runCalls handler.calls
  unfold Handler.run
  cases hfirst : firstCode handler.calls with
  | none =>
    rw [hfirst] at hcalls
    obtain ⟨after, hafter, hfresh⟩ := hcalls
    dsimp only
    rw [hafter]
    cases hpanics : handler.panics with
    | true => exact hfresh.httpError
    | false => exact hfresh
  | some code =>
    rw [hfirst] at hcalls
    exact withPanicRecovery_of (Handler.run_writer hcalls) fun _ hsettled ↦ hsettled.httpError

section Served

variable (request : Request) (static : Bool) (handler : Handler)

theorem firstCode_mounted :
    firstCode (mounted request static handler).calls = firstCode handler.calls := by
  unfold mounted
  split
  · exact firstCode_cacheCalls _ handler.calls
  · rfl

theorem panics_mounted : (mounted request static handler).panics = handler.panics := by
  unfold mounted
  split <;> rfl

theorem served_spec :
    match firstCode handler.calls with
    | none => if handler.panics then Settled 500 500 (served request static handler)
        else Fresh (served request static handler)
    | some code => Settled code (sentCode code) (served request static handler) := by
  have hstart : Fresh (newResponseWriter withSecurityHeaders) := ⟨rfl, rfl, rfl⟩
  have hrecovered := hstart.recovered (mounted request static handler)
  rw [firstCode_mounted, panics_mounted] at hrecovered
  unfold served
  rw [serveHTTP_eq]
  exact hrecovered

theorem sentCode_eq_iff (code : ℤ) : sentCode code = code ↔ Final code := by
  unfold sentCode
  by_cases hfinal : Final code
  · rw [if_pos hfinal]
    exact iff_of_true rfl hfinal
  · have hsuccess : Final 200 := by decide
    rw [if_neg hfinal]
    exact iff_of_false (fun heq ↦ hfinal (heq ▸ hsuccess)) hfinal

/-- A panic before anything was written is a 500. -/
theorem settled_of_panic (hfirst : firstCode handler.calls = none) (hpanics : handler.panics = true) :
    Settled 500 500 (served request static handler) := by
  have hspec := served_spec request static handler
  rw [hfirst] at hspec
  simpa [hpanics] using hspec

theorem status_serve : (serve request static handler).status =
    some ((served request static handler).response.status.getD 200) := commit_status _

/-- The log tells the status that the client gets, unless the handler begins with a code that is not a
final one. A panic before anything was written is logged and answered as 500. -/
theorem logged_eq_sent_iff :
    ((serve request static handler).status = some (requestLog request static handler).status ↔
      ∀ code, firstCode handler.calls = some code → Final code) ∧
    (firstCode handler.calls = none → handler.panics = true →
      (requestLog request static handler).status = 500 ∧
        (serve request static handler).status = some 500) := by
  have hspec := served_spec request static handler
  have hlogged : (requestLog request static handler).status =
      (served request static handler).status := rfl
  rw [status_serve, hlogged, Option.some.injEq]
  cases hfirst : firstCode handler.calls with
  | none =>
    rw [hfirst] at hspec
    have hnone : ∀ code, (none : Option ℤ) = some code → Final code := fun _ hcode ↦ nomatch hcode
    cases hpanics : handler.panics with
    | true =>
      have hsettled := settled_of_panic request static handler hfirst hpanics
      rw [hsettled.sent, hsettled.status]
      exact ⟨iff_of_true rfl hnone, fun _ _ ↦ ⟨rfl, rfl⟩⟩
    | false =>
      have hfresh : Fresh (served request static handler) := by simpa [hpanics] using hspec
      rw [hfresh.unsent, hfresh.status]
      exact ⟨iff_of_true rfl hnone, fun _ h ↦ absurd h (by decide)⟩
  | some code =>
    rw [hfirst] at hspec
    rw [hspec.sent, hspec.status, sentCode_eq_iff]
    exact ⟨⟨fun hfinal _ hcode ↦ Option.some.inj hcode ▸ hfinal, fun h ↦ h code rfl⟩,
      fun h ↦ nomatch h⟩

-- A handler that announces with 103 and then finds nothing: its 404 is dropped.
example : (requestLog request false ⟨[.writeHeader 103, .writeHeader 404], false⟩).status = 103 ∧
    (serve request false ⟨[.writeHeader 103, .writeHeader 404], false⟩).status = some 200 :=
  ⟨rfl, rfl⟩

end Served

/-! ## The headers -/

/-- The header has a value for a name, and so has what was sent. -/
structure Carries (name : String) (value : Option (List String)) (response : Response) : Prop where
  header : response.header.lookup name = value
  sent : response.status.isSome → response.sent.lookup name = value

/-- The calls do not change the header of a name that has a value. -/
def Keep (name : String) (value : Option (List String)) (calls : List WriterCall) : Prop :=
  ∀ change, .setHeader change ∈ calls →
    ∀ header : Header, header.lookup name = value → (change header).lookup name = value

theorem Keep.cons_iff {name : String} {value : Option (List String)} {first : WriterCall}
    {rest : List WriterCall} :
    Keep name value (first :: rest) ↔ Keep name value [first] ∧ Keep name value rest := by
  simp only [Keep, List.mem_cons, List.not_mem_nil, or_false, or_imp, forall_and]

theorem Keep.of_mem {name : String} {value : Option (List String)} {calls : List WriterCall}
    {call : WriterCall} (h : Keep name value calls) (hcall : call ∈ calls) : Keep name value [call] :=
  fun change hmem ↦ h change (List.mem_singleton.mp hmem ▸ hcall)

namespace Carries

variable {name : String} {value : Option (List String)}

theorem of_unsent {response : Response} (hunsent : response.status = none)
    (hheader : response.header.lookup name = value) : Carries name value response :=
  ⟨hheader, fun hsent ↦ by rw [hunsent] at hsent; cases hsent⟩

section Response

variable {response : Response} (h : Carries name value response)

include h

theorem writeHeader (code : ℤ) : Carries name value (response.writeHeader code).writer := by
  unfold Response.writeHeader
  split
  case isTrue => exact h
  case isFalse =>
    split
    case isTrue => exact h
    case isFalse =>
      split
      case isTrue => exact ⟨h.header, h.sent⟩
      case isFalse => exact ⟨h.header, fun _ ↦ h.header⟩

theorem commit : Carries name value response.commit := by
  unfold Response.commit
  split
  case isTrue => exact h
  case isFalse => exact ⟨h.header, fun _ ↦ h.header⟩

theorem write (data : List UInt8) : Carries name value (response.write data) := by
  unfold Response.write
  split
  case isTrue => exact ⟨h.commit.header, h.commit.sent⟩
  case isFalse => exact h.commit

theorem sent_commit : response.commit.sent.lookup name = value := by
  refine h.commit.sent ?_
  rw [commit_status]
  rfl

end Response

variable {rw : ResponseWriter}

theorem setHeader {change : Header → Header} (h : Carries name value rw.response)
    (hkeep : Keep name value [.setHeader change]) : Carries name value (rw.setHeader change).response :=
  ⟨hkeep change List.mem_cons_self _ h.header, h.sent⟩

theorem writeHeader_writer (h : Carries name value rw.response) (code : ℤ) :
    Carries name value (rw.writeHeader code).writer.response := by
  have hresponse := h.writeHeader code
  unfold ResponseWriter.writeHeader
  split
  case isTrue => exact h
  case isFalse =>
    cases hcode : rw.response.writeHeader code <;> rw [hcode] at hresponse <;> exact hresponse

theorem call {next : WriterCall} (h : Carries name value rw.response) (hkeep : Keep name value [next]) :
    Carries name value (rw.call next).writer.response := by
  cases next with
  | setHeader change => exact h.setHeader hkeep
  | writeHeader code => exact h.writeHeader_writer code
  | write data => exact h.write data

theorem runCalls {calls : List WriterCall} (h : Carries name value rw.response)
    (hkeep : Keep name value calls) :
    Carries name value (runCalls ResponseWriter.call rw calls).writer.response := by
  refine runCalls_writer (P := fun rw : ResponseWriter ↦ Carries name value rw.response) h
    fun next hnext _ hwriter ↦ ?_
  exact hwriter.call (hkeep.of_mem hnext)

theorem recovered {handler : Handler}
    (h : Carries name value (Middleware.runCalls ResponseWriter.call rw handler.calls).writer.response)
    (herror : Keep name value [.setHeader errorHeader]) :
    Carries name value (withPanicRecovery (handler.run ResponseWriter.call rw)).response := by
  have hrun := Handler.run_writer (P := fun rw : ResponseWriter ↦ Carries name value rw.response) h
  refine withPanicRecovery_of (P := fun rw ↦ Carries name value rw.response) hrun fun _ hwriter ↦ ?_
  exact ((hwriter.setHeader herror).writeHeader_writer 500).write _

end Carries

theorem Keep.of_call {name : String} {value : Option (List String)} {calls : List WriterCall}
    (h : Keep name value calls) (code : ℤ) : Keep name value (.writeHeader code :: calls) :=
  Keep.cons_iff.mpr ⟨fun _ hmem ↦ (nomatch List.mem_singleton.mp hmem), h⟩

/-- The `Cache-Control` that the static writer sends: none where the handler begins with an error. -/
def sentCacheControl (cacheHeader : String) (calls : List WriterCall) : Option (List String) :=
  if (firstCode calls).any (· < 400) then some [cacheHeader] else none

theorem carries_cacheCalls {rw : ResponseWriter} {calls : List WriterCall} (cacheHeader : String)
    (hunsent : rw.response.status = none) (habsent : rw.response.header.lookup "Cache-Control" = none)
    (hbefore : Keep "Cache-Control" none calls)
    (hafter : Keep "Cache-Control" (sentCacheControl cacheHeader calls) calls) :
    Carries "Cache-Control" (sentCacheControl cacheHeader calls)
      (runCalls ResponseWriter.call rw (cacheCalls cacheHeader calls)).writer.response := by
  induction calls generalizing rw with
  | nil => exact .of_unsent hunsent habsent
  | cons first rest ih =>
    have hnone : Carries "Cache-Control" none rw.response := .of_unsent hunsent habsent
    have hadded : Carries "Cache-Control" (some [cacheHeader])
        (rw.setHeader (setCacheControl cacheHeader)).response :=
      .of_unsent hunsent (AList.lookup_insert _)
    cases first with
    | setHeader change =>
      obtain ⟨hfirst, hrest⟩ := Keep.cons_iff.mp hbefore
      exact ih hunsent (hnone.setHeader hfirst).header hrest (Keep.cons_iff.mp hafter).2
    | writeHeader code =>
      unfold cacheCalls
      by_cases hbelow : code < 400
      · have hvalue : sentCacheControl cacheHeader (.writeHeader code :: rest) = some [cacheHeader] :=
          if_pos (decide_eq_true hbelow)
        rw [hvalue] at hafter ⊢
        rw [if_pos hbelow]
        exact hadded.runCalls hafter
      · have hvalue : sentCacheControl cacheHeader (.writeHeader code :: rest) = none :=
          if_neg (ne_true_of_eq_false (decide_eq_false hbelow))
        rw [hvalue] at hafter ⊢
        rw [if_neg hbelow]
        exact hnone.runCalls hafter
    | write data => exact hadded.runCalls (hafter.of_call 200)

section Serve

variable (request : Request) (handler : Handler)

/-- What the recovery from a panic sets is what `withSecurityHeaders` set. -/
theorem keep_errorHeader {name : String} {value : Option (List String)}
    (hlength : name ≠ "Content-Length") (htype : name ≠ "Content-Type")
    (hoptions : name = "X-Content-Type-Options" → value = some ["nosniff"]) :
    Keep name value [.setHeader errorHeader] := by
  intro change hmem header hheader
  obtain rfl := WriterCall.setHeader.inj (List.mem_singleton.mp hmem)
  unfold errorHeader
  rw [KeyedTable.lookup_insert_eq]
  split
  case isTrue hname => exact (hoptions hname).symm
  case isFalse =>
    rw [KeyedTable.lookup_insert_eq, if_neg htype, KeyedTable.lookup_erase_eq, if_neg hlength]
    exact hheader

/-- The static writer changes no other header. -/
theorem Keep.cacheCalls {name : String} {value : Option (List String)} {calls : List WriterCall}
    (hkeep : Keep name value calls) (hname : name ≠ "Cache-Control") (cacheHeader : String) :
    Keep name value (cacheCalls cacheHeader calls) := by
  have hadded : Keep name value [.setHeader (setCacheControl cacheHeader)] := by
    intro change hmem header hheader
    obtain rfl := WriterCall.setHeader.inj (List.mem_singleton.mp hmem)
    exact (AList.lookup_insert_ne hname).trans hheader
  induction calls with
  | nil => exact hkeep
  | cons first rest ih =>
    cases first with
    | setHeader change =>
      obtain ⟨hfirst, hrest⟩ := Keep.cons_iff.mp hkeep
      exact Keep.cons_iff.mpr ⟨hfirst, ih hrest⟩
    | writeHeader code =>
      unfold Middleware.cacheCalls
      split
      · exact Keep.cons_iff.mpr ⟨hadded, hkeep⟩
      · exact hkeep
    | write data => exact Keep.cons_iff.mpr ⟨hadded, hkeep.of_call 200⟩

theorem keep_mounted {name : String} {value : Option (List String)} (static : Bool)
    (hkeep : Keep name value handler.calls) (hname : name ≠ "Cache-Control") :
    Keep name value (mounted request static handler).calls := by
  unfold mounted
  split
  · exact hkeep.cacheCalls hname _
  · exact hkeep

/-- Every response carries the security headers, unless the handler changes them. -/
theorem securityHeaders_sent (static : Bool) {name : String} {value : List String}
    (hheader : (name, value) ∈ securityHeaders) (hkeep : Keep name (some value) handler.calls) :
    (serve request static handler).sent.lookup name = some value := by
  have hfacts : ∀ pair ∈ securityHeaders, KeyedTable.lastValue pair.1 securityHeaders = some pair.2 ∧
      pair.1 ≠ "Content-Length" ∧ pair.1 ≠ "Content-Type" ∧ pair.1 ≠ "Cache-Control" ∧
      (pair.1 = "X-Content-Type-Options" → some pair.2 = some ["nosniff"]) := by decide
  obtain ⟨hlast, hlength, htype, hcache, hoptions⟩ := hfacts _ hheader
  have hstart : Carries name (some value) withSecurityHeaders :=
    .of_unsent rfl ((KeyedTable.lookup_ofPairs securityHeaders name).trans hlast)
  have hcalls : Carries name (some value) (runCalls ResponseWriter.call
      (newResponseWriter withSecurityHeaders) (mounted request static handler).calls).writer.response :=
    hstart.runCalls (keep_mounted request handler static hkeep hcache)
  unfold serve served
  rw [serveHTTP_eq]
  exact (hcalls.recovered (keep_errorHeader hlength htype hoptions)).sent_commit

theorem securityHeaders_sent_unauthorised :
    ("X-Frame-Options", ["DENY"]) ∈ securityHeaders ∧
      Keep "X-Frame-Options" (some ["DENY"]) unauthorised.calls ∧
      (serve ⟨"GET", "/api/settings"⟩ false unauthorised).sent.lookup "X-Frame-Options" =
        some ["DENY"] := by
  have hheader : ("X-Frame-Options", ["DENY"]) ∈ securityHeaders := by decide
  have hkeep : Keep "X-Frame-Options" (some ["DENY"]) unauthorised.calls := by
    intro change hmem header hlookup
    simp only [unauthorised, List.mem_cons, List.not_mem_nil, or_false, reduceCtorEq,
      WriterCall.setHeader.injEq] at hmem
    rw [hmem, KeyedTable.lookup_insert_eq, KeyedTable.lookup_insert_eq]
    exact hlookup
  exact ⟨hheader, hkeep, securityHeaders_sent _ unauthorised false hheader hkeep⟩

theorem cacheControl_eq (hbefore : Keep "Cache-Control" none handler.calls)
    (hafter : Keep "Cache-Control" (sentCacheControl (cacheHeader request.path) handler.calls)
      handler.calls) :
    (serve request true handler).sent.lookup "Cache-Control" =
      sentCacheControl (cacheHeader request.path) handler.calls := by
  have habsent : withSecurityHeaders.header.lookup "Cache-Control" = none :=
    (KeyedTable.lookup_ofPairs securityHeaders _).trans (by decide)
  have hcalls : Carries "Cache-Control" _ (runCalls ResponseWriter.call
      (newResponseWriter withSecurityHeaders) (mounted request true handler).calls).writer.response :=
    carries_cacheCalls (cacheHeader request.path) rfl habsent hbefore hafter
  unfold serve served
  rw [serveHTTP_eq]
  refine (hcalls.recovered (keep_errorHeader ?_ ?_ ?_)).sent_commit
  · decide
  · decide
  · exact fun hname ↦ absurd hname (by decide)

theorem below_of_sent {code status : ℤ} (hbelow : code < 400) (hsent : sentCode code = status) :
    status < 400 := by
  unfold sentCode at hsent
  split at hsent <;> omega

/-- A file is sent with the caching of its name when the handler begins with a code below 400, and an
error is never cached. -/
theorem cacheControl_sent (hbefore : Keep "Cache-Control" none handler.calls)
    (hafter : Keep "Cache-Control" (sentCacheControl (cacheHeader request.path) handler.calls)
      handler.calls) :
    (serve request true handler).sent.lookup "Cache-Control" =
        sentCacheControl (cacheHeader request.path) handler.calls ∧
      ∀ status ∈ (serve request true handler).status, 400 ≤ status →
        (serve request true handler).sent.lookup "Cache-Control" = none := by
  have heq := cacheControl_eq request handler hbefore hafter
  refine ⟨heq, fun status hstatus herror ↦ heq.trans ?_⟩
  have hspec := served_spec request true handler
  unfold sentCacheControl
  cases hfirst : firstCode handler.calls with
  | none => rfl
  | some code =>
    rw [hfirst] at hspec
    have hsent : sentCode code = status :=
      hspec.sent.symm.trans (Option.some.inj ((commit_status _).symm.trans hstatus))
    have hnot : ¬code < 400 := fun hbelow ↦ (below_of_sent hbelow hsent).not_ge herror
    exact if_neg (ne_true_of_eq_false (decide_eq_false hnot))

/-- The file server with a script. -/
def script : Handler where
  calls := [.setHeader fun header ↦ header.insert "Content-Type" ["text/javascript; charset=utf-8"],
    .writeHeader 200, .write (utf8 "(() => 1)()")]
  panics := false

theorem cacheControl_sent_script :
    Keep "Cache-Control" none script.calls ∧
      Keep "Cache-Control" (some ["public, max-age=31536000, immutable"]) script.calls ∧
      (serve ⟨"GET", "/static/js/alpine-3.16.1.min.js"⟩ true script).sent.lookup "Cache-Control" =
        some ["public, max-age=31536000, immutable"] := by
  have hkeep (value : Option (List String)) : Keep "Cache-Control" value script.calls := by
    intro change hmem header hlookup
    simp only [script, List.mem_cons, List.not_mem_nil, or_false, reduceCtorEq,
      WriterCall.setHeader.injEq] at hmem
    rw [hmem, KeyedTable.lookup_insert_eq]
    exact hlookup
  have hcacheHeader : cacheHeader "/static/js/alpine-3.16.1.min.js" = staticCacheHeader := by decide
  have hsent := (cacheControl_sent ⟨"GET", "/static/js/alpine-3.16.1.min.js"⟩ script (hkeep none)
    (hkeep _)).1
  exact ⟨hkeep none, hkeep _, hsent.trans (congrArg (fun value ↦ some [value]) hcacheHeader)⟩

end Serve

end Huntarr2.Middleware
