import Huntarr2.Foundation.KeyedTable

/-!
# The response writers

The server's response under the two writers that the middleware puts around it. A handler is what it
calls on its writer. The writer of static files has the effect of further calls on the one inside.
-/

namespace Huntarr2.Middleware

/-- `http.Header`, on canonical names. -/
abbrev Header := KeyedTable String (List String)

/-! ## The response of the HTTP server -/

/-- The response of `net/http`: the headers as handlers see them, and what was sent. The length that
a handler announces does not bound the body here. -/
structure Response where
  header : Header
  informational : List ℤ
  status : Option ℤ
  sent : Header
  body : List UInt8

/-- A call of a handler on its writer. -/
inductive WriterCall
  | setHeader (change : Header → Header)
  | writeHeader (code : ℤ)
  | write (data : List UInt8)

/-- What a call ends with: it returns, or it panics, and leaves the writer in a state. -/
inductive Outcome (ω : Type)
  | returned (writer : ω)
  | panicked (writer : ω)

def Outcome.writer {ω : Type} : Outcome ω → ω
  | .returned writer | .panicked writer => writer

def Outcome.map {ω υ : Type} (f : ω → υ) : Outcome ω → Outcome υ
  | .returned writer => .returned (f writer)
  | .panicked writer => .panicked (f writer)

def Outcome.bind {ω : Type} (outcome : Outcome ω) (next : ω → Outcome ω) : Outcome ω :=
  match outcome with
  | .returned writer => next writer
  | .panicked writer => .panicked writer

/-- What the first call leaves and the next one keeps is left. -/
theorem Outcome.writer_bind {ω : Type} {P : ω → Prop} {outcome : Outcome ω} {next : ω → Outcome ω}
    (h : P outcome.writer) (hnext : ∀ writer, P writer → P (next writer).writer) :
    P (outcome.bind next).writer := by
  cases outcome with
  | returned writer => exact hnext writer h
  | panicked writer => exact h

/-- A code that ends the header: it is valid, and not informational. -/
def Final (code : ℤ) : Prop := code = 101 ∨ 200 ≤ code ∧ code ≤ 999

instance (code : ℤ) : Decidable (Final code) := inferInstanceAs (Decidable (_ ∨ _))

/-- `bodyAllowedForStatus`. -/
def bodyAllowed (status : ℤ) : Bool := !(100 ≤ status ∧ status ≤ 199 ∨ status = 204 ∨ status = 304)

namespace Response

variable (response : Response)

/-- `response.WriteHeader`: a second status is ignored, and an invalid one panics. -/
def writeHeader (code : ℤ) : Outcome Response :=
  if response.status.isSome then .returned response
  else if code < 100 ∨ 999 < code then .panicked response
  else if code ≤ 199 ∧ code ≠ 101 then
    .returned { response with informational := response.informational ++ [code] }
  else .returned { response with status := some code, sent := response.header }

/-- The header is sent with the status 200 if it was not sent before. -/
def commit : Response :=
  if response.status.isSome then response
  else { response with status := some 200, sent := response.header }

/-- `response.Write`. -/
def write (data : List UInt8) : Response :=
  if response.commit.status.all bodyAllowed then
    { response.commit with body := response.commit.body ++ data }
  else response.commit

end Response

/-! ## The writers of the middleware -/

/-- `responseWriter`. -/
structure ResponseWriter where
  response : Response
  status : ℤ
  wroteHeader : Bool

namespace ResponseWriter

variable (rw : ResponseWriter)

def setHeader (change : Header → Header) : ResponseWriter :=
  { rw with response := { rw.response with header := change rw.response.header } }

def writeHeader (code : ℤ) : Outcome ResponseWriter :=
  if rw.wroteHeader then .returned rw
  else (rw.response.writeHeader code).map fun response ↦ ⟨response, code, true⟩

def write (data : List UInt8) : ResponseWriter := ⟨rw.response.write data, rw.status, true⟩

def call (rw : ResponseWriter) : WriterCall → Outcome ResponseWriter
  | .setHeader change => .returned (rw.setHeader change)
  | .writeHeader code => rw.writeHeader code
  | .write data => .returned (rw.write data)

end ResponseWriter

/-- `staticCacheWriter`. -/
structure StaticCacheWriter where
  inner : ResponseWriter
  cacheHeader : String
  wroteHeader : Bool

def setCacheControl (cacheHeader : String) (header : Header) : Header :=
  header.insert "Cache-Control" [cacheHeader]

namespace StaticCacheWriter

variable (w : StaticCacheWriter)

def writeHeader (code : ℤ) : Outcome StaticCacheWriter :=
  let inner :=
    if w.wroteHeader then w.inner
    else if code < 400 then w.inner.setHeader (setCacheControl w.cacheHeader)
    else w.inner
  (inner.writeHeader code).map fun inner ↦ { w with inner := inner, wroteHeader := true }

def write (data : List UInt8) : Outcome StaticCacheWriter :=
  if w.wroteHeader then .returned { w with inner := w.inner.write data }
  else (w.writeHeader 200).bind fun w ↦ .returned { w with inner := w.inner.write data }

def call (w : StaticCacheWriter) : WriterCall → Outcome StaticCacheWriter
  | .setHeader change => .returned { w with inner := w.inner.setHeader change }
  | .writeHeader code => w.writeHeader code
  | .write data => w.write data

end StaticCacheWriter

/-! ## Handlers -/

/-- What a handler does: its calls, and whether it panics after them. -/
structure Handler where
  calls : List WriterCall
  panics : Bool

/-- The calls in their order, up to one that panics. -/
def runCalls {ω : Type} (call : ω → WriterCall → Outcome ω) (writer : ω) :
    List WriterCall → Outcome ω
  | [] => .returned writer
  | first :: rest => (call writer first).bind fun writer ↦ runCalls call writer rest

/-- What every call keeps is kept by all of them, also where one panics. -/
theorem runCalls_writer {ω : Type} {call : ω → WriterCall → Outcome ω} {P : ω → Prop} {writer : ω}
    {calls : List WriterCall} (h : P writer)
    (hcall : ∀ next ∈ calls, ∀ writer, P writer → P (call writer next).writer) :
    P (runCalls call writer calls).writer := by
  induction calls generalizing writer with
  | nil => exact h
  | cons first rest ih =>
    refine Outcome.writer_bind (hcall first List.mem_cons_self writer h) fun next hnext ↦ ?_
    exact ih hnext fun later hlater ↦ hcall later (List.mem_cons_of_mem first hlater)

def Handler.run {ω : Type} (handler : Handler) (call : ω → WriterCall → Outcome ω) (writer : ω) :
    Outcome ω :=
  (runCalls call writer handler.calls).bind fun writer ↦
    if handler.panics then .panicked writer else .returned writer

theorem Handler.run_writer {ω : Type} {call : ω → WriterCall → Outcome ω} {P : ω → Prop} {writer : ω}
    {handler : Handler} (h : P (runCalls call writer handler.calls).writer) :
    P (handler.run call writer).writer := by
  refine Outcome.writer_bind h fun writer hwriter ↦ ?_
  split <;> exact hwriter

/-! ## The static writer as a handler -/

/-- What the static writer calls on the inner one. -/
def cacheCalls (cacheHeader : String) : List WriterCall → List WriterCall
  | [] => []
  | .setHeader change :: rest => .setHeader change :: cacheCalls cacheHeader rest
  | .writeHeader code :: rest =>
    if code < 400 then .setHeader (setCacheControl cacheHeader) :: .writeHeader code :: rest
    else .writeHeader code :: rest
  | .write data :: rest =>
    .setHeader (setCacheControl cacheHeader) :: .writeHeader 200 :: .write data :: rest

/-- Once it wrote a header the static writer passes every call on. -/
theorem runCalls_static_of_wrote (rw : ResponseWriter) (cacheHeader : String) (calls : List WriterCall) :
    (runCalls StaticCacheWriter.call ⟨rw, cacheHeader, true⟩ calls).map StaticCacheWriter.inner =
      runCalls ResponseWriter.call rw calls := by
  induction calls generalizing rw with
  | nil => rfl
  | cons first rest ih =>
    cases first with
    | setHeader change => exact ih (rw.setHeader change)
    | writeHeader code =>
      change (((rw.writeHeader code).map fun inner ↦ StaticCacheWriter.mk inner cacheHeader true).bind
        fun w ↦ runCalls StaticCacheWriter.call w rest).map StaticCacheWriter.inner =
        (rw.writeHeader code).bind fun rw ↦ runCalls ResponseWriter.call rw rest
      cases rw.writeHeader code with
      | returned inner => exact ih inner
      | panicked inner => rfl
    | write data => exact ih (rw.write data)

/-- The static writer has the effect of its calls on the inner one. -/
theorem runCalls_static (rw : ResponseWriter) (cacheHeader : String) (calls : List WriterCall) :
    (runCalls StaticCacheWriter.call ⟨rw, cacheHeader, false⟩ calls).map StaticCacheWriter.inner =
      runCalls ResponseWriter.call rw (cacheCalls cacheHeader calls) := by
  have hafter (inner : Outcome ResponseWriter) (rest : List WriterCall) :
      ((inner.map fun inner ↦ StaticCacheWriter.mk inner cacheHeader true).bind
        fun w ↦ runCalls StaticCacheWriter.call w rest).map StaticCacheWriter.inner =
        inner.bind fun rw ↦ runCalls ResponseWriter.call rw rest := by
    cases inner with
    | returned inner => exact runCalls_static_of_wrote inner cacheHeader rest
    | panicked inner => rfl
  induction calls generalizing rw with
  | nil => rfl
  | cons first rest ih =>
    cases first with
    | setHeader change => exact ih (rw.setHeader change)
    | writeHeader code =>
      unfold cacheCalls runCalls StaticCacheWriter.call StaticCacheWriter.writeHeader
      dsimp only
      rw [if_neg Bool.false_ne_true]
      split
      · exact hafter _ rest
      · exact hafter _ rest
    | write data =>
      have hsuccess : (200 : ℤ) < 400 := by decide
      unfold cacheCalls runCalls StaticCacheWriter.call StaticCacheWriter.write
        StaticCacheWriter.writeHeader
      dsimp only
      rw [if_neg Bool.false_ne_true, if_neg Bool.false_ne_true, if_pos hsuccess]
      change _ = ((rw.setHeader (setCacheControl cacheHeader)).writeHeader 200).bind fun rw ↦
        runCalls ResponseWriter.call rw (.write data :: rest)
      cases (rw.setHeader (setCacheControl cacheHeader)).writeHeader 200 with
      | returned inner => exact runCalls_static_of_wrote (inner.write data) cacheHeader rest
      | panicked inner => rfl

end Huntarr2.Middleware
