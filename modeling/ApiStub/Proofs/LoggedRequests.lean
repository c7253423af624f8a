import ApiStub.Service.Exchange

/-!
# Requests that are logged

The access log stands between the sender of a request and the handler that answers it. Forgetting
what it tells, a logged request is answered like one that is not, and the handler is given the
request as it came, with one exception: a body that is to be shown is read beforehand, and what
cannot be read is not handed on. Such a request is answered by the log when its body breaks off or
is too long, and waits as long as its body does.

Everything follows from what comes of a request in each of these cases. The handler may have
effects of any kind, as they are the same ones in both runs.
-/

namespace ApiStub.Service

open Config (Logging)
open Http (Response)

/-! ## Bodies -/

namespace Body

/-- The body ends, and is not longer than what is read. -/
def Ends : Body → Prop
  | complete bytes => bytes.length ≤ maxBody
  | _ => False

/-- The body breaks off, or brings more than is read. -/
def Fails : Body → Prop
  | complete bytes => maxBody < bytes.length
  | broken _ => True
  | stalled bytes => maxBody < bytes.length

/-- The body comes to a halt before it is too long. -/
def Waits : Body → Prop
  | stalled bytes => bytes.length ≤ maxBody
  | _ => False

theorem Ends.exists_read {body : Body} (ends : body.Ends) :
    ∃ bytes, body = complete bytes ∧ body.read = .bytes bytes := by
  cases body with
  | complete bytes => exact ⟨bytes, rfl, if_pos ends⟩
  | broken bytes => exact ends.elim
  | stalled bytes => exact ends.elim

theorem Fails.read_eq {body : Body} (fails : body.Fails) : body.read = .failed := by
  cases body with
  | complete bytes => exact if_neg (Nat.not_le.mpr fails)
  | broken bytes => rfl
  | stalled bytes => exact if_neg (Nat.not_le.mpr fails)

theorem Waits.read_eq {body : Body} (waits : body.Waits) : body.read = .pending := by
  cases body with
  | complete bytes => exact waits.elim
  | broken bytes => exact waits.elim
  | stalled bytes => exact if_pos waits

theorem ends_or_fails_or_waits (body : Body) : body.Ends ∨ body.Fails ∨ body.Waits := by
  cases body with
  | complete bytes => exact (Nat.lt_or_ge maxBody bytes.length).elim (.inr ∘ .inl) .inl
  | broken bytes => exact .inr (.inl trivial)
  | stalled bytes => exact .inr (Nat.lt_or_ge maxBody bytes.length)

end Body

/-- The body of a request is read before the request is handed on. -/
def ReadsFirst (logging : Logging) (request : Request) : Prop :=
  isLogged logging request.uri.path = true ∧ logging.logBody = true ∧
    readsBody request.headers = true

/-- If the body of a request is read beforehand, it can be read. -/
def HandsOn (logging : Logging) (request : Request) : Prop :=
  ReadsFirst logging request → request.body.Ends

/-! ## What comes of a request -/

/-- The event of a request that has arrived. -/
def Request.arrival (request : Request) : Event :=
  .arrival request.method request.uri request.loggedClient

/-- The event of a request that has been answered. -/
def Request.answer (request : Request) (response : Response) : Event :=
  .answer request.method request.uri response.status

section

variable {m : Type → Type} [Monad m] {logging : Logging} {request : Request}
  (handler : Request → m Response)

theorem withAccessLog_of_fails (reads : ReadsFirst logging request) (fails : request.body.Fails) :
    withAccessLog logging handler request = pure (some unreadableBody, [request.arrival]) := by
  rcases reads with ⟨logged, shows, declared⟩
  rw [withAccessLog, if_pos logged, if_pos (by simp [shows, declared]), fails.read_eq]
  rfl

theorem withAccessLog_of_waits (reads : ReadsFirst logging request) (waits : request.body.Waits) :
    withAccessLog logging handler request = pure (none, [request.arrival]) := by
  rcases reads with ⟨logged, shows, declared⟩
  rw [withAccessLog, if_pos logged, if_pos (by simp [shows, declared]), waits.read_eq]
  rfl

variable [LawfulMonad m]

theorem answered_eq (request : Request) (events : List Event) :
    answered request events handler =
      (fun response => (some response, events ++ [request.answer response])) <$>
        handler request := by
  rw [answered, bind_pure_comp]
  rfl

theorem withAccessLog_of_not_isLogged (silent : isLogged logging request.uri.path = false) :
    withAccessLog logging handler request =
      (fun response => (some response, [])) <$> handler request := by
  rw [withAccessLog, if_neg (by simp [silent]), bind_pure_comp]

end

/-- What is told of a request that is handed on: its arrival, at most a body, and the answer. The
body that has been read takes the place of the one that came, which is the same. -/
theorem exists_withAccessLog_eq {logging : Logging} {request : Request}
    (logged : isLogged logging request.uri.path = true) (hands : HandsOn logging request) :
    ∃ shown : Option Json, ∀ {m : Type → Type} [Monad m] [LawfulMonad m]
      (handler : Request → m Response),
      withAccessLog logging handler request =
        (fun response => (some response,
          request.arrival :: (shown.map Event.body).toList ++ [request.answer response])) <$>
          handler request := by
  by_cases reads : logging.logBody && readsBody request.headers
  · rcases Bool.and_eq_true_iff.mp reads with ⟨shows, declared⟩
    rcases (hands ⟨logged, shows, declared⟩).exists_read with ⟨bytes, whole, read⟩
    have same : { request with body := .complete bytes } = request := by rw [← whole]
    refine ⟨shownBody logging.sensitiveFields bytes, fun handler => ?_⟩
    rw [withAccessLog, if_pos logged, if_pos reads, read]
    dsimp only
    rw [same, answered_eq]
    rfl
  · refine ⟨none, fun handler => ?_⟩
    rw [withAccessLog, if_pos logged, if_neg reads, answered_eq]
    rfl

/-! ## What the log leaves alone -/

/-- Forgetting what is told of a request, it is answered by the handler. -/
theorem map_fst_withAccessLog {m : Type → Type} [Monad m] [LawfulMonad m] {logging : Logging}
    {request : Request} (hands : HandsOn logging request) (handler : Request → m Response) :
    Prod.fst <$> withAccessLog logging handler request = some <$> handler request := by
  cases logged : isLogged logging request.uri.path with
  | false => rw [withAccessLog_of_not_isLogged handler logged, Functor.map_map]
  | true =>
      rcases exists_withAccessLog_eq logged hands with ⟨shown, told⟩
      rw [told handler, Functor.map_map]

/-- Without the access log nothing is read beforehand. -/
theorem handsOn_of_disabled (logging : Logging) (request : Request) :
    HandsOn { logging with accessLog := false } request := by
  rintro ⟨logged, _⟩
  simp [isLogged] at logged

section

variable {σ : Type} [WordSource σ]

/-- What is sent for what came of a request. -/
def Request.exchange (request : Request) (outcome : Option Response × List Event) : Exchange where
  response := sent request.method (outcome.1.getD timedOut)
  requestId := request.id
  loggedId := request.loggedId
  events := outcome.2

theorem Server.serve_eq (server : Server) (fresh : List UInt8) (request : Request) :
    (server.serve fresh request : Draw σ Exchange) =
      (request.named fresh).exchange <$>
        withAccessLog server.logging server.dispatch (request.named fresh) := by
  rw [map_eq_pure_bind]
  rfl

/-- The server that logs no request. -/
def Server.silent (server : Server) : Server :=
  { server with logging := { server.logging with accessLog := false } }

/-- What is sent does not depend on the log either, nor does the name of the request. -/
theorem Server.serve_silent {server : Server} {fresh : List UInt8} {request : Request}
    (hands : HandsOn server.logging (request.named fresh)) :
    (fun exchange : Exchange => (exchange.response, exchange.requestId)) <$>
        (server.serve fresh request : Draw σ Exchange) =
      (fun exchange : Exchange => (exchange.response, exchange.requestId)) <$>
        server.silent.serve fresh request := by
  have forget : ∀ outcome : Draw σ (Option Response × List Event),
      (fun exchange : Exchange => (exchange.response, exchange.requestId)) <$>
          (request.named fresh).exchange <$> outcome =
        (fun response? => (sent (request.named fresh).method (response?.getD timedOut),
          (request.named fresh).id)) <$> Prod.fst <$> outcome := by
    intro outcome
    rw [Functor.map_map, Functor.map_map]
    rfl
  have unread : HandsOn server.silent.logging (request.named fresh) :=
    handsOn_of_disabled server.logging _
  rw [serve_eq, serve_eq, forget, forget, map_fst_withAccessLog hands,
    map_fst_withAccessLog unread]
  rfl

end

/-- A handler that answers and keeps the requests it is given. -/
def keeping (reply : Request → Response) (request : Request) : StateM (List Request) Response := do
  modify (· ++ [request])
  pure (reply request)

/-- The requests that reach a handler, in order. -/
def handedOn (logging : Logging) (reply : Request → Response) (request : Request) : List Request :=
  ((withAccessLog logging (keeping reply) request).run []).2

theorem handedOn_of_handsOn {logging : Logging} {request : Request}
    (hands : HandsOn logging request) (reply : Request → Response) :
    handedOn logging reply request = [request] := by
  have told := map_fst_withAccessLog hands (keeping reply)
  exact congrArg (fun run : StateM (List Request) (Option Response) => (run.run []).2) told

/-- What comes of a request when the log keeps it to itself. -/
theorem handsOn_or_reads (logging : Logging) (request : Request) :
    HandsOn logging request ∨
      ReadsFirst logging request ∧ (request.body.Fails ∨ request.body.Waits) := by
  by_cases reads : ReadsFirst logging request
  · rcases request.body.ends_or_fails_or_waits with ends | kept
    · exact Or.inl fun _ => ends
    · exact Or.inr ⟨reads, kept⟩
  · exact Or.inl fun first => absurd first reads

/-- A request that the log hands on is answered as it is without the log, and reaches the handler as
it came. The log keeps a request to itself when it reads the body and cannot: it answers that the
body cannot be read, or waits as long as the body does. -/
theorem answered_as_without_log {m : Type → Type} [Monad m] [LawfulMonad m] (logging : Logging)
    (handler : Request → m Response) (reply : Request → Response) (request : Request) :
    (HandsOn logging request ∨
      ReadsFirst logging request ∧ (request.body.Fails ∨ request.body.Waits)) ∧
    (HandsOn logging request →
      Prod.fst <$> withAccessLog logging handler request =
        Prod.fst <$> withAccessLog { logging with accessLog := false } handler request ∧
      handedOn logging reply request = [request]) ∧
    (ReadsFirst logging request → request.body.Fails →
      Prod.fst <$> withAccessLog logging handler request = pure (some unreadableBody) ∧
      handedOn logging reply request = []) ∧
    (ReadsFirst logging request → request.body.Waits →
      Prod.fst <$> withAccessLog logging handler request = pure none ∧
      handedOn logging reply request = []) := by
  refine ⟨handsOn_or_reads logging request, ?_, ?_, ?_⟩
  · intro hands
    rw [map_fst_withAccessLog hands, map_fst_withAccessLog (handsOn_of_disabled logging request)]
    exact ⟨rfl, handedOn_of_handsOn hands reply⟩
  · intro reads fails
    rw [handedOn, withAccessLog_of_fails handler reads fails, map_pure,
      withAccessLog_of_fails _ reads fails]
    exact ⟨rfl, rfl⟩
  · intro reads waits
    rw [handedOn, withAccessLog_of_waits handler reads waits, map_pure,
      withAccessLog_of_waits _ reads waits]
    exact ⟨rfl, rfl⟩

/-- A request that says that it brings five bytes of JSON. -/
def posted (body : Body) : Request where
  method := ⟨"POST"⟩
  uri := { path := "/pets" }
  headers := [⟨"content-type", Text.encode "application/json"⟩,
    ⟨"content-length", Text.encode "5"⟩]
  body

/-- Settings that log requests with their bodies. -/
def loggingAll : Logging := { accessLog := true }

/-- A handler that answers every request in the same way. -/
def created (_ : Request) : Id Response := pure ⟨201, "{}"⟩

theorem readsFirst_posted (body : Body) : ReadsFirst loggingAll (posted body) := by
  have declared : readsBody (posted .stalled).headers = true := by decide +kernel
  have logged : isLogged loggingAll "/pets" = true := by decide
  exact ⟨logged, rfl, declared⟩

theorem handsOn_posted : HandsOn loggingAll (posted (.complete [49, 50])) := by
  intro _
  show [49, 50].length ≤ maxBody
  decide

theorem waits_posted : (posted (.stalled [49])).body.Waits := by
  show [49].length ≤ maxBody
  decide

theorem answered_as_without_log_posted :
    (HandsOn loggingAll (posted (.complete [49, 50])) ∧
      (withAccessLog loggingAll created (posted (.complete [49, 50]))).run.1 =
        (withAccessLog { loggingAll with accessLog := false } created
          (posted (.complete [49, 50]))).run.1 ∧
      handedOn loggingAll created (posted (.complete [49, 50])) =
        [posted (.complete [49, 50])]) ∧
    (ReadsFirst loggingAll (posted (.broken [49])) ∧ (posted (.broken [49])).body.Fails ∧
      (withAccessLog loggingAll created (posted (.broken [49]))).run.1 = some unreadableBody ∧
      handedOn loggingAll created (posted (.broken [49])) = []) ∧
    (ReadsFirst loggingAll (posted (.stalled [49])) ∧ (posted (.stalled [49])).body.Waits ∧
      (withAccessLog loggingAll created (posted (.stalled [49]))).run.1 = none ∧
      handedOn loggingAll created (posted (.stalled [49])) = []) := by
  have fails : (posted (.broken [49])).body.Fails := trivial
  refine ⟨⟨handsOn_posted, ?_⟩, ⟨readsFirst_posted _, fails, ?_⟩, readsFirst_posted _,
    waits_posted, ?_⟩
  · exact (answered_as_without_log loggingAll created created _).2.1 handsOn_posted
  · exact (answered_as_without_log loggingAll created created _).2.2.1 (readsFirst_posted _) fails
  · exact (answered_as_without_log loggingAll created created _).2.2.2 (readsFirst_posted _)
      waits_posted

/-- A body of five announced bytes that goes on beyond what is read. -/
def overlongBody : Body := .complete (List.replicate 65537 48)

theorem overlongBody_fails : overlongBody.Fails := by
  show maxBody < (List.replicate 65537 _).length
  rw [List.length_replicate]
  decide

/-- With the access log the request is answered by the log, and without it by the handler. -/
theorem response_changed_by_log :
    (withAccessLog loggingAll created (posted overlongBody)).run.1 = some unreadableBody ∧
      (withAccessLog { loggingAll with accessLog := false } created
        (posted overlongBody)).run.1 = some ⟨201, "{}"⟩ ∧
      some unreadableBody ≠ some ⟨201, "{}"⟩ := by
  have failed := withAccessLog_of_fails created (readsFirst_posted overlongBody) overlongBody_fails
  have silent : isLogged { loggingAll with accessLog := false } (posted overlongBody).uri.path =
    false := rfl
  rw [failed, withAccessLog_of_not_isLogged created silent]
  refine ⟨rfl, rfl, fun same => ?_⟩
  have statuses : unreadableBody.status = 201 := congrArg Response.status (Option.some.inj same)
  exact absurd statuses (by decide)

end ApiStub.Service
