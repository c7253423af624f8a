import ApiStub.Proofs.LoggedRequests

/-!
# Lines in pairs

A request that is logged leaves two lines, one when it has arrived and one when it has been
answered, with the status that is sent; a body that is shown stands between them. A request that
is not logged leaves none.

Only a request that the log answers itself, since its body was to be read and could not be, leaves
the first line without the second.
-/

namespace ApiStub.Service

open Config (Logging)
open Http (Response)

/-- An event is a line of its own, unless it shows a body. -/
def Event.isLine : Event → Bool
  | .body _ => false
  | _ => true

/-- The lines among some events. -/
def lines (events : List Event) : List Event := events.filter Event.isLine

theorem lines_of_answered (request : Request) (response : Response) (shown : Option Json) :
    lines (request.arrival :: (shown.map Event.body).toList ++ [request.answer response]) =
      [request.arrival, request.answer response] := by
  cases shown with
  | none => rfl
  | some document => rfl

section

variable {m : Type → Type} [Monad m] [LawfulMonad m] {logging : Logging} {request : Request}

/-- The lines of a request that is handed on. -/
theorem map_lines_withAccessLog (logged : isLogged logging request.uri.path = true)
    (hands : HandsOn logging request) (handler : Request → m Response) :
    (fun outcome => (outcome.1, lines outcome.2)) <$> withAccessLog logging handler request =
      (fun response => (some response, [request.arrival, request.answer response])) <$>
        handler request := by
  rcases exists_withAccessLog_eq logged hands with ⟨shown, told⟩
  rw [told handler, Functor.map_map]
  refine congrArg (· <$> handler request) (funext fun response => ?_)
  rw [lines_of_answered]

end

/-- A name changes nothing of what the lines tell. -/
theorem Request.named_eq (fresh : List UInt8) (request : Request) :
    (request.named fresh).method = request.method ∧ (request.named fresh).uri = request.uri := by
  rw [named]
  split
  · exact ⟨rfl, rfl⟩
  · exact ⟨rfl, rfl⟩

theorem status_sent (method : Http.Method) (response : Response) :
    (sent method response).status = response.status := by
  rw [sent]
  split
  · rfl
  · rfl

/-- The second line has the status that is sent. -/
theorem Server.yields_lines_serve {σ : Type} [WordSource σ] {server : Server} {request : Request}
    {fresh : List UInt8} (logged : isLogged server.logging request.uri.path = true)
    (hands : HandsOn server.logging (request.named fresh)) :
    (server.serve fresh request : Draw σ Exchange).Yields fun exchange =>
      ∃ client, lines exchange.events =
        [.arrival request.method request.uri client,
          .answer request.method request.uri exchange.response.status] := by
  rcases request.named_eq fresh with ⟨method, uri⟩
  rcases exists_withAccessLog_eq (uri ▸ logged) hands with ⟨shown, told⟩
  rw [Server.serve_eq, told server.dispatch, Functor.map_map]
  refine (Draw.yields_trivial _).map fun response _ => ⟨(request.named fresh).loggedClient, ?_⟩
  rw [Request.exchange, lines_of_answered, Request.arrival, Request.answer, Option.getD_some,
    status_sent, method, uri]

/-- Of a request that is not logged nothing is told. One that is logged and handed on leaves a line
for its arrival and then one for its answer, with its method, its target and the status of the
answer. One whose body was to be read and could not be leaves the first of them only; it is answered
all the same, unless the body has come to a halt. -/
theorem lines_in_pairs {m : Type → Type} [Monad m] [LawfulMonad m] (logging : Logging)
    (handler : Request → m Response) (request : Request) :
    (isLogged logging request.uri.path = false →
      withAccessLog logging handler request =
        (fun response => (some response, [])) <$> handler request) ∧
    (isLogged logging request.uri.path = true → HandsOn logging request →
      (fun outcome => (outcome.1, lines outcome.2)) <$> withAccessLog logging handler request =
        (fun response => (some response,
          [.arrival request.method request.uri request.loggedClient,
            .answer request.method request.uri response.status])) <$> handler request) ∧
    (ReadsFirst logging request → request.body.Fails →
      withAccessLog logging handler request =
        pure (some unreadableBody,
          [.arrival request.method request.uri request.loggedClient])) ∧
    (ReadsFirst logging request → request.body.Waits →
      withAccessLog logging handler request =
        pure (none, [.arrival request.method request.uri request.loggedClient])) ∧
    (HandsOn logging request ∨
      ReadsFirst logging request ∧ (request.body.Fails ∨ request.body.Waits)) :=
  ⟨withAccessLog_of_not_isLogged handler,
    fun logged hands => map_lines_withAccessLog logged hands handler,
    fun reads fails => withAccessLog_of_fails handler reads fails,
    fun reads waits => withAccessLog_of_waits handler reads waits,
    handsOn_or_reads logging request⟩

theorem lines_in_pairs_posted :
    (isLogged loggingAll "/health" = false ∧
      (withAccessLog loggingAll created
        { posted (.complete [49, 50]) with uri := { path := "/health" } }).run.2 = []) ∧
    (isLogged loggingAll "/pets" = true ∧ HandsOn loggingAll (posted (.complete [49, 50])) ∧
      lines (withAccessLog loggingAll created (posted (.complete [49, 50]))).run.2 =
        [.arrival ⟨"POST"⟩ { path := "/pets" } "unknown",
          .answer ⟨"POST"⟩ { path := "/pets" } 201]) ∧
    (ReadsFirst loggingAll (posted (.broken [49])) ∧ (posted (.broken [49])).body.Fails ∧
      (withAccessLog loggingAll created (posted (.broken [49]))).run.2 =
        [.arrival ⟨"POST"⟩ { path := "/pets" } "unknown"]) ∧
    (ReadsFirst loggingAll (posted (.stalled [49])) ∧ (posted (.stalled [49])).body.Waits ∧
      (withAccessLog loggingAll created (posted (.stalled [49]))).run =
        (none, [.arrival ⟨"POST"⟩ { path := "/pets" } "unknown"])) := by
  have aside : isLogged loggingAll "/health" = false := by decide
  have logged : isLogged loggingAll "/pets" = true := by decide
  have fails : (posted (.broken [49])).body.Fails := trivial
  refine ⟨⟨aside, ?_⟩, ⟨logged, handsOn_posted, ?_⟩, ⟨readsFirst_posted _, fails, ?_⟩,
    readsFirst_posted _, waits_posted, ?_⟩
  · exact congrArg (·.run.2) ((lines_in_pairs loggingAll created
      { posted (.complete [49, 50]) with uri := { path := "/health" } }).1 aside)
  · exact congrArg (·.run.2)
      ((lines_in_pairs loggingAll created (posted (.complete [49, 50]))).2.1 logged handsOn_posted)
  · exact congrArg (·.run.2) ((lines_in_pairs loggingAll created
      (posted (.broken [49]))).2.2.1 (readsFirst_posted _) fails)
  · exact congrArg (·.run) ((lines_in_pairs loggingAll created
      (posted (.stalled [49]))).2.2.2.1 (readsFirst_posted _) waits_posted)

/-- The request is logged and answered, and no line tells of the answer. -/
theorem answer_untold_of_overlongBody :
    isLogged loggingAll (posted overlongBody).uri.path = true ∧
      (withAccessLog loggingAll created (posted overlongBody)).run.1 = some unreadableBody ∧
      lines (withAccessLog loggingAll created (posted overlongBody)).run.2 =
        [.arrival ⟨"POST"⟩ { path := "/pets" } "unknown"] := by
  rw [withAccessLog_of_fails created (readsFirst_posted overlongBody) overlongBody_fails]
  exact ⟨(readsFirst_posted overlongBody).1, rfl, rfl⟩

end ApiStub.Service
