import ReconChat.Agent.Scripted
import ReconChat.ChatService.Routes
import ReconChat.Proofs.Json.Fields
import ReconChat.Proofs.Text.Blank
import ReconChat.Proofs.Wire

/-!
What the chat service replies. Its status tells which of three things holds: there is no agent,
nothing is asked, or the agent has answered; nothing but an answer touches the state that the agent
runs in. The health check tells the first case from the others. Other routes and requests for
permission are not looked into.
-/

namespace ReconChat.ChatService

open Json (Value)

namespace Request

/-- Is this what a body that is not refused holds, members that nobody asks for left out? -/
structure Holds (request : Request) (value : Value) : Prop where
  contentType : ∃ type, request.header? "content-type" = some type ∧ MediaType.isJson type = true
  size : request.body.length ≤ bodyLimit
  body : Json.Shape.whole ChatRequest.shape (Json.charsOfBytes request.body) = .ok value

def Asks (request : Request) (query : String) : Prop :=
  request.Holds (.object [("query", .string query)]) ∧ Text.trim query ≠ ""

inductive AsksNothing (request : Request) : Prop
  | refused (refused : ∀ value, ¬request.Holds value)
  | absent (holds : request.Holds (.object []))
  | null (holds : request.Holds (.object [("query", .null)]))
  | blank (query : String) (holds : request.Holds (.object [("query", .string query)]))
      (blank : Text.trim query = "")

variable {request : Request} {value : Value} {query : String}

/-- A body holds a query, none, or the null value in its place, and nothing else. -/
theorem Holds.cases (holds : request.Holds value) :
    value = .object [] ∨ value = .object [("query", .null)] ∨
      ∃ query, value = .object [("query", .string query)] := by
  obtain ⟨rest, read, _⟩ := Json.complete_eq_ok.1 holds.body
  rcases Json.Shape.record_of_one read with same | ⟨given, same, gives⟩
  · exact .inl same
  · rcases Json.Shape.optional_gives gives with rfl | ⟨_, _, text⟩
    · exact .inr (.inl same)
    · obtain ⟨query, rfl⟩ := Json.Shape.text_gives text
      exact .inr (.inr ⟨query, same⟩)

theorem chat_request_of_holds (holds : request.Holds value) :
    request.chatRequest? = some ⟨(value.member? "query").bind Value.string?⟩ := by
  obtain ⟨type, found, json⟩ := holds.contentType
  have accepted : (request.header? "content-type").any MediaType.isJson = true := by
    rw [found]
    exact json
  have decoded : ChatRequest.decode request.body =
      .ok ⟨(value.member? "query").bind Value.string?⟩ := by
    rw [ChatRequest.decode, Json.Shape.decodeChars, holds.body]
    rfl
  rw [chatRequest?, accepted, decoded, if_neg (by simp), if_neg (Nat.not_lt.2 holds.size)]

theorem chat_request_of_refused (refused : ∀ value, ¬request.Holds value) :
    request.chatRequest? = none := by
  rw [chatRequest?]
  split
  · rfl
  · next accepted =>
      split
      · rfl
      · next size =>
          have json : (request.header? "content-type").any MediaType.isJson = true := by
            simpa using accepted
          rw [ChatRequest.decode, Json.Shape.decodeChars]
          cases read : Json.Shape.whole ChatRequest.shape (Json.charsOfBytes request.body) with
          | error fault => rfl
          | ok value =>
              have holds : request.Holds value :=
                ⟨(Option.any_eq_true _ _).1 json, Nat.not_lt.1 size, read⟩
              exact absurd holds (refused value)

theorem query_of_holds {given : Value} (holds : request.Holds (.object [("query", given)])) :
    request.query? = given.string?.bind Text.unlessBlank := by
  rw [query?, chat_request_of_holds holds]
  rfl

theorem query_of_asks (asks : request.Asks query) : request.query? = some query := by
  rw [query_of_holds asks.1]
  apply if_neg
  intro blank
  exact asks.2 ((Text.trim_eq_empty query).2 blank)

theorem query_of_asks_nothing (nothing : request.AsksNothing) : request.query? = none := by
  cases nothing with
  | refused refused =>
      rw [query?, chat_request_of_refused refused]
      rfl
  | absent holds =>
      rw [query?, chat_request_of_holds holds]
      rfl
  | null holds =>
      rw [query_of_holds holds]
      rfl
  | blank query holds blank =>
      rw [query_of_holds holds]
      exact if_pos ((Text.trim_eq_empty query).1 blank)

theorem not_nothing_of_query (asked : request.query? = some query) : ¬request.AsksNothing := by
  intro nothing
  rw [query_of_asks_nothing nothing] at asked
  cases asked

theorem asks_cases (request : Request) : request.AsksNothing ∨ ∃ query, request.Asks query := by
  by_cases accepted : ∃ value, request.Holds value
  · obtain ⟨value, holds⟩ := accepted
    rcases holds.cases with rfl | rfl | ⟨query, rfl⟩
    · exact .inl (.absent holds)
    · exact .inl (.null holds)
    · by_cases blank : Text.trim query = ""
      · exact .inl (.blank query holds blank)
      · exact .inr ⟨query, holds, blank⟩
  · left
    apply AsksNothing.refused
    intro value holds
    exact accepted ⟨value, holds⟩

def IsChat (request : Request) : Prop :=
  request.method = "POST" ∧ Route.ofPath (pathOf request.target) = some .chat

def IsHealthCheck (request : Request) : Prop :=
  request.method = "GET" ∧ Route.ofPath (pathOf request.target) = some .health

end Request

/-- A response as browsers from anywhere may read it. -/
def Response.shared (response : Response) : Response :=
  { response with headers := response.headers ++ sharedHeaders }

section Replies

variable {State : Type} {agent : Option (Agent (StateM State))} {request : Request} {state : State}

theorem respond_to_chat (chat : request.IsChat) :
    respond agent request state =
      ((respondToChat agent request state).1.shared, (respondToChat agent request state).2) := by
  have routed : respondOnRoute agent request = respondToChat agent request := by
    rw [respondOnRoute, chat.2]
    exact if_pos chat.1
  rw [respond, if_neg (by rw [chat.1]; decide), routed]
  rfl

theorem respond_without_agent (chat : request.IsChat) :
    respond (none : Option (Agent (StateM State))) request state =
      ((Response.failure 500 notInitialized).shared, state) :=
  respond_to_chat chat

theorem respond_to_nothing {running : Agent (StateM State)} (chat : request.IsChat)
    (nothing : request.AsksNothing) :
    respond (some running) request state =
      ((Response.failure 400 missingQuery).shared, state) := by
  rw [respond_to_chat chat, respondToChat, Request.query_of_asks_nothing nothing]
  rfl

theorem respond_to_query {running : Agent (StateM State)} {query : String}
    (chat : request.IsChat) (asks : request.Asks query) :
    respond (some running) request state =
      ((Response.json 200 (ChatResponse.mk (running.processQuery query state).1).toValue).shared,
        (running.processQuery query state).2) := by
  rw [respond_to_chat chat, respondToChat, Request.query_of_asks asks]
  rfl

theorem respond_to_health_check (check : request.IsHealthCheck) :
    respond agent request state = ((healthResponse agent.isSome).shared, state) := by
  have routed : respondOnRoute agent request = pure (healthResponse agent.isSome) := by
    rw [respondOnRoute, check.2]
    exact if_pos check.1
  rw [respond, if_neg (by rw [check.1]; decide), routed]
  rfl

theorem respond_status (running : Agent (StateM State)) (chat : request.IsChat) :
    (respond (some running) request state).1.status = 400 ∨
      (respond (some running) request state).1.status = 200 := by
  rcases request.asks_cases with nothing | ⟨query, asks⟩
  · rw [respond_to_nothing chat nothing]
    exact .inl rfl
  · rw [respond_to_query chat asks]
    exact .inr rfl

/-- Without an agent there is a chat that fails, and with one there is none. -/
theorem chats_succeed_iff (state : State) :
    (∀ (request : Request) (state : State), request.IsChat →
      (respond agent request state).1.status ≠ 500) ↔ agent.isSome = true := by
  cases agent with
  | none =>
      have chat : (⟨"POST", "/chat", [], []⟩ : Request).IsChat := ⟨rfl, by decide⟩
      constructor
      · intro succeed
        apply absurd _ (succeed _ state chat)
        rw [respond_without_agent chat]
        rfl
      · exact Bool.noConfusion
  | some running =>
      constructor
      · exact fun _ => rfl
      · intro _ request before chat
        rcases respond_status running chat with status | status <;> rw [status] <;> decide

end Replies

/-- Without an agent every chat fails with status 500. With one a chat that asks nothing has status
400, and a query is answered as it is, in a body that decodes to the answer. The health check tells
whether a chat can fail with status 500. -/
theorem chats_reply_with_answers {State : Type} :
    (∀ (request : Request) (state : State), request.IsChat →
      respond (none : Option (Agent (StateM State))) request state =
        ((Response.failure 500 "Chatbot agent is not initialized.").shared, state)) ∧
    (∀ (agent : Agent (StateM State)) (request : Request) (state : State), request.IsChat →
      ∃ response after, respond (some agent) request state = (response, after) ∧
        (response = (Response.failure 400 "Query field is missing.").shared ∧ after = state ↔
          request.AsksNothing) ∧
        (¬request.AsksNothing → ∃ query, request.Asks query ∧ response.status = 200 ∧
          ChatResponse.decode response.body = .ok ⟨(agent.processQuery query state).1⟩ ∧
          after = (agent.processQuery query state).2)) ∧
    ∀ (agent : Option (Agent (StateM State))) (check : Request) (state : State),
      check.IsHealthCheck → ∃ response, respond agent check state = (response, state) ∧
        (response.status = 200 ↔ ∀ (request : Request) (before : State), request.IsChat →
          (respond agent request before).1.status ≠ 500) ∧
        (response.status ≠ 200 → response.status = 503) := by
  refine ⟨fun request state chat => respond_without_agent chat, ?_, ?_⟩
  · intro agent request state chat
    rcases request.asks_cases with nothing | ⟨query, asks⟩
    · refine ⟨_, _, respond_to_nothing chat nothing, ?_, ?_⟩
      · exact ⟨fun _ => nothing, fun _ => ⟨rfl, rfl⟩⟩
      · intro something
        exact absurd nothing something
    · refine ⟨_, _, respond_to_query chat asks, ⟨?_, ?_⟩, ?_⟩
      · rintro ⟨same, _⟩
        have status : (200 : Nat) = 400 := congrArg Response.status same
        omega
      · intro nothing
        exact absurd nothing (Request.not_nothing_of_query (Request.query_of_asks asks))
      · intro _
        exact ⟨query, asks, rfl, ChatResponse.decode_encode _, rfl⟩
  · intro agent check state health
    refine ⟨_, respond_to_health_check health, ?_⟩
    rw [chats_succeed_iff state]
    cases agent with
    | none =>
        have fails : (healthResponse (none : Option (Agent (StateM State))).isSome).shared.status =
            503 := rfl
        rw [fails]
        exact ⟨⟨fun same => absurd same (by decide), Bool.noConfusion⟩, fun _ => rfl⟩
    | some running => exact ⟨⟨fun _ => rfl, fun _ => rfl⟩, fun other => absurd rfl other⟩

/-- A query in a list, with blanks around it, and an answer with a quotation mark and a control. -/
theorem listed_query_is_answered :
    let agent : Agent (StateM StepCounts) :=
      .scripted ⟨"openapi", ""⟩ (.documentation (some "\"Keys\"\n")) .online
    let request : Request :=
      ⟨"POST", "/chat?x", [("Content-Type", "application/json; charset=utf-8")],
        Text.Utf8.encode "[\" Where? \"]"⟩
    request.IsChat ∧ ∃ response after, respond (some agent) request .zero = (response, after) ∧
      response.status = 200 ∧ ChatResponse.decode response.body = .ok ⟨"\"Keys\"\n"⟩ := by
  intro agent request
  have chat : request.IsChat := ⟨rfl, by decide +kernel⟩
  have something : ¬request.AsksNothing :=
    Request.not_nothing_of_query (show request.query? = some " Where? " by decide +kernel)
  obtain ⟨response, after, replied, _, answered⟩ :=
    chats_reply_with_answers.2.1 agent request .zero chat
  obtain ⟨query, _, status, decoded, _⟩ := answered something
  have answer : (agent.processQuery query .zero).1 = "\"Keys\"\n" := by
    rw [Agent.processQuery, if_pos (by decide)]
    rfl
  exact ⟨chat, response, after, replied, status, answer ▸ decoded⟩

end ReconChat.ChatService
