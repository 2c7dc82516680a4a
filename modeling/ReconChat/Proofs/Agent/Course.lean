import ReconChat.Agent.Live
import ReconChat.Proofs.Recon.Call

/-!
The course of a query on the network: which exchanges it takes, in which order and with what
arguments, and the answer that comes of them. A course is described without the agent, by the
prompts, the tool call and what the two services gave. Every query takes exactly one of the
courses, whatever the replies are. What a service gives is left to its client.
-/

namespace ReconChat

open Http (Network Order)

namespace Gemini.Client

def writes (client : Client) (network : Network) (prompt : String) :
    Except GenerationError String :=
  readResult (network.respond (client.order prompt))

theorem generate_then {Given : Type} (read : Except GenerationError String → Given)
    (client : Client) (prompt : String) (network : Network) :
    (do return read (← client.generate prompt) : StateM Network Given) network =
      (read (client.writes network prompt), network.after (client.order prompt)) := by
  have generated : client.generate prompt network =
      (client.writes network prompt, network.after (client.order prompt)) :=
    Http.perform_then readResult (client.order prompt) network
  rw [Http.run_bind, generated]
  rfl

theorem generate_eq (client : Client) (prompt : String) (network : Network) :
    client.generate prompt network =
      (client.writes network prompt, network.after (client.order prompt)) :=
  generate_then id client prompt network

end Gemini.Client

namespace Agent

/-- What the model wrote, or other words if it wrote nothing. -/
def writtenOr (otherwise : Gemini.GenerationError → String) :
    Except Gemini.GenerationError String → String
  | .ok text => text
  | .error error => otherwise error

section Course

variable (gemini : Gemini.Client) (recon : Recon.Client) (documents : Documents) (query : String)

def selectionOrder : Order :=
  gemini.order (Prompt.selection query documents.schema documents.guide)

def selectionReply (network : Network) : Except Gemini.GenerationError String :=
  gemini.writes network (Prompt.selection query documents.schema documents.guide)

/-- Does the first exchange end without an endpoint, because it failed or its reply has none? -/
def SelectsNothing : Except Gemini.GenerationError String → Prop
  | .error _ => True
  | .ok reply => Selection.parse reply = .ok none

/-- The courses of a query: the network before it, the orders, and the answer. -/
inductive Course : Network → List Order → String → Prop where
  | unloaded {network : Network} :
      documents.hasSchema = false →
        Course network [] schemaNotLoaded
  | invalid {network : Network} {reply : String} {error : ToolCallError} :
      documents.hasSchema = true →
        selectionReply gemini documents query network = .ok reply →
        Selection.parse reply = .error error →
        Course network [selectionOrder gemini documents query]
          (errorOpening ++ " " ++ ("invalid tool call: " ++ error.message))
  | documented {network : Network} {reply : String} {answer reasoning : Option String} :
      documents.hasSchema = true →
        selectionReply gemini documents query network = .ok reply →
        Selection.parse reply = .ok (some (.documentation answer reasoning)) →
        Course network [selectionOrder gemini documents query]
          (answer.getD documentationUnavailable)
  | outOfScope {network : Network} :
      documents.hasSchema = true →
        SelectsNothing (selectionReply gemini documents query network) →
        Course network
          [selectionOrder gemini documents query, gemini.order (Prompt.fallback query)]
          (writtenOr (fun _ => Gemini.Client.fallbackApology)
            (gemini.writes (network.after (selectionOrder gemini documents query))
              (Prompt.fallback query)))
  | unanswered {network : Network} {reply : String} {call : DataCall} {error : Recon.CallError} :
      documents.hasSchema = true →
        selectionReply gemini documents query network = .ok reply →
        Selection.parse reply = .ok (some (.data call)) →
        recon.gives (network.after (selectionOrder gemini documents query)) call = .error error →
        Course network [selectionOrder gemini documents query, recon.callOrder call]
          (errorOpening ++ " " ++ error.message)
  | summarized {network : Network} {reply : String} {call : DataCall} {value : Json.Value} :
      documents.hasSchema = true →
        selectionReply gemini documents query network = .ok reply →
        Selection.parse reply = .ok (some (.data call)) →
        recon.gives (network.after (selectionOrder gemini documents query)) call = .ok value →
        Course network
          [selectionOrder gemini documents query, recon.callOrder call,
            gemini.order (Prompt.summary query value call.endpoint)]
          (writtenOr (fun error => "I encountered an error while analyzing the data: " ++
              error.message)
            (gemini.writes
              (network.afterAll [selectionOrder gemini documents query, recon.callOrder call])
              (Prompt.summary query value call.endpoint)))

end Course

variable {gemini : Gemini.Client} {recon : Recon.Client} {documents : Documents} {query : String}
  {network : Network}

/-- The conditions of two courses exclude each other, and each course fixes its orders. -/
theorem course_unique {orders others : List Order} {answer other : String}
    (first : Course gemini recon documents query network orders answer)
    (second : Course gemini recon documents query network others other) :
    orders = others ∧ answer = other := by
  cases first <;> cases second <;> simp_all [SelectsNothing]

theorem call_order_ne (gemini : Gemini.Client) (recon : Recon.Client) (call : DataCall)
    (prompt : String) :
    recon.callOrder call ≠ gemini.order prompt := by
  intro same
  have methods := congrArg Order.method same
  cases methods

section Shapes

variable {orders : List Order} {answer : String}

theorem orders_empty_iff (course : Course gemini recon documents query network orders answer) :
    orders = [] ↔ documents.hasSchema = false := by
  cases course <;> simp_all

theorem orders_selection_iff
    (course : Course gemini recon documents query network orders answer) :
    orders = [selectionOrder gemini documents query] ↔
      documents.hasSchema = true ∧
        ∃ text, selectionReply gemini documents query network = .ok text ∧
          ((∃ error, Selection.parse text = .error error) ∨
            ∃ answer reasoning,
              Selection.parse text = .ok (some (.documentation answer reasoning))) := by
  cases course with
  | outOfScope loaded nothing =>
      cases written : selectionReply gemini documents query network <;>
        simp_all [SelectsNothing]
  | _ => simp_all

theorem orders_fallback_iff
    (course : Course gemini recon documents query network orders answer) :
    orders = [selectionOrder gemini documents query, gemini.order (Prompt.fallback query)] ↔
      documents.hasSchema = true ∧
        SelectsNothing (selectionReply gemini documents query network) := by
  cases course <;> simp_all [SelectsNothing, call_order_ne]

theorem orders_call_iff (course : Course gemini recon documents query network orders answer) :
    (∃ call, orders = [selectionOrder gemini documents query, recon.callOrder call]) ↔
      documents.hasSchema = true ∧ ∃ text call error,
        selectionReply gemini documents query network = .ok text ∧
          Selection.parse text = .ok (some (.data call)) ∧
          recon.gives (network.after (selectionOrder gemini documents query)) call =
            .error error := by
  cases course with
  | outOfScope loaded nothing =>
      have different (call : DataCall) := (call_order_ne gemini recon call
        (Prompt.fallback query)).symm
      cases written : selectionReply gemini documents query network <;>
        simp_all [SelectsNothing]
  | unanswered loaded written decided given =>
      exact ⟨fun _ => ⟨loaded, _, _, _, written, decided, given⟩, fun _ => ⟨_, rfl⟩⟩
  | _ => simp_all

theorem orders_summary_iff (course : Course gemini recon documents query network orders answer) :
    (∃ call prompt, orders =
        [selectionOrder gemini documents query, recon.callOrder call, gemini.order prompt]) ↔
      documents.hasSchema = true ∧ ∃ text call value,
        selectionReply gemini documents query network = .ok text ∧
          Selection.parse text = .ok (some (.data call)) ∧
          recon.gives (network.after (selectionOrder gemini documents query)) call =
            .ok value := by
  cases course with
  | outOfScope loaded nothing =>
      cases written : selectionReply gemini documents query network <;>
        simp_all [SelectsNothing]
  | summarized loaded written decided given =>
      exact ⟨fun _ => ⟨loaded, _, _, _, written, decided, given⟩, fun _ => ⟨_, _, rfl⟩⟩
  | _ => simp_all

end Shapes

def ofClients (gemini : Gemini.Client) (recon : Recon.Client) (documents : Documents) :
    Agent (StateM Network) :=
  ⟨documents, gemini.languageModel, recon.monitoringService⟩

theorem summarize_eq (value : Json.Value) (endpoint : String) :
    gemini.languageModel.summarize query value endpoint network =
      (writtenOr (fun error => "I encountered an error while analyzing the data: " ++
          error.message) (gemini.writes network (Prompt.summary query value endpoint)),
        network.after (gemini.order (Prompt.summary query value endpoint))) := by
  have written := Gemini.Client.generate_then Gemini.Client.summaryOf gemini
    (Prompt.summary query value endpoint) network
  refine written.trans ?_
  cases gemini.writes network (Prompt.summary query value endpoint) <;> rfl

theorem fallback_eq :
    gemini.languageModel.fallback query network =
      (writtenOr (fun _ => Gemini.Client.fallbackApology)
        (gemini.writes network (Prompt.fallback query)),
        network.after (gemini.order (Prompt.fallback query))) := by
  have written := Gemini.Client.generate_then Gemini.Client.fallbackOf gemini
    (Prompt.fallback query) network
  refine written.trans ?_
  cases gemini.writes network (Prompt.fallback query) <;> rfl

theorem select_eq :
    gemini.languageModel.select query documents.schema documents.guide network =
      (Gemini.Client.selectionOf (selectionReply gemini documents query network),
        network.after (selectionOrder gemini documents query)) :=
  Gemini.Client.generate_then Gemini.Client.selectionOf gemini _ network

/-- A loaded query does what its selection says, after one order. -/
theorem process_query_loaded (loaded : documents.hasSchema = true) :
    (ofClients gemini recon documents).processQuery query network =
      (ofClients gemini recon documents).answerSelection query
        (Gemini.Client.selectionOf (selectionReply gemini documents query network))
        (network.after (selectionOrder gemini documents query)) := by
  rw [processQuery, if_pos (show (ofClients gemini recon documents).documents.hasSchema = true
    from loaded)]
  have selected : (ofClients gemini recon documents).model.select query
      (ofClients gemini recon documents).documents.schema
      (ofClients gemini recon documents).documents.guide network =
        (Gemini.Client.selectionOf (selectionReply gemini documents query network),
          network.after (selectionOrder gemini documents query)) := select_eq
  rw [Http.run_bind, selected]

theorem data_course {reply : String} {call : DataCall} (loaded : documents.hasSchema = true)
    (written : selectionReply gemini documents query network = .ok reply)
    (decided : Selection.parse reply = .ok (some (.data call))) :
    ∃ orders answer, Course gemini recon documents query network orders answer ∧
      (ofClients gemini recon documents).answerFromData query call
        (network.after (selectionOrder gemini documents query)) =
          (answer, network.afterAll orders) := by
  have executed := recon.execute_eq call (network.after (selectionOrder gemini documents query))
  have service : (ofClients gemini recon documents).service.execute = recon.execute := rfl
  cases given : recon.gives (network.after (selectionOrder gemini documents query)) call with
  | error error =>
      refine ⟨_, _, .unanswered loaded written decided given, ?_⟩
      rw [answerFromData, Http.run_bind, service, executed, given]
      rfl
  | ok value =>
      refine ⟨_, _, .summarized loaded written decided given, ?_⟩
      rw [answerFromData, Http.run_bind, service, executed, given]
      exact summarize_eq value call.endpoint

/-- Whatever is selected, the query takes a course. -/
theorem process_query_course (gemini : Gemini.Client) (recon : Recon.Client)
    (documents : Documents) (query : String) (network : Network) :
    ∃ orders answer, Course gemini recon documents query network orders answer ∧
      (ofClients gemini recon documents).processQuery query network =
        (answer, network.afterAll orders) := by
  cases loaded : documents.hasSchema with
  | false =>
      refine ⟨_, _, .unloaded loaded, ?_⟩
      rw [processQuery, if_neg (show ¬(ofClients gemini recon documents).documents.hasSchema = true
        by simp [ofClients, loaded])]
      rfl
  | true =>
      rw [process_query_loaded loaded]
      cases written : selectionReply gemini documents query network with
      | error error =>
          refine ⟨_, _, .outOfScope loaded (by rw [written]; trivial), ?_⟩
          exact fallback_eq
      | ok reply =>
          rw [Gemini.Client.selectionOf]
          cases decided : Selection.parse reply with
          | error error => exact ⟨_, _, .invalid loaded written decided, rfl⟩
          | ok selected =>
              cases selected with
              | none =>
                  refine ⟨_, _, .outOfScope loaded (by rw [written]; exact decided), ?_⟩
                  exact fallback_eq
              | some call =>
                  cases call with
                  | documentation answer reasoning =>
                      exact ⟨_, _, .documented loaded written decided, rfl⟩
                  | data call => exact data_course loaded written decided

/-- Every query on a live agent takes exactly one course: its orders are carried out in turn, and
which orders those are is settled by the schema, the first reply, and the data. -/
theorem process_query_takes_one_course (settings : Settings) (apiKey : String)
    (documents : Documents) (query : String) (network : Network) :
    let gemini := Gemini.Client.ofSettings settings.gemini apiKey
    let recon := Recon.Client.ofSettings settings.recon
    let first := selectionOrder gemini documents query
    let reply := selectionReply gemini documents query network
    let data := recon.gives (network.after first)
    ∃ orders answer,
      (live settings apiKey documents).processQuery query network =
        (answer, network.afterAll orders) ∧
      (network.afterAll orders).exchanges.map Http.Exchange.order =
        network.exchanges.map Http.Exchange.order ++ orders ∧
      (∀ others other, Course gemini recon documents query network others other ↔
        others = orders ∧ other = answer) ∧
      (orders = [] ↔ Text.allBlank documents.schema = true) ∧
      (orders = [first] ↔ documents.hasSchema = true ∧ ∃ text, reply = .ok text ∧
        ((∃ error, Selection.parse text = .error error) ∨
          ∃ answer reasoning,
            Selection.parse text = .ok (some (.documentation answer reasoning)))) ∧
      (orders = [first, gemini.order (Prompt.fallback query)] ↔
        documents.hasSchema = true ∧ SelectsNothing reply) ∧
      ((∃ call, orders = [first, recon.callOrder call]) ↔
        documents.hasSchema = true ∧ ∃ text call error, reply = .ok text ∧
          Selection.parse text = .ok (some (.data call)) ∧ data call = .error error) ∧
      ((∃ call prompt, orders = [first, recon.callOrder call, gemini.order prompt]) ↔
        documents.hasSchema = true ∧ ∃ text call value, reply = .ok text ∧
          Selection.parse text = .ok (some (.data call)) ∧ data call = .ok value) := by
  intro gemini recon first reply data
  obtain ⟨orders, answer, course, run⟩ :=
    process_query_course gemini recon documents query network
  refine ⟨orders, answer, run, network.after_all_orders orders, ?_, ?_⟩
  · intro others other
    constructor
    · intro also
      exact course_unique also course
    · rintro ⟨rfl, rfl⟩
      exact course
  · have blank : documents.hasSchema = false ↔ Text.allBlank documents.schema = true := by
      simp [Documents.hasSchema]
    exact ⟨(orders_empty_iff course).trans blank, orders_selection_iff course,
      orders_fallback_iff course, orders_call_iff course, orders_summary_iff course⟩

end Agent

end ReconChat
