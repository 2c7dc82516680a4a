import ReconChat.Proofs.Agent.Course
import ReconChat.Proofs.Http.Key

/-!
The API key of a live agent. Two agents that differ in nothing but their keys say the same, test
their connections with the same outcome, and send the same requests, the values of the key headers
apart; so the key is part of no prompt, no address, no error and no report. The key is on every
request to the model, redirects included, and on no request to Recon. Settings are shown without
it. A key that no header may hold is left out: its orders are not sent at all.
-/

namespace ReconChat

open Http (Network Order Exchange Request Alike alike_pure alike_bind alike_perform)

namespace Gemini.Client

def Asks (client : Client) (order : Order) : Prop := ∃ prompt, order = client.order prompt

variable {settings : GeminiSettings} {one other : String}

theorem alike_generate (oneFits : Http.isHeaderText one = true)
    (otherFits : Http.isHeaderText other = true) (prompt : String) :
    Alike ((ofSettings settings one).generate prompt)
      ((ofSettings settings other).generate prompt) :=
  alike_bind (alike_perform rfl oneFits otherFits) fun _ => alike_pure _

end Gemini.Client

def Recon.Client.Asks (client : Client) (order : Order) : Prop :=
  order = client.probeOrder ∨
    ∃ endpoint parameters, order = client.dataOrder endpoint parameters

namespace Recon.Client

variable (client : Client)

theorem alike_keyless {order : Order} (keyless : order.apiKey = none) :
    Alike (Http.perform order) (Http.perform order) := by
  have fits : order.KeyFits := by
    rw [Order.KeyFits, keyless]
    rfl
  exact alike_perform rfl fits fits

theorem alike_fetch (endpoint : String) (parameters : NameTable String) :
    Alike (client.fetch endpoint parameters) (client.fetch endpoint parameters) :=
  alike_bind (alike_keyless rfl) fun _ => alike_pure _

theorem alike_probe : Alike client.probe client.probe :=
  alike_bind (alike_keyless rfl) fun _ => alike_pure _

theorem alike_cluster_summary : Alike client.clusterSummary client.clusterSummary :=
  alike_bind (client.alike_fetch _ _) fun _ => alike_pure _

end Recon.Client

namespace Agent

/-- Two agents of the same documents whose steps cannot be told apart. -/
structure StepsAlike (first second : Agent (StateM Network)) : Prop where
  documents : first.documents = second.documents
  select : ∀ query schema guide,
    Alike (first.model.select query schema guide) (second.model.select query schema guide)
  summarize : ∀ query value endpoint,
    Alike (first.model.summarize query value endpoint)
      (second.model.summarize query value endpoint)
  fallback : ∀ query, Alike (first.model.fallback query) (second.model.fallback query)
  execute : ∀ call, Alike (first.service.execute call) (second.service.execute call)
  probe : Alike first.service.probe second.service.probe
  clusterSummary : Alike first.service.clusterSummary second.service.clusterSummary

namespace StepsAlike

variable {first second : Agent (StateM Network)}

theorem answer_from_data (alike : StepsAlike first second) (query : String) (call : DataCall) :
    Alike (first.answerFromData query call) (second.answerFromData query call) := by
  refine alike_bind (alike.execute call) ?_
  intro data
  cases data with
  | error error => exact alike_pure _
  | ok value => exact alike.summarize query value call.endpoint

theorem answer_selection (alike : StepsAlike first second) (query : String)
    (selected : Except ToolCallError (Option ToolCall)) :
    Alike (first.answerSelection query selected) (second.answerSelection query selected) := by
  cases selected with
  | error error => exact alike_pure _
  | ok decided =>
      cases decided with
      | none => exact alike.fallback query
      | some call =>
          cases call with
          | documentation answer reasoning => exact alike_pure _
          | data call => exact alike.answer_from_data query call

theorem process_query (alike : StepsAlike first second) (query : String) :
    Alike (first.processQuery query) (second.processQuery query) := by
  rw [processQuery, processQuery, alike.documents]
  split
  · exact alike_bind (alike.select _ _ _) fun selected => alike.answer_selection query selected
  · exact alike_pure _

theorem test_service (alike : StepsAlike first second) :
    Alike first.testService second.testService := by
  refine alike_bind alike.probe ?_
  intro answers
  cases answers with
  | false => exact alike_pure _
  | true => exact alike_bind alike.clusterSummary fun _ => alike_pure _

theorem test_connections (alike : StepsAlike first second) :
    Alike first.testConnections second.testConnections :=
  alike_bind (alike_bind (alike.fallback _) fun _ => alike_pure _) fun _ =>
    alike_bind alike.test_service fun _ => alike_pure _

end StepsAlike

/-- Agents with different keys take the same steps, whatever else they are made of. -/
theorem live_steps_alike (settings : Settings) (documents : Documents) {one other : String}
    (oneFits : Http.isHeaderText one = true) (otherFits : Http.isHeaderText other = true) :
    StepsAlike (live settings one documents) (live settings other documents) where
  documents := rfl
  select _ _ _ :=
    alike_bind (Gemini.Client.alike_generate oneFits otherFits _) fun _ => alike_pure _
  summarize _ _ _ :=
    alike_bind (Gemini.Client.alike_generate oneFits otherFits _) fun _ => alike_pure _
  fallback _ :=
    alike_bind (Gemini.Client.alike_generate oneFits otherFits _) fun _ => alike_pure _
  execute _ := Recon.Client.alike_fetch _ _ _
  probe := Recon.Client.alike_probe _
  clusterSummary := Recon.Client.alike_cluster_summary _

section Orders

variable {gemini : Gemini.Client} {recon : Recon.Client} {documents : Documents} {query : String}
  {network : Network}

theorem course_orders_asked {orders : List Order} {answer : String}
    (course : Course gemini recon documents query network orders answer) :
    ∀ order ∈ orders, gemini.Asks order ∨ recon.Asks order := by
  have asked (prompt : String) : gemini.Asks (gemini.order prompt) := ⟨prompt, rfl⟩
  have called (call : DataCall) : recon.Asks (recon.callOrder call) := .inr ⟨_, _, rfl⟩
  cases course <;> simp [selectionOrder, asked, called]

/-- The orders by which Recon is tested: it is probed, and if it answers, its cluster state is
fetched. -/
def serviceOrders (recon : Recon.Client) (network : Network) : List Order :=
  if Recon.Client.answers (network.respond recon.probeOrder) then
    [recon.probeOrder, recon.dataOrder Recon.clusterStateEndpoint .empty]
  else [recon.probeOrder]

theorem test_service_orders :
    ((ofClients gemini recon documents).testService network).2 =
      network.afterAll (serviceOrders recon network) := by
  have probes : (ofClients gemini recon documents).service.probe = recon.probe := rfl
  have fetches : (ofClients gemini recon documents).service.clusterSummary =
      recon.clusterSummary := rfl
  rw [testService, Http.run_bind, probes, recon.probe_eq, serviceOrders]
  cases Recon.Client.answers (network.respond recon.probeOrder) with
  | false => rfl
  | true =>
      rw [if_pos rfl, if_pos rfl, Http.run_bind, Http.run_pure, fetches, recon.cluster_summary_eq]
      rfl

def testOrders (gemini : Gemini.Client) (recon : Recon.Client) (network : Network) : List Order :=
  let asked := gemini.order (Prompt.fallback connectionTestQuery)
  asked :: serviceOrders recon (network.after asked)

theorem test_orders_asked :
    ∀ order ∈ testOrders gemini recon network, gemini.Asks order ∨ recon.Asks order := by
  have asked (prompt : String) : gemini.Asks (gemini.order prompt) := ⟨prompt, rfl⟩
  have probed : recon.Asks recon.probeOrder := .inl rfl
  have fetched (endpoint : String) (parameters : NameTable String) :
      recon.Asks (recon.dataOrder endpoint parameters) := .inr ⟨_, _, rfl⟩
  rw [testOrders, serviceOrders]
  split <;> simp [asked, probed, fetched]

theorem test_model_after :
    ((ofClients gemini recon documents).testModel network).2 =
      network.after (gemini.order (Prompt.fallback connectionTestQuery)) := by
  have asked : (ofClients gemini recon documents).model.fallback = gemini.languageModel.fallback :=
    rfl
  rw [testModel, Http.run_bind, asked, fallback_eq]
  rfl

theorem test_connections_orders :
    ((ofClients gemini recon documents).testConnections network).2 =
      network.afterAll (testOrders gemini recon network) := by
  rw [testConnections, Http.run_bind, Http.run_bind, Http.run_pure, test_model_after,
    test_service_orders, testOrders, Http.Network.after_all_cons]

/-- Between two networks, every exchange of the model's client has its key on every request, and
every other exchange is one of Recon's client and has no key on any. -/
def KeysInPlace (gemini : Gemini.Client) (recon : Recon.Client) (before after : Network) : Prop :=
  ∃ made : List Exchange, after.exchanges = before.exchanges ++ made ∧ ∀ exchange ∈ made,
    (gemini.Asks exchange.order ∧
      ∀ request ∈ exchange.sent, request.apiKey = some gemini.apiKey) ∨
    (recon.Asks exchange.order ∧ ∀ request ∈ exchange.sent, request.apiKey = none)

theorem keys_in_place_of_asked {orders : List Order}
    (asked : ∀ order ∈ orders, gemini.Asks order ∨ recon.Asks order) :
    KeysInPlace gemini recon network (network.afterAll orders) := by
  obtain ⟨made, whole, ordered, keys⟩ := network.after_all_made orders
  refine ⟨made, whole, ?_⟩
  intro exchange member
  have inside : exchange.order ∈ orders := ordered ▸ List.mem_map_of_mem member
  rcases asked exchange.order inside with ⟨prompt, same⟩ | service
  · refine .inl ⟨⟨prompt, same⟩, ?_⟩
    intro request sent
    rw [keys exchange member request sent, same]
    rfl
  · refine .inr ⟨service, ?_⟩
    intro request sent
    rw [keys exchange member request sent]
    rcases service with same | ⟨endpoint, parameters, same⟩ <;> rw [same] <;> rfl

end Orders

/-- What two runs from one network give is the same, and so is what they send, keys apart. -/
def RunsAlike {Given : Type} (first second : Given × Network) : Prop :=
  first.1 = second.1 ∧ first.2.masked = second.2.masked ∧
    first.2.requests.map Request.masked = second.2.requests.map Request.masked

theorem runs_alike {Given : Type} {first second : StateM Network Given}
    (alike : Alike first second) (network : Network) :
    RunsAlike (first network) (second network) := by
  obtain ⟨given, left⟩ := alike network network rfl
  refine ⟨given, left, ?_⟩
  rw [← Http.Network.requests_masked, left, Http.Network.requests_masked]

/-- A key shows nowhere but in its header: with another key every query has the same answer, every
test the same report, and the requests differ in nothing but the key; every request to the model
has it and no request to Recon, and it is not shown with the settings. -/
theorem key_shows_in_its_header_alone (settings : Settings) (documents : Documents)
    (network : Network) (one other : String) (oneFits : Http.isHeaderText one = true)
    (otherFits : Http.isHeaderText other = true) :
    let first := live settings one documents
    let second := live settings other documents
    let gemini := Gemini.Client.ofSettings settings.gemini one
    let recon := Recon.Client.ofSettings settings.recon
    (∀ query,
      RunsAlike (first.processQuery query network) (second.processQuery query network) ∧
      KeysInPlace gemini recon network (first.processQuery query network).2) ∧
    RunsAlike (first.testConnections network) (second.testConnections network) ∧
    KeysInPlace gemini recon network (first.testConnections network).2 ∧
    ∀ left right, { settings.gemini with apiKey := some left }.shown =
      { settings.gemini with apiKey := some right }.shown := by
  intro first second gemini recon
  have alike : StepsAlike first second := live_steps_alike settings documents oneFits otherFits
  refine ⟨?_, runs_alike alike.test_connections network, ?_, fun _ _ => rfl⟩
  · intro query
    refine ⟨runs_alike (alike.process_query query) network, ?_⟩
    obtain ⟨orders, answer, course, run⟩ :=
      process_query_course gemini recon documents query network
    have after : (first.processQuery query network).2 = network.afterAll orders :=
      congrArg Prod.snd run
    rw [after]
    exact keys_in_place_of_asked (course_orders_asked course)
  · have after : (first.testConnections network).2 =
        network.afterAll (testOrders gemini recon network) := test_connections_orders
    rw [after]
    exact keys_in_place_of_asked test_orders_asked

/-- A test whose first request is sent on, and that asks Recon as well. -/
theorem redirected_test_keeps_its_key :
    let settings : Settings :=
      { Settings.standard with
        gemini := ⟨none, "m", "http://gemini", none⟩, recon := ⟨"http://recon", none⟩ }
    let network : Network :=
      ⟨fun _ => true, [.response ⟨307, some "http://other/", none, [], true⟩], []⟩
    let first := (live settings "first" ⟨"openapi", ""⟩).testConnections network
    let second := (live settings "second" ⟨"openapi", ""⟩).testConnections network
    Http.isHeaderText "first" = true ∧ Http.isHeaderText "second" = true ∧ RunsAlike first second ∧
      first.2.requests.map Request.apiKey = [some "first", some "first", none] := by
  intro settings network first second
  have alone := key_shows_in_its_header_alone settings ⟨"openapi", ""⟩ network "first" "second"
    (by decide) (by decide)
  exact ⟨by decide, by decide, alone.2.1, by decide +kernel⟩

end Agent

end ReconChat
