import ReconChat.Proofs.Agent.Key
import ReconChat.Proofs.Http.Replies
import ReconChat.Proofs.Recon.Reading

/-!
Connection tests. Whatever the model and Recon are made of, both entries of a report say how their
test ended: connected and without a message, or failed with one. On the network a test asks the
model, probes Recon, and fetches the cluster state if the probe succeeds. Each entry is settled by
the replies to its own exchanges, so that the other service has no part in it. Whether a service is
of any use beyond its test is not said here.
-/

namespace ReconChat

open Http (Network Order Exchange Reply)

structure ConnectionStatus.IsSettled (status : ConnectionStatus) : Prop where
  known : status.state ≠ .unknown
  connected : status.state = .connected → status.message = none
  failed : status.state = .error → status.message.isSome = true ∧ status.cluster = none

/-- A report whose entries are settled and that has the counts of a connected Recon, no others. -/
structure ConnectionReport.IsSettled (report : ConnectionReport) : Prop where
  gemini : report.gemini.IsSettled
  recon : report.recon.IsSettled
  geminiCounts : report.gemini.cluster = none
  reconCounts : report.recon.cluster.isSome = true ↔ report.recon.state = .connected

namespace ConnectionStatus

theorem failed_settled (message : String) : (failed message).IsSettled :=
  ⟨ServiceState.noConfusion, ServiceState.noConfusion, fun _ => ⟨rfl, rfl⟩⟩

theorem connected_settled : connected.IsSettled :=
  ⟨ServiceState.noConfusion, fun _ => rfl, ServiceState.noConfusion⟩

theorem connected_with_settled (summary : ClusterSummary) : (connectedWith summary).IsSettled :=
  ⟨ServiceState.noConfusion, fun _ => rfl, ServiceState.noConfusion⟩

end ConnectionStatus

namespace Agent

theorem model_status_cases (reply : String) :
    modelStatus reply = .connected ∨ ∃ message, modelStatus reply = .failed message := by
  rw [modelStatus]
  split
  · exact .inr ⟨_, rfl⟩
  · exact .inl rfl

theorem summary_status_cases (given : Except Recon.CallError ClusterSummary) :
    (∃ summary, summaryStatus given = .connectedWith summary) ∨
      ∃ message, summaryStatus given = .failed message := by
  cases given with
  | error error => exact .inr ⟨_, rfl⟩
  | ok summary => exact .inl ⟨summary, rfl⟩

theorem report_settled {report : ConnectionReport}
    (gemini : report.gemini = .connected ∨ ∃ message, report.gemini = .failed message)
    (recon : (∃ summary, report.recon = .connectedWith summary) ∨
      ∃ message, report.recon = .failed message) : report.IsSettled where
  gemini := by
    rcases gemini with same | ⟨message, same⟩ <;> rw [same]
    · exact ConnectionStatus.connected_settled
    · exact ConnectionStatus.failed_settled message
  recon := by
    rcases recon with ⟨summary, same⟩ | ⟨message, same⟩ <;> rw [same]
    · exact ConnectionStatus.connected_with_settled summary
    · exact ConnectionStatus.failed_settled message
  geminiCounts := by rcases gemini with same | ⟨message, same⟩ <;> rw [same] <;> rfl
  reconCounts := by
    rcases recon with ⟨summary, same⟩ | ⟨message, same⟩ <;> rw [same]
    · exact ⟨fun _ => rfl, fun _ => rfl⟩
    · exact ⟨Bool.noConfusion, ServiceState.noConfusion⟩

theorem test_connections_settled {State : Type} (agent : Agent (StateM State)) (state : State) :
    (agent.testConnections state).1.IsSettled := by
  refine report_settled (model_status_cases _) ?_
  have tested : ∀ before, (∃ summary, (agent.testService before).1 = .connectedWith summary) ∨
      ∃ message, (agent.testService before).1 = .failed message := by
    intro before
    have run : agent.testService before =
        (if (agent.service.probe before).1 then do
            return summaryStatus (← agent.service.clusterSummary)
          else return .failed "Cannot connect to Recon service" :
            StateM State ConnectionStatus) (agent.service.probe before).2 := rfl
    rw [run]
    cases (agent.service.probe before).1 with
    | false => exact .inr ⟨_, rfl⟩
    | true => exact summary_status_cases _
  exact tested _

section Entries

variable (gemini : Gemini.Client) (recon : Recon.Client)

def testOrder : Order := gemini.order (Prompt.fallback connectionTestQuery)

def modelEntry (network : Network) : ConnectionStatus :=
  modelStatus (writtenOr (fun _ => Gemini.Client.fallbackApology)
    (Gemini.Client.readResult (network.respond (testOrder gemini))))

def serviceEntry (network : Network) : ConnectionStatus :=
  if Recon.Client.answers (network.respond recon.probeOrder) then
    summaryStatus (Recon.Client.readSummary (Recon.Client.readResult Recon.clusterStateEndpoint
      ((network.after recon.probeOrder).respond recon.summaryOrder)))
  else .failed "Cannot connect to Recon service"

variable {gemini recon} {documents : Documents} {network other : Network}

theorem test_service_eq :
    (ofClients gemini recon documents).testService network =
      (serviceEntry recon network, network.afterAll (serviceOrders recon network)) := by
  refine Prod.ext ?_ test_service_orders
  have probes : (ofClients gemini recon documents).service.probe = recon.probe := rfl
  have fetches : (ofClients gemini recon documents).service.clusterSummary =
      recon.clusterSummary := rfl
  rw [testService, Http.run_bind, probes, recon.probe_eq, serviceEntry]
  cases Recon.Client.answers (network.respond recon.probeOrder) with
  | false => rfl
  | true =>
      rw [if_pos rfl, if_pos rfl, Http.run_bind, Http.run_pure, fetches, recon.cluster_summary_eq]

theorem test_connections_eq :
    (ofClients gemini recon documents).testConnections network =
      (⟨modelEntry gemini network, serviceEntry recon (network.after (testOrder gemini))⟩,
        network.afterAll (testOrders gemini recon network)) := by
  refine Prod.ext ?_ test_connections_orders
  have asked : (ofClients gemini recon documents).testModel network =
      (modelEntry gemini network, network.after (testOrder gemini)) := by
    have fallback : (ofClients gemini recon documents).model.fallback =
        gemini.languageModel.fallback := rfl
    rw [testModel, Http.run_bind, fallback, fallback_eq]
    rfl
  rw [testConnections, Http.run_bind, Http.run_bind, Http.run_pure, asked, test_service_eq]

theorem test_orders_of_answer
    (succeeds : Recon.Client.Succeeds
      ((network.after (testOrder gemini)).respond recon.probeOrder)) :
    testOrders gemini recon network =
      [testOrder gemini, recon.probeOrder, recon.summaryOrder] := by
  have service : serviceOrders recon (network.after (testOrder gemini)) =
      [recon.probeOrder, recon.summaryOrder] :=
    if_pos ((Recon.Client.answers_iff _).2 succeeds)
  rw [← service]
  rfl

theorem test_orders_of_no_answer
    (fails : ¬Recon.Client.Succeeds
      ((network.after (testOrder gemini)).respond recon.probeOrder)) :
    testOrders gemini recon network = [testOrder gemini, recon.probeOrder] := by
  have service : serviceOrders recon (network.after (testOrder gemini)) = [recon.probeOrder] :=
    if_neg fun answered => fails ((Recon.Client.answers_iff _).1 answered)
  rw [← service]
  rfl

theorem service_entry_cases (recon : Recon.Client) (network : Network) :
    (∃ summary, serviceEntry recon network = .connectedWith summary) ∨
      ∃ message, serviceEntry recon network = .failed message := by
  rw [serviceEntry]
  split
  · exact summary_status_cases _
  · exact .inr ⟨_, rfl⟩

/-- Recon has counts exactly if the probe succeeds and the cluster state comes with them. -/
theorem service_entry_cluster_iff (summary : ClusterSummary) :
    (serviceEntry recon network).cluster = some summary ↔
      Recon.Client.Succeeds (network.respond recon.probeOrder) ∧
        Recon.Client.GivesSummary ((network.after recon.probeOrder).respond recon.summaryOrder)
          summary := by
  rw [serviceEntry, ← Recon.Client.answers_iff, ← Recon.Client.gives_summary_iff]
  cases Recon.Client.answers (network.respond recon.probeOrder) with
  | false => simp [ConnectionStatus.failed]
  | true =>
      rw [if_pos rfl]
      generalize Recon.Client.readSummary _ = given
      cases given with
      | error error => simp [summaryStatus, ConnectionStatus.failed]
      | ok found => simp [summaryStatus, ConnectionStatus.connectedWith]

theorem service_entry_connected_iff :
    (serviceEntry recon network).state = .connected ↔
      Recon.Client.Succeeds (network.respond recon.probeOrder) ∧ ∃ summary,
        Recon.Client.GivesSummary ((network.after recon.probeOrder).respond recon.summaryOrder)
          summary := by
  simp only [← exists_and_left, ← service_entry_cluster_iff]
  rcases service_entry_cases recon network with ⟨summary, same⟩ | ⟨message, same⟩ <;> rw [same]
  · simp [ConnectionStatus.connectedWith]
  · simp [ConnectionStatus.failed]

theorem model_entry_same (same : network.SameToCome other) :
    modelEntry gemini network = modelEntry gemini other := by
  rw [modelEntry, modelEntry, Network.respond_same same]

theorem service_entry_same (same : network.SameToCome other) :
    serviceEntry recon network = serviceEntry recon other := by
  rw [serviceEntry, serviceEntry, Network.respond_same same,
    Network.respond_same (Network.after_same same _)]

theorem model_entry_limited {count : Nat}
    (enough : (network.sentFor [testOrder gemini]).length ≤ count) :
    modelEntry gemini (network.limited count) = modelEntry gemini network := by
  simp only [Network.sentFor, List.append_nil] at enough
  rw [modelEntry, Network.respond_limited enough, ← modelEntry]

theorem service_entry_limited {count : Nat}
    (enough : (network.sentFor (serviceOrders recon network)).length ≤ count) :
    serviceEntry recon (network.limited count) = serviceEntry recon network := by
  rw [serviceOrders] at enough
  rw [serviceEntry, serviceEntry]
  cases answered : Recon.Client.answers (network.respond recon.probeOrder) with
  | false =>
      simp only [answered, Bool.false_eq_true, if_false, Network.sentFor, List.append_nil] at enough
      rw [Network.respond_limited enough, answered]
      rfl
  | true =>
      simp only [answered, if_true, Network.sentFor, List.append_nil, List.length_append] at enough
      have fetches : ((network.after recon.probeOrder).exchange recon.summaryOrder).sent.length ≤
          count - (network.exchange recon.probeOrder).sent.length := Nat.le_sub_of_add_le' enough
      have probes := Nat.le_of_add_right_le enough
      rw [Network.respond_limited probes, answered, if_pos rfl, if_pos rfl,
        Network.after_limited probes, Network.respond_limited fetches]

theorem model_entry_of_replies (reached : network.reaches = other.reaches)
    (replied : network.repliesTo [testOrder gemini] = other.repliesTo [testOrder gemini]) :
    modelEntry gemini network = modelEntry gemini other := by
  rw [← model_entry_limited (Nat.le_refl _),
    model_entry_same (Network.limited_same reached replied), model_entry_limited (Nat.le_refl _)]

theorem service_entry_of_replies (reached : network.reaches = other.reaches)
    (replied : network.repliesTo (serviceOrders recon network) =
      other.repliesTo (serviceOrders recon other)) :
    serviceEntry recon network = serviceEntry recon other := by
  rw [← service_entry_limited (Nat.le_refl _),
    service_entry_same (Network.limited_same reached replied),
    service_entry_limited (Nat.le_refl _)]

end Entries

section Replies

variable (settings : Settings) (apiKey : String) (network : Network)

def modelReplies : List Reply :=
  network.repliesTo [testOrder (Gemini.Client.ofSettings settings.gemini apiKey)]

def serviceReplies : List Reply :=
  let before := network.after (testOrder (Gemini.Client.ofSettings settings.gemini apiKey))
  before.repliesTo (serviceOrders (Recon.Client.ofSettings settings.recon) before)

end Replies

theorem target_of_slash (recon : Recon.Client) {endpoint : String}
    (slash : endpoint.toList.head? = some '/') :
    recon.target endpoint = recon.baseUrl ++ endpoint :=
  if_pos slash

section Live

variable {settings others : Settings} {apiKey otherKey : String}
  {documents otherDocuments : Documents} {network other left after : Network}
  {report second : ConnectionReport}

theorem live_test_connections_eq :
    (live settings apiKey documents).testConnections network =
      (⟨modelEntry (Gemini.Client.ofSettings settings.gemini apiKey) network,
        serviceEntry (Recon.Client.ofSettings settings.recon)
          (network.after (testOrder (Gemini.Client.ofSettings settings.gemini apiKey)))⟩,
        network.afterAll (testOrders (Gemini.Client.ofSettings settings.gemini apiKey)
          (Recon.Client.ofSettings settings.recon) network)) :=
  test_connections_eq

theorem live_entries
    (tested : (live settings apiKey documents).testConnections network = (report, left)) :
    report.gemini = modelEntry (Gemini.Client.ofSettings settings.gemini apiKey) network ∧
      report.recon = serviceEntry (Recon.Client.ofSettings settings.recon)
        (network.after (testOrder (Gemini.Client.ofSettings settings.gemini apiKey))) := by
  rw [live_test_connections_eq, Prod.mk.injEq] at tested
  simp only [← tested.1, and_self]

/-- Recon's entry has nothing of the model: not its settings, its key or its replies. -/
theorem recon_entry_stands_alone (reached : network.reaches = other.reaches)
    (tested : (live settings apiKey documents).testConnections network = (report, left))
    (retested : (live others otherKey otherDocuments).testConnections other = (second, after))
    (same : others.recon = settings.recon)
    (replied : serviceReplies others otherKey other = serviceReplies settings apiKey network) :
    second.recon = report.recon := by
  rw [serviceReplies, serviceReplies, same] at replied
  rw [(live_entries tested).2, (live_entries retested).2, same]
  -- Stated for any orders, so that the outcomes of the tests are not unfolded.
  have later (first second : Order) :
      (other.after first).reaches = (network.after second).reaches := by
    rw [Network.after_reaches, Network.after_reaches, reached]
  exact service_entry_of_replies (later _ _) replied

theorem gemini_entry_stands_alone (reached : network.reaches = other.reaches)
    (tested : (live settings apiKey documents).testConnections network = (report, left))
    (retested : (live others otherKey otherDocuments).testConnections other = (second, after))
    (same : others.gemini = settings.gemini) (key : otherKey = apiKey)
    (replied : modelReplies others otherKey other = modelReplies settings apiKey network) :
    second.gemini = report.gemini := by
  rw [modelReplies, modelReplies, same, key] at replied
  rw [(live_entries tested).1, (live_entries retested).1, same, key]
  exact model_entry_of_replies reached.symm replied

end Live

/-- A connection test settles both entries after at most three exchanges in a fixed order. Recon is
connected exactly if it is probed and its cluster state fetched with success, and each entry stays
as it is with another test of the other service. -/
theorem connection_tests_stand_alone :
    (∀ {State : Type} (agent : Agent (StateM State)) (state : State),
      (agent.testConnections state).1.IsSettled) ∧
    ∀ (settings : Settings) (apiKey : String) (documents : Documents) (network : Network),
      let gemini := Gemini.Client.ofSettings settings.gemini apiKey
      let recon := Recon.Client.ofSettings settings.recon
      let base := Text.dropTrailingSlashes settings.recon.baseUrl
      let asks := testOrder gemini
      let probes := recon.probeOrder
      let fetches := recon.summaryOrder
      let probed := (network.after asks).respond probes
      let fetched := ((network.after asks).after probes).respond fetches
      asks = gemini.order (Prompt.fallback "test connection") ∧
      probes = ⟨.get, base ++ "/", none, none, none⟩ ∧
      fetches = ⟨.get, base ++ "/api/v1/clusterState", some [], none, none⟩ ∧
      ∃ report orders,
        (live settings apiKey documents).testConnections network =
          (report, network.afterAll orders) ∧
        (network.afterAll orders).exchanges.map Exchange.order =
          network.exchanges.map Exchange.order ++ orders ∧
        (Recon.Client.Succeeds probed → orders = [asks, probes, fetches]) ∧
        (¬Recon.Client.Succeeds probed → orders = [asks, probes]) ∧
        (report.recon.state = .connected ↔
          Recon.Client.Succeeds probed ∧ ∃ summary, Recon.Client.GivesSummary fetched summary) ∧
        (∀ summary, report.recon.cluster = some summary ↔
          Recon.Client.Succeeds probed ∧ Recon.Client.GivesSummary fetched summary) ∧
        ∀ others otherKey otherDocuments other, other.reaches = network.reaches →
          ∀ second after, (live others otherKey otherDocuments).testConnections other =
              (second, after) →
            (others.recon = settings.recon →
              serviceReplies others otherKey other = serviceReplies settings apiKey network →
                second.recon = report.recon) ∧
            (others.gemini = settings.gemini → otherKey = apiKey →
              modelReplies others otherKey other = modelReplies settings apiKey network →
                second.gemini = report.gemini) := by
  refine ⟨test_connections_settled, ?_⟩
  intro settings apiKey documents network gemini recon base asks probes fetches probed fetched
  have probe : probes = ⟨.get, base ++ "/", none, none, none⟩ :=
    congrArg (fun target => (⟨.get, target, none, none, none⟩ : Order))
      (target_of_slash recon (by decide))
  have fetch : fetches = ⟨.get, base ++ "/api/v1/clusterState", some [], none, none⟩ :=
    congrArg (fun target => (⟨.get, target, some [], none, none⟩ : Order))
      (target_of_slash recon (by decide))
  obtain ⟨report, tested⟩ : ∃ report, (live settings apiKey documents).testConnections network =
      (report, network.afterAll (testOrders gemini recon network)) :=
    ⟨_, live_test_connections_eq⟩
  have entry : report.recon = serviceEntry recon (network.after asks) := (live_entries tested).2
  refine ⟨rfl, probe, fetch, report, _, tested, network.after_all_orders _,
    test_orders_of_answer, test_orders_of_no_answer, ?_, ?_, ?_⟩
  · rw [entry]
    exact service_entry_connected_iff
  · rw [entry]
    exact service_entry_cluster_iff
  · intro others otherKey otherDocuments other reached second after retested
    exact ⟨recon_entry_stands_alone reached.symm tested retested,
      gemini_entry_stands_alone reached.symm tested retested⟩

/-- The model breaks off at once, or behind a redirect and with another key: Recon is connected. -/
theorem broken_model_leaves_recon_alone :
    let settings : Settings :=
      { Settings.standard with
        gemini := ⟨none, "m", "http://gemini", none⟩, recon := ⟨"http://recon/", none⟩ }
    let replies : List Reply :=
      [.response ⟨200, none, none, [], true⟩, .response ⟨200, none, none, [0x7B, 0x7D], true⟩]
    let first : Network := ⟨fun _ => true, .dropped :: replies, []⟩
    let second : Network :=
      ⟨fun _ => true,
        .response ⟨307, some "http://other/", none, [], true⟩ :: .dropped :: replies, []⟩
    serviceReplies settings "one" first = replies ∧ serviceReplies settings "two" second = replies ∧
      ((live settings "one" ⟨"openapi", ""⟩).testConnections first).1.recon.state = .connected ∧
      ((live settings "two" ⟨"openapi", ""⟩).testConnections second).1.recon =
        ((live settings "one" ⟨"openapi", ""⟩).testConnections first).1.recon := by
  intro settings replies first second
  have left : serviceReplies settings "one" first = replies := by decide +kernel
  have right : serviceReplies settings "two" second = replies := by decide +kernel
  obtain ⟨-, -, -, report, orders, tested, -, -, -, -, -, alone⟩ :=
    connection_tests_stand_alone.2 settings "one" ⟨"openapi", ""⟩ first
  obtain ⟨-, -, -, again, _, retested, -⟩ :=
    connection_tests_stand_alone.2 settings "two" ⟨"openapi", ""⟩ second
  have same : again.recon = report.recon :=
    (alone settings "two" _ second rfl again _ retested).1 rfl (right.trans left.symm)
  refine ⟨left, right, by decide +kernel, ?_⟩
  rw [tested, retested]
  exact same

end Agent

end ReconChat
