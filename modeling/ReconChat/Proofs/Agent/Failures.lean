import ReconChat.Proofs.Agent.Answer

/-!
Failures of the model. A fallback is what the model wrote or one fixed apology, and a summary is
what it wrote or a fixed opening with the error of its own exchange, so that neither is ever blank.
The test of the model asks for a fallback and looks for blanks alone: no failure shows in a report.
-/

namespace ReconChat

open Http (Network)

namespace Agent

/-- A reply that is the text which an attempt to generate gave, or other words if it failed. -/
structure StandsFor (otherwise : Gemini.GenerationError → String)
    (attempt : Except Gemini.GenerationError String) (reply : String) : Prop where
  written : ∀ text, attempt = .ok text → reply = text
  failed : ∀ error, attempt = .error error → reply = otherwise error
  speaks : Text.trim reply ≠ ""

variable {client : Gemini.Client} {query : String} {network : Network}

theorem written_or_stands_for {otherwise : Gemini.GenerationError → String}
    (words : ∀ error, Text.allBlank (otherwise error) = false) (prompt : String) :
    StandsFor otherwise (client.generate prompt network).1
      (writtenOr otherwise (client.writes network prompt)) := by
  rw [Gemini.Client.generate_eq]
  constructor
  · intro text written
    dsimp only at written
    rw [written, writtenOr]
  · intro error failed
    dsimp only at failed
    rw [failed, writtenOr]
  · rw [ne_eq, Text.trim_eq_empty, not_blank_written_or words prompt]
    exact Bool.false_ne_true

theorem fallback_stands_for :
    StandsFor (fun _ => Gemini.Client.fallbackApology)
      (client.generate (Prompt.fallback query) network).1
      (client.languageModel.fallback query network).1 := by
  rw [fallback_eq]
  exact written_or_stands_for (fun _ => not_blank_apology) _

theorem summary_stands_for (value : Json.Value) (endpoint : String) :
    StandsFor
      (fun error => "I encountered an error while analyzing the data: " ++ error.message)
      (client.generate (Prompt.summary query value endpoint) network).1
      (client.languageModel.summarize query value endpoint network).1 := by
  rw [summarize_eq]
  exact written_or_stands_for not_blank_analysis_error _

theorem test_model_connected (agent : Agent (StateM Network))
    (model : agent.model = client.languageModel) :
    (agent.testModel network).1 = .connected := by
  have reply : ¬Text.trim (client.languageModel.fallback connectionTestQuery network).1 = "" :=
    fallback_stands_for.speaks
  rw [Text.trim_eq_empty] at reply
  rw [testModel, Http.run_bind, Http.run_pure, model, modelStatus, if_neg reply]

theorem gemini_entry_of_test (agent : Agent (StateM Network)) :
    (agent.testConnections network).1.gemini = (agent.testModel network).1 := by
  rw [testConnections, Http.run_bind, Http.run_bind, Http.run_pure]

/-- Whatever the model does, a fallback and a summary have words in them, and a connection test
shows the model as connected. -/
theorem model_failures_have_words (client : Gemini.Client) :
    (∀ query network, ∃ reply,
      client.languageModel.fallback query network =
        (reply, (client.generate (Prompt.fallback query) network).2) ∧
      StandsFor (fun _ => Gemini.Client.fallbackApology)
        (client.generate (Prompt.fallback query) network).1 reply) ∧
    (∀ query value endpoint network, ∃ reply,
      client.languageModel.summarize query value endpoint network =
        (reply, (client.generate (Prompt.summary query value endpoint) network).2) ∧
      StandsFor (fun error => "I encountered an error while analyzing the data: " ++ error.message)
        (client.generate (Prompt.summary query value endpoint) network).1 reply) ∧
    ∀ documents service network,
      let agent : Agent (StateM Network) := ⟨documents, client.languageModel, service⟩
      (agent.testConnections network).1.gemini = .connected ∧
        ∀ message, (agent.testModel network).1 ≠ .failed message := by
  refine ⟨?_, ?_, ?_⟩
  · intro query network
    refine ⟨(client.languageModel.fallback query network).1, ?_, fallback_stands_for⟩
    rw [fallback_eq, Gemini.Client.generate_eq]
  · intro query value endpoint network
    refine ⟨(client.languageModel.summarize query value endpoint network).1, ?_,
      summary_stands_for value endpoint⟩
    rw [summarize_eq, Gemini.Client.generate_eq]
  · intro documents service network agent
    have tested : (agent.testModel network).1 = .connected := test_model_connected agent rfl
    refine ⟨(gemini_entry_of_test agent).trans tested, ?_⟩
    intro message failed
    rw [tested] at failed
    cases failed

/-- The model is down: a query has the apology for an answer, a report shows it as connected. -/
theorem failing_model_shows_as_connected :
    let client := Gemini.Client.ofSettings ⟨none, "m", "http://gemini", none⟩ "key"
    let service := (Recon.Client.ofSettings Settings.standard.recon).monitoringService
    let agent : Agent (StateM Network) := ⟨⟨"openapi", ""⟩, client.languageModel, service⟩
    let network : Network :=
      ⟨fun _ => true, [.response ⟨500, none, none, Text.Utf8.encode "down", true⟩], []⟩
    (client.generate (Prompt.fallback "q") network).1 = .error (.status 500 "down") ∧
      (client.languageModel.fallback "q" network).1 = Gemini.Client.fallbackApology ∧
      (agent.testConnections network).1.gemini = .connected := by
  intro client service agent network
  have failed :
      (client.generate (Prompt.fallback "q") network).1 = .error (.status 500 "down") := by
    decide +kernel
  -- Nothing else depends on what the network gives.
  clear_value network service
  obtain ⟨falls, _, tests⟩ := model_failures_have_words client
  obtain ⟨reply, replied, stands⟩ := falls "q" network
  refine ⟨failed, ?_, (tests ⟨"openapi", ""⟩ service network).1⟩
  rw [replied]
  exact stands.failed (.status 500 "down") failed

end Agent

end ReconChat
