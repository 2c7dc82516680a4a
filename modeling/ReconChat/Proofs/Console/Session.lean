import ReconChat.Agent.Scripted
import ReconChat.Console.Session
import ReconChat.Proofs.Agent.Key
import ReconChat.Proofs.Gemini.Order
import ReconChat.Proofs.Text.Blank

/-!
The course of a console session that nobody interrupts. It handles the items up to the first that
ends it, or all of them; each has a prompt and a block of its own, every query among them is put to
the agent once and in order, and one goodbye closes the session. What stands behind the end plays
no part. An interactive session is such a session behind a connection test, or the test alone.
-/

namespace ReconChat.Console

open Http (Network)

namespace Item

def ends : Item → Bool
  | .line text => Text.lowercase (Text.trim text) ∈ ["quit", "exit", "bye"]
  | .failure _ => false

def asksHelp : Item → Bool
  | .line text => Text.lowercase (Text.trim text) ∈ ["help", "capabilities"]
  | .failure _ => false

/-- The query of an item: a line that is neither a command nor blank, without blanks around it. -/
def query? (item : Item) : Option String :=
  match item with
  | .line text =>
      if item.ends || item.asksHelp || Text.allBlank text then none else some (Text.trim text)
  | .failure _ => none

def ownBlock (item : Item) : String :=
  match item with
  | .line _ => if item.asksHelp then "\nAssistant:\n" ++ capabilities ++ "\n" else ""
  | .failure words => "\nError: " ++ words ++ "\n"

end Item

def untilEnd (items : List Item) : List Item := items.takeWhile fun item => !item.ends

def queriesUntilEnd (items : List Item) : List String := (untilEnd items).filterMap Item.query?

def answerBlock (answer : String) : String := "\nAssistant: " ++ answer ++ "\n"

/-- What is written for items that do not end a session. There is one answer for each query among
them. -/
def transcript : List Item → (answers : List String) → String
  | [], _ => ""
  | item :: items, answers =>
      match item.query?, answers with
      | some _, answer :: later => prompt ++ answerBlock answer ++ transcript items later
      | _, _ => prompt ++ item.ownBlock ++ transcript items answers

def closing (items : List Item) : String :=
  prompt ++ if items.any Item.ends then "Goodbye!\n" else "\nGoodbye!\n"

theorem parse_line (text : String) :
    Command.parse text =
      if (Item.line text).ends then .quit
      else if (Item.line text).asksHelp then .help
      else if Text.allBlank text then .empty
      else .query (Text.trim text) := by
  simp only [Command.parse, Item.ends, Item.asksHelp, decide_eq_true_eq, ← Text.trim_eq_empty,
    String.isEmpty_iff, Command.quitWords, Command.helpWords]

theorem until_end_append {items : List Item} (ended : items.any Item.ends = true)
    (later : List Item) : untilEnd (items ++ later) = untilEnd items := by
  induction items with
  | nil => simp at ended
  | cons item items induction =>
      cases ends : item.ends with
      | true => simp [untilEnd, ends]
      | false =>
          have rest : items.any Item.ends = true := by simpa [ends] using ended
          simpa [untilEnd, ends] using induction rest

section Run

variable {m : Type → Type} [Monad m]

theorem react_eq (agent : Agent m) (item : Item) :
    react agent false item =
      if item.ends then return .finish goodbye
      else
        match item.query? with
        | some query => do return .goOn (answerBlock (← agent.processQuery query))
        | none => return .goOn item.ownBlock := by
  cases item with
  | failure words => rfl
  | line text =>
      rw [react, parse_line, Item.query?, Item.ownBlock]
      cases (Item.line text).ends with
      | true => rfl
      | false =>
          cases (Item.line text).asksHelp with
          | true => rfl
          | false => cases Text.allBlank text <;> rfl

/-- The queries of a session are asked in order, once each, and its output is settled by their
answers. -/
theorem chat_eq [LawfulMonad m] (agent : Agent m) (items : List Item) :
    chat agent false items = do
      let answers ← (queriesUntilEnd items).mapM agent.processQuery
      return transcript (untilEnd items) answers ++ closing items := by
  induction items with
  | nil =>
      rw [queriesUntilEnd, untilEnd, List.takeWhile_nil, List.filterMap_nil, List.mapM_nil,
        pure_bind]
      rfl
  | cons item items induction =>
      rw [chat, react_eq]
      cases ended : item.ends with
      | true =>
          have front : untilEnd (item :: items) = [] := by simp [untilEnd, ended]
          have closed : closing (item :: items) = prompt ++ goodbye := by
            simp [closing, ended, goodbye]
          rw [queriesUntilEnd, front, closed, if_pos rfl, pure_bind, List.filterMap_nil,
            List.mapM_nil, pure_bind]
          rfl
      | false =>
          have front : untilEnd (item :: items) = item :: untilEnd items := by
            simp [untilEnd, ended]
          have closed : closing (item :: items) = closing items := by simp [closing, ended]
          rw [if_neg (by decide), queriesUntilEnd, front, closed]
          -- Either way the item's block goes in front of what the rest writes.
          cases asked : item.query? <;>
            simp [asked, induction, transcript, queriesUntilEnd, String.append_assoc]

/-- What stands behind the item that ends a session is neither written about nor asked. -/
theorem chat_append [LawfulMonad m] (agent : Agent m) {items : List Item}
    (ended : items.any Item.ends = true) (later : List Item) :
    chat agent false (items ++ later) = chat agent false items := by
  have closed : closing (items ++ later) = closing items := by
    rw [closing, closing, List.any_append, ended, Bool.true_or]
  rw [chat_eq, chat_eq, queriesUntilEnd, queriesUntilEnd, until_end_append ended, closed]

end Run

/-- No exchange between two networks asks the model to select an endpoint. -/
def SelectsNowhere (gemini : Gemini.Client) (before after : Network) : Prop :=
  ∃ made, after.exchanges = before.exchanges ++ made ∧
    ∀ exchange ∈ made, ∀ query schema guide,
      exchange.order ≠ gemini.order (Prompt.selection query schema guide)

/-- Without Recon an interactive session ends where its test does. -/
theorem interactive_unconnected {State : Type} {agent : Agent (StateM State)}
    {before after : State} {report : ConnectionReport}
    (tested : agent.testConnections before = (report, after))
    (unconnected : report.recon.isConnected = false) (items : List Item) :
    interactive agent false items before = (opening ++ report.summary ++ reconHint, after) := by
  have run : interactive agent false items before =
      (if (agent.testConnections before).1.recon.isConnected then do
          return opening ++ (agent.testConnections before).1.summary ++ invitation ++
            (← chat agent false items)
        else return opening ++ (agent.testConnections before).1.summary ++ reconHint :
          StateM State String) (agent.testConnections before).2 := rfl
  rw [run, tested, unconnected]
  rfl

theorem test_order_ne_selection {gemini : Gemini.Client} {recon : Recon.Client}
    {network : Network} {order : Http.Order}
    (member : order ∈ Agent.testOrders gemini recon network) (query schema guide : String) :
    order ≠ gemini.order (Prompt.selection query schema guide) := by
  intro same
  rcases List.mem_cons.1 member with fallback | service
  · have prompts := Gemini.Client.order_injective (fallback.symm.trans same)
    exact Prompt.fallback_ne_selection _ _ _ _ prompts
  · have asks : order = recon.probeOrder ∨
        order = recon.dataOrder Recon.clusterStateEndpoint .empty := by
      rw [Agent.serviceOrders] at service
      split at service
      · simpa using service
      · exact .inl (List.mem_singleton.1 service)
    have gets : order.method = .get := by rcases asks with rfl | rfl <;> rfl
    rw [same] at gets
    cases gets

theorem test_selects_nowhere {settings : Settings} {apiKey : String} {documents : Documents}
    {before after : Network} {report : ConnectionReport}
    (tested : (Agent.live settings apiKey documents).testConnections before = (report, after)) :
    SelectsNowhere (Gemini.Client.ofSettings settings.gemini apiKey) before after := by
  have orders : ((Agent.live settings apiKey documents).testConnections before).2 =
      before.afterAll (Agent.testOrders (Gemini.Client.ofSettings settings.gemini apiKey)
        (Recon.Client.ofSettings settings.recon) before) := Agent.test_connections_orders
  rw [tested] at orders
  change after = _ at orders
  obtain ⟨made, whole, ordered, _⟩ := before.after_all_made (Agent.testOrders
    (Gemini.Client.ofSettings settings.gemini apiKey) (Recon.Client.ofSettings settings.recon)
    before)
  refine ⟨made, orders ▸ whole, ?_⟩
  intro exchange member
  exact test_order_ne_selection (ordered ▸ List.mem_map_of_mem member)

/-- A session handles its items in order up to the first that ends it: each has a prompt and its
block, each query among them is asked once, and one goodbye closes the output. What is behind that
item changes nothing. An interactive session does the same behind its test if Recon is connected,
and otherwise takes no item and has the model select nothing. -/
theorem session_takes_items_in_order {m : Type → Type} [Monad m] [LawfulMonad m]
    (agent : Agent m) (items : List Item) :
    let session : m String := do
      let answers ← (queriesUntilEnd items).mapM agent.processQuery
      return transcript (untilEnd items) answers ++ closing items
    chat agent false items = session ∧
    (∀ later, items.any Item.ends = true → chat agent false (items ++ later) = session) ∧
    interactive agent false items = (do
      let report ← agent.testConnections
      let start := opening ++ report.summary
      if report.recon.isConnected then return start ++ invitation ++ (← session)
      else return start ++ reconHint) ∧
    ∀ settings apiKey documents before report after,
      let live := Agent.live settings apiKey documents
      live.testConnections before = (report, after) → report.recon.isConnected = false →
        interactive live false items before = (opening ++ report.summary ++ reconHint, after) ∧
        SelectsNowhere (Gemini.Client.ofSettings settings.gemini apiKey) before after := by
  intro session
  have course : chat agent false items = session := chat_eq agent items
  refine ⟨course, ?_, ?_, ?_⟩
  · intro later ended
    rw [chat_append agent ended, course]
  · rw [interactive, course]
  · intro settings apiKey documents before report after live tested unconnected
    exact ⟨interactive_unconnected tested unconnected items, test_selects_nowhere tested⟩

/-- Of two queries the first is asked; the second stands behind a line that ends the session. -/
theorem lines_behind_exit_stay_unread :
    let agent : Agent (StateM StepCounts) :=
      .scripted ⟨"openapi", ""⟩ (.documentation (some "Keys.")) .online
    let items : List Item := [.failure "torn", .line " \t", .line " What is it? ", .line "Exit "]
    let session := chat agent false (items ++ [.line "And this?"]) StepCounts.zero
    items.any Item.ends = true ∧
      session.1 = "\nYou: \nError: torn\n\nYou: \nYou: \nAssistant: Keys.\n\nYou: Goodbye!\n" ∧
      session.2 = ⟨1, 0, 0, 0⟩ := by
  intro agent items session
  have ended : items.any Item.ends = true := by decide
  have course := (session_takes_items_in_order agent items).2.1 [.line "And this?"] ended
  rw [show session = _ from congrFun course StepCounts.zero]
  refine ⟨ended, ?_, ?_⟩
  · decide +kernel
  · decide +kernel

end ReconChat.Console
