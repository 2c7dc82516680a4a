import ReconChat.Json.Printer
import ReconChat.Selection.Basic

/-!
The prompts of the three exchanges with the language model. Query, schema, guide and data stand
in them verbatim; nothing is escaped and nothing is cut.
-/

namespace ReconChat.Prompt

def selectionInstructions : String :=
  "You are an expert on Apache Ozone Recon, the service that provides insight into Ozone cluster data.

Classify the user's query and respond accordingly:

1. DATA queries ask for current cluster information. Choose the single most appropriate API endpoint.
2. DOCUMENTATION queries ask what an API is for, when to use it, or what it can do. Answer them directly from the documentation.

You have the full Recon API specification and, when available, a guide describing the purpose of each API.

For DATA queries respond with this JSON:
\x7b
    \"endpoint\": \"/api/v1/endpoint/path\",
    \"method\": \"GET\",
    \"parameters\": \x7b
        \"param_name\": \"param_value\"
    \x7d,
    \"reasoning\": \"Why this endpoint answers the query\"
\x7d

For DOCUMENTATION queries respond with this JSON:
\x7b
    \"type\": \"DOCUMENTATION_QUERY\",
    \"answer\": \"Direct answer based on the API guide\",
    \"reasoning\": \"Which part of the documentation was used\"
\x7d
"

def guideReminder : String :=
  "Remember: answer documentation questions directly from the API Guide, and use the API Specification to select endpoints for data queries."

def summaryInstructions : String :=
  "You are an expert on Apache Ozone Recon data analysis.

Analyze the API response data and write a clear, concise answer to the user's question.

Guidelines:
- Focus on the information that answers the specific question
- Prefer plain, non-technical language
- Include the relevant numbers, counts and statistics
- Call out problems such as unhealthy or missing containers
- Keep the answer short but informative
- If the response is empty or has nothing relevant, say so plainly

Reply with a direct answer to the user's question."

def selectionOpening : String :=
  selectionInstructions ++
    "\nIf neither an API endpoint nor the documentation can answer the query, respond with \"" ++
    Selection.sentinel ++ "\".\n\nAPI Specification:\n"

/-- The guide with its heading and reminder; nothing for an empty guide. -/
def guideSection (guide : String) : String :=
  if guide.isEmpty then ""
  else "\n\nDetailed API Guide:\n" ++ guide ++ "\n\n" ++ guideReminder

def selection (query schema guide : String) : String :=
  selectionOpening ++ schema ++ guideSection guide ++ "\n\nUser Query: " ++ query

def summaryOpening (query endpoint : String) : String :=
  summaryInstructions ++ "\n\nUser asked: \"" ++ query ++ "\"\n\nAPI endpoint called: " ++
    endpoint ++ "\n\nAPI response data:\n"

def summaryClosing : String :=
  "\n\nPlease provide a clear summary that answers the user's question."

def summary (query : String) (data : Json.Value) (endpoint : String) : String :=
  summaryOpening query endpoint ++ data.indented ++ summaryClosing

def fallback (query : String) : String :=
  "The user asked: \"" ++ query ++
    "\"

This question cannot be answered using the available Ozone Recon API endpoints.

Write a helpful reply that:
1. Politely explains that you can only answer questions about Ozone Recon cluster data
2. Briefly lists the kinds of information you can provide (containers, keys, datanodes, pipelines, etc.)
3. Suggests how to rephrase the question if it is related to Ozone

Keep it friendly and concise."

end ReconChat.Prompt
