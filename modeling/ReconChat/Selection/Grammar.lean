/-!
The grammar of a span: braces in pairs, string literals in which braces do not count, and any other
characters. A literal runs from a quotation mark to the next one that no backslash escapes. The
grammar says which spans there are; it does not look for them.
-/

namespace ReconChat.Selection

/-- What stands between the quotation marks of a literal. -/
inductive LiteralBody : List Char → Prop where
  | nil : LiteralBody []
  | plain {char : Char} {rest : List Char} :
      char ≠ '"' → char ≠ '\\' → LiteralBody rest → LiteralBody (char :: rest)
  | escaped {char : Char} {rest : List Char} :
      LiteralBody rest → LiteralBody ('\\' :: char :: rest)

mutual

/-- A span: an opening brace, items, and the brace that closes it. -/
inductive Span : List Char → Prop where
  | braces {items : List Char} : Items items → Span ('{' :: (items ++ ['}']))

inductive Items : List Char → Prop where
  | nil : Items []
  | plain {char : Char} {rest : List Char} :
      char ≠ '"' → char ≠ '{' → char ≠ '}' → Items rest → Items (char :: rest)
  | literal {body rest : List Char} :
      LiteralBody body → Items rest → Items ('"' :: (body ++ '"' :: rest))
  | span {inner rest : List Char} : Span inner → Items rest → Items (inner ++ rest)

end

end ReconChat.Selection
