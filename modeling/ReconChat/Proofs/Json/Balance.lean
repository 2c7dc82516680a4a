import ReconChat.Proofs.Json.Folds
import ReconChat.Proofs.Selection.Balance

/-!
JSON texts are balanced. What a reader takes for a value is made of items in the grammar of
spans, and what it takes for an object is a span: braces and quotation marks inside strings are
part of a literal, however they are escaped. The converse does not hold, since spans need not
be JSON.
-/

namespace ReconChat.Json

open Selection (LiteralBody Items Span)

def Balanced (chars rest : List Char) : Prop := ∃ text, chars = text ++ rest ∧ Items text

theorem items_append {first second : List Char} (left : Items first) (right : Items second) :
    Items (first ++ second) := by
  induction left using Items.rec (motive_1 := fun _ _ => True) with
  | braces _ _ => trivial
  | nil => exact right
  | plain notQuote notOpen notClose _ later => exact .plain notQuote notOpen notClose later
  | literal body _ later => simpa using Items.literal body later
  | span inner _ _ later => simpa using Items.span inner later

namespace Balanced

theorem trans {chars middle rest : List Char} (first : Balanced chars middle)
    (later : Balanced middle rest) : Balanced chars rest := by
  obtain ⟨front, rfl, frontItems⟩ := first
  obtain ⟨back, rfl, backItems⟩ := later
  exact ⟨front ++ back, by simp, items_append frontItems backItems⟩

theorem plain {char : Char} (notQuote : char ≠ '"') (notOpen : char ≠ '{') (notClose : char ≠ '}')
    (rest : List Char) : Balanced (char :: rest) rest :=
  ⟨[char], rfl, .plain notQuote notOpen notClose .nil⟩

theorem literal {body : List Char} (quoted : LiteralBody body) (rest : List Char) :
    Balanced ('"' :: (body ++ '"' :: rest)) rest :=
  ⟨'"' :: (body ++ ['"']), by simp, .literal quoted .nil⟩

theorem span {inner : List Char} (braces : Span inner) (rest : List Char) :
    Balanced (inner ++ rest) rest :=
  ⟨inner, rfl, by simpa using Items.span braces .nil⟩

theorem of_leaves {kind : Char → Bool}
    (harmless : kind '"' = false ∧ kind '{' = false ∧ kind '}' = false)
    {chars rest : List Char} (leaves : Leaves kind chars rest) : Balanced chars rest := by
  obtain ⟨text, rfl, all⟩ := leaves
  refine ⟨text, rfl, ?_⟩
  induction text with
  | nil => exact .nil
  | cons char text induction =>
      rw [List.all_cons, Bool.and_eq_true] at all
      obtain ⟨first, others⟩ := all
      refine .plain ?_ ?_ ?_ (induction others)
      · rintro rfl
        simp [harmless.1] at first
      · rintro rfl
        simp [harmless.2.1] at first
      · rintro rfl
        simp [harmless.2.2] at first

end Balanced

theorem drop_space_balanced (chars : List Char) : Balanced chars (dropSpace chars) :=
  .of_leaves (by decide) (drop_space_leaves chars)

theorem read_number_balanced {negative : Bool} {chars rest : List Char} {number : Number}
    (read : readNumber negative chars = .ok (number, rest)) : Balanced chars rest :=
  .of_leaves (by decide) (read_number_leaves read)

theorem read_word_balanced {word chars rest : List Char}
    (harmless : ∀ char ∈ word, char ≠ '"' ∧ char ≠ '{' ∧ char ≠ '}')
    (read : readWord word chars = .ok ((), rest)) : Balanced chars rest := by
  have leaves : Leaves (· ∈ word) chars rest := ⟨word, read_word_rest read, by simp⟩
  refine .of_leaves ?_ leaves
  simp only [decide_eq_false_iff_not]
  exact ⟨fun member => (harmless _ member).1 rfl, fun member => (harmless _ member).2.1 rfl,
    fun member => (harmless _ member).2.2 rfl⟩

theorem literal_body_of_hex_value {char : Char} {value : Nat} {rest : List Char}
    (digit : hexValue char = some value) (later : LiteralBody rest) :
    LiteralBody (char :: rest) := by
  refine .plain ?_ ?_ later
  · rintro rfl
    simp [hexValue] at digit
  · rintro rfl
    simp [hexValue] at digit

theorem literal_body_of_hex_quad {a b c d : Char} {unit : Nat} {rest : List Char}
    (quad : hexQuad a b c d = some unit) (later : LiteralBody rest) :
    LiteralBody ('\\' :: 'u' :: a :: b :: c :: d :: rest) := by
  simp only [hexQuad, Option.bind_eq_bind, Option.bind_eq_some_iff] at quad
  obtain ⟨_, first, _, second, _, third, _, fourth, _⟩ := quad
  exact .escaped (literal_body_of_hex_value first (literal_body_of_hex_value second
    (literal_body_of_hex_value third (literal_body_of_hex_value fourth later))))

/-- The induction is on the reader's own recursion; all cases without a recursive call but the
closing quotation mark are faults. -/
theorem literal_body_of_read_quoted {chars done rest : List Char} {text : String}
    (read : readQuoted chars done = .ok (text, rest)) :
    ∃ body, chars = body ++ '"' :: rest ∧ LiteralBody body := by
  fun_induction readQuoted chars done with
  | case2 =>
      cases read
      exact ⟨[], rfl, .nil⟩
  | case4 char chars _ notQuote _ notSlash induction =>
      obtain ⟨body, rfl, literal⟩ := induction read
      exact ⟨char :: body, rfl, .plain notQuote notSlash literal⟩
  | case11 char _ _ _ slash a b c d high first _ _ e f g h chars low second _ induction =>
      obtain ⟨body, rfl, literal⟩ := induction read
      have pair := literal_body_of_hex_quad first (literal_body_of_hex_quad second literal)
      exact ⟨_, by rw [Decidable.not_not.1 slash]; rfl, pair⟩
  | case16 char _ _ _ slash a b c d chars unit quad _ _ induction =>
      obtain ⟨body, rfl, literal⟩ := induction read
      exact ⟨_, by rw [Decidable.not_not.1 slash]; rfl, literal_body_of_hex_quad quad literal⟩
  | case18 char _ _ _ slash letter chars _ meant _ induction =>
      obtain ⟨body, rfl, literal⟩ := induction read
      exact ⟨'\\' :: letter :: body, by rw [Decidable.not_not.1 slash]; rfl, .escaped literal⟩
  | _ => cases read

theorem read_quoted_balanced {chars rest : List Char} {text : String}
    (read : readQuoted chars [] = .ok (text, rest)) : Balanced ('"' :: chars) rest := by
  obtain ⟨body, rfl, literal⟩ := literal_body_of_read_quoted read
  exact .literal literal rest

theorem read_colon_balanced {chars rest : List Char} (read : readColon chars = .ok rest) :
    Balanced chars rest := by
  refine (drop_space_balanced chars).trans ?_
  rw [readColon] at read
  split at read
  · cases read
  · next same =>
      cases read
      rw [same]
      exact .plain (by decide) (by decide) (by decide) rest
  · cases read

theorem list_turn_balanced {first : Bool} {chars : List Char} {turn : Turn}
    (read : listTurn first chars = .ok turn) :
    match turn with
    | .closed rest => Balanced chars (']' :: rest)
    | .entry start => Balanced chars start := by
  have spaced := drop_space_balanced chars
  rw [listTurn] at read
  split at read
  · cases read
  · next same =>
      cases read
      rwa [same] at spaced
  · next char rest _ same =>
      rw [same] at spaced
      split at read
      · cases read
        exact spaced
      · split at read
        · next comma =>
            subst comma
            have later : Balanced chars (dropSpace rest) :=
              (spaced.trans (.plain (by decide) (by decide) (by decide) rest)).trans
                (drop_space_balanced rest)
            split at read <;> cases read
            exact later
        · cases read

theorem object_turn_balanced {first : Bool} {chars : List Char} {turn : Turn}
    (read : objectTurn first chars = .ok turn) :
    match turn with
    | .closed rest => Balanced chars ('}' :: rest)
    | .entry start => Balanced chars ('"' :: start) := by
  have spaced := drop_space_balanced chars
  rw [objectTurn] at read
  split at read
  · cases read
  · next same =>
      cases read
      rwa [same] at spaced
  · next char rest _ same =>
      rw [same] at spaced
      split at read
      · split at read
        · next quote =>
            cases read
            rwa [quote] at spaced
        · cases read
      · split at read
        · next comma =>
            subst comma
            have later : Balanced chars (dropSpace rest) :=
              (spaced.trans (.plain (by decide) (by decide) (by decide) rest)).trans
                (drop_space_balanced rest)
            split at read <;> try cases read
            next quoted => rwa [quoted] at later
        · cases read

theorem fold_items_balanced {State : Type} {item : State → List Char → Result State}
    (balanced : ∀ {state next : State} {start rest : List Char},
      item state start = .ok (next, rest) → Balanced start rest)
    {clock : List Char} {first : Bool} {state next : State} {chars rest : List Char}
    (read : foldItems item clock first state chars = .ok (next, rest)) :
    Balanced chars (']' :: rest) := by
  refine fold_items_induction (fun _ _ _ chars => Balanced chars (']' :: rest)) ?_ ?_ read
  · exact fun turn => list_turn_balanced turn
  · exact fun turn entry later => ((list_turn_balanced turn).trans (balanced entry)).trans later

theorem fold_members_balanced {State : Type} {member : State → String → List Char → Result State}
    (balanced : ∀ {state next : State} {name : String} {start rest : List Char},
      member state name start = .ok (next, rest) → Balanced start rest)
    {clock : List Char} {first : Bool} {state next : State} {chars rest : List Char}
    (read : foldMembers member clock first state chars = .ok (next, rest)) :
    Balanced chars ('}' :: rest) := by
  refine fold_members_induction (fun _ _ _ chars => Balanced chars ('}' :: rest)) ?_ ?_ read
  · exact fun turn => object_turn_balanced turn
  · intro _ _ _ _ _ _ _ _ _ _ turn named entry later
    have behindName := (object_turn_balanced turn).trans (read_quoted_balanced named)
    exact (behindName.trans (balanced entry)).trans later

theorem read_item_balanced {depth : Nat}
    (balanced : ∀ {chars rest : List Char} {value : Value},
      readValue depth chars = .ok (value, rest) → Balanced chars rest)
    {items next : List Value} {start rest : List Char}
    (read : readItem depth items start = .ok (next, rest)) : Balanced start rest := by
  obtain ⟨_, taken, -⟩ := value_of_read_item read
  exact balanced taken

theorem read_member_balanced {depth : Nat}
    (balanced : ∀ {chars rest : List Char} {value : Value},
      readValue depth chars = .ok (value, rest) → Balanced chars rest)
    {name : String} {members next : List (String × Value)} {start rest : List Char}
    (read : readMember depth members name start = .ok (next, rest)) : Balanced start rest := by
  obtain ⟨_, _, colon, taken, -⟩ := value_of_read_member read
  exact (read_colon_balanced colon).trans (balanced taken)

theorem span_of_fold_members {depth : Nat}
    (balanced : ∀ {chars rest : List Char} {value : Value},
      readValue depth chars = .ok (value, rest) → Balanced chars rest)
    {clock start rest : List Char} {members : List (String × Value)}
    (read : foldMembers (readMember depth) clock true [] start = .ok (members, rest)) :
    ∃ span, '{' :: start = span ++ rest ∧ Span span := by
  obtain ⟨items, rfl, inside⟩ :=
    fold_members_balanced (fun member => read_member_balanced balanced member) read
  exact ⟨'{' :: (items ++ ['}']), by simp, .braces inside⟩

theorem read_value_balanced {depth : Nat} {chars rest : List Char} {value : Value}
    (read : readValue depth chars = .ok (value, rest)) : Balanced chars rest := by
  refine (drop_space_balanced chars).trans ?_
  have reading := reading_of_read_value read
  generalize dropSpace chars = spaced at reading ⊢
  cases reading with
  | null word =>
      have letters := read_word_balanced (by simp) word
      exact (Balanced.plain (by decide) (by decide) (by decide) _).trans letters
  | true word =>
      have letters := read_word_balanced (by simp) word
      exact (Balanced.plain (by decide) (by decide) (by decide) _).trans letters
  | false word =>
      have letters := read_word_balanced (by simp) word
      exact (Balanced.plain (by decide) (by decide) (by decide) _).trans letters
  | string quoted => exact read_quoted_balanced quoted
  | negative number =>
      have digits := read_number_balanced number
      exact (Balanced.plain (by decide) (by decide) (by decide) _).trans digits
  | natural _ number => exact read_number_balanced number
  | @array _ start _ _ folded =>
      have items := fold_items_balanced (read_item_balanced read_value_balanced) folded
      have opened : Balanced ('[' :: start) start :=
        .plain (by decide) (by decide) (by decide) start
      exact (opened.trans items).trans (.plain (by decide) (by decide) (by decide) rest)
  | object folded =>
      obtain ⟨span, same, braces⟩ := span_of_fold_members read_value_balanced folded
      rw [same]
      exact .span braces rest
termination_by depth

/-- A text that starts with a brace and is read as a value is an object and starts with a span. -/
theorem span_of_read_value {depth : Nat} {start rest : List Char} {value : Value}
    (read : readValue depth ('{' :: start) = .ok (value, rest)) :
    ∃ span members, '{' :: start = span ++ rest ∧ Span span ∧ value = .object members := by
  cases reading_of_read_value read with
  | natural digit _ => simp [isDigit, digitValue] at digit
  | object folded =>
      obtain ⟨span, same, braces⟩ := span_of_fold_members read_value_balanced folded
      exact ⟨span, _, same, braces, rfl⟩

end ReconChat.Json
