import Mathlib.Data.List.TakeWhile
import ReconChat.Proofs.Url.Host
import ReconChat.Proofs.Url.Parts

/-!
The host and the port that the text between the slashes of a web address and its path stands for.
They are read from that text alone: what is behind it can make the reading fail, but not change
it. A text that ends in a space or a control has none.
-/

namespace ReconChat.Url

def startsPath (path : List Char) : Bool := path.head?.all (isSlash true)

def hasNoSlash (text : List Char) : Bool := text.all (!isSlash true ·)

def hostPort (text : List Char) : Option (List Char × Option Nat) :=
  let (host, rest) := splitHost true false (splitUser true text).2
  if host.isEmpty then none
  else do
    let written ← Host.read host
    let (port, _) ← readPort "http" rest
    some (written, port)

section

variable {text path : List Char}

theorem take_region (noSlash : hasNoSlash text = true) (behind : startsPath path = true) :
    (text ++ path).takeWhile (!isSlash true ·) = text := by
  rw [List.takeWhile_append_of_pos (List.all_eq_true.1 noSlash)]
  cases path with
  | nil => exact List.append_nil text
  | cons char path =>
      have slash : isSlash true char = true := by simpa [startsPath] using behind
      rw [List.takeWhile_cons_of_neg (by simp [slash]), List.append_nil]

theorem split_user_append (noSlash : hasNoSlash text = true) (behind : startsPath path = true) :
    splitUser true (text ++ path) =
      ((splitUser true text).1, (splitUser true text).2 ++ path) := by
  have alone := take_region noSlash (show startsPath [] = true from rfl)
  rw [List.append_nil] at alone
  rw [splitUser, splitUser, take_region noSlash behind, alone]
  split
  · simp
  · rfl

theorem split_user_suffix (noSlash : hasNoSlash text = true) :
    ∃ front, text = front ++ (splitUser true text).2 ∧
      (front = [] ∨ front.getLast? = some '@') := by
  have alone := take_region noSlash (show startsPath [] = true from rfl)
  rw [List.append_nil] at alone
  rw [splitUser, alone]
  split
  · next after before parts =>
      have whole := (append_of_cut parts).1
      refine ⟨before.reverse ++ ['@'], ?_, .inr (by simp)⟩
      rw [List.drop_length, List.append_nil, ← List.reverse_reverse text, whole]
      simp
  · exact ⟨[], rfl, .inl rfl⟩

theorem no_slash_of_user (noSlash : hasNoSlash text = true) :
    hasNoSlash (splitUser true text).2 = true := by
  obtain ⟨front, suffix, _⟩ := split_user_suffix noSlash
  rw [hasNoSlash, suffix, List.all_append, Bool.and_eq_true] at noSlash
  exact noSlash.2

theorem split_host_stop {inBrackets : Bool} {char : Char}
    (ends : (isSlash true char || (char = ':' && !inBrackets)) = true) (rest : List Char) :
    splitHost true inBrackets (char :: rest) = ([], char :: rest) := by
  rw [splitHost, if_pos ends]

theorem split_host_go {inBrackets : Bool} {char : Char}
    (goesOn : ¬(isSlash true char || (char = ':' && !inBrackets)) = true) :
    ∃ within, ∀ rest, splitHost true inBrackets (char :: rest) =
      (char :: (splitHost true within rest).1, (splitHost true within rest).2) := by
  refine ⟨if char = '[' then true else if char = ']' then false else inBrackets, ?_⟩
  intro rest
  rw [splitHost, if_neg goesOn]

theorem split_host_append (inBrackets : Bool) (behind : startsPath path = true) :
    splitHost true inBrackets (text ++ path) =
      ((splitHost true inBrackets text).1, (splitHost true inBrackets text).2 ++ path) := by
  induction text generalizing inBrackets with
  | nil =>
      cases path with
      | nil => rfl
      | cons char path =>
          have slash : isSlash true char = true := by simpa [startsPath] using behind
          rw [List.nil_append, split_host_stop (by simp [slash])]
          rfl
  | cons char text induction =>
      rw [List.cons_append]
      by_cases ends : (isSlash true char || (char = ':' && !inBrackets)) = true
      · rw [split_host_stop ends, split_host_stop ends]
        rfl
      · obtain ⟨within, goes⟩ := split_host_go ends
        rw [goes, goes, induction]

theorem split_host_cases (inBrackets : Bool) (noSlash : hasNoSlash text = true) :
    text = (splitHost true inBrackets text).1 ++ (splitHost true inBrackets text).2 ∧
      ((splitHost true inBrackets text).2 = [] ∨
        ∃ digits, (splitHost true inBrackets text).2 = ':' :: digits) := by
  induction text generalizing inBrackets with
  | nil => exact ⟨rfl, .inl rfl⟩
  | cons char text induction =>
      rw [hasNoSlash, List.all_cons, Bool.and_eq_true, Bool.not_eq_true'] at noSlash
      by_cases ends : (isSlash true char || (char = ':' && !inBrackets)) = true
      · rw [split_host_stop ends]
        rw [noSlash.1, Bool.false_or, Bool.and_eq_true, decide_eq_true_eq] at ends
        exact ⟨rfl, .inr ⟨text, by rw [ends.1]⟩⟩
      · obtain ⟨within, goes⟩ := split_host_go ends
        obtain ⟨whole, rest⟩ := induction within noSlash.2
        rw [goes]
        exact ⟨by rw [List.cons_append, ← whole], rest⟩

theorem drop_digits_path (behind : startsPath path = true) :
    path.dropWhile Char.isDigit = path ∧ path.takeWhile Char.isDigit = [] := by
  cases path with
  | nil => exact ⟨rfl, rfl⟩
  | cons char path =>
      have slash : isSlash true char = true := by simpa [startsPath] using behind
      have noDigit : ¬char.isDigit = true := by
        simp only [isSlash, Bool.or_eq_true, Bool.true_and, decide_eq_true_eq] at slash
        rcases slash with rfl | rfl <;> decide
      exact ⟨List.dropWhile_cons_of_neg noDigit, List.takeWhile_cons_of_neg noDigit⟩

theorem read_port_path (behind : startsPath path = true) :
    readPort "http" path = some (none, path) := by
  rw [readPort.eq_def]
  split
  · simp [startsPath, isSlash] at behind
  · rfl

theorem read_port_append {digits rest : List Char} {port : Option Nat}
    (noSlash : hasNoSlash digits = true) (behind : startsPath path = true)
    (read : readPort "http" (':' :: (digits ++ path)) = some (port, rest)) :
    readPort "http" (':' :: digits) = some (port, []) := by
  rw [readPort] at read ⊢
  obtain ⟨dropped, taken⟩ := drop_digits_path behind
  rw [List.dropWhile_append, List.takeWhile_append] at read
  cases left : digits.dropWhile Char.isDigit with
  | nil =>
      have whole := List.takeWhile_append_dropWhile (p := Char.isDigit) (l := digits)
      rw [left, List.append_nil] at whole
      rw [left, whole] at read
      rw [whole]
      simp only [List.isEmpty_nil, if_true, dropped, taken, List.append_nil] at read
      split at read
      · obtain ⟨number, same, pair⟩ := Option.map_eq_some_iff.1 read
        cases pair
        rw [List.head?_nil, Option.all_none, if_pos rfl, same]
        rfl
      · cases read
  | cons char others =>
      rw [left] at read
      have member : char ∈ digits :=
        (List.dropWhile_sublist Char.isDigit).mem (left ▸ List.mem_cons_self)
      have other := List.all_eq_true.1 noSlash char member
      simp only [Bool.not_eq_true'] at other
      simp [other] at read

theorem read_port_alone {rest : List Char} {port : Option Nat} (noSlash : hasNoSlash text = true)
    (behind : startsPath path = true)
    (read : readPort "http" ((splitHost true false text).2 ++ path) = some (port, rest)) :
    readPort "http" (splitHost true false text).2 = some (port, []) := by
  obtain ⟨whole, ends⟩ := split_host_cases false noSlash
  rcases ends with nothing | ⟨digits, colon⟩
  · rw [nothing, List.nil_append, read_port_path behind] at read
    rw [nothing]
    cases read
    rfl
  · rw [colon, List.cons_append] at read
    rw [whole, hasNoSlash, List.all_append, colon, List.all_cons, Bool.and_eq_true,
      Bool.and_eq_true] at noSlash
    rw [colon]
    exact read_port_append noSlash.2.2 behind read

/-- Whoever is addressed in front of a path is addressed by the text alone. -/
theorem read_authority_host_port {tail : Bool} {authority : Authority}
    (noSlash : hasNoSlash text = true) (behind : startsPath path = true)
    (read : readAuthority "http" tail (text ++ path) = some authority) :
    hostPort text = some (authority.host, authority.port) := by
  have special : isSpecial "http" = true := by decide
  rw [readAuthority, special] at read
  simp only [split_user_append noSlash behind, split_host_append false behind] at read
  rw [hostPort]
  split at read
  · cases read
  split at read
  · cases read
  · next named =>
      have present : (splitHost true false (splitUser true text).2).1.isEmpty = false := by
        simpa [show isWeb "http" = true from rfl] using named
      rw [if_pos trivial] at read
      simp only [Option.bind_eq_bind, Option.bind_eq_some_iff, Option.some.injEq] at read
      obtain ⟨written, host, ⟨port, rest⟩, ported, rfl⟩ := read
      have alone := read_port_alone (no_slash_of_user noSlash) behind ported
      dsimp only
      rw [present, if_neg Bool.false_ne_true, host, alone]
      rfl

section Control

variable {last : Char}

theorem read_port_control (control : isControl last = true) {digits : List Char}
    (noSlash : hasNoSlash (digits ++ [last]) = true) :
    readPort "http" (':' :: (digits ++ [last])) = none := by
  rw [readPort]
  cases left : (digits ++ [last]).dropWhile Char.isDigit with
  | nil =>
      have digit := List.dropWhile_eq_nil_iff.1 left last (by simp)
      rw [control_no_digit control] at digit
      cases digit
  | cons char others =>
      have member : char ∈ digits ++ [last] :=
        (List.dropWhile_sublist Char.isDigit).mem (left ▸ List.mem_cons_self)
      have other := List.all_eq_true.1 noSlash char member
      simp only [Bool.not_eq_true'] at other
      simp [other]

theorem split_user_last (control : isControl last = true)
    (noSlash : hasNoSlash (text ++ [last]) = true) :
    ((splitUser true (text ++ [last])).2).getLast? = some last := by
  obtain ⟨front, suffix, ends⟩ := split_user_suffix noSlash
  have final : (text ++ [last]).getLast? = some last := List.getLast?_concat
  rw [suffix, List.getLast?_append] at final
  cases address : (splitUser true (text ++ [last])).2.getLast? with
  | some char => rwa [address, Option.some_or] at final
  | none =>
      rw [address, Option.none_or] at final
      rcases ends with nothing | sign
      · rw [nothing] at final
        cases final
      · have same : '@' = last := Option.some.inj (sign.symm.trans final)
        exact absurd same.symm (control_ne control (by decide))

theorem host_port_control (control : isControl last = true)
    (noSlash : hasNoSlash (text ++ [last]) = true) : hostPort (text ++ [last]) = none := by
  obtain ⟨inner, address⟩ := List.getLast?_eq_some_iff.1 (split_user_last control noSlash)
  have innerNoSlash := no_slash_of_user noSlash
  obtain ⟨whole, ends⟩ := split_host_cases false innerNoSlash
  rw [hostPort]
  dsimp only
  split
  · rfl
  rcases ends with nothing | ⟨digits, colon⟩
  · rw [nothing, List.append_nil] at whole
    rw [← whole, address, read_host_control control]
    rfl
  · have final : (':' :: digits).getLast? = some last := by
      have same := congrArg List.getLast? whole
      rw [address, List.getLast?_concat, ← address, colon, List.getLast?_append] at same
      cases behind : (':' :: digits).getLast? with
      | none => simp at behind
      | some char => rwa [behind, Option.some_or, eq_comm] at same
    have digitsEnd : digits.getLast? = some last := by
      cases digits with
      | nil =>
          have same : ':' = last := Option.some.inj final
          exact absurd same.symm (control_ne control (by decide))
      | cons digit digits => rwa [List.getLast?_cons_cons] at final
    obtain ⟨front, rfl⟩ := List.getLast?_eq_some_iff.1 digitsEnd
    rw [whole, hasNoSlash, List.all_append, colon, List.all_cons, Bool.and_eq_true,
      Bool.and_eq_true] at innerNoSlash
    rw [colon, read_port_control control innerNoSlash.2.2]
    cases Host.read (splitHost true false (splitUser true (text ++ [last])).2).1 <;> rfl

end Control

end

end ReconChat.Url
