import ReconChat.ChatService.ListenAddress
import ReconChat.Proofs.Json.Numeral
import ReconChat.Proofs.Text.Blank

/-!
The address on which the chat service listens, as the environment settles it. A text is a port
exactly if it consists of digits, perhaps behind one plus sign, that denote a number of 16 bits.
Zeros in front do not count however many they are, and a number that does not fit is refused and
never cut short. Host and port have a variable each. An address as JSON is left out.
-/

namespace ReconChat.ChatService

open Json (isDigit)

/-- Digits that denote a number of 16 bits. -/
structure DenotesPort (digits : List Char) (port : Nat) : Prop where
  nonempty : digits ≠ []
  all : ∀ char ∈ digits, '0' ≤ char ∧ char ≤ '9'
  value : Nat.ofDigitChars 10 digits 0 = port
  fits : port ≤ 65535

/-- The texts for a port: digits, or one plus sign and digits. -/
def SpellsPort (text : String) (port : Nat) : Prop :=
  ∃ digits, (text.toList = digits ∨ text.toList = '+' :: digits) ∧ DenotesPort digits port

/-- The digits in front settle whether a number is too large, and what follows them whether there is
a number at all. -/
theorem port_digits_eq (chars : List Char) {value : Nat} (small : value ≤ largestPort) :
    portDigits chars value =
      let number := Nat.ofDigitChars 10 (chars.takeWhile isDigit) value
      if largestPort < number then .error .tooLarge
      else if chars.dropWhile isDigit = [] then .ok number
      else .error .invalidDigit := by
  induction chars generalizing value with
  | nil =>
      rw [portDigits, List.takeWhile_nil, Nat.ofDigitChars_nil]
      exact (if_neg (Nat.not_lt.2 small)).symm
  | cons char chars induction =>
      rw [portDigits]
      by_cases digit : isDigit char = true
      · have longer : Nat.ofDigitChars 10 (char :: chars.takeWhile isDigit) value =
            Nat.ofDigitChars 10 (chars.takeWhile isDigit) (value * 10 + (char.toNat - 48)) := by
          rw [Nat.ofDigitChars_cons, Nat.mul_comm]
          rfl
        rw [Json.digit_value_of_is_digit digit, List.takeWhile_cons_of_pos digit,
          List.dropWhile_cons_of_pos digit, longer]
        dsimp only
        split
        · next fits => exact induction fits
        · next exceeds =>
            -- More digits only make the number larger, so that stopping early loses nothing.
            have grows := Json.le_of_digit_chars (chars.takeWhile isDigit)
              (value * 10 + (char.toNat - 48))
            rw [if_pos (Nat.lt_of_lt_of_le (Nat.not_le.1 exceeds) grows)]
      · have none : Json.digitValue char = none := by simpa [isDigit] using digit
        rw [none, List.takeWhile_cons_of_neg digit, List.dropWhile_cons_of_neg digit,
          Nat.ofDigitChars_nil]
        dsimp only
        rw [if_neg (Nat.not_lt.2 small), if_neg (List.cons_ne_nil _ _)]

theorem all_digits_iff (chars : List Char) :
    chars.dropWhile isDigit = [] ↔ ∀ char ∈ chars, '0' ≤ char ∧ char ≤ '9' := by
  simp only [List.dropWhile_eq_nil_iff, Json.is_digit_iff]

theorem port_digits_iff {chars : List Char} (nonempty : chars ≠ []) (port : Nat) :
    portDigits chars 0 = .ok port ↔ DenotesPort chars port := by
  rw [port_digits_eq chars (Nat.zero_le _)]
  dsimp only
  constructor
  · intro read
    split at read
    · cases read
    · next fits =>
        split at read
        · next whole =>
            have digits := (all_digits_iff chars).1 whole
            rw [List.takeWhile_eq_self_iff.2 (List.dropWhile_eq_nil_iff.1 whole)] at read fits
            cases read
            exact ⟨nonempty, digits, rfl, Nat.not_lt.1 fits⟩
        · cases read
  · rintro ⟨_, digits, rfl, fits⟩
    have whole := (all_digits_iff chars).2 digits
    have small : ¬largestPort < Nat.ofDigitChars 10 chars 0 := Nat.not_lt.2 fits
    rw [List.takeWhile_eq_self_iff.2 (List.dropWhile_eq_nil_iff.1 whole), if_neg small,
      if_pos whole]

theorem not_denotes_of_sign {chars : List Char} {port : Nat} :
    ¬DenotesPort ('+' :: chars) port := by
  intro denotes
  exact absurd (denotes.all '+' List.mem_cons_self) (by decide)

theorem read_port_iff (text : String) (port : Nat) :
    readPort text = .ok port ↔ SpellsPort text port := by
  rw [readPort]
  constructor
  · intro read
    split at read
    · cases read
    · cases read
    · next digits more signed =>
        exact ⟨digits, .inr signed, (port_digits_iff more port).1 read⟩
    · next nonempty _ _ =>
        exact ⟨text.toList, .inl rfl, (port_digits_iff nonempty port).1 read⟩
  · rintro ⟨digits, unsigned | signed, denotes⟩
    · rw [unsigned]
      split
      · exact absurd rfl denotes.nonempty
      · exact absurd denotes not_denotes_of_sign
      · exact absurd denotes not_denotes_of_sign
      · exact (port_digits_iff denotes.nonempty port).2 denotes
    · rw [signed]
      cases digits with
      | nil => exact absurd rfl denotes.nonempty
      | cons first others => exact (port_digits_iff denotes.nonempty port).2 denotes

theorem padded_of_digits {digits : List Char} (nonempty : digits ≠ [])
    (all : digits.all isDigit = true) :
    ∃ zeros, digits =
      List.replicate zeros '0' ++ Nat.toDigits 10 (Nat.ofDigitChars 10 digits 0) := by
  induction digits with
  | nil => exact absurd rfl nonempty
  | cons first others induction =>
      rw [List.all_cons, Bool.and_eq_true] at all
      by_cases zero : first = '0'
      · subst zero
        have same : Nat.ofDigitChars 10 ('0' :: others) 0 = Nat.ofDigitChars 10 others 0 :=
          Nat.ofDigitChars_cons
        rw [same]
        by_cases last : others = []
        · subst last
          exact ⟨0, rfl⟩
        · obtain ⟨zeros, padded⟩ := induction last all.2
          exact ⟨zeros + 1, congrArg ('0' :: ·) padded⟩
      · exact ⟨0, (Json.to_digits_of_numeral all.1 zero all.2).symm⟩

/-- The texts that are read as a port are its decimal with any number of zeros in front, and these
behind a plus sign. -/
theorem read_port_iff_padded (text : String) (port : Nat) :
    readPort text = .ok port ↔ port ≤ 65535 ∧ ∃ zeros,
      let digits := List.replicate zeros '0' ++ Nat.toDigits 10 port
      text.toList = digits ∨ text.toList = '+' :: digits := by
  rw [read_port_iff]
  constructor
  · rintro ⟨digits, written, nonempty, all, rfl, fits⟩
    have decimal : digits.all isDigit = true :=
      List.all_eq_true.2 fun char member => (Json.is_digit_iff char).2 (all char member)
    obtain ⟨zeros, padded⟩ := padded_of_digits nonempty decimal
    refine ⟨fits, zeros, ?_⟩
    dsimp only
    rw [← padded]
    exact written
  · rintro ⟨fits, zeros, written⟩
    refine ⟨_, written, ?_, ?_, ?_, fits⟩
    · intro nothing
      exact Nat.toDigits_ne_nil (List.append_eq_nil_iff.1 nothing).2
    · intro char member
      rcases List.mem_append.1 member with zero | digit
      · rw [List.eq_of_mem_replicate zero]
        decide
      · have all := List.all_eq_true.1 (Json.digits_of_number port)
        exact (Json.is_digit_iff char).1 (all char digit)
    · rw [Nat.ofDigitChars_append, Nat.ofDigitChars_replicate_zero, Nat.mul_zero,
        Nat.ofDigitChars_ten_toDigits]

namespace ListenAddress

variable {environment : Environment}

theorem port_setting_of_set {text : String} (set : environment "CHAT_API_PORT" = some text) :
    portSetting environment = readPort text := by
  rw [portSetting, set]

theorem host_eq_of_speaks {host : String} (set : environment "CHAT_API_HOST" = some host)
    (speaks : Text.trim host ≠ "") : (ofEnvironment environment).host = host := by
  have visible : ¬Text.allBlank host = true :=
    fun blank => speaks ((Text.trim_eq_empty host).2 blank)
  rw [ofEnvironment, Environment.spoken?, set, Option.bind_some, Text.unlessBlank, if_neg visible]
  rfl

theorem host_eq_default
    (silent : ∀ host, environment "CHAT_API_HOST" = some host → Text.trim host = "") :
    (ofEnvironment environment).host = defaultHost := by
  rw [ofEnvironment, Environment.spoken?]
  cases set : environment "CHAT_API_HOST" with
  | none => rfl
  | some host =>
      have blank := (Text.trim_eq_empty host).1 (silent host set)
      rw [Option.bind_some, Text.unlessBlank, if_pos blank]
      rfl

/-- The default host is not blank, so that a blank variable is never the host. -/
theorem host_eq_iff_speaks {host : String} (set : environment "CHAT_API_HOST" = some host) :
    (ofEnvironment environment).host = host ↔ Text.trim host ≠ "" := by
  constructor
  · intro kept blank
    have silent : ∀ other, environment "CHAT_API_HOST" = some other → Text.trim other = "" := by
      intro other same
      rw [set, Option.some.injEq] at same
      rwa [← same]
    rw [← kept, host_eq_default silent] at blank
    exact absurd blank (by decide)
  · exact host_eq_of_speaks set

theorem port_eq_of_spells {text : String} {port : Nat}
    (set : environment "CHAT_API_PORT" = some text) (spells : SpellsPort text port) :
    (ofEnvironment environment).port = port := by
  rw [ofEnvironment, port_setting_of_set set, (read_port_iff text port).2 spells]

theorem port_eq_default
    (unusable : ∀ text port, environment "CHAT_API_PORT" = some text → ¬SpellsPort text port) :
    (ofEnvironment environment).port = defaultPort := by
  rw [ofEnvironment]
  cases set : environment "CHAT_API_PORT" with
  | none => rw [portSetting, set]
  | some text =>
      rw [port_setting_of_set set]
      cases read : readPort text with
      | error error => rfl
      | ok port => exact absurd ((read_port_iff text port).1 read) (unusable text port set)

end ListenAddress

/-- The port is the number that its variable spells, and the default port unless it spells one. The
host is its variable as it is, and the default host unless that says something. Neither variable has
a part in the other setting. -/
theorem address_settled_by_own_variables (environment : Environment) :
    let address := ListenAddress.ofEnvironment environment
    (∀ text port, environment "CHAT_API_PORT" = some text →
      (ListenAddress.portSetting environment = .ok port ↔ SpellsPort text port)) ∧
    (∀ text port, environment "CHAT_API_PORT" = some text → SpellsPort text port →
      address.port = port) ∧
    ((∀ text port, environment "CHAT_API_PORT" = some text → ¬SpellsPort text port) →
      address.port = 5001) ∧
    (∀ host, environment "CHAT_API_HOST" = some host →
      (address.host = host ↔ Text.trim host ≠ "")) ∧
    ((∀ host, environment "CHAT_API_HOST" = some host → Text.trim host = "") →
      address.host = "0.0.0.0") ∧
    ∀ other : Environment,
      (other "CHAT_API_HOST" = environment "CHAT_API_HOST" →
        (ListenAddress.ofEnvironment other).host = address.host) ∧
      (other "CHAT_API_PORT" = environment "CHAT_API_PORT" →
        (ListenAddress.ofEnvironment other).port = address.port) := by
  refine ⟨?_, ?_, ListenAddress.port_eq_default, ?_, ListenAddress.host_eq_default, ?_⟩
  · intro text port set
    rw [ListenAddress.port_setting_of_set set, read_port_iff]
  · intro text port set spells
    exact ListenAddress.port_eq_of_spells set spells
  · intro host set
    exact ListenAddress.host_eq_iff_speaks set
  · intro other
    constructor
    · intro same
      rw [ListenAddress.ofEnvironment, ListenAddress.ofEnvironment, Environment.spoken?,
        Environment.spoken?, same]
    · intro same
      rw [ListenAddress.ofEnvironment, ListenAddress.ofEnvironment, ListenAddress.portSetting,
        ListenAddress.portSetting, same]

/-- The largest port is taken behind a sign and zeros, with a host that begins with a blank. The
next number is refused, and so is a host of blanks. -/
theorem largest_port_is_taken_and_next_refused :
    let taken : Environment := fun name =>
      if name = "CHAT_API_PORT" then some "+00000000000065535"
      else if name = "CHAT_API_HOST" then some " ::1" else none
    let refused : Environment := fun name =>
      if name = "CHAT_API_PORT" then some "65536"
      else if name = "CHAT_API_HOST" then some " \u3000" else none
    ListenAddress.ofEnvironment taken = ⟨" ::1", 65535⟩ ∧
      ListenAddress.ofEnvironment refused = ⟨"0.0.0.0", 5001⟩ := by
  intro taken refused
  obtain ⟨_, ports, _, hosts, _⟩ := address_settled_by_own_variables taken
  obtain ⟨settings, _, defaultPort, _, defaultHost, _⟩ := address_settled_by_own_variables refused
  have spells : SpellsPort "+00000000000065535" 65535 := (read_port_iff _ _).1 (by decide)
  have tooLarge : ListenAddress.portSetting refused = .error .tooLarge := by decide
  constructor
  · have port := ports _ _ rfl spells
    have host := (hosts " ::1" rfl).2 (by decide)
    rw [← port, ← host]
  · have port := defaultPort fun text port set spelled => by
      have read := (settings text port set).2 spelled
      rw [tooLarge] at read
      cases read
    have host := defaultHost fun host set => by
      obtain rfl := Option.some.inj set
      decide
    rw [← port, ← host]

end ReconChat.ChatService
