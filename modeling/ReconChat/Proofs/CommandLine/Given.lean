import ReconChat.Proofs.CommandLine.Arguments

/-!
What a run is given stands in its arguments as it is. A value is the argument behind its option, or
what is attached to it, character by character, and a flag is set exactly if an argument is the
flag. Each argument that is taken does one of four things, and what was read follows from the
arguments taken so far. Nothing is said here about arguments that are refused.
-/

namespace ReconChat.CommandLine

/-- Do the arguments give an option this value, in the next argument or in its own? -/
def ValueOption.IsGiven (option : ValueOption) (value : String) (arguments : List String) : Prop :=
  (∃ before behind, arguments = before ++ ("--" ++ option.name) :: value :: behind) ∨
    "--" ++ option.name ++ "=" ++ value ∈ arguments

theorem ValueOption.IsGiven.append {option : ValueOption} {value : String}
    {arguments : List String} (given : option.IsGiven value arguments) (later : List String) :
    option.IsGiven value (arguments ++ later) := by
  rcases given with ⟨before, behind, rfl⟩ | attached
  · exact .inl ⟨before, behind ++ later, by simp⟩
  · exact .inr (List.mem_append_left later attached)

inductive Took (reading : Reading) (argument : String) : Reading → Prop where
  | flag {settled : Reading} {flag : Flag} :
      reading.settle = .ok settled → argument = "--" ++ flag.name →
        Took reading argument
          ⟨{ settled.settled with flags := settled.settled.flags ++ [flag] },
            settled.given ++ [.flag flag], none⟩
  | waits {settled : Reading} {option : ValueOption} :
      reading.settle = .ok settled → argument = "--" ++ option.name →
        Took reading argument { settled with waiting := some (option, none) }
  | attached {settled next : Reading} {option : ValueOption} {value : String} :
      reading.settle = .ok settled → argument = "--" ++ option.name ++ "=" ++ value →
        settled.settleValue option value = .ok next → Took reading argument next
  | value {option : ValueOption} :
      reading.waiting = some (option, none) →
        (∀ chars, argument.toList ≠ '-' :: '-' :: chars) →
        Took reading argument { reading with waiting := some (option, some argument) }

section Took

variable {reading next : Reading} {argument : String}

theorem took_of_take_flag {flag : Flag} (same : argument = "--" ++ flag.name)
    (taken : takeFlag reading flag = .ok (.goOn next)) : Took reading argument next := by
  rw [takeFlag] at taken
  split at taken
  · cases taken
  · next settled given waiting done =>
      split at taken
      · cases taken
      · cases taken
      · split_ifs at taken
        cases taken
        exact .flag done same

section Long

variable {chars : List Char}

theorem eq_of_no_mark (dashes : argument.toList = '-' :: '-' :: chars)
    (rest : chars.dropWhile (· ≠ '=') = []) :
    argument = "--" ++ String.ofList (chars.takeWhile (· ≠ '=')) := by
  have whole : chars.takeWhile (· ≠ '=') ++ chars.dropWhile (· ≠ '=') = chars :=
    List.takeWhile_append_dropWhile
  rw [rest, List.append_nil] at whole
  apply String.toList_injective
  rw [dashes, whole]
  simp

theorem eq_of_mark {mark : Char} {value : List Char}
    (dashes : argument.toList = '-' :: '-' :: chars)
    (rest : chars.dropWhile (· ≠ '=') = mark :: value) :
    argument = "--" ++ String.ofList (chars.takeWhile (· ≠ '=')) ++ "=" ++ String.ofList value := by
  have whole : chars.takeWhile (· ≠ '=') ++ chars.dropWhile (· ≠ '=') = chars :=
    List.takeWhile_append_dropWhile
  have isMark : mark = '=' := by
    have stops := List.head?_dropWhile_not (fun char : Char => decide (char ≠ '=')) chars
    rw [rest] at stops
    simpa using stops
  rw [rest, isMark] at whole
  apply String.toList_injective
  rw [dashes]
  simpa using whole.symm

theorem flag_of_find {name : String} {flag : Flag}
    (found : Flag.all.find? (·.name = name) = some flag) : name = flag.name := by
  have same := List.find?_some found
  exact (of_decide_eq_true same).symm

theorem took_of_take_long (dashes : argument.toList = '-' :: '-' :: chars)
    (taken : takeLong reading chars = .ok (.goOn next)) : Took reading argument next := by
  unfold takeLong at taken
  cases rest : chars.dropWhile (· ≠ '=') with
  | nil =>
      have same := eq_of_no_mark dashes rest
      rw [rest] at taken
      dsimp only at taken
      split at taken
      · next option _ _ found =>
          rw [← ValueOption.find_name_iff.1 found] at same
          rw [takeOption] at taken
          split at taken
          · cases taken
          · next settled done =>
              cases taken
              exact .waits done same
      · next flag _ found _ =>
          rw [flag_of_find found] at same
          exact took_of_take_flag same taken
      · cases taken
      · cases taken
  | cons mark value =>
      have same := eq_of_mark dashes rest
      rw [rest] at taken
      dsimp only at taken
      split at taken
      · next option _ _ found =>
          rw [← ValueOption.find_name_iff.1 found] at same
          rw [takeOption] at taken
          split at taken
          · cases taken
          · next settled done =>
              obtain ⟨after, added, goesOn⟩ := Json.map_eq_ok taken
              cases goesOn
              exact .attached done same added
      · next none => cases none
      · cases taken
      · cases taken

end Long

theorem short_flag_answers {letter : Char} : takeShort reading letter ≠ .ok (.goOn next) := by
  intro taken
  rw [takeShort] at taken
  split at taken
  · next flag known =>
      have answers : flag = .help ∨ flag = .version := by
        rw [Flag.ofLetter?] at known
        split_ifs at known
        · exact .inl (Option.some.inj known).symm
        · exact .inr (Option.some.inj known).symm
      rw [takeFlag] at taken
      split at taken
      · cases taken
      · rcases answers with rfl | rfl <;> cases taken
  · cases taken

theorem took_of_take_argument (taken : takeArgument reading argument = .ok (.goOn next)) :
    Took reading argument next := by
  have plain (other : ∀ chars, argument.toList ≠ '-' :: '-' :: chars)
      (more : takePlain reading argument = .ok (.goOn next)) : Took reading argument next := by
    rw [takePlain] at more
    split at more
    · next waits =>
        cases more
        exact .value waits other
    · cases more
  rw [takeArgument] at taken
  split at taken
  · next chars dashes => exact took_of_take_long dashes taken
  · next dash =>
      refine plain (fun chars same => ?_) taken
      rw [dash] at same
      cases same
  · exact absurd taken short_flag_answers
  · next other _ _ => exact plain other taken

end Took

/-- Does what has been read stand in the arguments taken so far, and all flags among them in it? -/
structure Reading.Follows (reading : Reading) (taken : List String) : Prop where
  values : ∀ option value, (option, value) ∈ reading.settled.values → option.IsGiven value taken
  waits : ∀ option, reading.waiting = some (option, none) →
    ∃ before, taken = before ++ ["--" ++ option.name]
  filled : ∀ option value, reading.waiting = some (option, some value) →
    option.IsGiven value taken
  flags : ∀ flag, flag ∈ reading.settled.flags ↔ "--" ++ flag.name ∈ taken

namespace Reading.Follows

variable {reading next : Reading} {taken : List String} {argument : String}

theorem nothing_waits (nothing : reading.waiting = none)
    (values : ∀ option value, (option, value) ∈ reading.settled.values →
      option.IsGiven value taken)
    (flags : ∀ flag, flag ∈ reading.settled.flags ↔ "--" ++ flag.name ∈ taken) :
    reading.Follows taken where
  values := values
  waits option waiting := by
    rw [nothing] at waiting
    cases waiting
  filled option value waiting := by
    rw [nothing] at waiting
    cases waiting
  flags := flags

theorem start : Reading.start.Follows [] := by
  refine .nothing_waits rfl ?_ ?_
  · intro option value member
    cases member
  · intro flag
    exact iff_of_false List.not_mem_nil List.not_mem_nil

theorem settle_value {settled : Reading} {option : ValueOption} {value : String}
    (follows : settled.Follows taken) (given : option.IsGiven value taken)
    (added : settled.settleValue option value = .ok next) :
    next.Follows taken ∧ next.waiting = none := by
  rw [Reading.settleValue] at added
  split_ifs at added
  cases added
  refine ⟨.nothing_waits rfl ?_ follows.flags, rfl⟩
  intro other text member
  rcases List.mem_append.1 member with earlier | last
  · exact follows.values other text earlier
  · cases List.mem_singleton.1 last
    exact given

theorem settle (follows : reading.Follows taken) (settled : reading.settle = .ok next) :
    next.Follows taken ∧ next.waiting = none := by
  rw [Reading.settle] at settled
  split at settled
  · next nothing =>
      cases settled
      exact ⟨follows, nothing⟩
  · cases settled
  · next option value waiting =>
      exact follows.settle_value (follows.filled option value waiting) settled

theorem more (follows : reading.Follows taken) (nothing : reading.waiting = none)
    (noFlag : ∀ flag : Flag, argument ≠ "--" ++ flag.name) :
    reading.Follows (taken ++ [argument]) := by
  refine .nothing_waits nothing ?_ ?_
  · intro option value member
    exact (follows.values option value member).append [argument]
  · intro flag
    rw [follows.flags flag, List.mem_append, List.mem_singleton]
    exact (or_iff_left (noFlag flag).symm).symm

theorem option_is_no_flag (option : ValueOption) (flag : Flag) :
    "--" ++ option.name ≠ "--" ++ flag.name := by
  cases option <;> cases flag <;> decide

theorem attached_is_no_flag (option : ValueOption) (value : String) (flag : Flag) :
    "--" ++ option.name ++ "=" ++ value ≠ "--" ++ flag.name := by
  intro same
  have mark : '=' ∈ ("--" ++ flag.name).toList := by
    rw [← same]
    simp
  cases flag <;> exact absurd mark (by decide)

theorem plain_is_no_flag (other : ∀ chars, argument.toList ≠ '-' :: '-' :: chars) (flag : Flag) :
    argument ≠ "--" ++ flag.name := by
  rintro rfl
  exact other flag.name.toList (by simp)

theorem flag_name_injective {flag other : Flag} (same : "--" ++ flag.name = "--" ++ other.name) :
    flag = other := by
  revert same
  cases flag <;> cases other <;> decide

theorem took (follows : reading.Follows taken) (step : Took reading argument next) :
    next.Follows (taken ++ [argument]) := by
  cases step with
  | @flag settled flag done same =>
      obtain ⟨before, _⟩ := follows.settle done
      refine .nothing_waits rfl ?_ ?_
      · intro option value member
        exact (before.values option value member).append [argument]
      · intro other
        rw [List.mem_append, List.mem_append, before.flags, List.mem_singleton,
          List.mem_singleton, same]
        exact or_congr_right ⟨fun equal => by rw [equal], flag_name_injective⟩
  | @waits settled option done same =>
      obtain ⟨before, nothing⟩ := follows.settle done
      have later := before.more nothing fun flag => same ▸ option_is_no_flag option flag
      refine ⟨later.values, ?_, ?_, later.flags⟩
      · intro other waiting
        cases waiting
        exact ⟨taken, by rw [same]⟩
      · intro other value waiting
        cases waiting
  | @attached settled _ option value done same added =>
      obtain ⟨before, nothing⟩ := follows.settle done
      have later := before.more nothing fun flag => same ▸ attached_is_no_flag option value flag
      have given : option.IsGiven value (taken ++ [argument]) :=
        .inr (List.mem_append_right _ (List.mem_singleton.2 same.symm))
      exact (later.settle_value given added).1
  | @value option waiting other =>
      obtain ⟨before, whole⟩ := follows.waits option waiting
      refine ⟨?_, ?_, ?_, ?_⟩
      · intro named value member
        exact (follows.values named value member).append [argument]
      · intro named waits
        cases waits
      · intro named value same
        cases same
        exact .inl ⟨before, [], by rw [whole, List.append_assoc]; rfl⟩
      · intro flag
        rw [List.mem_append, List.mem_singleton, ← follows.flags flag]
        exact (or_iff_left (plain_is_no_flag other flag).symm).symm

end Reading.Follows

section Run

variable {reading : Reading} {taken arguments : List String} {result : Arguments}

theorem follows_of_settled (follows : reading.Follows taken)
    (ended : reading.settle.map (fun settled => Parsed.run settled.settled) = .ok (.run result)) :
    (∀ option value, (option, value) ∈ result.values → option.IsGiven value taken) ∧
      ∀ flag, flag ∈ result.flags ↔ "--" ++ flag.name ∈ taken := by
  obtain ⟨settled, done, same⟩ := Json.map_eq_ok ended
  cases same
  obtain ⟨later, _⟩ := follows.settle done
  exact ⟨later.values, later.flags⟩

theorem read_arguments_follow (follows : reading.Follows taken)
    (read : readArguments reading arguments = .ok (.run result)) :
    (∀ option value, (option, value) ∈ result.values → option.IsGiven value (taken ++ arguments)) ∧
      ∀ flag, flag ∈ result.flags ↔ "--" ++ flag.name ∈ taken ++ arguments := by
  induction arguments generalizing reading taken with
  | nil =>
      rw [List.append_nil]
      exact follows_of_settled follows read
  | cons argument rest induction =>
      unfold readArguments at read
      split at read
      · next dashes =>
          split at read
          · obtain ⟨values, flags⟩ := follows_of_settled follows read
            refine ⟨fun option value member => (values option value member).append _, ?_⟩
            intro flag
            have noFlag : "--" ++ flag.name ≠ argument := by
              rw [dashes]
              cases flag <;> decide
            rw [flags, List.mem_append, List.mem_singleton]
            exact (or_iff_left noFlag).symm
          · cases read
      · split at read
        · cases read
        · next parsed answers =>
            exact absurd (Except.ok.inj read) (take_argument_adds answers result)
        · next next goesOn =>
            have later := induction (follows.took (took_of_take_argument goesOn)) read
            rwa [List.append_assoc, List.singleton_append] at later

theorem value_is_given (parsed : parse arguments = .ok (.run result)) {option : ValueOption}
    {value : String} (found : result.value? option = some value) :
    option.IsGiven value arguments := by
  obtain ⟨values, _⟩ := read_arguments_follow .start parsed
  rw [Arguments.value?] at found
  obtain ⟨⟨named, text⟩, first, same⟩ := Option.map_eq_some_iff.1 found
  have isOption := List.find?_some first
  obtain rfl : named = option := of_decide_eq_true isOption
  obtain rfl : text = value := same
  exact values named text (List.mem_of_find?_eq_some first)

theorem has_flag_iff (parsed : parse arguments = .ok (.run result)) (flag : Flag) :
    result.has flag = true ↔ "--" ++ flag.name ∈ arguments := by
  obtain ⟨_, flags⟩ := read_arguments_follow .start parsed
  rw [Arguments.has, decide_eq_true_iff, flags flag, List.nil_append]

end Run

end ReconChat.CommandLine
