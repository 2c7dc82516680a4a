import ReconChat.CommandLine.Arguments
import ReconChat.Proofs.Json.Reading
import ReconChat.Proofs.Text.FirstMark

/-!
Which options a run is given. An option is given exactly if an argument names it, alone or with a
value attached: no argument that looks like an option is ever the value of another one, and none
that was accepted is lost. Each argument adds the option that it names to those given so far, among
them the option that waits for its value.
-/

namespace ReconChat.CommandLine

namespace ValueOption

def IsNamed (option : ValueOption) (argument : String) : Prop :=
  argument = "--" ++ option.name ∨ ∃ value, argument = "--" ++ option.name ++ "=" ++ value

theorem find_name_iff {option : ValueOption} {name : String} :
    all.find? (·.name = name) = some option ↔ option.name = name := by
  constructor
  · intro found
    simpa using List.find?_some found
  · rintro rfl
    cases option <;> rfl

theorem name_without_mark (option : ValueOption) : '=' ∉ option.name.toList := by
  cases option <;> decide

/-- An argument with two dashes in front names the option that stands before the first mark. -/
theorem is_named_iff {option : ValueOption} {argument : String} {chars : List Char}
    (dashes : argument.toList = '-' :: '-' :: chars) :
    option.IsNamed argument ↔ option.name = String.ofList (chars.takeWhile (· ≠ '=')) := by
  simp only [IsNamed, ← String.toList_inj, String.toList_append, dashes, String.toList_ofList]
  constructor
  · rintro (same | ⟨value, same⟩)
    · obtain rfl : chars = option.name.toList := by simpa using same
      rw [Text.take_while_absent option.name_without_mark]
    · obtain rfl : chars = option.name.toList ++ '=' :: value.toList := by simpa using same
      rw [Text.take_while_before option.name_without_mark]
  · intro same
    by_cases mark : '=' ∈ chars
    · obtain ⟨name, value, rfl, absent⟩ := List.eq_append_cons_of_mem mark
      rw [Text.take_while_before absent] at same
      refine .inr ⟨String.ofList value, ?_⟩
      simp [same]
    · rw [Text.take_while_absent mark] at same
      refine .inl ?_
      simp [same]

theorem unnamed_without_dashes {option : ValueOption} {argument : String}
    (other : ∀ chars, argument.toList ≠ '-' :: '-' :: chars) : ¬option.IsNamed argument := by
  rintro (rfl | ⟨value, rfl⟩)
  · exact other option.name.toList (by simp)
  · exact other (option.name.toList ++ '=' :: value.toList) (by simp)

theorem unnamed_by_dashes (option : ValueOption) : ¬option.IsNamed "--" := by
  rw [is_named_iff (show "--".toList = ['-', '-'] from rfl)]
  cases option <;> decide

end ValueOption

namespace Reading

variable {reading next : Reading} {option : ValueOption}

/-- Is an option given so far, even if its value is still to come? -/
def Has (reading : Reading) (option : ValueOption) : Prop :=
  (reading.settled.value? option).isSome = true ∨ ∃ value, reading.waiting = some (option, value)

theorem has_of_nothing_waiting (nothing : reading.waiting = none) :
    reading.Has option ↔ (reading.settled.value? option).isSome = true := by
  simp [Has, nothing]

theorem start_has_none (option : ValueOption) : ¬start.Has option := by
  simp [Has, start, Arguments.value?, Arguments.none]

theorem value_added (settled : Arguments) (added : ValueOption) (value : String) :
    (Arguments.value? { settled with values := settled.values ++ [(added, value)] } option).isSome =
        true ↔
      (settled.value? option).isSome = true ∨ added = option := by
  simp [Arguments.value?, List.find?_append]

theorem settle_value_has {added : ValueOption} {value : String}
    (settled : reading.settleValue added value = .ok next) :
    next.waiting = none ∧
      ∀ option, next.Has option ↔
        (reading.settled.value? option).isSome = true ∨ added = option := by
  rw [settleValue] at settled
  split_ifs at settled
  cases settled
  refine ⟨rfl, fun option => ?_⟩
  rw [has_of_nothing_waiting rfl, value_added]

theorem settle_has (settled : reading.settle = .ok next) :
    next.waiting = none ∧ ∀ option, next.Has option ↔ reading.Has option := by
  rw [settle] at settled
  split at settled
  · next nothing =>
      cases settled
      exact ⟨nothing, fun _ => Iff.rfl⟩
  · cases settled
  · next added value waits =>
      obtain ⟨nothing, has⟩ := settle_value_has settled
      refine ⟨nothing, fun option => (has option).trans ?_⟩
      simp [Has, waits]

end Reading

section Step

variable {reading : Reading} {step : Step}

/-- A step that goes on has what there was before and what is added, and an answer is no run. -/
def Step.Adds (reading : Reading) (added : ValueOption → Prop) : Step → Prop
  | .goOn next => ∀ option, next.Has option ↔ reading.Has option ∨ added option
  | .answer parsed => ∀ result, parsed ≠ .run result

theorem Step.adds_congr {added other : ValueOption → Prop}
    (same : ∀ option, added option ↔ other option) :
    step.Adds reading added ↔ step.Adds reading other := by
  cases step with
  | goOn next => simp only [Step.Adds, same]
  | answer parsed => exact Iff.rfl

theorem take_flag_adds {flag : Flag} (taken : takeFlag reading flag = .ok step) :
    step.Adds reading fun _ => False := by
  rw [takeFlag] at taken
  split at taken
  · cases taken
  · next settled given waiting done =>
      split at taken
      · cases taken
        exact nofun
      · cases taken
        exact nofun
      · split_ifs at taken
        cases taken
        intro option
        obtain ⟨nothing, has⟩ := Reading.settle_has done
        rw [or_false, ← has, Reading.has_of_nothing_waiting nothing,
          Reading.has_of_nothing_waiting rfl]
        rfl

theorem take_option_adds {added : ValueOption} {attached : Option String}
    (taken : takeOption reading added attached = .ok step) : step.Adds reading (added = ·) := by
  rw [takeOption] at taken
  split at taken
  · cases taken
  · next settled done =>
      obtain ⟨nothing, has⟩ := Reading.settle_has done
      cases attached with
      | none =>
          cases taken
          intro option
          rw [← has, Reading.has_of_nothing_waiting nothing]
          simp [Reading.Has]
      | some value =>
          obtain ⟨next, more, rfl⟩ := Json.map_eq_ok taken
          intro option
          rw [← has, Reading.has_of_nothing_waiting nothing]
          exact (Reading.settle_value_has more).2 option

theorem take_long_adds {chars : List Char} (taken : takeLong reading chars = .ok step) :
    step.Adds reading fun option =>
      option.name = String.ofList (chars.takeWhile (· ≠ '=')) := by
  refine (Step.adds_congr fun option => ValueOption.find_name_iff).1 ?_
  rw [takeLong] at taken
  split at taken
  · next found =>
      refine (Step.adds_congr fun option => ?_).1 (take_option_adds taken)
      rw [found, Option.some.injEq]
  · next found _ _ =>
      refine (Step.adds_congr fun option => ?_).1 (take_flag_adds taken)
      rw [found]
      simp
  · cases taken
  · cases taken

theorem take_short_adds {letter : Char} (taken : takeShort reading letter = .ok step) :
    step.Adds reading fun _ => False := by
  rw [takeShort] at taken
  split at taken
  · exact take_flag_adds taken
  · cases taken

theorem take_plain_adds {argument : String} (taken : takePlain reading argument = .ok step) :
    step.Adds reading fun _ => False := by
  rw [takePlain] at taken
  split at taken
  · next waits =>
      cases taken
      intro option
      simp [Reading.Has, waits]
  · cases taken

theorem take_argument_adds {argument : String}
    (taken : takeArgument reading argument = .ok step) :
    step.Adds reading (·.IsNamed argument) := by
  have unnamed (nothing : step.Adds reading fun _ => False)
      (other : ∀ chars, argument.toList ≠ '-' :: '-' :: chars) :
      step.Adds reading (·.IsNamed argument) := by
    refine (Step.adds_congr fun option => ?_).1 nothing
    simp [ValueOption.unnamed_without_dashes other]
  rw [takeArgument] at taken
  split at taken
  · next chars dashes =>
      exact (Step.adds_congr fun option => (ValueOption.is_named_iff dashes).symm).1
        (take_long_adds taken)
  · next dash =>
      refine unnamed (take_plain_adds taken) fun chars same => ?_
      rw [dash] at same
      cases same
  · next other found =>
      refine unnamed (take_short_adds taken) fun chars same => ?_
      rw [found] at same
      cases same
      exact other rfl
  · next other _ _ => exact unnamed (take_plain_adds taken) other

end Step

section Run

variable {reading : Reading} {arguments : List String} {result : Arguments}

theorem settled_run_has {option : ValueOption}
    (ended : reading.settle.map (fun settled => Parsed.run settled.settled) = .ok (.run result)) :
    (result.value? option).isSome = true ↔ reading.Has option := by
  obtain ⟨settled, done, same⟩ := Json.map_eq_ok ended
  cases same
  obtain ⟨nothing, has⟩ := Reading.settle_has done
  rw [← has, Reading.has_of_nothing_waiting nothing]

theorem read_arguments_has (read : readArguments reading arguments = .ok (.run result))
    (option : ValueOption) :
    (result.value? option).isSome = true ↔
      reading.Has option ∨ ∃ argument ∈ arguments, option.IsNamed argument := by
  induction arguments generalizing reading with
  | nil =>
      rw [settled_run_has read]
      simp
  | cons argument rest ih =>
      unfold readArguments at read
      split at read
      · next dashes =>
          split at read
          · rw [settled_run_has read, dashes]
            simp [option.unnamed_by_dashes]
          · cases read
      · split at read
        · cases read
        · next parsed taken =>
            exact absurd (Except.ok.inj read) (take_argument_adds taken result)
        · next next taken =>
            rw [ih read, take_argument_adds taken, or_assoc]
            simp

theorem value_given_iff (parsed : parse arguments = .ok (.run result)) (option : ValueOption) :
    (result.value? option).isSome = true ↔ ∃ argument ∈ arguments, option.IsNamed argument := by
  rw [read_arguments_has parsed, or_iff_right (Reading.start_has_none option)]

theorem value_missing_iff (parsed : parse arguments = .ok (.run result)) (option : ValueOption) :
    result.value? option = none ↔ ∀ argument ∈ arguments, ¬option.IsNamed argument := by
  rw [← Option.not_isSome_iff_eq_none, value_given_iff parsed]
  simp

end Run

end ReconChat.CommandLine
