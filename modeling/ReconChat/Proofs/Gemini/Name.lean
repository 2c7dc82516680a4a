import ReconChat.Gemini.Client
import ReconChat.Proofs.Recon.Call
import ReconChat.Proofs.Text.Blank

/-!
The name of a model as the client uses it. It ends in no blank and has no collection in front, and
neither blanks around the model nor slashes behind the base address change the client. Blanks behind
a collection are kept, though: the name then begins with them, is not the name of itself, and is not
the name of the model without the collection. When that happens is settled here for every model.
-/

namespace ReconChat

namespace Text

def BeginsBlank (text : String) : Prop :=
  ∃ first rest, text.toList = first :: rest ∧ isBlank first = true

def trimEndChars (chars : List Char) : List Char := chars.rdropWhile isBlank

theorem trim_chars_of_visible {chars : List Char}
    (visible : ∀ first rest, chars = first :: rest → isBlank first = false) :
    trimChars chars = trimEndChars chars := by
  cases chars with
  | nil => rfl
  | cons first rest =>
      rw [trim_chars_eq, List.dropWhile_cons_of_neg (by rw [visible first rest rfl]; decide)]
      rfl

theorem trim_end_append {chars : List Char} {last : Char} (visible : isBlank last = false)
    (front : List Char) :
    trimEndChars (front ++ last :: chars) = front ++ last :: trimEndChars chars := by
  unfold trimEndChars
  induction chars using List.reverseRecOn with
  | nil =>
      rw [List.rdropWhile_concat_neg _ _ _ (by rw [visible]; decide)]
      rfl
  | append_singleton chars char induction =>
      rw [← List.cons_append, ← List.append_assoc, List.rdropWhile_concat, List.rdropWhile_concat,
        induction]
      split
      · rfl
      · rw [List.append_assoc, List.cons_append]

theorem length_trim_chars_lt {text : String} (begins : BeginsBlank text) :
    (trimChars text.toList).length < text.toList.length := by
  obtain ⟨first, rest, whole, blank⟩ := begins
  have dropped : text.toList.dropWhile isBlank <:+ rest := by
    rw [whole, List.dropWhile_cons_of_pos blank]
    exact List.dropWhile_suffix _
  have kept : trimChars text.toList <+: text.toList.dropWhile isBlank := List.rdropWhile_prefix _ _
  have longer : text.toList.length = rest.length + 1 := by rw [whole, List.length_cons]
  exact longer ▸ Nat.lt_succ_of_le (Nat.le_trans kept.length_le dropped.length_le)

theorem trim_chars_trim_end (chars : List Char) :
    trimChars (trimEndChars chars) = trimChars chars := by
  have whole := List.rdropWhile_append_rtakeWhile (p := isBlank) (l := chars)
  have blank : ∀ char ∈ chars.rtakeWhile isBlank, isBlank char = true :=
    fun char inside => List.mem_rtakeWhile_imp inside
  conv_rhs => rw [← whole]
  exact (trim_chars_behind blank _).symm

theorem begins_blank_trim_end {text : String} (begins : BeginsBlank text)
    (speaks : ¬allBlank text = true) :
    BeginsBlank (String.ofList (trimEndChars text.toList)) := by
  obtain ⟨first, rest, whole, blank⟩ := begins
  cases kept : trimEndChars text.toList with
  | nil => exact absurd ((all_blank_iff text).2 (List.rdropWhile_eq_nil_iff.1 kept)) speaks
  | cons other later =>
      have front : trimEndChars text.toList <+: text.toList := List.rdropWhile_prefix _ _
      rw [kept, whole] at front
      refine ⟨other, later, String.toList_ofList, ?_⟩
      rwa [(List.cons_prefix_cons.1 front).1]

end Text

namespace Gemini

open Text (BeginsBlank isBlank trimEndChars)

def collection : List Char := ['m', 'o', 'd', 'e', 'l', 's', '/']

/-- A model with its collection written in front of it, several times. -/
def collected : (count : Nat) → (model : String) → String
  | 0, model => model
  | count + 1, model => "models/" ++ collected count model

section Collection

variable {chars : List Char} {model : String}

theorem to_list_collected (count : Nat) (model : String) :
    (collected count model).toList = (List.replicate count collection).flatten ++ model.toList := by
  induction count with
  | zero => rfl
  | succ count induction =>
      rw [collected, String.toList_append, induction, List.replicate_succ, List.flatten_cons,
        List.append_assoc]
      rfl

theorem without_collection_collected (count : Nat) (model : String) :
    withoutCollection (collected count model).toList = withoutCollection model.toList := by
  induction count with
  | zero => rfl
  | succ count induction =>
      rw [collected, String.toList_append]
      exact induction

theorem collection_absent (chars : List Char) : ¬collection <+: withoutCollection chars := by
  fun_induction withoutCollection chars with
  | case1 rest induction => exact induction
  | case2 name other =>
      rintro ⟨rest, rfl⟩
      exact other rest rfl

theorem without_collection_of_absent (absent : ¬collection <+: chars) :
    withoutCollection chars = chars := by
  rw [withoutCollection.eq_def]
  split
  · next rest => exact absurd ⟨rest, rfl⟩ absent
  · rfl

theorem eq_collected (chars : List Char) :
    ∃ count, chars = (collected count (String.ofList (withoutCollection chars))).toList := by
  fun_induction withoutCollection chars with
  | case1 rest induction =>
      obtain ⟨count, whole⟩ := induction
      refine ⟨count + 1, ?_⟩
      rw [collected, String.toList_append, ← whole]
      rfl
  | case2 name => exact ⟨0, String.toList_ofList.symm⟩

theorem without_collection_suffix (chars : List Char) : withoutCollection chars <:+ chars := by
  obtain ⟨count, whole⟩ := eq_collected chars
  rw [to_list_collected, String.toList_ofList] at whole
  exact ⟨_, whole.symm⟩

theorem collection_absent_of_blank (begins : BeginsBlank model) : ¬collection <+: model.toList := by
  obtain ⟨first, rest, whole, blank⟩ := begins
  rintro ⟨later, same⟩
  rw [whole] at same
  rw [← (List.cons.inj same).1] at blank
  cases blank

end Collection

section Name

variable {model : String}

theorem to_list_model_name (model : String) :
    (modelName model).toList = withoutCollection (Text.trimChars model.toList) :=
  String.toList_ofList

theorem model_name_ends {last : Char} (ends : (modelName model).toList.getLast? = some last) :
    isBlank last = false := by
  rw [to_list_model_name] at ends
  obtain ⟨front, whole⟩ := without_collection_suffix (Text.trimChars model.toList)
  have last : (Text.trimChars model.toList).getLast? = some last := by
    rw [← whole, List.getLast?_append, ends, Option.some_or]
  exact Text.trim_chars_ends last

theorem model_name_begins_iff (model : String) :
    BeginsBlank (modelName model) ↔
      ∃ count text, Text.trim model = collected count text ∧ BeginsBlank text := by
  constructor
  · intro begins
    obtain ⟨count, whole⟩ := eq_collected (Text.trimChars model.toList)
    refine ⟨count, modelName model, ?_, begins⟩
    apply String.toList_injective
    rw [Text.trim, String.toList_ofList]
    exact whole
  · rintro ⟨count, text, whole, begins⟩
    have chars : Text.trimChars model.toList = (collected count text).toList := by
      rw [← whole, Text.trim, String.toList_ofList]
    have name : modelName model = text := by
      apply String.toList_injective
      rw [to_list_model_name, chars, without_collection_collected,
        without_collection_of_absent (collection_absent_of_blank begins)]
    rwa [name]

theorem length_model_name_le (model : String) :
    (modelName model).toList.length ≤ (Text.trimChars model.toList).length := by
  rw [to_list_model_name]
  exact (without_collection_suffix _).length_le

/-- A name is the name of itself unless it begins with a blank. -/
theorem model_name_model_name_iff (model : String) :
    modelName (modelName model) = modelName model ↔ ¬BeginsBlank (modelName model) := by
  constructor
  · intro same begins
    have shorter := Nat.lt_of_le_of_lt (length_model_name_le (modelName model))
      (Text.length_trim_chars_lt begins)
    rw [same] at shorter
    exact Nat.lt_irrefl _ shorter
  · intro visible
    have front : ∀ first rest, (modelName model).toList = first :: rest → isBlank first = false :=
      fun first rest whole => Bool.eq_false_iff.2 fun blank => visible ⟨first, rest, whole, blank⟩
    have behind : trimEndChars (modelName model).toList = (modelName model).toList := by
      refine List.rdropWhile_eq_self_iff.2 fun nonempty => ?_
      rw [model_name_ends (List.getLast?_eq_some_getLast nonempty)]
      exact Bool.false_ne_true
    have absent : ¬collection <+: (modelName model).toList := by
      rw [to_list_model_name]
      exact collection_absent _
    apply String.toList_injective
    rw [to_list_model_name, Text.trim_chars_of_visible front, behind,
      without_collection_of_absent absent]

theorem to_list_model_name_collected (count : Nat) (model : String) :
    (modelName (collected (count + 1) model)).toList =
      withoutCollection (trimEndChars model.toList) := by
  have whole : (collected (count + 1) model).toList =
      (List.replicate count collection).flatten ++ ['m', 'o', 'd', 'e', 'l', 's'] ++
        '/' :: model.toList := by
    rw [to_list_collected, List.replicate_succ', List.flatten_concat, List.append_assoc,
      List.append_assoc]
    rfl
  have visible : ∀ first rest, (collected (count + 1) model).toList = first :: rest →
      isBlank first = false := by
    intro first rest same
    rw [collected, String.toList_append] at same
    rw [← (List.cons.inj same).1]
    rfl
  have kept : trimEndChars (collected (count + 1) model).toList =
      (collected (count + 1) (String.ofList (trimEndChars model.toList))).toList := by
    rw [whole, Text.trim_end_append (show isBlank '/' = false from rfl), to_list_collected,
      List.replicate_succ', List.flatten_concat, String.toList_ofList, List.append_assoc,
      List.append_assoc]
    rfl
  rw [to_list_model_name, Text.trim_chars_of_visible visible, kept, without_collection_collected,
    String.toList_ofList]

theorem model_name_collected_iff (count : Nat) (model : String) :
    modelName (collected count model) = modelName model ↔
      count = 0 ∨ Text.allBlank model = true ∨ ¬BeginsBlank model := by
  cases count with
  | zero => simp [collected]
  | succ count =>
      rw [← String.toList_inj, to_list_model_name_collected, to_list_model_name]
      constructor
      · intro same
        refine .inr (or_iff_not_imp_right.2 fun begins => ?_)
        rw [not_not] at begins
        by_contra speaks
        have ended := Text.begins_blank_trim_end begins speaks
        have longer := Text.length_trim_chars_lt ended
        have absent := collection_absent_of_blank ended
        rw [String.toList_ofList] at longer absent
        rw [without_collection_of_absent absent] at same
        rw [Text.trim_chars_trim_end, same] at longer
        exact Nat.not_le_of_lt longer (without_collection_suffix _).length_le
      · rintro (none | blank | visible)
        · cases none
        · have all := (Text.all_blank_iff model).1 blank
          have nothing : trimEndChars model.toList = [] := List.rdropWhile_eq_nil_iff.2 all
          rw [nothing, (Text.trim_chars_eq_nil _).2 (List.all_eq_true.2 all)]
        · have front : ∀ first rest, model.toList = first :: rest → isBlank first = false :=
            fun first rest whole =>
              Bool.eq_false_iff.2 fun blank => visible ⟨first, rest, whole, blank⟩
          rw [Text.trim_chars_of_visible front]

end Name

theorem target_of_inj (baseUrl : String) {model other : String} :
    targetOf baseUrl model = targetOf baseUrl other ↔ model = other := by
  constructor
  · intro same
    have chars := congrArg String.toList same
    simp only [targetOf, String.toList_append, List.append_assoc,
      List.append_cancel_left_eq] at chars
    exact String.toList_injective (List.append_cancel_right chars)
  · rintro rfl
    rfl

namespace Client

variable {settings : GeminiSettings} {apiKey : String}

theorem of_settings_model_iff {model other : String} :
    ofSettings { settings with model := model } apiKey =
        ofSettings { settings with model := other } apiKey ↔
      modelName model = modelName other := by
  constructor
  · exact fun same => congrArg Client.model same
  · intro same
    unfold ofSettings
    dsimp only
    rw [same]

theorem target_of_settings_iff {model other : String} :
    (ofSettings { settings with model := model } apiKey).target =
        (ofSettings { settings with model := other } apiKey).target ↔
      modelName model = modelName other :=
  target_of_inj settings.baseUrl

/-- The name of a client's model has no collection in front and ends in no blank. It begins with a
blank exactly if the model has one behind collections, and is a model with the same client exactly
if it does not. Blanks around the model and slashes behind the base never change the client.
Collections in front of the model leave the address unless the model begins with a blank and has
more than blanks. -/
theorem name_settles_unless_blank_behind_collection (settings : GeminiSettings)
    (apiKey : String) :
    let client := ofSettings settings apiKey
    let named (model : String) := ofSettings { settings with model := model } apiKey
    ¬"models/".toList <+: client.model.toList ∧
    (∀ last, client.model.toList.getLast? = some last → isBlank last = false) ∧
    (BeginsBlank client.model ↔
      ∃ count text, Text.trim settings.model = collected count text ∧ BeginsBlank text) ∧
    (named client.model = client ↔ ¬BeginsBlank client.model) ∧
    (∀ front back, Text.allBlank front = true → Text.allBlank back = true →
      named (front ++ settings.model ++ back) = client) ∧
    (∀ count, (named (collected count settings.model)).target = client.target ↔
      count = 0 ∨ Text.allBlank settings.model = true ∨ ¬BeginsBlank settings.model) ∧
    ∀ count, ofSettings
      { settings with
        baseUrl := settings.baseUrl ++ String.ofList (List.replicate count '/') } apiKey =
        client := by
  intro client named
  refine ⟨?_, fun last => model_name_ends, model_name_begins_iff settings.model, ?_, ?_, ?_, ?_⟩
  · have name : client.model.toList = withoutCollection (Text.trimChars settings.model.toList) :=
      to_list_model_name settings.model
    rw [name]
    exact collection_absent _
  · exact of_settings_model_iff.trans (model_name_model_name_iff settings.model)
  · intro front back before behind
    refine of_settings_model_iff.2 ?_
    have trimmed := congrArg String.toList (Text.trim_between before behind settings.model)
    rw [Text.trim, Text.trim, String.toList_ofList, String.toList_ofList] at trimmed
    rw [modelName, modelName, trimmed]
  · intro count
    exact target_of_settings_iff.trans (model_name_collected_iff count settings.model)
  · intro count
    unfold client ofSettings targetOf
    dsimp only
    rw [Text.drop_trailing_slashes_append]

/-- A model whose blanks stand where they do no harm. -/
theorem spaced_model_is_settled :
    let settings : GeminiSettings := ⟨none, " models/models/m\n", "http://gemini//", none⟩
    let client := ofSettings settings "key"
    ¬BeginsBlank client.model ∧
      ofSettings { settings with model := client.model } "key" = client ∧
      ofSettings { settings with model := "\t" ++ settings.model ++ "\u3000" } "key" = client := by
  intro settings client
  have visible : ¬BeginsBlank client.model := by
    rintro ⟨first, rest, whole, blank⟩
    rw [show client.model.toList = ['m'] by decide +kernel] at whole
    rw [← (List.cons.inj whole).1] at blank
    cases blank
  obtain ⟨_, _, _, again, between, _, _⟩ :=
    name_settles_unless_blank_behind_collection settings "key"
  exact ⟨visible, again.2 visible, between "\t" "\u3000" (by decide) (by decide)⟩

/-- A blank behind the collection is kept in the name and goes into the request, where the name's
own name has none. -/
theorem blank_behind_collection_stays :
    let settings : GeminiSettings := ⟨none, "models/ m", "http://gemini", none⟩
    let client := ofSettings settings "key"
    let renamed := ofSettings { settings with model := client.model } "key"
    let asked (given : Client) :=
      ((given.order "p").request.toOption.map fun request => String.ofList request.url.toChars)
    client.model = " m" ∧ renamed.model = "m" ∧
      asked client = some "http://gemini/v1beta/models/%20m:generateContent" ∧
      asked renamed = some "http://gemini/v1beta/models/m:generateContent" := by
  decide +kernel

end Client

end Gemini

end ReconChat
