import Mathlib.Data.List.Forall2
import ReconChat.Proofs.Json.Canonical
import ReconChat.Proofs.Json.Natural
import ReconChat.Proofs.Json.Spelling
import ReconChat.Proofs.Recon.Call
import ReconChat.Proofs.Recon.Reading

/-!
The counts of a cluster state against the text that it comes as. Each count has a text of its own,
that of the last member of its name or of the item in its place, and is the number whose decimal
this text is. A text that is neither a decimal of 64 bits nor null, or a list of another length,
makes the whole reply no cluster state. In which words a reply is refused is not said here.
-/

namespace ReconChat.Recon

open Json (Value Spelling)

def named (summary : ClusterSummary) : List (String × Option UInt64) :=
  [("totalDatanodes", summary.totalDatanodes), ("healthyDatanodes", summary.healthyDatanodes),
    ("containers", summary.containers), ("missingContainers", summary.missingContainers),
    ("openContainers", summary.openContainers), ("pipelines", summary.pipelines),
    ("volumes", summary.volumes), ("buckets", summary.buckets), ("keys", summary.keys)]

/-- The text of the last member of a name in an object. -/
def memberText (text : List Char) (name : String) : Option (List Char) :=
  (latest? name ((Json.spelledMembers (Json.nestingLimit - 1) (Json.dropSpace text)).getD [])).map
    Spelling.text

def itemTexts (text : List Char) : List (Option (List Char)) :=
  ((Json.spelledItems (Json.nestingLimit - 1) (Json.dropSpace text)).getD []).map fun item =>
    some item.text

def countTexts (text : List Char) : List (Option (List Char)) :=
  match Json.readDocument text with
  | .ok (.object _) => countNames.map (memberText text)
  | .ok (.array _) => itemTexts text
  | _ => []

inductive IsCount : Option (List Char) → Prop where
  | missing : IsCount none
  | null : IsCount (some ['n', 'u', 'l', 'l'])
  | decimal (count : UInt64) : IsCount (some (Nat.toDigits 10 count.toNat))

def StatesCounts (text : List Char) : Prop :=
  (countTexts text).length = 9 ∧ ∀ own ∈ countTexts text, IsCount own

/-- Is a count the number that its text is the decimal of? -/
def IsOf (own : Option (List Char)) (count : Option UInt64) : Prop :=
  ∀ number : UInt64, count = some number ↔ own = some (Nat.toDigits 10 number.toNat)

def Tells (own : Option (List Char)) (count : Option UInt64) : Prop := IsCount own ∧ IsOf own count

section Text

theorem decimal_injective {number other : UInt64}
    (same : Nat.toDigits 10 number.toNat = Nat.toDigits 10 other.toNat) : number = other := by
  have denoted := congrArg (fun digits => Nat.ofDigitChars 10 digits 0) same
  simp only [Nat.ofDigitChars_ten_toDigits] at denoted
  exact UInt64.toNat_inj.1 denoted

theorem null_is_no_decimal (number : Nat) : ['n', 'u', 'l', 'l'] ≠ Nat.toDigits 10 number := by
  intro same
  obtain ⟨first, others, digits, digit⟩ := Json.to_digits_begins number
  rw [digits] at same
  obtain ⟨rfl, _⟩ := List.cons.inj same
  exact absurd digit (by decide)

theorem tells_missing (count : Option UInt64) : Tells none count ↔ count = none := by
  constructor
  · rintro ⟨_, isOf⟩
    rw [Option.eq_none_iff_forall_ne_some]
    intro number same
    cases (isOf number).1 same
  · rintro rfl
    exact ⟨.missing, fun number => iff_of_false nofun nofun⟩

theorem tells_null (count : Option UInt64) :
    Tells (some ['n', 'u', 'l', 'l']) count ↔ count = none := by
  constructor
  · rintro ⟨_, isOf⟩
    rw [Option.eq_none_iff_forall_ne_some]
    intro number same
    exact null_is_no_decimal _ (Option.some.inj ((isOf number).1 same))
  · rintro rfl
    refine ⟨.null, fun number => iff_of_false nofun ?_⟩
    intro same
    exact null_is_no_decimal _ (Option.some.inj same)

theorem tells_decimal (number : UInt64) (count : Option UInt64) :
    Tells (some (Nat.toDigits 10 number.toNat)) count ↔ count = some number := by
  constructor
  · rintro ⟨_, isOf⟩
    exact (isOf number).2 rfl
  · rintro rfl
    refine ⟨.decimal number, fun other => ⟨?_, ?_⟩⟩
    · intro same
      rw [Option.some.inj same]
    · intro same
      rw [decimal_injective (Option.some.inj same)]

theorem tells_exists {own : Option (List Char)} (isCount : IsCount own) :
    ∃ count, Tells own count := by
  cases isCount with
  | missing => exact ⟨none, (tells_missing none).2 rfl⟩
  | null => exact ⟨none, (tells_null none).2 rfl⟩
  | decimal number => exact ⟨some number, (tells_decimal number _).2 rfl⟩

end Text

section Spelled

variable {depth : Nat} {spelling : Spelling} {count : Option UInt64}

theorem read_count_iff
    (reading : Json.Reading depth spelling.chars spelling.value spelling.rest) :
    readCount spelling.value.canonical = .ok count ↔ Tells (some spelling.text) count := by
  constructor
  · intro read
    cases same : spelling.value with
    | null =>
        rw [same] at read
        cases read
        rw [(Spelling.null_iff reading).1 same]
        exact (tells_null none).2 rfl
    | number number =>
        rw [same] at read
        cases number with
        | integer value =>
            cases value with
            | ofNat value =>
                cases read
                obtain ⟨text, fits⟩ := (Spelling.natural_iff reading).1 same
                have word : value.toUInt64.toNat = value := UInt64.toNat_ofNat_of_lt fits
                rw [text, ← word, tells_decimal, word]
            | negSucc less => cases read
        | real value => cases read
    | _ =>
        rw [same] at read
        simp [Value.canonical, readCount] at read
  · intro tells
    have isCount := tells.1
    generalize own : some spelling.text = text at tells isCount
    cases isCount with
    | missing => cases own
    | null =>
        rw [(Spelling.null_iff reading).2 (Option.some.inj own), (tells_null count).1 tells]
        rfl
    | decimal number =>
        have natural := (Spelling.natural_iff reading).2 ⟨Option.some.inj own, number.toNat_lt⟩
        rw [natural, (tells_decimal number count).1 tells]
        exact congrArg (fun word => Except.ok (some word)) UInt64.ofNat_toNat

end Spelled

def IsRead (own : Option Value) (count : Option UInt64) : Prop :=
  match own with
  | none => count = none
  | some value => readCount value = .ok count

theorem is_read_unique : Relator.RightUnique IsRead := by
  intro own count other read again
  cases own with
  | none => exact Eq.trans read (Eq.symm again)
  | some value => exact Except.ok.inj (Eq.trans (Eq.symm read) again)

section Members

variable {members : List (String × Value)} {counts : List (String × Option UInt64)} {name : String}

theorem latest_of_read_members (known : name ∈ countNames)
    (read : readMembers members = .ok counts) :
    (latest? name members).map readCount = (latest? name counts).map .ok := by
  induction members generalizing counts with
  | nil =>
      cases read
      rfl
  | cons member members induction =>
      obtain ⟨other, value⟩ := member
      rw [readMembers] at read
      split at read
      · split at read
        · cases read
        · next count counted =>
            obtain ⟨later, done, rfl⟩ := Json.map_eq_ok read
            rw [latest_cons, latest_cons, Option.map_or, Option.map_or, induction done]
            congr 1
            split
            · rw [Option.map_some, Option.map_some, counted]
            · rfl
      · next unknown =>
          have different : name ≠ other := fun same => unknown (same ▸ known)
          rw [latest_cons, if_neg different, Option.or_none]
          exact induction read

theorem is_read_latest (known : name ∈ countNames) (read : readMembers members = .ok counts) :
    IsRead (latest? name members) (latest? name counts).join := by
  have same := latest_of_read_members known read
  cases own : latest? name members with
  | none =>
      rw [own, Option.map_none, eq_comm, Option.map_eq_none_iff] at same
      rw [same]
      rfl
  | some value =>
      rw [own, Option.map_some] at same
      obtain ⟨count, found, counted⟩ := Option.map_eq_some_iff.1 same.symm
      rw [found]
      exact counted.symm

theorem read_members_ok (readable : ∀ member ∈ members, member.1 ∈ countNames →
      ∃ count, readCount member.2 = .ok count) :
    ∃ counts, readMembers members = .ok counts := by
  induction members with
  | nil => exact ⟨[], rfl⟩
  | cons member members induction =>
      rw [List.forall_mem_cons] at readable
      obtain ⟨later, done⟩ := induction readable.2
      rw [readMembers]
      split
      · next known =>
          obtain ⟨count, counted⟩ := readable.1 known
          rw [counted, done]
          exact ⟨_, rfl⟩
      · exact ⟨later, done⟩

end Members

section Summary

variable {members : List (String × Value)} {items : List Value} {summary : ClusterSummary}

theorem counts_injective {other : ClusterSummary} (same : summary.counts = other.counts) :
    summary = other := by
  cases summary
  cases other
  simpa [ClusterSummary.counts] using same

theorem counts_of_read {counts : List (String × Option UInt64)}
    (read : readMembers members = .ok counts) :
    List.Forall₂ IsRead (countNames.map (latest? · members)) (summaryOfCounts counts).counts := by
  have same : (summaryOfCounts counts).counts =
      countNames.map fun name => (latest? name counts).join := rfl
  rw [same, List.forall₂_map_left_iff, List.forall₂_map_right_iff, List.forall₂_same]
  exact fun name known => is_read_latest known read

/-- Members with different names are read as a summary exactly if each count of it is what the
member of its name is read as. -/
theorem read_members_iff (nodup : (members.map (·.1)).Nodup) :
    (readMembers members).map summaryOfCounts = .ok summary ↔
      List.Forall₂ IsRead (countNames.map (latest? · members)) summary.counts := by
  constructor
  · intro read
    obtain ⟨counts, done, rfl⟩ := Json.map_eq_ok read
    exact counts_of_read done
  · intro told
    have known (name : String) (isCount : name ∈ countNames) :
        ∃ count, IsRead (latest? name members) count := by
      have given := told.imp fun own count read =>
        (⟨⟨count, read⟩, trivial⟩ : (∃ count, IsRead own count) ∧ True)
      exact ((List.forall₂_and_left _ _).1 given).1 _ (List.mem_map_of_mem isCount)
    have readable : ∀ member ∈ members, member.1 ∈ countNames →
        ∃ count, readCount member.2 = .ok count := by
      intro member inside isCount
      obtain ⟨count, read⟩ := known member.1 isCount
      rw [latest_of_nodup nodup inside] at read
      exact ⟨count, read⟩
    obtain ⟨counts, done⟩ := read_members_ok readable
    have same := List.right_unique_forall₂' is_read_unique (counts_of_read done) told
    rw [done, ← counts_injective same]
    rfl

/-- A list is read as the object that has its items under the names of the counts. -/
theorem read_items_eq_members {wanted : List String} (known : wanted ⊆ countNames)
    (same : items.length = wanted.length) (taken : Nat) :
    readItems wanted taken items = readMembers (wanted.zip items) := by
  induction wanted generalizing items taken with
  | nil =>
      rw [List.length_eq_zero_iff.1 same]
      rfl
  | cons name wanted induction =>
      cases items with
      | nil => cases same
      | cons value items =>
          rw [List.cons_subset] at known
          rw [readItems, List.zip_cons_cons, readMembers, if_pos known.1,
            induction known.2 (Nat.succ.inj same)]

theorem length_of_read_items {wanted : List String} {taken : Nat}
    {counts : List (String × Option UInt64)} (read : readItems wanted taken items = .ok counts) :
    items.length = wanted.length := by
  induction wanted generalizing items taken counts with
  | nil =>
      cases items with
      | nil => rfl
      | cons value items => cases read
  | cons name wanted induction =>
      cases items with
      | nil => cases read
      | cons value items =>
          rw [readItems] at read
          split at read
          · cases read
          · obtain ⟨later, done, _⟩ := Json.map_eq_ok read
            exact congrArg Nat.succ (induction done)

theorem latest_zip {names : List String} (nodup : names.Nodup)
    (same : items.length = names.length) :
    names.map (latest? · (names.zip items)) = items.map some := by
  have first : (names.zip items).map (·.1) = names := List.map_fst_zip same.ge
  refine List.ext_getElem (by simp [same]) fun place inside others => ?_
  simp only [List.length_map] at inside others
  rw [List.getElem_map, List.getElem_map]
  refine latest_of_nodup (first.symm ▸ nodup) (List.mem_iff_getElem.2 ⟨place, ?_, ?_⟩)
  · simpa [same] using inside
  · rw [List.getElem_zip]

theorem read_items_iff :
    (readItems countNames 0 items).map summaryOfCounts = .ok summary ↔
      List.Forall₂ IsRead (items.map some) summary.counts := by
  have nodup : countNames.Nodup := by decide
  by_cases same : items.length = countNames.length
  · have first : (countNames.zip items).map (·.1) = countNames := List.map_fst_zip same.ge
    rw [read_items_eq_members (List.Subset.refl _) same, read_members_iff (first.symm ▸ nodup),
      latest_zip nodup same]
  · constructor
    · intro read
      obtain ⟨counts, done, _⟩ := Json.map_eq_ok read
      exact absurd (length_of_read_items done) same
    · intro told
      have length := told.length_eq
      rw [List.length_map] at length
      exact absurd length same

end Summary

section Document

variable {text : List Char} {value : Value} {summary : ClusterSummary}

theorem told_iff {given : List (Option Spelling)} {counts : List (Option UInt64)}
    (readings : ∀ spelling, some spelling ∈ given →
      ∃ depth, Json.Reading depth spelling.chars spelling.value spelling.rest) :
    List.Forall₂ IsRead (given.map (·.map (·.value.canonical))) counts ↔
      List.Forall₂ Tells (given.map (·.map Spelling.text)) counts := by
  have own_iff (own : Option Spelling) (inside : own ∈ given) (count : Option UInt64) :
      IsRead (own.map (·.value.canonical)) count ↔ Tells (own.map Spelling.text) count := by
    cases own with
    | none => exact (tells_missing count).symm
    | some spelling =>
        obtain ⟨depth, reading⟩ := readings spelling inside
        exact read_count_iff reading
  rw [List.forall₂_map_left_iff, List.forall₂_map_left_iff]
  constructor
  · intro read
    have inside := (List.forall₂_and_left _ _).2 ⟨fun own (member : own ∈ given) => member, read⟩
    exact inside.imp fun own count both => (own_iff own both.1 count).1 both.2
  · intro tells
    have inside := (List.forall₂_and_left _ _).2 ⟨fun own (member : own ∈ given) => member, tells⟩
    exact inside.imp fun own count both => (own_iff own both.1 count).2 both.2

theorem read_object_iff {members : List (String × Value)} {rest : List Char}
    (document : Json.readDocument text = .ok (.object members))
    (reading : Json.Reading Json.nestingLimit (Json.dropSpace text) (.object members) rest) :
    readClusterState (Value.object members).canonical = .ok summary ↔
      List.Forall₂ Tells (countTexts text) summary.counts := by
  obtain ⟨spelled, found, rfl⟩ := Json.spelled_members_of_reading reading
  have sorted : NamesIncrease (Value.canonicalMembers (Json.plainMembers spelled) []) :=
    Value.canonical_members_increase _ List.Pairwise.nil
  have nodup : ((Value.canonicalMembers (Json.plainMembers spelled) []).map (·.1)).Nodup :=
    List.pairwise_map.2 (sorted.imp fun less => String.ne_of_lt less)
  have own (name : String) :
      latest? name (Value.canonicalMembers (Json.plainMembers spelled) []) =
        (latest? name spelled).map (·.value.canonical) := by
    rw [Value.latest_canonical_members _ _ List.Pairwise.nil, Json.plainMembers, latest_map,
      Option.map_map]
    exact Option.or_none
  have ownText (name : String) :
      memberText text name = (latest? name spelled).map Spelling.text := by
    rw [memberText, show Json.nestingLimit - 1 = 126 from rfl, found, Option.getD_some]
  have texts : countTexts text =
      (countNames.map (latest? · spelled)).map (·.map Spelling.text) := by
    rw [countTexts, document, List.map_map]
    exact List.map_congr_left fun name _ => ownText name
  rw [Value.canonical, readClusterState, read_members_iff nodup, texts, ← told_iff, List.map_map]
  · simp only [own]
    rfl
  · intro spelling inside
    obtain ⟨name, _, last⟩ := List.mem_map.1 inside
    exact ⟨_, Json.reading_of_spelled_members found _ (mem_of_latest last)⟩

theorem read_list_iff {items : List Value} {rest : List Char}
    (document : Json.readDocument text = .ok (.array items))
    (reading : Json.Reading Json.nestingLimit (Json.dropSpace text) (.array items) rest) :
    readClusterState (Value.array items).canonical = .ok summary ↔
      List.Forall₂ Tells (countTexts text) summary.counts := by
  obtain ⟨spelled, found, rfl⟩ := Json.spelled_items_of_reading reading
  have texts : countTexts text = (spelled.map some).map (·.map Spelling.text) := by
    rw [countTexts, document, List.map_map]
    dsimp only
    rw [itemTexts, show Json.nestingLimit - 1 = 126 from rfl, found]
    rfl
  rw [Value.canonical, readClusterState, read_items_iff, texts, ← told_iff,
    Value.canonical_items_eq_map]
  · simp only [List.map_map]
    rfl
  · intro spelling inside
    obtain ⟨item, member, same⟩ := List.mem_map.1 inside
    exact ⟨_, Json.reading_of_spelled_items found _ (Option.some.inj same ▸ member)⟩

theorem named_of_texts {members : List (String × Value)}
    (document : Json.readDocument text = .ok (.object members))
    (told : List.Forall₂ IsOf (countTexts text) summary.counts) :
    ∀ entry ∈ named summary, IsOf (memberText text entry.1) entry.2 := by
  rw [countTexts, document] at told
  dsimp only at told
  rw [List.forall₂_map_left_iff] at told
  intro entry inside
  have paired : named summary = countNames.zip summary.counts := rfl
  exact List.forall₂_zip told (paired ▸ inside)

theorem read_cluster_state_iff (document : Json.readDocument text = .ok value) :
    readClusterState value.canonical = .ok summary ↔
      List.Forall₂ Tells (countTexts text) summary.counts := by
  obtain ⟨rest, read, _⟩ := Json.complete_eq_ok.1 document
  have reading := Json.reading_of_read_value read
  cases value with
  | object members => exact read_object_iff document reading
  | array items => exact read_list_iff document reading
  | _ =>
      rw [countTexts, document]
      simp [Value.canonical, readClusterState, ClusterSummary.counts]

theorem counts_of_length {counts : List (Option UInt64)} (nine : counts.length = 9) :
    ∃ summary : ClusterSummary, summary.counts = counts := by
  refine ⟨.ofCounts fun place => counts.get (place.cast nine.symm), ?_⟩
  exact (List.ofFn_congr nine counts.get).symm.trans (List.ofFn_get counts)

theorem states_counts_iff :
    StatesCounts text ↔
      ∃ summary : ClusterSummary, List.Forall₂ Tells (countTexts text) summary.counts := by
  constructor
  · rintro ⟨nine, areCounts⟩
    choose! count tells using fun own inside => tells_exists (areCounts own inside)
    obtain ⟨summary, same⟩ := counts_of_length (List.length_map count ▸ nine)
    refine ⟨summary, ?_⟩
    rw [same, List.forall₂_map_right_iff, List.forall₂_same]
    exact tells
  · rintro ⟨summary, told⟩
    exact ⟨told.length_eq, ((List.forall₂_and_left _ _).1 told).1⟩

end Document

namespace Client

open Http (Response)

variable {response : Response} {body : List UInt8} {summary : ClusterSummary}

/-- A reply with success and a whole body is read as a summary exactly if the texts of the counts
give its counts. -/
theorem read_reply_iff (success : response.isSuccess = true)
    (whole : response.wholeBody = some body) :
    readSummary (readResult clusterStateEndpoint (.ok response)) = .ok summary ↔
      List.Forall₂ Tells (countTexts (Text.Utf8.decodeLossy body).toList) summary.counts := by
  rw [gives_summary_iff, GivesSummary]
  constructor
  · rintro ⟨_, _, value, given, _, found, parsed, counted⟩
    cases given
    cases whole.symm.trans found
    obtain ⟨document, read, rfl⟩ := Json.map_eq_ok parsed
    exact (read_cluster_state_iff read).1 counted
  · intro told
    cases read : Json.readDocument (Text.Utf8.decodeLossy body).toList with
    | error fault =>
        rw [countTexts, read] at told
        cases List.forall₂_nil_left_iff.1 told
    | ok document =>
        have parsed : Json.parse (Text.Utf8.decodeLossy body) = .ok document.canonical := by
          rw [Json.parse, read]
          rfl
        exact ⟨response, body, _, rfl, success, whole, parsed, (read_cluster_state_iff read).2 told⟩

/-- Nothing but the text of such a reply can be refused. -/
theorem read_reply_cases (success : response.isSuccess = true)
    (whole : response.wholeBody = some body) :
    (∃ summary, readSummary (readResult clusterStateEndpoint (.ok response)) = .ok summary) ∨
      ∃ words, readSummary (readResult clusterStateEndpoint (.ok response)) =
        .error (.notJson clusterStateEndpoint words) := by
  rw [readResult, readResponse, whole]
  dsimp only
  rw [success]
  cases Json.parseOrMessage (Text.Utf8.decodeLossy body) with
  | error words => exact .inr ⟨words, rfl⟩
  | ok value =>
      cases counted : readClusterState value with
      | error words =>
          refine .inr ⟨words, ?_⟩
          simp [readSummary, counted]
      | ok summary =>
          refine .inl ⟨summary, ?_⟩
          simp [readSummary, counted]

end Client

end ReconChat.Recon
